import HookKeeper.Api.Error
import HookKeeper.Json.Value

/-!
# Answers of the cluster

A request is answered by a reply, or not at all.  A reply whose status lies
between 400 and 599 refuses the request; its body says why, and where it does
not, the status and the text of the body take its place.  Any other reply
carries an object.
-/

namespace HookKeeper

open HookKeeper.Json
open HookKeeper.Text

/-- The body of a reply. -/
inductive Body where
  | json (value : Value)
  | raw (text : String)
  deriving DecidableEq, Repr

namespace Body

def text : Body → String
  | .json value => value.compact
  | .raw text => text

/-- The content of a body. -/
def datum? : Body → Option Datum
  | .json value => some (Datum.ofValue value)
  | .raw text => Datum.ofJson? text

/-- The object that a body describes. -/
def decode (read : Datum → Option α) (body : Body) : Except DecodeFault α :=
  match body.datum? with
  | none => .error .malformed
  | some datum =>
      match read datum with
      | none => .error .mismatched
      | some object => .ok object

end Body

/-- A reply to a request. -/
structure Reply where
  status : Nat
  body : Body
  deriving DecidableEq, Repr

namespace Reply

/-- The standard phrase of a status that refuses a request. -/
def phrase? (status : Nat) : Option String :=
  [(400, "Bad Request"), (401, "Unauthorized"), (402, "Payment Required"),
    (403, "Forbidden"), (404, "Not Found"), (405, "Method Not Allowed"),
    (406, "Not Acceptable"), (407, "Proxy Authentication Required"),
    (408, "Request Timeout"), (409, "Conflict"), (410, "Gone"),
    (411, "Length Required"), (412, "Precondition Failed"),
    (413, "Payload Too Large"), (414, "URI Too Long"),
    (415, "Unsupported Media Type"), (416, "Range Not Satisfiable"),
    (417, "Expectation Failed"), (418, "I'm a teapot"),
    (421, "Misdirected Request"), (422, "Unprocessable Entity"),
    (423, "Locked"), (424, "Failed Dependency"), (425, "Too Early"),
    (426, "Upgrade Required"), (428, "Precondition Required"),
    (429, "Too Many Requests"), (431, "Request Header Fields Too Large"),
    (451, "Unavailable For Legal Reasons"), (500, "Internal Server Error"),
    (501, "Not Implemented"), (502, "Bad Gateway"),
    (503, "Service Unavailable"), (504, "Gateway Timeout"),
    (505, "HTTP Version Not Supported"), (506, "Variant Also Negotiates"),
    (507, "Insufficient Storage"), (508, "Loop Detected"),
    (510, "Not Extended"),
    (511, "Network Authentication Required")].lookup status

/-- A status and its phrase. -/
def statusLine (status : Nat) : String :=
  Digits.natText status ++ " " ++ (phrase? status).getD "<unknown status code>"

/-- Whether a reply refuses its request. -/
def refuses (reply : Reply) : Bool := 400 ≤ reply.status && reply.status ≤ 599

/-- What a refusing reply says. -/
def refusal (reply : Reply) : Refusal :=
  match reply.body.decode Refusal.ofDatum? with
  | .ok refusal => refusal
  | .error _ => {
      status := statusLine reply.status
      message := quoted reply.body.text
      reason := "Failed to parse error data"
      code := UInt16.ofNat reply.status }

end Reply

/-- What comes back for a request. -/
inductive Answer where
  | reply (reply : Reply)
  | unreachable (reason : String)
  deriving DecidableEq, Repr

/-- The object that an answer carries. -/
def Answer.decode (read : Datum → Option α) : Answer → Except ApiError α
  | .unreachable reason => .error (.unreachable reason)
  | .reply received =>
      if received.refuses then .error (.refused received.refusal)
      else
        match received.body.decode read with
        | .ok object => .ok object
        | .error fault => .error (.undecodable fault)

end HookKeeper
