import HookKeeper.Datum.Decode
import HookKeeper.Text.Digits
import HookKeeper.Text.Utf8

/-!
# Failures of requests to the cluster

A request fails because the server refuses it, because no reply arrives,
because the reply cannot be decoded, or because no request can be built from
the name of the object.  Each failure has one text.
-/

namespace HookKeeper

open HookKeeper.Text

/-- Why a document does not decode. -/
inductive DecodeFault where
  /-- The text does not follow the format. -/
  | malformed
  /-- The content is not of the expected type. -/
  | mismatched
  deriving DecidableEq, Repr

def DecodeFault.message : DecodeFault → String
  | .malformed => "the text is malformed"
  | .mismatched => "the content is not of the expected type"

/-- What a server says about a request that it refuses. -/
structure Refusal where
  status : String
  message : String := ""
  reason : String := ""
  code : UInt16
  deriving DecidableEq, Repr

/-- Read what a server says about a refused request. -/
def Refusal.ofDatum? (datum : Datum) : Option Refusal := do
  let record ← datum.closed? ["status", "message", "reason", "code"] 0
  return {
    status := ← record.required "status" Datum.text?
    message := ← record.defaulted "message" Datum.text? ""
    reason := ← record.defaulted "reason" Datum.text? ""
    code := ← record.required "code" Datum.uint16? }

/-- Why no request can be built. -/
inductive RequestFault where
  /-- The object has no name. -/
  | emptyName
  /-- The address contains a character that no address may contain. -/
  | invalidCharacter
  /-- The address is too long. -/
  | tooLong
  deriving DecidableEq, Repr

def RequestFault.message : RequestFault → String
  | .emptyName => "failed to validate request: A non-empty name is required"
  | .invalidCharacter => "failed to build request: invalid uri character"
  | .tooLong => "failed to build request: uri too long"

/-- Why a request failed. -/
inductive ApiError where
  | refused (refusal : Refusal)
  | unreachable (reason : String)
  | undecodable (fault : DecodeFault)
  | unbuildable (fault : RequestFault)
  deriving DecidableEq, Repr

def Refusal.text (refusal : Refusal) : String :=
  "ApiError: " ++ refusal.message ++ ": " ++ refusal.reason ++
    " (ErrorResponse \x7b status: " ++ quoted refusal.status ++ ", message: " ++
    quoted refusal.message ++ ", reason: "
    ++ quoted refusal.reason ++ ", code: " ++
      Digits.natText refusal.code.toNat ++ " \x7d)"

/-- The text of a failure. -/
def ApiError.message : ApiError → String
  | .refused refusal => refusal.text
  | .unreachable reason => "ServiceError: " ++ reason
  | .undecodable fault => "Error deserializing response: " ++ fault.message
  | .unbuildable fault => "Failed to build request: " ++ fault.message

end HookKeeper
