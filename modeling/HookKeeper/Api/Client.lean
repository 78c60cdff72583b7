import HookKeeper.Api.Program
import HookKeeper.Cluster.Object

/-!
# Operations on the objects of the cluster

Reading, listing, creating, replacing and patching objects of a kind.  An
object is absent exactly when the server refuses to read it for the reason
`NotFound`.
-/

namespace HookKeeper.Client

open HookKeeper.Json

variable (α : Type) [ClusterObject α]

/--
The program that sends a request about objects and reads what the answer
carries.
-/
def send
    {β : Type}
    (request : Except RequestFault Request)
    (read : Datum → Option β) : Program (Except ApiError β) :=
  match request with
  | .error fault => .done (.error (.unbuildable fault))
  | .ok request => .ask .objects request fun answer =>
      .done (answer.decode read)

/--
The items of a list, each read alike; a list has to have items, and null stands
for none.
-/
def itemsOfDatum?
    {β : Type}
    (read : Datum → Option β)
    (datum : Datum) : Option (List β) := do
  let fields ← datum.fields?
  if fields.any fun field => field.1 == "items" then
    fields.defaulted "items" (Datum.listOf? read) []
  else none

/-- The result of reading an object that may be absent. -/
def presence {β : Type} : Except ApiError β → Except ApiError (Option β)
  | .ok object => .ok (some object)
  | .error failure =>
      match failure with
      | .refused refusal =>
          if refusal.reason = "NotFound" then .ok none
          else .error (.refused refusal)
      | other => .error other

/-- Read an object that may be absent. -/
def find? (namespaceName name : String) :
    Program (Except ApiError (Option α)) := do
  let found ← send
    (Request.read (ClusterObject.collection α namespaceName) name)
    (ClusterObject.ofDatum? : Datum → Option α)
  return presence found

/-- List the objects of a collection. -/
def list
    (namespaceName : String)
    (parameters : List (String × String)) :
    Program (Except ApiError (List α)) :=
  send (Request.list (ClusterObject.collection α namespaceName) parameters)
    (itemsOfDatum? ClusterObject.ofDatum?)

variable {α}

def create
    (namespaceName : String)
    (object : α) : Program (Except ApiError α) :=
  send
    (Request.create (ClusterObject.collection α namespaceName) Request.author
      (ClusterObject.toValue object))
    ClusterObject.ofDatum?

def replace
    (namespaceName name : String)
    (object : α) : Program (Except ApiError α) :=
  send
    (Request.replace (ClusterObject.collection α namespaceName) name
      (ClusterObject.toValue object))
    ClusterObject.ofDatum?

variable (α)

def patchStatus
    (namespaceName name : String)
    (change : Value) : Program (Except ApiError α) :=
  send (Request.patchStatus (ClusterObject.collection α namespaceName) name
    change) ClusterObject.ofDatum?

end HookKeeper.Client
