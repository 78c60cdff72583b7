import HookKeeper.Api.Address
import HookKeeper.Json.Value
import HookKeeper.Settings

/-!
# Requests to the cluster

Objects are read, listed, created, replaced and patched.  Every write of a
whole object names the operator as its author.
-/

namespace HookKeeper

open HookKeeper.Json

/-- What a request does. -/
inductive Method where
  | get
  | post
  | put
  | patch
  deriving DecidableEq, Repr

def Method.name : Method → String
  | .get => "GET"
  | .post => "POST"
  | .put => "PUT"
  | .patch => "PATCH"

def Method.ofName? (value : String) : Option Method :=
  if value = "GET" then some .get
  else if value = "POST" then some .post
  else if value = "PUT" then some .put
  else if value = "PATCH" then some .patch
  else none

@[simp]
theorem Method.ofName?_name (method : Method) :
    ofName? method.name = some method := by
  cases method <;> decide

/-- A request to the cluster. -/
structure Request where
  method : Method
  address : Address
  body : Option Value := none
  deriving DecidableEq, Repr

namespace Request

/-- The parameter by which a write names its author. -/
def author : List (String × String) := [("fieldManager", Identity.operator)]

/-- The target of an object of a collection; an object has to have a name. -/
def target (collection name : String) : Except RequestFault String :=
  if name = "" then .error .emptyName else .ok (collection ++ "/" ++ name)

def read (collection name : String) : Except RequestFault Request := do
  let address ← Address.ofTarget (← target collection name) none
  return { method := .get, address := address }

def list
    (collection : String)
    (parameters : List (String × String)) : Except RequestFault Request := do
  let address ← Address.ofTarget collection (some parameters)
  return { method := .get, address := address }

def create
    (collection : String)
    (parameters : List (String × String))
    (object : Value) : Except RequestFault Request := do
  let address ← Address.ofTarget collection (some parameters)
  return { method := .post, address := address, body := some object }

def replace
    (collection name : String)
    (object : Value) : Except RequestFault Request := do
  let address ← Address.ofTarget (← target collection name) (some author)
  return { method := .put, address := address, body := some object }

def patch
    (collection name : String)
    (change : Value) : Except RequestFault Request := do
  let address ← Address.ofTarget (← target collection name) (some [])
  return { method := .patch, address := address, body := some change }

def patchStatus
    (collection name : String)
    (change : Value) : Except RequestFault Request := do
  let address ← Address.ofTarget ((← target collection name) ++ "/status")
    (some [])
  return { method := .patch, address := address, body := some change }

end Request

end HookKeeper
