import HookKeeper.Api.Address
import HookKeeper.Api.Answer
import HookKeeper.Api.Request
import HookKeeper.Json.Value

/-!
# A store of objects

The store keeps objects by path and counts its writes.  Every write stamps the
object with a new version; a write that names another version than the stored
one is refused, as is the creation of an object that is already there.  The
generation of an object rises with every change of its content, which is
everything but its metadata and status.  The main statements say what is found
at each path after a write and after a deletion.
-/

namespace HookKeeper

open HookKeeper.Json

/-! ## Objects as JSON -/

namespace Json.Value

def metadataMember? (object : Value) (key : String) : Option Value :=
  ((object.member? "metadata").getD .null).member? key

/-- The object with a member set. -/
def withMember (object : Value) (key : String) (value : Value) : Value :=
  .object (insertMember key value object.members)

/-- The object with a member of its metadata set. -/
def withMetadata (object : Value) (key : String) (value : Value) : Value :=
  object.withMember "metadata"
    (((object.member? "metadata").getD .null).withMember key value)

/-- The version that an object names. -/
def version? (object : Value) : Option String :=
  (object.metadataMember? "resourceVersion").bind text?

/-- The generation of an object; zero where it has none. -/
def generation (object : Value) : Int :=
  ((object.metadataMember? "generation").bind int?).getD 0

/-- The content of an object: its members but metadata and status. -/
def content (object : Value) : Members :=
  eraseMember "status" (eraseMember "metadata" object.members)

/-- The object with the status of another one, or without. -/
def withStatusOf (object other : Value) : Value :=
  match other.member? "status" with
  | some status => object.withMember "status" status
  | none => .object (eraseMember "status" object.members)

end Json.Value

/-! ## The store -/

/-- Objects by path, and the number of writes. -/
structure Store where
  /-- The objects, in ascending order of their paths. -/
  objects : Members := []
  revision : Nat := 0
  deriving DecidableEq, Repr

namespace Store

def find? (store : Store) (path : String) : Option Value :=
  Value.lookup path store.objects

/-- An object as it is stored by the next write. -/
def stamped (store : Store) (object : Value) : Value :=
  object.withMetadata "resourceVersion"
    (.text (Text.Digits.natText (store.revision + 1)))

/-- The store after an object was written at a path. -/
def write (store : Store) (path : String) (object : Value) : Store :=
  ⟨Value.insertMember path (store.stamped object) store.objects,
    store.revision + 1⟩

/-- The store without the object at a path. -/
def delete (store : Store) (path : String) : Store :=
  { store with objects := Value.eraseMember path store.objects }

/--
The store after a merge patch of the object at a path, or of an empty one.
-/
def merge (store : Store) (path : String) (patch : Value) : Store :=
  store.write path
    (Value.mergePatch ((store.find? path).getD (.object [])) patch)

@[simp]
theorem find?_write
    (store : Store)
    (path other : String)
    (object : Value) :
    (store.write path object).find? other =
      if other = path then some (store.stamped object) else store.find? other :=
  Value.lookup_insertMember path other (store.stamped object) store.objects

@[simp]
theorem find?_delete
    (store : Store)
    (path other : String) :
    (store.delete path).find? other = if other = path then none
        else store.find? other :=
  Value.lookup_eraseMember path other store.objects

@[simp]
theorem revision_write
    (store : Store)
    (path : String)
    (object : Value) :
    (store.write path object).revision = store.revision + 1 := rfl

/-! ## Requests -/

/-- The reply that refuses a request. -/
def refuse (status : Nat) (message reason : String) : Reply :=
  ⟨status, .json (.object [("apiVersion", .text "v1"), ("code", .int status),
    ("kind", .text "Status"), ("message", .text message),
    ("reason", .text reason), ("status", .text "Failure")])⟩

def notFound : Reply := refuse 404 "not found" "NotFound"

def alreadyExists : Reply := refuse 409 "object already exists" "AlreadyExists"

/-- The reply that the object has another version by now. -/
def conflict : Reply := refuse 409 "the object has been modified" "Conflict"

/-- Whether a write names another version than the stored one. -/
def isStale (stored sent : Value) : Bool :=
  match sent.version? with
  | none => false
  | some version => stored.version? != some version

/-- The objects directly under a path. -/
def under (store : Store) (path : String) : List Value :=
  (store.objects.filter fun entry => Path.parent entry.1 == path).map (·.2)

/-- The list of the objects of a collection. -/
def listing (store : Store) (path : String) : Value :=
  .object [("apiVersion", .text "v1"), ("items", .array (store.under path)),
    ("kind", .text "List"), ("metadata", .object [("resourceVersion",
      .text (Text.Digits.natText store.revision))])]

/-- Write an object and reply with it. -/
def accept
    (store : Store)
    (status : Nat)
    (path : String)
    (object : Value) : Reply × Store :=
  (⟨status, .json (store.stamped object)⟩, store.write path object)

/-- Answer a read. -/
def get (store : Store) (path : String) : Reply :=
  if Path.isCollection path then ⟨200, .json (store.listing path)⟩
  else
    match store.find? path with
    | some object => ⟨200, .json object⟩
    | none => notFound

/-- Create an object in a collection. -/
def post
    (store : Store)
    (collection : String)
    (object : Value) : Reply × Store :=
  let name := ((object.metadataMember? "name").bind Value.text?).getD ""
  let path := collection ++ "/" ++ name
  match store.find? path with
  | some _ => (alreadyExists, store)
  | none => store.accept 201 path (object.withMetadata "generation" (.int 1))

/-- The object that takes the place of a stored one. -/
def replacement (stored sent : Value) : Value :=
  let generation := stored.generation + if sent.content = stored.content then 0
    else 1
  (sent.withStatusOf stored).withMetadata "generation" (.int generation)

/-- Replace an object. -/
def put (store : Store) (path : String) (sent : Value) : Reply × Store :=
  match store.find? path with
  | none => (notFound, store)
  | some stored =>
      if isStale stored sent then (conflict, store)
      else store.accept 200 path (replacement stored sent)

/-- Patch the status of an object; nothing else can be patched. -/
def patch (store : Store) (path : String) (change : Value) : Reply × Store :=
  if Path.lastSegment path = "status" then
    match store.find? (Path.parent path) with
    | none => (notFound, store)
    | some stored =>
        if isStale stored change then (conflict, store)
        else
          store.accept 200 (Path.parent path)
            (Value.mergePatch stored
              (.object [("status", (change.member? "status").getD .null)]))
  else (notFound, store)

def handle (store : Store) (request : Request) : Reply × Store :=
  let path := request.address.path
  let body := (request.body.getD .null).sorted
  if Path.isEvent path then
    (⟨if request.method = .post then 201 else 200, .json body⟩, store)
  else
    match request.method with
    | .get => (store.get path, store)
    | .post => store.post path body
    | .put => store.put path body
    | .patch => store.patch path body

end Store

end HookKeeper
