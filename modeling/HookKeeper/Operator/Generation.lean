import HookKeeper.Cluster.Deployment
import HookKeeper.Cluster.Registration

/-!
# Records of applied generations

The operator records the generation of each object it has applied, keyed by
group, resource, namespace and name.  A record that differs from the live
object shows an edit by somebody else.  The main statement says what is found
under each key after a generation was recorded.
-/

namespace HookKeeper

open HookKeeper.Json

/--
The name of an object: its own, else the start of one to be completed, else
empty.
-/
def ObjectMeta.anyName (metadata : ObjectMeta) : String :=
  (metadata.name <|> metadata.generateName).getD ""

/-- What a record is about. -/
structure GenerationKey where
  group : String
  resource : String
  namespaceName : String
  name : String
  deriving DecidableEq, Repr

namespace GenerationKey

def ofDeployment (deployment : Deployment) : GenerationKey :=
  ⟨"apps", "deployments", deployment.metadata.namespaceName.getD "",
    deployment.metadata.anyName⟩

/-- The key of a registration of admission hooks. -/
def ofRegistration (registration : Registration) : GenerationKey :=
  ⟨"admissionregistration.k8s.io", "validatingwebhookconfigurations", "",
    registration.metadata.anyName⟩

end GenerationKey

/-- The generation that an object had when the operator last applied it. -/
structure GenerationRecord where
  key : GenerationKey
  lastGeneration : Int64
  hash : Option String := none
  deriving DecidableEq, Repr

namespace GenerationRecord

def toValue (record : GenerationRecord) : Value :=
  .object (
    field "group" (.text record.key.group) ++
    field "resource" (.text record.key.resource) ++
    field "namespace" (.text record.key.namespaceName) ++
    field "name" (.text record.key.name) ++
    field "lastGeneration" (.int64 record.lastGeneration) ++
    optionalField "hash" .text record.hash)

def ofDatum? (datum : Datum) : Option GenerationRecord := do
  let record ← datum.closed? ["group", "resource", "namespace", "name",
    "lastGeneration", "hash"] 0
  return {
    key := {
      group := ← record.required "group" Datum.text?
      resource := ← record.required "resource" Datum.text?
      namespaceName := ← record.defaulted "namespace" Datum.text? ""
      name := ← record.required "name" Datum.text? }
    lastGeneration := ← record.required "lastGeneration" Datum.int64?
    hash := ← record.optional "hash" Datum.text? }

def expected?
    (records : List GenerationRecord)
    (key : GenerationKey) : Option Int64 :=
  (records.find? fun record => record.key == key).map (·.lastGeneration)

/--
Record a generation in the first record of a key, or in a new one at the end.
-/
def put
    (key : GenerationKey)
    (generation : Int64) :
    List GenerationRecord → List GenerationRecord
  | [] => [{ key := key, lastGeneration := generation }]
  | record :: rest =>
      if record.key = key then
        { record with lastGeneration := generation } :: rest
      else record :: put key generation rest

@[simp]
theorem expected?_nil (key : GenerationKey) : expected? [] key = none := rfl

theorem expected?_cons
    (record : GenerationRecord)
    (rest : List GenerationRecord)
    (key : GenerationKey) :
    expected? (record :: rest) key =
      if record.key = key then some record.lastGeneration
      else expected? rest key := by
  by_cases same : record.key = key <;> simp [expected?, same]

/--
What is recorded for a key is found under it, and other keys keep what they had.
-/
theorem expected?_put
    (key other : GenerationKey)
    (generation : Int64)
    (records : List GenerationRecord) :
    expected? (put key generation records) other =
      if key = other then some generation else expected? records other := by
  induction records with
  | nil => simp [put, expected?_cons]
  | cons record rest ih =>
      rw [put]
      by_cases own : record.key = key
      · by_cases wanted : key = other <;> simp [own, wanted, expected?_cons]
      · by_cases here : record.key = other
        · subst here
          simp [own, Ne.symm own, expected?_cons]
        · simp [own, here, expected?_cons, ih]

/-- Record a generation; an object without one leaves the records alone. -/
def set
    (records : List GenerationRecord)
    (key : GenerationKey) : Option Int64 → List GenerationRecord
  | none => records
  | some generation => put key generation records

def setDeployment
    (records : List GenerationRecord)
    (deployment : Deployment) : List GenerationRecord :=
  set records (.ofDeployment deployment) deployment.metadata.generation

def setRegistration
    (records : List GenerationRecord)
    (registration : Registration) : List GenerationRecord :=
  set records (.ofRegistration registration) registration.metadata.generation

end GenerationRecord

end HookKeeper
