import HookKeeper.Operator.Condition
import HookKeeper.Operator.Generation

/-!
# The operator resource

The resource that configures the operator: whether it is managed, its log
levels, and the status that the operator keeps in it.
-/

namespace HookKeeper

open HookKeeper.Json

/-- Whether the operator is to act. -/
inductive ManagementState where
  | managed
  | unmanaged
  | removed
  deriving DecidableEq, Repr

namespace ManagementState

def name : ManagementState → String
  | .managed => "Managed"
  | .unmanaged => "Unmanaged"
  | .removed => "Removed"

def ofName? (value : String) : Option ManagementState :=
  if value = "Managed" then some .managed
  else if value = "Unmanaged" then some .unmanaged
  else if value = "Removed" then some .removed
  else none

@[simp]
theorem ofName?_name (state : ManagementState) :
    ofName? state.name = some state := by
  cases state <;> decide

end ManagementState

/-- What the resource asks for. -/
structure OperatorSpec where
  managementState : ManagementState := .managed
  logLevel : Option String := none
  operatorLogLevel : Option String := none
  deriving DecidableEq, Repr

/-- The JSON form of what the resource asks for. -/
def OperatorSpec.toValue (record : OperatorSpec) : Value :=
  .object (
    field "managementState" (.text record.managementState.name) ++
    optionalField "logLevel" .text record.logLevel ++
    optionalField "operatorLogLevel" .text record.operatorLogLevel)

/-- Read what the resource asks for. -/
def OperatorSpec.ofDatum? (datum : Datum) : Option OperatorSpec := do
  let record ← datum.closed? ["managementState", "logLevel",
    "operatorLogLevel"] 0
  return {
    managementState :=
      ← record.defaulted "managementState" (Datum.name? ManagementState.ofName?)
        .managed
    logLevel := ← record.optional "logLevel" Datum.text?
    operatorLogLevel := ← record.optional "operatorLogLevel" Datum.text? }

/-- What the operator reports in the resource. -/
structure OperatorStatus where
  observedGeneration : Option Int64 := none
  conditions : List OperatorCondition := []
  generations : List GenerationRecord := []
  deriving DecidableEq, Repr

namespace OperatorStatus

def toValue (record : OperatorStatus) : Value :=
  .object (
    optionalField "observedGeneration" .int64 record.observedGeneration ++
    field "conditions" (.list OperatorCondition.toValue record.conditions) ++
    field "generations" (.list GenerationRecord.toValue record.generations))

def ofDatum? (datum : Datum) : Option OperatorStatus := do
  let record ← datum.closed? ["observedGeneration", "conditions",
    "generations"] 0
  return {
    observedGeneration := ← record.optional "observedGeneration" Datum.int64?
    conditions := ← record.defaulted "conditions"
      (Datum.listOf? OperatorCondition.ofDatum?) []
    generations := ← record.defaulted "generations"
      (Datum.listOf? GenerationRecord.ofDatum?) [] }

/-- The status with a condition set at a time. -/
def setCondition
    (status : OperatorStatus)
    (condition : OperatorCondition)
    (now : String) : OperatorStatus :=
  { status with conditions := condition.setIn now status.conditions }

def condition?
    (status : OperatorStatus)
    (type : String) : Option OperatorCondition :=
  OperatorCondition.find? type status.conditions

/-- The status with the generation of a Deployment recorded. -/
def recordDeployment
    (status : OperatorStatus)
    (deployment : Deployment) : OperatorStatus :=
  { status with
    generations :=
    GenerationRecord.setDeployment status.generations deployment }

/-- The status with the generation of a registration recorded. -/
def recordRegistration
    (status : OperatorStatus)
    (registration : Registration) : OperatorStatus :=
  { status with
    generations :=
    GenerationRecord.setRegistration status.generations registration }

end OperatorStatus

/-- The operator resource. -/
structure OperatorResource where
  metadata : ObjectMeta
  spec : OperatorSpec
  status : Option OperatorStatus := none
  deriving DecidableEq, Repr

namespace OperatorResource

def toValue (record : OperatorResource) : Value :=
  .object (
    field "apiVersion" (.text "operator.openshift.io/v1") ++
    field "kind" (.text "CSISnapshotController") ++
    field "metadata" record.metadata.toValue ++
    field "spec" record.spec.toValue ++
    optionalField "status" OperatorStatus.toValue record.status)

/-- Read the resource; its version and kind are not looked at. -/
def ofDatum? (datum : Datum) : Option OperatorResource := do
  let record ← datum.closed? ["metadata", "spec", "status"] 3
  return {
    metadata := ← record.required "metadata" ObjectMeta.ofDatum?
    spec := ← record.required "spec" OperatorSpec.ofDatum?
    status := ← record.optional "status" OperatorStatus.ofDatum? }

end OperatorResource

end HookKeeper
