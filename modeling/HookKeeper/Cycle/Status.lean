import HookKeeper.Api.Client
import HookKeeper.Cluster.Deployment
import HookKeeper.Operator.Condition
import HookKeeper.Operator.Error
import HookKeeper.Settings
import HookKeeper.Text.Digits

/-!
# Conditions and the status of the operator resource

Three conditions report on the webhook.  It is available as soon as one pod is.
It progresses until the cluster has seen the last write of the Deployment and
every wanted pod runs the current template.  It is degraded when the last cycle
failed.

The status is read, changed, and written back in one patch that names the
version it was read at, so a writer in between makes the patch fail.  A change
that changes nothing is not written.

The clock is read once for a change, and this one reading stamps every condition
that the change moves, all three of a cycle among them.  Setting a condition
asks for the time of its own stamp only; were the clock read anew for each, the
stamps of one change could differ by the second that passes between them, and
nothing else would.
-/

/-! ## Conditions of the webhook -/

namespace HookKeeper.Health

open HookKeeper.Text

/-- The type of the condition that the webhook is available. -/
def availableType : String := Identity.controller ++ "Available"

/-- The type of the condition that the webhook is being rolled out. -/
def progressingType : String := Identity.controller ++ "Progressing"

/-- The type of the condition that the last cycle failed. -/
def degradedType : String := Identity.controller ++ "Degraded"

/-- Whether the webhook of a Deployment is available. -/
def available (deployment : Deployment) : OperatorCondition :=
  let count := (deployment.status.bind (·.availableReplicas)).getD 0
  let condition := OperatorCondition.bare availableType (.ofBool (0 < count))
  if condition.isMet then condition
  else
    condition.withReason "Deploying"
      "Waiting for a validating webhook Deployment pod to start"

/-- Whether the webhook of a Deployment is being rolled out. -/
def progressing (deployment : Deployment) : OperatorCondition :=
  let generation := deployment.metadata.generation.getD 0
  let observed := (deployment.status.bind (·.observedGeneration)).getD 0
  let wanted := (deployment.spec.bind (·.replicas)).getD 1
  let updated := (deployment.status.bind (·.updatedReplicas)).getD 0
  if observed ≠ generation then
    (OperatorCondition.bare progressingType .met).withReason "Deploying"
      ("desired generation " ++ Digits.intText generation.toInt ++
        ", current generation " ++ Digits.intText observed.toInt)
  else if updated = wanted then OperatorCondition.bare progressingType .unmet
  else
    (OperatorCondition.bare progressingType .met).withReason "Deploying"
      (Digits.intText updated.toInt ++ " out of " ++ Digits.intText wanted.toInt
        ++ " pods running")

/-- Whether the last cycle failed, and with which text. -/
def degraded : Option String → OperatorCondition
  | none => OperatorCondition.bare degradedType .unmet
  | some message =>
      (OperatorCondition.bare degradedType .met).withReason "SyncError" message

end HookKeeper.Health

/-! ## Writing the status -/

namespace HookKeeper

open HookKeeper.Json

/-- A status before and after a change. -/
structure StatusChange where
  before : OperatorStatus
  after : OperatorStatus
  deriving DecidableEq, Repr

/-- Whether a change had to be written. -/
def StatusChange.isWritten (change : StatusChange) : Bool :=
  change.after != change.before

namespace OperatorResource

/--
The patch that sets the status of the resource at the version it was read at.
-/
def statusPatch
    (operator : OperatorResource)
    (status : OperatorStatus) : Value :=
  .object (
    field "metadata" (.object (
      field "resourceVersion"
        ((operator.metadata.resourceVersion.map Value.text).getD .null))) ++
    field "status" status.toValue)

def statusChange
    (operator : OperatorResource)
    (edit : OperatorStatus → OperatorStatus) : StatusChange :=
  ⟨operator.status.getD {}, edit (operator.status.getD {})⟩

end OperatorResource

/-- Write the change of a status that was read, unless it changes nothing. -/
def writeStatus
    (name : String)
    (operator : OperatorResource)
    (change : StatusChange) :
    Program (Except OperatorError StatusChange) :=
  if change.isWritten then do
    match ← Client.patchStatus OperatorResource "" name
        (operator.statusPatch change.after) with
    | .ok _ => return .ok change
    | .error cause => return .error (.statusUpdate (.notWritten name cause))
  else return .ok change

/--
Change the status of the operator resource by an edit that is given the time.
-/
def updateStatus
    (name : String)
    (edit : String → OperatorStatus → OperatorStatus) :
    Program (Except OperatorError StatusChange) := do
  match ← Client.find? OperatorResource "" name with
  | .error cause => return .error (.statusUpdate (.notRead name cause))
  | .ok none => return .error (.statusUpdate (.notFound name))
  | .ok (some operator) =>
      let moment ← Program.moment
      writeStatus name operator
        (operator.statusChange (edit moment.instant.text))

/-- Set a condition in the status of the operator resource. -/
def updateCondition
    (name : String)
    (condition : OperatorCondition) :
    Program (Except OperatorError StatusChange) :=
  updateStatus name fun now status => status.setCondition condition now

end HookKeeper
