import HookKeeper.Cycle.Apply
import HookKeeper.Cycle.Status
import HookKeeper.Manifest.Rendering
import HookKeeper.Settings

/-!
# Cycles

A cycle reads the operator resource, renders the Deployment and sizes it by
the nodes of the cluster, applies it, renders the registration and applies it,
and reports what the live objects show in the status of the resource.  The
first step that fails ends the cycle.  A resource that is absent or not to be
managed ends it as well.

A cycle that fails marks the operator resource as degraded, as far as that
succeeds, and keeps its own failure.  After a success the next cycle comes
when the interval has passed, after a failure that may mend itself in a
minute, and after a permanent one when something has changed.
-/

/-! ## One cycle -/

namespace HookKeeper

open HookKeeper.Manifest

/-- What a cycle has done. -/
inductive SyncOutcome where
  | notFound
  | notManaged (state : ManagementState)
  | synced (deploymentChanged registrationChanged : Bool)
  deriving DecidableEq, Repr

/-- List the nodes with the labels of a selector. -/
def listNodes (selector : TextMap) : Program (Except ApiError (List Node)) :=
  Client.list Node ""
    (if selector.isEmpty then []
      else [("labelSelector", Sizing.selectorText selector)])

/-- The status after a cycle that left these live objects. -/
def statusAfter
    (deployment : Deployment)
    (registration : Registration)
    (now : String)
    (status : OperatorStatus) : OperatorStatus :=
  ((((status.setCondition (Health.available deployment) now).setCondition
    (Health.progressing deployment) now).setCondition (Health.degraded none)
      now).recordDeployment deployment).recordRegistration registration

namespace Step

/--
Render the Deployment and give it the number of pods that fits the cluster.
-/
def sizedDeployment
    (settings : Settings)
    (templates : Templates)
    (operator : OperatorResource) : Step Deployment := do
  let deployment ←
    ofExcept
      (renderDeployment templates.deployment settings.image
        operator.spec.logLevel)
  let nodes ← request .cluster (listNodes deployment.nodeSelector)
  return deployment.withReplicas (Sizing.replicas deployment.nodeSelector nodes)

/-- The part of a cycle after a managed resource was read. -/
def syncManaged
    (settings : Settings)
    (templates : Templates)
    (operator : OperatorResource) : Step SyncOutcome := do
  let records := (operator.status.getD {}).generations
  let wanted ← sizedDeployment settings templates operator
  let deployment ←
    applyDeployment wanted
      (GenerationRecord.expected? records (.ofDeployment wanted))
  let hooks ← ofExcept (renderRegistration templates.registration)
  let registration ←
    applyRegistration hooks
      (GenerationRecord.expected? records (.ofRegistration hooks))
  let _ ← ofProgram
    (updateStatus settings.operatorName
      (statusAfter deployment.live registration.live))
  return .synced deployment.changed registration.changed

/-- A cycle. -/
def sync (settings : Settings) (templates : Templates) : Step SyncOutcome := do
  match ← request .cluster
      (Client.find? OperatorResource "" settings.operatorName) with
  | none => return .notFound
  | some operator =>
      if operator.spec.managementState = .managed then
        syncManaged settings templates operator
      else return .notManaged operator.spec.managementState

end Step

end HookKeeper

/-! ## Cycles one after another -/

namespace HookKeeper

open HookKeeper.Manifest

/-- The seconds until a failed cycle is tried again. -/
def retrySeconds : Nat := 60

/-- When the next cycle comes. -/
inductive NextCycle where
  | after (seconds : Nat)
  | onChange
  deriving DecidableEq, Repr

/-- When the next cycle comes after the result of one. -/
def NextCycle.of (settings : Settings) :
    Except OperatorError SyncOutcome → NextCycle
  | .ok _ => .after settings.resyncSeconds.toNat
  | .error failure =>
      if failure.isPermanent then .onChange
      else .after retrySeconds

/--
Run a cycle for the operator resource of a name, and mark the resource if it
fails.
-/
def reconcile
    (settings : Settings)
    (templates : Templates)
    (name : String)
    (recorder : Recorder) :
    Program (Except OperatorError SyncOutcome × Recorder) := do
  let (result, after) ← (Step.sync settings templates).start recorder
  match result with
  | .ok outcome => return (.ok outcome, after)
  | .error failure =>
      let _ ← updateCondition name (Health.degraded (some failure.message))
      return (.error failure, after)

end HookKeeper
