import HookKeeper.Proofs.ConditionHistory
import HookKeeper.Proofs.GenerationHistory

/-!
# The status after a cycle

A cycle that succeeds makes three observations and two recordings in the status
of the operator.  The main statement says what the status tells of the live
objects then, and that everything else in it stays: what the operator does not
report is left to whoever does, and a status that reports the live objects is
left as it is at any later time.
-/

namespace HookKeeper

open GenerationRecord

namespace Health

theorem status_available (deployment : Deployment) :
    (available deployment).status =
      if 0 < (deployment.status.bind (·.availableReplicas)).getD 0 then
          .met else .unmet := by
  unfold available
  by_cases ready : 0 < (deployment.status.bind (·.availableReplicas)).getD 0
  · simp [ready, OperatorCondition.bare, OperatorCondition.isMet,
      ConditionStatus.ofBool]
  · simp [ready, OperatorCondition.bare, OperatorCondition.isMet,
      ConditionStatus.ofBool, OperatorCondition.withReason]

/--
A rollout is over when the last write was seen and every wanted pod was updated.
-/
theorem status_progressing (deployment : Deployment) :
    (progressing deployment).status =
      if (deployment.status.bind (·.observedGeneration)).getD 0 =
            deployment.metadata.generation.getD 0 ∧
          (deployment.status.bind (·.updatedReplicas)).getD 0 =
            (deployment.spec.bind (·.replicas)).getD 1 then .unmet
      else .met := by
  unfold progressing
  dsimp only
  split
  next unseen => rw [if_neg (unseen ·.1)]; rfl
  next seen =>
    rw [ne_eq, Decidable.not_not] at seen
    split
    next updated => rw [if_pos ⟨seen, updated⟩]; rfl
    next pending => rw [if_neg (pending ·.2)]; rfl

end Health

section

variable (deployment : Deployment) (registration : Registration) (now : String)
  (status : OperatorStatus)

/-- What a cycle observes. -/
def cycleObservations : List Observation :=
  [⟨Health.available deployment, now⟩, ⟨Health.progressing deployment, now⟩,
    ⟨Health.degraded none, now⟩]

/-- What a cycle records. -/
def cycleRecordings : List Recording :=
  [.ofDeployment deployment, .ofRegistration registration]

/-- The status after a cycle is that after its observations and recordings. -/
theorem statusAfter_eq :
    statusAfter deployment registration now status =
      { status.observeAll (cycleObservations deployment now) with
        generations := recordAll status.generations
            (cycleRecordings deployment registration) } :=
  rfl

/-- Under each type of the operator stands what was observed last. -/
theorem statements_statusAfter :
    (statusAfter deployment registration now status).statement?
      Health.availableType =
        some (Health.available deployment).statement ∧
      (statusAfter deployment registration now status).statement?
        Health.progressingType =
        some (Health.progressing deployment).statement ∧
      (statusAfter deployment registration now status).statement?
        Health.degradedType =
        some (Health.degraded none).statement := by
  have states := status.statement?_observeAll (cycleObservations deployment now)
  have first : Health.availableType ≠ Health.progressingType := by decide
  have second : Health.availableType ≠ Health.degradedType := by decide
  have third : Health.progressingType ≠ Health.degradedType := by decide
  rw [statusAfter_eq]
  refine ⟨(states _).trans ?_, (states _).trans ?_, (states _).trans ?_⟩
  · simp [cycleObservations, first.symm, second.symm]
  · simp [cycleObservations, first, third.symm]
  · simp [cycleObservations, second, third]

end

theorem OperatorStatus.condition?_of_statement?
    {status : OperatorStatus}
    {type : String}
    {condition : OperatorCondition}
    (states : status.statement? type = some condition.statement) :
    ∃ found, status.condition? type = some found ∧
      found.status = condition.status ∧
      found.reason = condition.reason ∧ found.message = condition.message := by
  obtain ⟨found, present, same⟩ := Option.map_eq_some_iff.1 states
  simp only [OperatorCondition.statement, Prod.mk.injEq] at same
  exact ⟨found, present, same⟩

/--
The status after a cycle that left these live objects.  The webhook is available
exactly when a pod is, progresses unless the last write was seen and every
wanted pod was updated, and is not degraded.  The generations of the objects are
expected from now on, where they have any.  All other conditions and records
stay as they are and in their places, and so does the observed generation.  The
same objects change nothing any more, at any time.
-/
theorem status_of_success
    (deployment : Deployment)
    (registration : Registration)
    (now : String)
    (status : OperatorStatus) :
    (∃ condition,
      (statusAfter deployment registration now status).condition?
        Health.availableType =
          some condition ∧
        condition.status =
          if 0 < (deployment.status.bind (·.availableReplicas)).getD 0 then
            .met else .unmet) ∧
    (∃ condition,
      (statusAfter deployment registration now status).condition?
        Health.progressingType =
          some condition ∧
        condition.status =
          if (deployment.status.bind (·.observedGeneration)).getD 0 =
                deployment.metadata.generation.getD 0 ∧
              (deployment.status.bind (·.updatedReplicas)).getD 0 =
                (deployment.spec.bind (·.replicas)).getD 1 then .unmet
          else .met) ∧
    (∃ condition,
      (statusAfter deployment registration now status).condition?
        Health.degradedType =
          some condition ∧
        condition.status = .unmet ∧ condition.reason = none ∧
          condition.message = none) ∧
    expected? (statusAfter deployment registration now status).generations
        (.ofDeployment deployment) =
      deployment.metadata.generation.or
        (expected? status.generations (.ofDeployment deployment)) ∧
    expected? (statusAfter deployment registration now status).generations
        (.ofRegistration registration) =
      registration.metadata.generation.or
        (expected? status.generations (.ofRegistration registration)) ∧
    (statusAfter deployment registration now status).observedGeneration =
      status.observedGeneration ∧
    Revision OperatorCondition.type
      [Health.availableType, Health.progressingType, Health.degradedType]
      status.conditions
        (statusAfter deployment registration now status).conditions ∧
    Revision GenerationRecord.key
      (recordedKeys [.ofDeployment deployment, .ofRegistration registration])
      status.generations
        (statusAfter deployment registration now status).generations ∧
    ∀ later,
      statusAfter deployment registration later
          (statusAfter deployment registration now status) =
        statusAfter deployment registration now status := by
  obtain ⟨available, progressing, degraded⟩ :=
    statements_statusAfter deployment registration now status
  refine ⟨?available, ?progressing,
    OperatorStatus.condition?_of_statement? degraded,
    expected?_statusAfter_deployment deployment registration now status,
    expected?_statusAfter_registration deployment registration now status, rfl,
    ?conditions, ?generations,
    statusAfter_statusAfter deployment registration now status⟩
  case available =>
    obtain ⟨found, present, own, -⟩ :=
      OperatorStatus.condition?_of_statement? available
    exact ⟨found, present, own.trans (Health.status_available deployment)⟩
  case progressing =>
    obtain ⟨found, present, own, -⟩ :=
      OperatorStatus.condition?_of_statement? progressing
    exact ⟨found, present, own.trans (Health.status_progressing deployment)⟩
  case conditions =>
    have revision :=
      status.revision_observeAll (cycleObservations deployment now)
    have types : (cycleObservations deployment now).map (·.condition.type) =
        [Health.availableType, Health.progressingType,
            Health.degradedType] := by
      simp [cycleObservations]
    rw [statusAfter_eq]
    rwa [types] at revision
  case generations =>
    rw [statusAfter_eq]
    exact revision_recordAll _ _

end HookKeeper
