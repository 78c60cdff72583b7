import HookKeeper.Proofs.Sequencing
import HookKeeper.Server.Basic

/-!
# What a cycle leaves behind

Three laws make a second cycle quiet.  The conditions and the records of a
status are set once and then stay; labels and annotations that were written
cover the wanted ones; and a live object is recorded under the key that the
wanted one is looked up by.
-/

namespace HookKeeper

open HookKeeper.Manifest

/-! ## Conditions that are set -/

namespace OperatorCondition

/-- Setting a condition again changes nothing, at any time. -/
def IsSet
    (condition : OperatorCondition)
    (conditions : List OperatorCondition) : Prop :=
  ∀ now, condition.setIn now conditions = conditions

theorem isSet_setIn
    (condition : OperatorCondition)
    (now : String)
    (conditions : List OperatorCondition) :
    condition.IsSet (condition.setIn now conditions) := by
  intro later
  induction conditions with
  | nil => simp [setIn, replacing]
  | cons old rest ih =>
      by_cases own : old.type = condition.type
      · -- The time of the transition is known now, and the status no longer
        -- changes.
        by_cases moved : old.status ≠ condition.status ∨
          old.lastTransitionTime = none
        · simp [setIn, replacing, own, moved]
        · rcases not_or.1 moved with ⟨same, kept⟩
          simp [setIn, replacing, own, Decidable.not_not.1 same, kept]
      · simp [setIn, own, ih]

/-- A condition stays set when one of another type is set. -/
theorem IsSet.setIn
    {condition : OperatorCondition}
    {conditions : List OperatorCondition}
    (set : condition.IsSet conditions)
    {other : OperatorCondition}
    (distinct : other.type ≠ condition.type)
    (now : String) :
    condition.IsSet (other.setIn now conditions) := by
  intro later
  have unchanged := set later
  induction conditions with
  | nil => simp [OperatorCondition.setIn] at unchanged
  | cons old rest ih =>
      by_cases own : old.type = condition.type
      · have different : ¬ old.type = other.type := fun same =>
          distinct (same.symm.trans own)
        rw [OperatorCondition.setIn, if_pos own] at unchanged
        rw [OperatorCondition.setIn, if_neg different, OperatorCondition.setIn,
          if_pos own, (List.cons.inj unchanged).1]
      · rw [OperatorCondition.setIn, if_neg own] at unchanged
        have tail := (List.cons.inj unchanged).2
        by_cases replaced : old.type = other.type
        · have kept : ¬ (other.replacing old now).type = condition.type := own
          rw [OperatorCondition.setIn, if_pos replaced, OperatorCondition.setIn,
            if_neg kept, tail]
        · rw [OperatorCondition.setIn, if_neg replaced, OperatorCondition.setIn,
            if_neg own]
          congr 1
          refine ih ?_ tail
          intro moment
          have whole := set moment
          rw [OperatorCondition.setIn, if_neg own] at whole
          exact (List.cons.inj whole).2

end OperatorCondition

namespace Health

@[simp]
theorem type_available (deployment : Deployment) :
    (available deployment).type = availableType := by
  unfold available
  dsimp only
  split <;> rfl

@[simp]
theorem type_progressing (deployment : Deployment) :
    (progressing deployment).type = progressingType := by
  unfold progressing
  dsimp only
  split
  · rfl
  · split <;> rfl

@[simp]
theorem type_degraded (failure : Option String) :
    (degraded failure).type = degradedType := by
  cases failure <;> rfl

end Health

/-! ## Generations that are recorded -/

/--
A Deployment and a registration have different keys, whatever their names are.
-/
theorem GenerationKey.ofDeployment_ne_ofRegistration
    (deployment : Deployment)
    (registration : Registration) :
    ofDeployment deployment ≠ ofRegistration registration := by
  simp [ofDeployment, ofRegistration]

namespace GenerationRecord

theorem put_of_expected?
    {key : GenerationKey}
    {generation : Int64}
    {records : List GenerationRecord}
    (recorded : expected? records key = some generation) :
    put key generation records = records := by
  induction records with
  | nil => simp at recorded
  | cons record rest ih =>
      rw [expected?_cons] at recorded
      rw [put]
      split
      next own =>
        rw [if_pos own] at recorded
        rw [← Option.some.inj recorded]
      next other =>
        rw [if_neg other] at recorded
        rw [ih recorded]

theorem set_of_expected?
    {key : GenerationKey}
    {generation : Option Int64}
    {records : List GenerationRecord}
    (recorded : ∀ known, generation = some known →
        expected? records key = some known) :
    set records key generation = records := by
  cases generation with
  | none => rfl
  | some known => exact put_of_expected? (recorded known rfl)

theorem expected?_set
    {key other : GenerationKey}
    {generation : Option Int64}
    {records : List GenerationRecord} :
    expected? (set records key generation) other =
      if key = other then generation.or (expected? records other)
      else expected? records other := by
  cases generation with
  | none => simp [set]
  | some known => simp [set, expected?_put]

end GenerationRecord

section StatusAfter

variable (deployment : Deployment) (registration : Registration) (now : String)
  (status : OperatorStatus)

theorem generations_statusAfter :
    (statusAfter deployment registration now status).generations =
      GenerationRecord.setRegistration
        (GenerationRecord.setDeployment status.generations deployment)
          registration := rfl

theorem expected?_statusAfter_deployment :
    GenerationRecord.expected?
        (statusAfter deployment registration now status).generations
        (.ofDeployment deployment) =
      deployment.metadata.generation.or
        (GenerationRecord.expected? status.generations
            (.ofDeployment deployment)) := by
  have distinct :=
    GenerationKey.ofDeployment_ne_ofRegistration deployment registration
  rw [generations_statusAfter, GenerationRecord.setRegistration,
    GenerationRecord.expected?_set, if_neg distinct.symm,
    GenerationRecord.setDeployment, GenerationRecord.expected?_set, if_pos rfl]

theorem expected?_statusAfter_registration :
    GenerationRecord.expected?
        (statusAfter deployment registration now status).generations
        (.ofRegistration registration) =
      registration.metadata.generation.or
        (GenerationRecord.expected? status.generations
            (.ofRegistration registration)) := by
  have distinct :=
    GenerationKey.ofDeployment_ne_ofRegistration deployment registration
  rw [generations_statusAfter, GenerationRecord.setRegistration,
    GenerationRecord.expected?_set, if_pos rfl, GenerationRecord.setDeployment,
    GenerationRecord.expected?_set, if_neg distinct]

end StatusAfter

/--
A status reports live objects already: their conditions are set in it and their
generations are recorded.
-/
structure OperatorStatus.Reports
    (status : OperatorStatus)
    (deployment : Deployment)
    (registration : Registration) : Prop where
  available : (Health.available deployment).IsSet status.conditions
  progressing : (Health.progressing deployment).IsSet status.conditions
  degraded : (Health.degraded none).IsSet status.conditions
  deployment : GenerationRecord.setDeployment status.generations deployment =
    status.generations
  registration :
    GenerationRecord.setRegistration status.generations registration =
      status.generations

theorem reports_statusAfter
    (deployment : Deployment)
    (registration : Registration)
    (now : String)
    (status : OperatorStatus) :
    (statusAfter deployment registration now status).Reports deployment
        registration := by
  have types :
      Health.availableType ≠ Health.progressingType ∧
        Health.availableType ≠ Health.degradedType ∧
        Health.progressingType ≠ Health.degradedType := by
    decide
  constructor
  case available =>
    exact ((OperatorCondition.isSet_setIn _ now _).setIn
      (by simpa using types.1.symm) now).setIn
      (by simpa using types.2.1.symm) now
  case progressing =>
    exact (OperatorCondition.isSet_setIn _ now _).setIn
      (by simpa using types.2.2.symm) now
  case degraded => exact OperatorCondition.isSet_setIn _ now _
  case deployment =>
    apply GenerationRecord.set_of_expected?
    intro generation known
    rw [expected?_statusAfter_deployment, known, Option.some_or]
  case registration =>
    apply GenerationRecord.set_of_expected?
    intro generation known
    rw [expected?_statusAfter_registration, known, Option.some_or]

/--
Reporting live objects that are reported already changes nothing, at any time.
-/
theorem OperatorStatus.Reports.statusAfter_eq
    {status : OperatorStatus}
    {deployment : Deployment}
    {registration : Registration}
    (reports : status.Reports deployment registration)
    (now : String) :
    statusAfter deployment registration now status = status := by
  simp only [statusAfter, OperatorStatus.setCondition,
    OperatorStatus.recordDeployment, OperatorStatus.recordRegistration,
    reports.available now, reports.progressing now, reports.degraded now,
    reports.deployment, reports.registration]

theorem statusAfter_statusAfter
    (deployment : Deployment)
    (registration : Registration)
    (now : String)
    (status : OperatorStatus)
    (later : String) :
    statusAfter deployment registration later
        (statusAfter deployment registration now status) =
      statusAfter deployment registration now status :=
  (reports_statusAfter deployment registration now status).statusAfter_eq later

/-! ## Entries that cover the wanted ones -/

theorem isCovered_iff {wanted live : Option TextMap} :
    isCovered wanted live = true ↔
      ∀ key value, (wanted.getD .empty).find? key = some value →
        (live.getD .empty).find? key = some value := by
  cases wanted with
  | none => simp [isCovered]
  | some entries => exact TextMap.isSubmap_iff _ _

theorem isCovered_refl (entries : Option TextMap) :
    isCovered entries entries = true :=
  isCovered_iff.2 fun _ _ found => found

theorem isCovered_trans
    {first second third : Option TextMap}
    (lower : isCovered first second = true)
    (upper : isCovered second third = true) : isCovered first third = true :=
  isCovered_iff.2 fun key value found =>
    isCovered_iff.1 upper key value (isCovered_iff.1 lower key value found)

theorem isCovered_layered (wanted live : Option TextMap) :
    isCovered wanted (layered wanted live) = true := by
  cases wanted with
  | none => rfl
  | some entries => exact TextMap.isSubmap_layer _ _

namespace ObjectMeta

def Covers (live wanted : ObjectMeta) : Prop :=
  isCovered wanted.labels live.labels = true ∧
    isCovered wanted.annotations live.annotations = true

theorem Covers.trans
    {first second third : ObjectMeta}
    (upper : first.Covers second)
    (lower : second.Covers third) : first.Covers third :=
  ⟨isCovered_trans lower.1 upper.1, isCovered_trans lower.2 upper.2⟩

theorem covers_merged (live wanted : ObjectMeta) :
    (live.merged wanted).Covers wanted :=
  ⟨isCovered_layered _ _, isCovered_layered _ _⟩

/--
An object counts as edited unless its generation is the recorded one, if one is
recorded.
-/
theorem isEdited_eq_false_iff
    {live : ObjectMeta}
    {recorded : Option Int64} :
    live.isEdited recorded = false ↔ recorded = none ∨
        recorded = live.generation := by
  cases recorded with
  | none => simp [isEdited]
  | some generation =>
      have same : live.isEdited (some generation) = false ↔
          some generation = live.generation := by
        simp only [isEdited, bne_eq_false_iff_eq]
        exact eq_comm
      simp [same]

theorem needsUpdate_eq_false_iff
    {live wanted : ObjectMeta}
    {recorded : Option Int64} :
    live.needsUpdate wanted recorded = false ↔
      live.isEdited recorded = false ∧ live.Covers wanted := by
  simp [needsUpdate, Covers, and_assoc]

end ObjectMeta

namespace ApplyPlan

variable {α : Type} [ClusterObject α]

def sent? : ApplyPlan α → Option α
  | .create object => some object
  | .keep _ => none
  | .replace object => some object

/--
A live object is still what the plan for a wanted one left: it has the name
that is wanted and a generation, and whatever labels and annotations were sent.
-/
structure Retained (plan : ApplyPlan α) (wanted live : α) : Prop where
  name : (ClusterObject.metadata live).name =
    (ClusterObject.metadata wanted).name
  generation : (ClusterObject.metadata live).generation.isSome
  sent : ∀ object, plan.sent? = some object →
    (ClusterObject.metadata live).Covers (ClusterObject.metadata object)

/-- A plan creates an absent object, or replaces or keeps the live one. -/
theorem of_cases
    (merge : α → α → α)
    (wanted : α)
    (recorded : Option Int64)
    (found : Option α) :
    (found = none ∧ of merge wanted recorded found = .create wanted) ∨
      ∃ live, found = some live ∧
        (((ClusterObject.metadata live).needsUpdate
          (ClusterObject.metadata wanted) recorded =
              true ∧
            of merge wanted recorded found = .replace (merge live wanted)) ∨
          ((ClusterObject.metadata live).needsUpdate
            (ClusterObject.metadata wanted) recorded =
              false ∧
            of merge wanted recorded found = .keep live)) := by
  cases found with
  | none => exact .inl ⟨rfl, rfl⟩
  | some live =>
      refine .inr ⟨live, rfl, ?_⟩
      cases needed :
          (ClusterObject.metadata live).needsUpdate
              (ClusterObject.metadata wanted) recorded with
      | true => exact .inl ⟨rfl, by rw [of, if_pos needed]⟩
      | false => exact .inr ⟨rfl, by rw [of, if_neg (by simp [needed])]⟩

/--
A plan sends the wanted object where there is none, or merged into the live one.
-/
theorem of_sent
    {merge : α → α → α}
    {wanted sent : α}
    {recorded : Option Int64}
    {found : Option α}
    (due : (ApplyPlan.of merge wanted recorded found).sent? = some sent) :
    (found = none ∧ sent = wanted) ∨ ∃ live, found = some live ∧
        sent = merge live wanted := by
  rcases of_cases merge wanted recorded found with
    ⟨absent, plan⟩ | ⟨live, present, ⟨_, plan⟩ | ⟨_, plan⟩⟩ <;>
    rw [plan] at due <;> cases due
  · exact .inl ⟨absent, rfl⟩
  · exact .inr ⟨live, present, rfl⟩

/-- A plan that sends nothing keeps a live object that has what is wanted. -/
theorem of_unsent
    {merge : α → α → α}
    {wanted : α}
    {recorded : Option Int64}
    {found : Option α}
    (idle : (ApplyPlan.of merge wanted recorded found).sent? = none) :
    ∃ live, found = some live ∧ of merge wanted recorded found = .keep live ∧
      (ClusterObject.metadata live).Covers (ClusterObject.metadata wanted) := by
  rcases of_cases merge wanted recorded found with
    ⟨absent, plan⟩ | ⟨live, present, ⟨_, plan⟩ | ⟨unneeded, plan⟩⟩
  · rw [plan] at idle
    cases idle
  · rw [plan] at idle
    cases idle
  · exact ⟨live, present, plan,
      (ObjectMeta.needsUpdate_eq_false_iff.1 unneeded).2⟩

/-- What a plan sends has the wanted labels and annotations. -/
theorem covers_of_sent
    {merge : α → α → α}
    {wanted sent : α}
    {recorded : Option Int64}
    {found : Option α}
    (merges : ∀ live, ClusterObject.metadata (merge live wanted) =
      (ClusterObject.metadata live).merged (ClusterObject.metadata wanted))
    (due : (ApplyPlan.of merge wanted recorded found).sent? = some sent) :
    (ClusterObject.metadata sent).Covers (ClusterObject.metadata wanted) := by
  rcases of_sent due with ⟨_, rfl⟩ | ⟨live, _, rfl⟩
  · exact ⟨isCovered_refl _, isCovered_refl _⟩
  · rw [merges live]
    exact ObjectMeta.covers_merged _ _

/--
What a plan leaves carries the wanted labels and annotations as long as it is
retained.
-/
theorem Retained.covers
    {merge : α → α → α}
    {wanted written : α}
    {recorded : Option Int64}
    {found : Option α}
    (merges : ∀ live, ClusterObject.metadata (merge live wanted) =
      (ClusterObject.metadata live).merged (ClusterObject.metadata wanted))
    (retained : (ApplyPlan.of merge wanted recorded found).Retained wanted
        ((ApplyPlan.of merge wanted recorded found).outcome written)) :
    (ClusterObject.metadata
      ((ApplyPlan.of merge wanted recorded found).outcome written)).Covers
      (ClusterObject.metadata wanted) := by
  cases due : (ApplyPlan.of merge wanted recorded found).sent? with
  | some sent =>
      exact (retained.sent sent due).trans (covers_of_sent merges due)
  | none =>
      rcases of_unsent due with ⟨live, _, plan, covers⟩
      rw [plan]
      exact covers

theorem of_covered
    {merge : α → α → α}
    {wanted live : α}
    {generation : Int64}
    (known : (ClusterObject.metadata live).generation = some generation)
    (covers : (ClusterObject.metadata live).Covers
        (ClusterObject.metadata wanted)) :
    ApplyPlan.of merge wanted (some generation) (some live) = .keep live := by
  have unneeded : (ClusterObject.metadata live).needsUpdate
      (ClusterObject.metadata wanted) (some generation) = false :=
    ObjectMeta.needsUpdate_eq_false_iff.2 ⟨by simp [ObjectMeta.isEdited, known],
      covers⟩
  rw [ApplyPlan.of, if_neg (by simp [unneeded])]

end ApplyPlan

end HookKeeper
