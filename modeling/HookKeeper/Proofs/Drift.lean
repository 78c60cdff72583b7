import HookKeeper.Proofs.Upkeep

/-!
# Drift of the Deployment

A live Deployment whose specification is not the wanted one is noticed by the
generation that is recorded for it, and by nothing else: the hash that it
carries is that of the wanted content.  So a cycle that has synchronized leaves
the wanted specification behind, unless it found another one while no
generation was recorded, or just the live one; then it keeps what it found.
Edits that are made while a generation is recorded are always noticed.
-/

namespace HookKeeper

open HookKeeper.Json
open HookKeeper.Manifest
open Relation

namespace Circumstances

variable (fixed : Circumstances)

/-! ## What holds of what is kept -/

/--
A live Deployment carries the names, labels and annotations of the wanted one.
-/
structure Carries (live : LiveDeployment) : Prop where
  name : live.name = fixed.wanted.metadata.name
  generateName : live.generateName = fixed.wanted.metadata.generateName
  namespaceName : live.namespaceName = fixed.wanted.metadata.namespaceName
  labels : isCovered fixed.wanted.stamped.metadata.labels live.labels = true
  annotations :
    isCovered fixed.wanted.stamped.metadata.annotations live.annotations = true

/-- The specification is not the wanted one, and no record shows it. -/
def Drifted (upkeep : Upkeep) : Prop :=
  ∃ live ∈ upkeep.deployment, live.spec ≠ fixed.wantedSpec ∧
    ∀ known, fixed.recorded? upkeep = some known → known = live.generation

/--
The live Deployment carries what is wanted, and where all edits are timely its
record shows whether its specification is another.
-/
structure Sound (timely : Prop) (upkeep : Upkeep) : Prop where
  carries : ∀ live ∈ upkeep.deployment, fixed.Carries live
  noticed : timely → ∀ live ∈ upkeep.deployment, live.spec ≠ fixed.wantedSpec →
    ∃ known, fixed.recorded? upkeep = some known ∧ known < live.generation

variable {fixed} {timely : Prop} {Edits : Upkeep → Upkeep → Prop}
  {before after : Upkeep}

theorem Sound.not_drifted (sound : fixed.Sound True before) :
    ¬ fixed.Drifted before := by
  rintro ⟨live, present, differs, unnoticed⟩
  rcases sound.noticed trivial live present differs with
    ⟨known, recorded, lower⟩
  rw [unnoticed known recorded] at lower
  exact Int64.lt_irrefl lower

theorem Sound.edit
    (sound : fixed.Sound timely before)
    (edit : fixed.Edit timely before after) : fixed.Sound timely after := by
  cases edit with
  | edited live spec generation present raises recorded =>
      have carries := sound.carries live present
      constructor
      · rintro _ ⟨⟩
        exact ⟨carries.name, carries.generateName, carries.namespaceName,
          carries.labels, carries.annotations⟩
      · rintro held _ ⟨⟩ _
        rcases recorded held with ⟨known, same, lower⟩
        exact ⟨known, same, Int64.lt_of_le_of_lt lower raises⟩

theorem Sound.edited
    (sound : fixed.Sound timely before)
    (within : ∀ before after, Edits before after →
      fixed.Edit timely before after)
    (edits : ReflTransGen Edits before after) : fixed.Sound timely after := by
  induction edits with
  | refl => exact sound
  | tail _ edit ih => exact ih.edit (within _ _ edit)

theorem records_of_edited
    (within : ∀ before after, Edits before after →
      fixed.Edit timely before after)
    (edits : ReflTransGen Edits before after) :
    after.records = before.records := by
  induction edits with
  | refl => rfl
  | tail _ edit ih =>
      cases within _ _ edit
      exact ih

/-- Edits raise the generation of the live Deployment, or leave it alone. -/
theorem deployment_of_edited
    (within : ∀ before after, Edits before after →
      fixed.Edit timely before after)
    (edits : ReflTransGen Edits before after)
    {live : LiveDeployment}
    (present : before.deployment = some live) :
    ∃ later, after.deployment = some later ∧
      (later = live ∨ live.generation < later.generation) := by
  induction edits with
  | refl => exact ⟨live, present, .inl rfl⟩
  | tail _ edit ih =>
      rcases ih with ⟨later, reached, grown⟩
      cases within _ _ edit with
      | edited other spec generation given raises recorded =>
          cases reached.symm.trans given
          refine ⟨_, rfl, .inr ?_⟩
          rcases grown with rfl | lower
          · exact raises
          · exact Int64.lt_trans lower raises

theorem absent_of_edited
    (within : ∀ before after, Edits before after →
      fixed.Edit timely before after)
    (edits : ReflTransGen Edits before after)
    (absent : after.deployment = none) : before.deployment = none := by
  cases present : before.deployment with
  | none => rfl
  | some live =>
      rcases deployment_of_edited within edits present with ⟨later, reached, _⟩
      cases absent.symm.trans reached

theorem Sound.written
    {live : LiveDeployment}
    (carries : fixed.Carries live)
    (content : live.spec = fixed.wantedSpec) :
    fixed.Sound timely { before with deployment := some live } := by
  constructor
  · rintro _ ⟨⟩
    exact carries
  · rintro _ _ ⟨⟩ differs
    exact absurd content differs

end Circumstances

/-! ## Answers and plans -/

theorem mapError_eq_ok_iff
    {ε ι α : Type}
    {result : Except ε α}
    {wrap : ε → ι}
    {value : α} :
    result.mapError wrap = .ok value ↔ result = .ok value := by
  constructor
  · intro same
    cases result with
    | error cause => cases same
    | ok given =>
        cases same
        rfl
  · rintro rfl
    rfl

theorem Answer.isAccepted_of_decode
    {answer : Answer}
    {read : Datum → Option β}
    {object : β}
    (decoded : answer.decode read = .ok object) : answer.IsAccepted := by
  cases answer with
  | unreachable reason => cases decoded
  | reply received =>
      refine ⟨received, rfl, ?_⟩
      rw [decode] at decoded
      split at decoded
      · cases decoded
      next accepted => simpa using accepted

theorem ApplyPlan.sent?_of_isWrite
    {α : Type}
    [ClusterObject α]
    {plan : ApplyPlan α}
    (writes : plan.isWrite = true) : ∃ object, plan.sent? = some object := by
  cases plan with
  | create object => exact ⟨object, rfl⟩
  | keep live => cases writes
  | replace object => exact ⟨object, rfl⟩

theorem ApplyPlan.outcome_of_isWrite
    {α : Type}
    [ClusterObject α]
    {plan : ApplyPlan α}
    {written : α}
    (writes : plan.isWrite = true) : plan.outcome written = written := by
  cases plan with
  | keep live => cases writes
  | create object | replace object => rfl

/-- Whether a live Deployment is to be replaced. -/
def Findings.needsUpdate (findings : Findings) (live : Deployment) : Bool :=
  live.metadata.needsUpdate findings.wanted.stamped.metadata
    (GenerationRecord.expected? findings.records
      (.ofDeployment findings.wanted))

theorem Findings.deploymentPlan_cases (findings : Findings) :
    (findings.foundDeployment = none ∧
        findings.deploymentPlan = .create findings.wanted.stamped) ∨
      ∃ live, findings.foundDeployment = some live ∧
        ((findings.needsUpdate live = true ∧
            findings.deploymentPlan = .replace
              (live.merged findings.wanted.stamped)) ∨
          (findings.needsUpdate live = false ∧
              findings.deploymentPlan = .keep live)) :=
  ApplyPlan.of_cases _ _ _ _

namespace Course

variable {Explained : Report → Prop}

/--
The steps of two parts end the cycle in the first, or pass it and go on with the
second.
-/
theorem of_append
    {first second : List Stage}
    {reports : List Report}
    {stop : Option Stop}
    (course : Course Explained (first ++ second) reports stop) :
    (stop ≠ none ∧ Course Explained first reports stop) ∨
      ∃ before after, reports = before ++ after ∧
        Course Explained first before none ∧
        Course Explained second after stop := by
  induction first generalizing reports with
  | nil => exact .inr ⟨[], reports, rfl, .finished, course⟩
  | cons stage rest ih =>
      cases course with
      | stopped report stop due explained ends =>
          exact .inl ⟨nofun, .stopped report stop rest explained ends⟩
      | passed report explained passes others =>
          rcases ih others with
            ⟨ended, within⟩ | ⟨before, after, rfl, passed, next⟩
          · exact .inl ⟨ended, .passed report explained passes within⟩
          · exact .inr ⟨report :: before, after, rfl,
              .passed report explained passes passed, next⟩

theorem of_passed
    {stage : Stage}
    {due : List Stage}
    {reports : List Report}
    (course : Course Explained (stage :: due) reports none) :
    ∃ report others, reports = report :: others ∧ report.stage = stage ∧
      report.stop = none ∧
      Explained report ∧ Course Explained due others none := by
  rcases course.of_cons with
    ⟨report, others, rfl, own, explained, ended | ⟨passed, rest⟩⟩
  · cases ended.2.1
  · exact ⟨report, others, rfl, own, passed, explained, rest⟩

theorem of_singleton
    {stage : Stage}
    {reports : List Report}
    {stop : Option Stop}
    (course : Course Explained [stage] reports stop) :
    ∃ report, reports = [report] ∧ report.stage = stage ∧ Explained report ∧
      report.stop = stop := by
  rcases course.of_cons with
    ⟨report, others, rfl, own, explained, ended | ⟨passed, rest⟩⟩
  · rcases ended with ⟨same, _, rfl⟩
    exact ⟨report, rfl, own, explained, same⟩
  · cases rest
    exact ⟨report, rfl, own, explained, passed⟩

end Course

namespace Circumstances

variable {fixed : Circumstances} {timely : Prop}
  {Edits : Upkeep → Upkeep → Prop} {before after : Upkeep} {findings : Findings}
  {report : Report}

/-! ## What the steps of a cycle find -/

/-- The request of a passed step was served, with edits before and after. -/
theorem served_of_asks
    {request : Except RequestFault Request}
    {read : Datum → Option β}
    {settle : Except ApiError β → Except Stop γ}
    {value : γ}
    (asks : report.Asks request read settle value)
    (silent : report.told = [])
    (passed : report.stop = none)
    (fails : ∀ fault, settle (.error (.unbuildable fault)) ≠ .ok value)
    (serves : fixed.Serves Edits before report.exchanges after) :
    ∃ exchange reached left,
      ReflTransGen Edits before reached ∧ fixed.Served reached exchange left ∧
        ReflTransGen Edits left after ∧ request = .ok exchange.request ∧
        settle (exchange.answer.decode read) = .ok value := by
  rcases report with ⟨stage, asked, told, ending⟩
  cases silent
  cases passed
  rcases asks with ⟨outcome, call, settled⟩
  cases call with
  | unbuildable fault unbuilt => exact absurd settled (fails fault)
  | answered sent answer built =>
      rcases serves.of_cons with ⟨reached, left, edits, served, rest⟩
      exact ⟨_, reached, left, edits, served, rest.of_nil, built, settled⟩

/-- What a cycle found when it read the Deployment. -/
structure Found
    (fixed : Circumstances)
    (findings : Findings)
    (upkeep : Upkeep) : Prop where
  wanted : findings.wanted = fixed.wanted
  records : findings.records = upkeep.records
  deployment : ∀ object ∈ findings.foundDeployment,
    ∃ live ∈ upkeep.deployment, live.Shows object

theorem served_readOperator
    (explained : findings.Explains fixed.settings fixed.templates report)
    (stage : report.stage = .readOperator)
    (passed : report.stop = none)
    (serves : fixed.Serves Edits before report.exchanges after)
    (within : ∀ before after, Edits before after →
        fixed.Edit timely before after) :
    findings.operator.spec = fixed.spec ∧
        findings.records = before.records := by
  simp only [Findings.Explains, stage] at explained
  rcases served_of_asks explained.2 explained.1 passed
      (fun _ same => by cases same) serves with
    ⟨exchange, reached, left, edits, served, _, sent, settled⟩
  have found := (Stop.ofOperator_eq_ok_iff.1 settled).1
  have shown := served.operator sent _ (Client.presence_eq_some_iff.1 found)
  exact ⟨shown.1, shown.2.trans (records_of_edited within edits)⟩

theorem served_listNodes
    (explained : findings.Explains fixed.settings fixed.templates report)
    (stage : report.stage = .listNodes)
    (passed : report.stop = none)
    (serves : fixed.Serves Edits before report.exchanges after)
    (rendered : findings.rendered = fixed.rendered) :
    findings.wanted = fixed.wanted := by
  simp only [Findings.Explains, stage, rendered] at explained
  rcases served_of_asks explained.2 explained.1 passed
      (fun _ same => by cases same) serves with
    ⟨exchange, reached, left, _, served, _, sent, settled⟩
  have nodes : findings.nodes = fixed.nodes :=
    served.nodes sent _ (mapError_eq_ok_iff.1 (mapError_eq_ok_iff.1 settled))
  rw [Findings.wanted, wanted, rendered, nodes]

theorem served_readDeployment
    (explained : findings.Explains fixed.settings fixed.templates report)
    (stage : report.stage = .readDeployment)
    (passed : report.stop = none)
    (serves : fixed.Serves Edits before report.exchanges after)
    (wanted : findings.wanted = fixed.wanted) :
    ∃ read, ReflTransGen Edits before read ∧ ReflTransGen Edits read after ∧
      ∀ object ∈ findings.foundDeployment, ∃ live ∈ read.deployment,
          live.Shows object := by
  simp only [Findings.Explains, stage, Findings.namespaceName,
    wanted] at explained
  rcases served_of_asks explained.2 explained.1 passed
      (fun _ same => by cases same) serves with
    ⟨exchange, reached, left, edits, served, later, sent, settled⟩
  have same := served.eq_of_idle (idle_of_get (Request.of_read sent).1)
  subst same
  refine ⟨left, edits, later, fun object found =>
    served.deployment (.inl sent) object ?_⟩
  rw [Option.mem_def.1 found] at settled
  exact Client.presence_eq_some_iff.1
    (mapError_eq_ok_iff.1 (mapError_eq_ok_iff.1 settled))

/--
A cycle that has read the Deployment has found what the cluster kept at that
time.
-/
theorem found_of_course
    {reports : List Report}
    (course : Course (findings.Explains fixed.settings fixed.templates)
      [.readOperator, .renderDeployment, .listNodes,
        .readDeployment] reports none)
    (serves :
      fixed.Serves Edits before (reports.flatMap Report.exchanges) after)
    (within : ∀ before after, Edits before after →
        fixed.Edit timely before after) :
    ∃ read, ReflTransGen Edits before read ∧ ReflTransGen Edits read after ∧
      fixed.Found findings read := by
  rcases course.of_passed with
    ⟨first, _, rfl, stage₁, passed₁, explained₁, course⟩
  rcases course.of_passed with
    ⟨second, _, rfl, stage₂, passed₂, explained₂, course⟩
  rcases course.of_passed with
    ⟨third, _, rfl, stage₃, passed₃, explained₃, course⟩
  rcases course.of_passed with
    ⟨fourth, _, rfl, stage₄, passed₄, explained₄, course⟩
  cases course
  rcases serves.of_append with ⟨opened, serves₁, serves⟩
  rcases serves.of_append with ⟨filled, serves₂, serves⟩
  rcases serves.of_append with ⟨sized, serves₃, serves⟩
  rcases serves.of_append with ⟨closed, serves₄, serves⟩
  have edits₁ :=
    serves₁.of_idle (idle_of_explains explained₁ (by simp [stage₁])
      (by simp [stage₁]))
  have edits₂ :=
    serves₂.of_idle (idle_of_explains explained₂ (by simp [stage₂])
      (by simp [stage₂]))
  have edits₃ :=
    serves₃.of_idle (idle_of_explains explained₃ (by simp [stage₃])
      (by simp [stage₃]))
  rcases served_readOperator explained₁ stage₁ passed₁ serves₁ within with
    ⟨spec, records⟩
  have rendered : findings.rendered = fixed.rendered := by
    simp only [Findings.Explains, stage₂, spec] at explained₂
    exact (explained₂.pass fixed.renders).2
  have wanted := served_listNodes explained₃ stage₃ passed₃ serves₃ rendered
  rcases served_readDeployment explained₄ stage₄ passed₄ serves₄ wanted with
    ⟨read, edits₄, later, deployment⟩
  have edits := ((edits₁.trans edits₂).trans edits₃).trans edits₄
  exact ⟨read, edits, later.trans serves.of_nil, wanted,
    records.trans (records_of_edited within edits).symm, deployment⟩

/-! ## What the writes of a cycle leave -/

theorem request_of_plan
    {plan : ApplyPlan Deployment}
    {object : Deployment}
    (sends : plan.sent? = some object)
    {request : Request}
    (asked :
        plan.request? (fixed.wanted.metadata.namespaceName.getD "")
        fixed.wanted.metadata.anyName = some (.ok request)) :
    request.body = some object.toValue ∧ request.method ≠ .patch ∧
      (fixed.Creates request ∨ fixed.Replaces request) ∧
      (plan = .create object → request.method = .post) := by
  cases plan with
  | create other =>
      cases sends
      have built := Option.some.inj asked
      rcases Request.of_create built with ⟨method, body⟩
      refine ⟨body, by simp [method], .inl ?_, fun _ => method⟩
      rw [Creates, body]
      exact built
  | keep live => cases sends
  | replace other =>
      cases sends
      have built := Option.some.inj asked
      rcases Request.of_replace built with ⟨method, body⟩
      refine ⟨body, by simp [method], .inr ?_, nofun⟩
      rw [Replaces, body]
      exact built

/--
A write of the Deployment leaves nothing but edits behind and ends the cycle,
or the Deployment that was sent is kept, and then a cycle that goes on was
shown it.
-/
theorem served_of_writes
    {plan : ApplyPlan Deployment}
    {object written : Deployment}
    (sends : plan.sent? = some object)
    (writes :
      report.Writes (fixed.wanted.metadata.namespaceName.getD "")
      fixed.wanted.metadata.anyName plan written)
    (serves : fixed.Serves Edits before report.exchanges after) :
    (report.stop ≠ none ∧ ReflTransGen Edits before after) ∨
      ∃ reached generation,
        ReflTransGen Edits before reached ∧
        (plan = .create object → reached.deployment = none) ∧
        ReflTransGen Edits
          { reached with
            deployment := some (.ofBody object.toValue generation) } after ∧
        (report.stop = none →
          (LiveDeployment.ofBody object.toValue generation).Shows written) := by
  rcases report with ⟨stage, asked, told, ending⟩
  rcases writes with ⟨events, request, planned, outcome, call, settled⟩
  rcases serves.of_append with ⟨middle, first, rest⟩
  have silent := rest.of_idle fun exchange member _ _ about => by
    cases about.symm.trans (events exchange member)
  cases call with
  | unbuildable fault unbuilt =>
      refine .inl ⟨?_, first.of_nil.trans silent⟩
      rintro rfl
      cases settled
  | answered sent answer built =>
      rcases request_of_plan sends (built ▸ planned) with
        ⟨body, other, kind, posts⟩
      rcases first.of_cons with ⟨reached, left, edits, served, last⟩
      have later := last.of_nil.trans silent
      -- Whether the cycle goes on or not, an effect is that of the object that
      -- was sent.
      have effected (effect : fixed.Effect reached sent left) :
          ∃ generation,
            left = { reached with
              deployment := some (.ofBody object.toValue generation) } ∧
              (plan = .create object → reached.deployment = none) := by
        rcases effect.of_method_ne_patch other with ⟨absent, generation, rfl⟩
        exact ⟨generation, by rw [body, Option.getD_some], fun creates =>
          absent (posts creates)⟩
      cases ending with
      | none =>
          have decoded : answer.decode Deployment.ofDatum? = .ok written :=
            mapError_eq_ok_iff.1 settled
          obtain ⟨generation, rfl, absent⟩ := effected
            (served.effective (kind.imp_right .inl)
              (Answer.isAccepted_of_decode decoded))
          rcases served.deployment (.inr kind) written decoded with
            ⟨live, present, shows⟩
          cases present
          exact .inr ⟨reached, generation, edits, absent, later, fun _ => shows⟩
      | some stop =>
          rcases served.changes with rfl | ⟨_, effect⟩
          · exact .inl ⟨nofun, edits.trans later⟩
          · rcases effected effect with ⟨generation, rfl, absent⟩
            exact .inr ⟨reached, generation, edits, absent, later, nofun⟩

/--
A write of the status leaves nothing but edits behind, or its records are kept.
-/
theorem served_of_persists
    {current : OperatorResource}
    {change : StatusChange}
    (persists : report.Persists fixed.settings.operatorName current change)
    (serves : fixed.Serves Edits before report.exchanges after) :
    ReflTransGen Edits before after ∨
      ∃ reached, ReflTransGen Edits before reached ∧
        ReflTransGen Edits { reached with records := change.after.generations }
            after := by
  rcases report with ⟨stage, asked, told, ending⟩
  rcases persists with ⟨rfl, outcome, call, _⟩
  cases call with
  | unbuildable fault unbuilt => exact .inl serves.of_nil
  | answered sent answer built =>
      rcases Request.of_patchStatus built with ⟨method, body⟩
      rcases serves.of_cons with ⟨reached, left, edits, served, last⟩
      rcases served.changes with rfl | ⟨_, effect⟩
      · exact .inl (edits.trans last.of_nil)
      · have changed := effect.of_method_eq_patch method
        rw [body, Option.getD_some, recordsOfBody_statusPatch] at changed
        exact .inr ⟨reached, edits, changed ▸ last.of_nil⟩

/--
What is sent to write the wanted Deployment carries it, given what was found.
-/
theorem carries_of_plan
    (sound : fixed.Sound timely before)
    (found : fixed.Found findings before)
    {object : Deployment}
    (sends : findings.deploymentPlan.sent? = some object)
    (generation : Int64) :
    fixed.Carries (.ofBody object.toValue generation) ∧
      (LiveDeployment.ofBody object.toValue generation).spec =
          fixed.wantedSpec := by
  rw [LiveDeployment.ofBody_toValue]
  rcases findings.deploymentPlan_cases with
    ⟨_, plan⟩ | ⟨live, present, ⟨_, plan⟩ | ⟨_, plan⟩⟩
  · rw [plan] at sends
    cases sends
    rw [found.wanted]
    exact ⟨⟨rfl, rfl, rfl, isCovered_refl _, isCovered_refl _⟩, rfl⟩
  · rw [plan] at sends
    cases sends
    rw [found.wanted]
    rcases found.deployment live present with ⟨known, kept, shows⟩
    have carries := sound.carries known kept
    exact ⟨⟨shows.name.trans carries.name,
      shows.generateName.trans carries.generateName,
      shows.namespaceName.trans carries.namespaceName, isCovered_layered _ _,
      isCovered_layered _ _⟩, rfl⟩
  · rw [plan] at sends
    cases sends

/-! ## Applying the Deployment -/

theorem Found.recorded?_eq (found : fixed.Found findings before) :
    GenerationRecord.expected? findings.records
      (.ofDeployment findings.wanted) =
      fixed.recorded? before := by
  rw [found.wanted, found.records]
  rfl

/--
A Deployment that was found carries what is wanted, so only its generation can
show an edit.
-/
theorem Found.needsUpdate_eq
    (found : fixed.Found findings before)
    (sound : fixed.Sound timely before)
    {object : Deployment}
    (present : findings.foundDeployment = some object) :
    ∃ live, before.deployment = some live ∧ live.Shows object ∧
      findings.needsUpdate object =
        ((fixed.recorded? before).any fun known => live.generation !=
            known) := by
  rcases found.deployment object present with ⟨live, kept, shows⟩
  have carries := sound.carries live kept
  refine ⟨live, kept, shows, ?_⟩
  rw [Findings.needsUpdate, found.recorded?_eq, found.wanted,
    ObjectMeta.needsUpdate, shows.labels, shows.annotations, carries.labels,
    carries.annotations]
  cases fixed.recorded? before with
  | none => rfl
  | some known => simp [ObjectMeta.isEdited, shows.generation, bne]

/--
What is kept after the Deployment was applied, given what was kept when it was
read.
-/
structure Applied
    (fixed : Circumstances)
    (findings : Findings)
    (read : Upkeep)
    (live : LiveDeployment) : Prop where
  carries : fixed.Carries live
  shows : live.Shows findings.deployment
  kept : findings.deploymentPlan.isWrite = false →
    read.deployment = some live ∧
      ∀ known, fixed.recorded? read = some known → known = live.generation
  written : findings.deploymentPlan.isWrite = true →
    live.spec = fixed.wantedSpec ∧ ¬ fixed.Drifted read

theorem Applied.content
    {live : LiveDeployment}
    (applied : fixed.Applied findings before live)
    (sound : fixed.Sound timely before)
    (held : timely) : live.spec = fixed.wantedSpec := by
  cases writes : findings.deploymentPlan.isWrite with
  | true => exact (applied.written writes).1
  | false =>
      rcases applied.kept writes with ⟨present, unnoticed⟩
      refine Decidable.byContradiction fun differs => ?_
      rcases sound.noticed held live present differs with
        ⟨known, recorded, lower⟩
      rw [unnoticed known recorded] at lower
      exact Int64.lt_irrefl lower

/-- A cycle writes the Deployment only where no drift was hidden from it. -/
theorem Found.not_drifted
    (found : fixed.Found findings before)
    (sound : fixed.Sound timely before)
    (writes : findings.deploymentPlan.isWrite = true)
    (absent : findings.foundDeployment = none → before.deployment = none) :
    ¬ fixed.Drifted before := by
  rintro ⟨live, present, _, unnoticed⟩
  rcases findings.deploymentPlan_cases with
    ⟨none, _⟩ | ⟨object, shown, ⟨needed, _⟩ | ⟨_, plan⟩⟩
  · cases (absent none).symm.trans present
  · rcases found.needsUpdate_eq sound shown with ⟨other, same, _, equal⟩
    cases same.symm.trans present
    have differs := equal.symm.trans needed
    cases recorded : fixed.recorded? before with
    | none =>
        rw [recorded] at differs
        cases differs
    | some known =>
        rw [recorded, unnoticed known recorded] at differs
        simp at differs
  · rw [plan] at writes
    cases writes

/--
What a cycle keeps is what it found, and its record does not show an edit.
-/
theorem Found.kept
    (found : fixed.Found findings before)
    (sound : fixed.Sound timely before)
    (keeps : findings.deploymentPlan.isWrite = false) :
    ∃ live, before.deployment = some live ∧ live.Shows findings.deployment ∧
      ∀ known, fixed.recorded? before = some known →
          known = live.generation := by
  rcases findings.deploymentPlan_cases with
    ⟨_, plan⟩ | ⟨object, shown, ⟨_, plan⟩ | ⟨unneeded, plan⟩⟩
  · rw [plan] at keeps
    cases keeps
  · rw [plan] at keeps
    cases keeps
  · rcases found.needsUpdate_eq sound shown with ⟨live, kept, shows, equal⟩
    have same : findings.deployment = object := by
      rw [Findings.deployment, plan]
      rfl
    refine ⟨live, kept, same ▸ shows, fun known recorded => ?_⟩
    have unedited := equal.symm.trans unneeded
    rw [recorded] at unedited
    exact (bne_eq_false_iff_eq.1 unedited).symm

/-- A cycle that has applied the Deployment leaves it applied, up to edits. -/
theorem applied_of_course
    {reports : List Report}
    {read : Upkeep}
    (course : Course (findings.Explains fixed.settings fixed.templates)
      (if findings.deploymentPlan.isWrite then [.writeDeployment]
        else []) reports none)
    (serves :
      fixed.Serves Edits before (reports.flatMap Report.exchanges) after)
    (within : ∀ before after, Edits before after →
      fixed.Edit timely before after)
    (sound : fixed.Sound timely read)
    (found : fixed.Found findings read)
    (edits : ReflTransGen Edits read before) :
    ∃ live left,
      fixed.Applied findings read live ∧ left.deployment = some live ∧
        fixed.Sound timely left ∧ ReflTransGen Edits left after := by
  cases writes : findings.deploymentPlan.isWrite with
  | false =>
      rw [writes] at course
      cases course
      rcases found.kept sound writes with ⟨live, present, shows, unnoticed⟩
      refine ⟨live, read, ⟨sound.carries live present, shows, fun _ =>
        ⟨present, unnoticed⟩, ?_⟩, present, sound, edits.trans serves.of_nil⟩
      simp [writes]
  | true =>
      rw [writes] at course
      rcases course.of_singleton with ⟨report, rfl, stage, explained, passed⟩
      simp only [Findings.Explains, stage, Findings.namespaceName,
        found.wanted] at explained
      rcases ApplyPlan.sent?_of_isWrite writes with ⟨object, sends⟩
      rw [List.flatMap_singleton] at serves
      rcases served_of_writes sends explained serves with
        ⟨failed, _⟩ | ⟨reached, generation, before, absent, later, shows⟩
      · exact absurd passed failed
      · rcases carries_of_plan sound found sends generation with
          ⟨carries, content⟩
        have deployment : findings.deployment = findings.writtenDeployment :=
          ApplyPlan.outcome_of_isWrite writes
        refine ⟨_, _, ⟨carries, deployment ▸ shows passed, by simp [writes],
            fun _ =>
          ⟨content, found.not_drifted sound writes fun none => ?_⟩⟩, rfl,
          .written carries content, later⟩
        rcases findings.deploymentPlan_cases with ⟨_, plan⟩ | ⟨object, found, _⟩
        · rw [plan] at sends absent
          cases sends
          exact absent_of_edited within (edits.trans before) (absent rfl)
        · cases none.symm.trans found

/--
Whatever becomes of a write of the Deployment, it leaves what is kept sound.
-/
theorem Sound.write
    {read : Upkeep}
    (sound : fixed.Sound timely read)
    (found : fixed.Found findings read)
    (explained : findings.Explains fixed.settings fixed.templates report)
    (stage : report.stage = .writeDeployment)
    (writes : findings.deploymentPlan.isWrite = true)
    (edits : ReflTransGen Edits read before)
    (serves : fixed.Serves Edits before report.exchanges after)
    (within : ∀ before after, Edits before after →
        fixed.Edit timely before after) :
    fixed.Sound timely after := by
  simp only [Findings.Explains, stage, Findings.namespaceName,
    found.wanted] at explained
  rcases ApplyPlan.sent?_of_isWrite writes with ⟨object, sends⟩
  rcases served_of_writes sends explained serves with
    ⟨_, unwritten⟩ | ⟨reached, generation, _, _, later, _⟩
  · exact sound.edited within (edits.trans unwritten)
  · rcases carries_of_plan sound found sends generation with ⟨carries, content⟩
    exact (Sound.written carries content).edited within later

/--
The records of the status after a cycle show every later edit of what was
applied.
-/
theorem Applied.sound_patched
    {read left : Upkeep}
    {live : LiveDeployment}
    (applied : fixed.Applied findings read live)
    (soundRead : fixed.Sound timely read)
    (present : left.deployment = some live)
    (within : ∀ before after, Edits before after →
      fixed.Edit timely before after)
    (edits : ReflTransGen Edits left before)
    (sound : fixed.Sound timely before) :
    fixed.Sound timely
        { before with records := findings.change.after.generations } := by
  refine ⟨sound.carries, fun held later kept differs => ?_⟩
  have key : GenerationKey.ofDeployment findings.deployment =
      .ofDeployment fixed.wanted := by
    simp [GenerationKey.ofDeployment, ObjectMeta.anyName, applied.shows.name,
      applied.shows.generateName, applied.shows.namespaceName,
      applied.carries.name, applied.carries.generateName,
      applied.carries.namespaceName]
  refine ⟨live.generation, ?_, ?_⟩
  · rw [recorded?, ← key]
    exact (expected?_statusAfter_deployment _ _ _ _).trans
      (congrArg (Option.or · _) applied.shows.generation)
  · rcases deployment_of_edited within edits present with ⟨other, same, grown⟩
    cases same.symm.trans kept
    rcases grown with rfl | lower
    · exact absurd (applied.content soundRead held) differs
    · exact lower

theorem idle_of_course
    {due : List Stage}
    {reports : List Report}
    {stop : Option Stop}
    (course : Course (findings.Explains fixed.settings fixed.templates) due
      reports stop)
    (deployment : Stage.writeDeployment ∉ due)
    (status : Stage.writeStatus ∉ due) :
    ∀ exchange ∈ reports.flatMap Report.exchanges, fixed.Idle exchange := by
  intro exchange member
  rcases List.mem_flatMap.1 member with ⟨report, taken, own⟩
  have within : report.stage ∈ due :=
    course.stages_prefix.subset (List.mem_map_of_mem taken)
  exact idle_of_explains (course.explained report taken) (fun same =>
    deployment (same ▸ within)) (fun same => status (same ▸ within))
    exchange own

theorem stages_parts (findings : Findings) :
    ∃ middle,
      findings.stages =
          [.readOperator, .renderDeployment, .listNodes, .readDeployment] ++
            ((if findings.deploymentPlan.isWrite then [.writeDeployment]
              else []) ++
              (middle ++ if findings.change.isWritten then [.writeStatus]
                else [])) ∧
        Stage.writeDeployment ∉ middle ∧ Stage.writeStatus ∉ middle := by
  refine ⟨[.renderRegistration, .readRegistration] ++
    ((if findings.registrationPlan.isWrite then [.writeRegistration] else []) ++
      [.rereadOperator]), by simp [Findings.stages], ?_⟩
  cases findings.registrationPlan.isWrite <;> decide

/--
A cycle ends early and leaves what is kept sound, or it has applied the
Deployment as it was read, and apart from edits only the records changed since.
-/
theorem Sound.history
    {reports : List Report}
    {stop : Option Stop}
    {exchanges : List Exchange}
    {result : Except OperatorError SyncOutcome}
    (sound : fixed.Sound timely before)
    (account : Account fixed.settings fixed.templates findings reports stop
      exchanges result)
    (serves : fixed.Serves Edits before exchanges after)
    (within : ∀ before after, Edits before after →
        fixed.Edit timely before after) :
    (stop ≠ none ∧ fixed.Sound timely after) ∨
      ∃ read live left reached,
        ReflTransGen Edits before read ∧ fixed.Applied findings read live ∧
        left.deployment = some live ∧ ReflTransGen Edits left reached ∧
        fixed.Sound timely reached ∧
        (ReflTransGen Edits reached after ∨
          ∃ patched, ReflTransGen Edits reached patched ∧
            ReflTransGen Edits
              { patched with
                records := findings.change.after.generations } after) := by
  have course := account.course
  rw [account.exchanges_eq] at serves
  rcases stages_parts findings with ⟨middle, stages, noDeployment, noStatus⟩
  rw [stages] at course
  -- The cycle may end before it has read the Deployment.
  rcases course.of_append with
    ⟨early, ended⟩ | ⟨first, others, rfl, passed, course⟩
  · exact .inl ⟨early, sound.edited within
      (serves.of_idle (idle_of_course ended (by decide) (by decide)))⟩
  rw [List.flatMap_append] at serves
  rcases serves.of_append with ⟨reached, serves₁, serves⟩
  rcases found_of_course passed serves₁ within with ⟨read, edits, later, found⟩
  have soundRead := sound.edited within edits
  -- It may end as it writes the Deployment.
  rcases course.of_append with
    ⟨early, ended⟩ | ⟨second, others, rfl, passed, course⟩
  · refine .inl ⟨early, ?_⟩
    cases writes : findings.deploymentPlan.isWrite with
    | false =>
        rw [writes] at ended
        cases ended
        exact absurd rfl early
    | true =>
        rw [writes] at ended
        rcases ended.of_singleton with ⟨report, rfl, stage, explained, _⟩
        rw [List.flatMap_singleton] at serves
        exact soundRead.write found explained stage writes later serves within
  rw [List.flatMap_append] at serves
  rcases serves.of_append with ⟨reached, serves₂, serves⟩
  rcases applied_of_course passed serves₂ within soundRead found later with
    ⟨live, left, applied, present, soundLeft, since⟩
  -- It may end before it writes the status.
  rcases course.of_append with
    ⟨early, ended⟩ | ⟨third, others, rfl, passed, course⟩
  · exact .inl ⟨early, soundLeft.edited within
      (since.trans
        (serves.of_idle (idle_of_course ended noDeployment noStatus)))⟩
  rw [List.flatMap_append] at serves
  rcases serves.of_append with ⟨reached, serves₃, serves⟩
  have since :=
    since.trans (serves₃.of_idle (idle_of_course passed noDeployment noStatus))
  refine .inr ⟨read, live, left, reached, edits, applied, present, since,
    soundLeft.edited within since, ?_⟩
  cases writes : findings.change.isWritten with
  | false =>
      rw [writes] at course
      cases course
      exact .inl serves.of_nil
  | true =>
      rw [writes] at course
      rcases course.of_singleton with ⟨report, rfl, stage, explained, _⟩
      simp only [Findings.Explains, stage] at explained
      rw [List.flatMap_singleton] at serves
      exact served_of_persists explained serves

theorem Sound.cycle
    {reports : List Report}
    {stop : Option Stop}
    {exchanges : List Exchange}
    {result : Except OperatorError SyncOutcome}
    (sound : fixed.Sound timely before)
    (account : Account fixed.settings fixed.templates findings reports stop
      exchanges result)
    (serves : fixed.Serves Edits before exchanges after)
    (within : ∀ before after, Edits before after →
        fixed.Edit timely before after) :
    fixed.Sound timely after := by
  rcases sound.history account serves within with
    ⟨_, ended⟩ | ⟨read, live, left, reached, edits, applied, present, since,
      soundReached, last⟩
  · exact ended
  · rcases last with unwritten | ⟨patched, earlier, later⟩
    · exact soundReached.edited within unwritten
    · exact (applied.sound_patched (sound.edited within edits) present within
        (since.trans earlier) (soundReached.edited within earlier)).edited
          within later

/-- Every run leaves what is kept sound. -/
theorem Reachable.sound (reached : fixed.Reachable timely before) :
    fixed.Sound timely before := by
  induction reached with
  | start records => exact ⟨nofun, fun _ => nofun⟩
  | cycle reached trace serves ih =>
      rcases trace.account with ⟨findings, reports, stop, account⟩
      exact ih.cycle account serves fun _ _ edit => edit
  | edit reached edited ih => exact ih.edit edited

theorem eq_of_no_edits
    {left right : Upkeep}
    (edits : ReflTransGen (fun _ _ => False) left right) : right = left := by
  induction edits with
  | refl => rfl
  | tail _ edit _ => exact edit.elim

/--
A cycle that has synchronized, and during which there was no edit, leaves the
wanted specification behind exactly when the one it started from had not
drifted.
-/
theorem Sound.content_iff
    {exchanges : List Exchange}
    {reports : List Report}
    {stop : Option Stop}
    {deploymentChanged registrationChanged : Bool}
    (sound : fixed.Sound False before)
    (account : Account fixed.settings fixed.templates findings reports stop
      exchanges (.ok (.synced deploymentChanged registrationChanged)))
    (serves : fixed.Serves (fun _ _ => False) before exchanges after) :
    (∃ live ∈ after.deployment, live.spec = fixed.wantedSpec) ↔
        ¬ fixed.Drifted before := by
  rcases sound.history account serves fun _ _ none => none.elim with
    ⟨early, _⟩ | ⟨read, live, left, reached, edits, applied, present, since,
      _, last⟩
  · exact absurd (account.stop_eq_none rfl) early
  rcases eq_of_no_edits edits with rfl
  rcases eq_of_no_edits since with rfl
  have deployment : after.deployment = some live := by
    rcases last with unwritten | ⟨patched, earlier, later⟩
    · rw [eq_of_no_edits unwritten, present]
    · rw [eq_of_no_edits later, eq_of_no_edits earlier, present]
  cases writes : findings.deploymentPlan.isWrite with
  | true =>
      rcases applied.written writes with ⟨content, settled⟩
      exact iff_of_true ⟨live, deployment, content⟩ settled
  | false =>
      rcases applied.kept writes with ⟨kept, unnoticed⟩
      constructor
      · rintro ⟨other, same, content⟩ ⟨another, found, differs, _⟩
        cases same.symm.trans deployment
        cases found.symm.trans kept
        exact differs content
      · intro settled
        refine ⟨live, deployment, Decidable.byContradiction fun differs => ?_⟩
        exact settled ⟨live, kept, differs, unnoticed⟩

end Circumstances

/--
A cycle that has synchronized at some point of any run, and during which there
was no edit, leaves the specification behind that it has rendered and sized,
unless the live one had drifted: it was another one, and either no generation
was recorded for it or just the live one.  Where every edit of the run was made
while a generation was recorded that was not above the live one, the
specification is always the wanted one.
-/
theorem sync_restores_iff_not_drifted
    {fixed : Circumstances}
    {before after : Upkeep}
    {exchanges : List Exchange}
    {deploymentChanged registrationChanged : Bool}
    (reached : fixed.Reachable False before)
    (trace : (Step.sync fixed.settings fixed.templates).Traces exchanges
      (.ok (.synced deploymentChanged registrationChanged)))
    (serves : fixed.Serves (fun _ _ => False) before exchanges after) :
    ((∃ live ∈ after.deployment, live.spec = fixed.wantedSpec) ↔
      ¬ fixed.Drifted before) ∧
      (fixed.Reachable True before →
        ∃ live ∈ after.deployment, live.spec = fixed.wantedSpec) := by
  rcases trace.account with ⟨findings, reports, stop, account⟩
  have content := reached.sound.content_iff account serves
  exact ⟨content, fun timely => content.2 timely.sound.not_drifted⟩

/-! A Deployment that is scaled by hand. -/

def bareCircumstances : Circumstances where
  settings := { image := "i", operatorName := "o" }
  templates := bareTemplates
  spec := {}
  nodes := []
  rendered := bareFindings.rendered
  renders := by decide +kernel

/-- A server that keeps the operator resource and these objects. -/
def bareServer
    (status : Option OperatorStatus)
    (objects : Members)
    (prepared : List PreparedAnswer) : Server where
  store := ((("/apis/operator.openshift.io/v1/csisnapshotcontrollers/o",
    { bareFindings.operator with status }.toValue) :: objects).foldl
      (fun store (path, object) => store.write path object) {})
  prepared
  clock := ⟨0⟩

def bareObjects (deployment : Deployment) : Members := [
  ("/apis/apps/v1/namespaces/n/deployments/d", deployment.toValue),
  ("/apis/admissionregistration.k8s.io/v1/validatingwebhookconfigurations/w",
    bareFindings.registration.toValue)]

/--
A server without objects that cannot be reached once the status is to be
written.
-/
def emptyServer : Server := bareServer none [] [
  { method := .patch
    path := "/apis/operator.openshift.io/v1/csisnapshotcontrollers/o/status"
    answer := .unreachable "down"
    uses := some 1 }]

/-- A server that keeps what a cycle has created, without a record of it. -/
def createdServer : Server :=
  bareServer none (bareObjects bareFindings.deployment) []

/-- The Deployment after somebody has asked for five replicas. -/
def scaledDeployment : Deployment :=
  { bareFindings.deployment with
    metadata.generation := some 2
    spec := some { replicas := some 5 } }

/-- The Deployment was scaled before it was recorded. -/
def unrecordedServer : Server :=
  bareServer none (bareObjects scaledDeployment) []

/-- The Deployment was scaled after it was recorded. -/
def recordedServer : Server :=
  bareServer bareFindings.change.after (bareObjects scaledDeployment) []

def Server.afterSync (server : Server) : Server :=
  (server.run (bareSync.start {})).2

section BareServers

variable {server : Server} {timely : Prop}

theorem serves_of_attends
    {Edits : Upkeep → Upkeep → Prop}
    (attends : bareCircumstances.Attends (bareSync.start {}) server) :
    bareCircumstances.Serves Edits (bareCircumstances.kept server.store)
      (bareSync.exchanges Server.host server {})
      (bareCircumstances.kept server.afterSync.store) :=
  attends.serves

theorem reachable_afterSync
    (reached : bareCircumstances.Reachable timely
      (bareCircumstances.kept server.store))
    (attends : bareCircumstances.Attends (bareSync.start {}) server) :
    bareCircumstances.Reachable timely
        (bareCircumstances.kept server.afterSync.store) :=
  .cycle reached (Step.traces_run Server.host server {} bareSync)
    (serves_of_attends attends)

theorem traces_of_outcome
    {outcome : Except OperatorError SyncOutcome}
    (ended : bareSync.outcome Server.host server {} = outcome) :
    (Step.sync bareCircumstances.settings bareCircumstances.templates).Traces
      (bareSync.exchanges Server.host server {}) outcome :=
  ended ▸ Step.traces_run Server.host server {} bareSync

end BareServers

/--
A cycle creates the Deployment and cannot write the status.  The Deployment is
then scaled, or another cycle records it and it is scaled after that; one more
cycle synchronizes in either case.
-/
theorem bareServers_attend :
    bareCircumstances.kept emptyServer.store = {} ∧
      bareCircumstances.Attends (bareSync.start {}) emptyServer ∧
      bareCircumstances.kept emptyServer.afterSync.store =
        bareCircumstances.kept createdServer.store ∧
      (bareCircumstances.Edit False (bareCircumstances.kept createdServer.store)
          (bareCircumstances.kept unrecordedServer.store) ∧
        bareCircumstances.Attends (bareSync.start {}) unrecordedServer ∧
        bareSync.outcome Server.host unrecordedServer {} =
          .ok (.synced false false) ∧
        ∀ live ∈
          (bareCircumstances.kept unrecordedServer.afterSync.store).deployment,
          live.spec ≠ bareCircumstances.wantedSpec) ∧
      bareCircumstances.Attends (bareSync.start {}) createdServer ∧
      bareCircumstances.Edit True
        (bareCircumstances.kept createdServer.afterSync.store)
        (bareCircumstances.kept recordedServer.store) ∧
      bareCircumstances.Attends (bareSync.start {}) recordedServer ∧
      bareSync.outcome Server.host recordedServer {} =
          .ok (.synced true false) := by
  decide +kernel

theorem createdServer_reachable (timely : Prop) :
    bareCircumstances.Reachable timely
        (bareCircumstances.kept createdServer.store) := by
  rcases bareServers_attend with ⟨empty, created, same, _⟩
  rw [← same]
  refine reachable_afterSync ?_ created
  rw [empty]
  exact .start []

/-- A Deployment that was scaled after it was recorded is restored. -/
theorem sync_restores_recorded :
    bareCircumstances.Reachable True
      (bareCircumstances.kept recordedServer.store) ∧
      bareSync.outcome Server.host recordedServer {} =
        .ok (.synced true false) ∧
      ∃ live ∈
        (bareCircumstances.kept recordedServer.afterSync.store).deployment,
        live.spec = bareCircumstances.wantedSpec := by
  rcases bareServers_attend with
    ⟨_, _, _, _, recorded, edited, restored, synced⟩
  have reached :=
    (reachable_afterSync (createdServer_reachable True) recorded).edit edited
  have content := sync_restores_iff_not_drifted (reached.mono False.elim)
    (traces_of_outcome synced) (serves_of_attends restored)
  exact ⟨reached, synced, content.2 reached⟩

/-- A Deployment that was scaled before it was recorded is kept as it is. -/
theorem sync_keeps_unrecorded :
    bareCircumstances.Reachable False
      (bareCircumstances.kept unrecordedServer.store) ∧
      bareSync.outcome Server.host unrecordedServer {} =
        .ok (.synced false false) ∧
      bareCircumstances.Serves (fun _ _ => False)
        (bareCircumstances.kept unrecordedServer.store)
        (bareSync.exchanges Server.host unrecordedServer {})
        (bareCircumstances.kept unrecordedServer.afterSync.store) ∧
      ¬ ∃ live ∈
        (bareCircumstances.kept unrecordedServer.afterSync.store).deployment,
        live.spec = bareCircumstances.wantedSpec := by
  rcases bareServers_attend with
    ⟨_, _, _, ⟨edited, attends, synced, differs⟩, _⟩
  refine ⟨(createdServer_reachable False).edit edited, synced,
    serves_of_attends attends, ?_⟩
  rintro ⟨live, present, same⟩
  exact differs live present same

end HookKeeper
