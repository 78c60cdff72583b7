import HookKeeper.Proofs.Quiescence
import Mathlib.Data.List.Forall2

/-!
# Cycles do not depend on events

The recorder publishes what was done to an object and remembers it from one
cycle to the next, but nothing that comes back for an event reaches the rest of
a cycle.  Two programs are similar if they send alike requests about objects in
lockstep, each of them talking about events and reading the clock on its own in
between.  A cycle is similar to itself, whatever the two recorders remember, so
cycles one after another send alike requests and have the same results against
servers that differ in their answers to events.  Alike means: up to the times of
transitions, which the clock decides.
-/

namespace HookKeeper

open HookKeeper.Json
open HookKeeper.Manifest

/-! ## Alike up to time -/

/--
A condition with nothing but whether a time of its last transition is known.
-/
def OperatorCondition.untimed (condition : OperatorCondition) :
    OperatorCondition :=
  { condition with
    lastTransitionTime := condition.lastTransitionTime.map fun _ => "" }

def OperatorStatus.untimed (status : OperatorStatus) : OperatorStatus :=
  { status with conditions := status.conditions.map OperatorCondition.untimed }

def OperatorResource.untimed (operator : OperatorResource) : OperatorResource :=
  { operator with status := operator.status.map OperatorStatus.untimed }

namespace OperatorCondition

theorem untimed_setIn
    (condition : OperatorCondition)
    (now : String)
    (conditions : List OperatorCondition) :
    (condition.setIn now conditions).map untimed =
      condition.setIn "" (conditions.map untimed) := by
  induction conditions with
  | nil => rfl
  | cons old rest ih =>
      rw [setIn, List.map_cons, setIn]
      by_cases own : old.type = condition.type
      · have same : old.untimed.type = condition.type := own
        rw [if_pos own, if_pos same, List.map_cons]
        congr 1
        by_cases moved : old.status ≠ condition.status ∨
          old.lastTransitionTime = none
        · simp [untimed, replacing, moved]
        · rcases not_or.1 moved with ⟨kept, timed⟩
          simp [untimed, replacing, kept, timed]
      · have other : ¬ old.untimed.type = condition.type := own
        rw [if_neg own, if_neg other, List.map_cons, ih]

/-- Whether a condition is set among others does not depend on their times. -/
theorem IsSet.of_untimed
    {condition : OperatorCondition}
    {conditions : List OperatorCondition}
    (set : condition.IsSet (conditions.map untimed)) :
    condition.IsSet conditions := by
  intro now
  induction conditions with
  | nil => exact absurd (set now) (by simp [OperatorCondition.setIn])
  | cons old rest ih =>
      rw [OperatorCondition.setIn]
      by_cases own : old.type = condition.type
      · have same : old.untimed.type = condition.type := own
        -- Had the time to move, it would have moved to another one than the
        -- empty text.
        have kept := set "moved"
        rw [List.map_cons, OperatorCondition.setIn, if_pos same] at kept
        have unchanged := (List.cons.inj kept).1
        rcases old with ⟨type, status, time, reason, message⟩
        rcases condition with ⟨type', status', time', reason', message'⟩
        cases time <;> by_cases moved : status = status' <;>
          simp_all [replacing, untimed]
      · have other : ¬ old.untimed.type = condition.type := own
        rw [if_neg own, ih]
        intro moment
        have whole := set moment
        rw [List.map_cons, OperatorCondition.setIn, if_neg other] at whole
        exact (List.cons.inj whole).2

end OperatorCondition

theorem OperatorStatus.untimed_statusAfter
    (deployment : Deployment)
    (registration : Registration)
    (now : String)
    (status : OperatorStatus) :
    (statusAfter deployment registration now status).untimed =
      statusAfter deployment registration "" status.untimed := by
  simp only [statusAfter, untimed, setCondition, recordDeployment,
    recordRegistration, OperatorCondition.untimed_setIn]

/--
Whether a report changes a status depends neither on the clock nor on the times
in it.
-/
theorem OperatorStatus.statusAfter_eq_iff
    {deployment : Deployment}
    {registration : Registration}
    {now : String}
    {status : OperatorStatus} :
    statusAfter deployment registration now status = status ↔
      statusAfter deployment registration "" status.untimed =
          status.untimed := by
  constructor
  · intro unchanged
    rw [← untimed_statusAfter deployment registration now, unchanged]
  · intro unchanged
    have reports :=
      reports_statusAfter deployment registration "" status.untimed
    rw [unchanged] at reports
    have settled : status.Reports deployment registration :=
      ⟨reports.available.of_untimed, reports.progressing.of_untimed,
        reports.degraded.of_untimed, reports.deployment, reports.registration⟩
    exact settled.statusAfter_eq now

/-! ## Requests and answers that are alike -/

/--
Requests are alike if they are equal, or patch one version to statuses with
other times.
-/
inductive Request.Alike : Request → Request → Prop where
  | same (request : Request) : Alike request request
  | patches
      (address : Address)
      (operator other : OperatorResource)
      (status another : OperatorStatus)
      (version : operator.metadata.resourceVersion =
        other.metadata.resourceVersion)
      (statuses : status.untimed = another.untimed) :
      Alike ⟨.patch, address, some (operator.statusPatch status)⟩
        ⟨.patch, address, some (other.statusPatch another)⟩

/--
Answers to a request are alike if they are equal, or carry the operator
resource with other times.
-/
inductive Answer.Alike (request : Request) : Answer → Answer → Prop where
  | same (answer : Answer) : Alike request answer answer
  | operators
      (about : request.IsAboutOperator)
      (answer reply : Answer)
      (operator other : OperatorResource)
      (found : answer.decode OperatorResource.ofDatum? = .ok operator)
      (another : reply.decode OperatorResource.ofDatum? = .ok other)
      (alike : operator.untimed = other.untimed) :
      Alike request answer reply

/-- Two ends are the same failure, or values that are related. -/
inductive SameEnd
    {ε : Type}
    (Related : α → β → Prop) : Except ε α → Except ε β → Prop where
  | ok
      {value : α}
      {other : β}
      (related : Related value other) :
      SameEnd Related (.ok value) (.ok other)
  | error (failure : ε) : SameEnd Related (.error failure) (.error failure)

theorem SameEnd.refl
    {ε : Type}
    {Related : α → α → Prop}
    (related : ∀ value, Related value value)
    (ended : Except ε α) : SameEnd Related ended ended := by
  cases ended with
  | ok value => exact .ok (related value)
  | error failure => exact .error failure

theorem SameEnd.eq
    {ε : Type}
    {first second : Except ε α}
    (same : SameEnd (· = ·) first second) : first = second := by
  cases same with
  | ok related => rw [related]
  | error failure => rfl

/-! ## Similar programs -/

/--
Two programs send alike requests about objects in lockstep and go on alike
after alike answers; each of them sends requests about events and reads the
clock on its own.  Their results are related.
-/
inductive Similar (Related : α → β → Prop) : Program α → Program β → Prop where
  | done
      {result : α}
      {other : β}
      (related : Related result other) :
      Similar Related (.done result) (.done other)
  | leftEvent
      {request : Request}
      {next : Answer → Program α}
      {other : Program β}
      (rest : ∀ answer, Similar Related (next answer) other) :
      Similar Related (.ask .events request next) other
  | rightEvent
      {program : Program α}
      {request : Request}
      {next : Answer → Program β}
      (rest : ∀ answer, Similar Related program (next answer)) :
      Similar Related program (.ask .events request next)
  | leftClock
      {next : Moment → Program α}
      {other : Program β}
      (rest : ∀ moment, Similar Related (next moment) other) :
      Similar Related (.now next) other
  | rightClock
      {program : Program α}
      {next : Moment → Program β}
      (rest : ∀ moment, Similar Related program (next moment)) :
      Similar Related program (.now next)
  | objects
      {request another : Request}
      {next : Answer → Program α}
      {follow : Answer → Program β}
      (alike : request.Alike another)
      (rest : ∀ answer reply, Answer.Alike request answer reply →
        Similar Related (next answer) (follow reply)) :
      Similar Related (.ask .objects request next)
        (.ask .objects another follow)

/--
Programs in a row are similar if the first ones are and similar ones follow.
-/
theorem Similar.bind
    {Related : α → β → Prop}
    {Final : γ → δ → Prop}
    {program : Program α}
    {other : Program β}
    (similar : Similar Related program other)
    {follow : α → Program γ}
    {next : β → Program δ}
    (rest : ∀ result final, Related result final →
        Similar Final (follow result) (next final)) :
    Similar Final (program.bind follow) (other.bind next) := by
  induction similar with
  | done related => exact rest _ _ related
  | leftEvent _ ih => exact .leftEvent ih
  | rightEvent _ ih => exact .rightEvent ih
  | leftClock _ ih => exact .leftClock ih
  | rightClock _ ih => exact .rightClock ih
  | objects alike _ ih => exact .objects alike ih

/--
Publishing is similar to publishing anything else, whatever is remembered.
-/
theorem similar_publish
    (recorder another : Recorder)
    (notice told : Notice)
    (regarding about : ObjectReference) :
    Similar (fun _ _ => True) (recorder.publish notice regarding)
        (another.publish told about) := by
  have left (recorder : Recorder) (notice : Notice)
      (regarding : ObjectReference) (final : Recorder) :
      Similar (fun _ _ => True) (recorder.publish notice regarding)
          (.done final) := by
    refine .leftClock fun moment => ?_
    dsimp only
    split
    · exact .done trivial
    · refine .leftEvent fun answer => ?_
      split <;> exact .done trivial
  refine .rightClock fun moment => ?_
  dsimp only
  split
  · exact left recorder notice regarding another
  · refine .rightEvent fun answer => ?_
    split <;> exact left recorder notice regarding _

/-! ## Similar requests -/

theorem similar_send
    {request : Except RequestFault Request}
    (read : Datum → Option α)
    (foreign : ∀ sent, request = .ok sent → ¬ sent.IsAboutOperator) :
    Similar (SameEnd (· = ·)) (Client.send request read)
        (Client.send request read) := by
  cases request with
  | error fault => exact .done (.error _)
  | ok sent =>
      refine .objects (.same sent) fun answer reply alike => ?_
      cases alike with
      | same => exact .done (.refl Eq.refl _)
      | operators about => exact absurd about (foreign sent rfl)

theorem similar_send_operator
    {request another : Except RequestFault Request}
    (alike : SameEnd Request.Alike request another) :
    Similar (SameEnd fun operator other => operator.untimed = other.untimed)
      (Client.send request OperatorResource.ofDatum?)
      (Client.send another OperatorResource.ofDatum?) := by
  cases alike with
  | error fault => exact .done (.error _)
  | ok alike =>
      refine .objects alike fun answer reply answers => ?_
      cases answers with
      | same => exact .done (.refl (fun operator => Eq.refl operator.untimed) _)
      | operators about _ _ operator other found another same =>
          rw [found, another]
          exact .done (.ok same)

theorem similar_findOperator (name : String) :
    Similar
      (SameEnd fun found other =>
        found.map OperatorResource.untimed = other.map OperatorResource.untimed)
      (Client.find? OperatorResource "" name)
          (Client.find? OperatorResource "" name) := by
  refine (similar_send_operator (.refl Request.Alike.same _)).bind
    fun found other same => .done ?_
  cases same with
  | ok alike => exact .ok (congrArg some alike)
  | error failure =>
      exact .refl (fun found => Eq.refl (found.map OperatorResource.untimed)) _

theorem alike_patchStatus
    (collection name : String)
    {operator other : OperatorResource}
    {status another : OperatorStatus}
    (version : operator.metadata.resourceVersion =
      other.metadata.resourceVersion)
    (statuses : status.untimed = another.untimed) :
    SameEnd Request.Alike
      (Request.patchStatus collection name (operator.statusPatch status))
      (Request.patchStatus collection name (other.statusPatch another)) := by
  unfold Request.patchStatus
  cases Request.target collection name with
  | error fault => exact .error fault
  | ok target =>
      show SameEnd _ (Address.ofTarget _ _ >>= _) (Address.ofTarget _ _ >>= _)
      cases Address.ofTarget (target ++ "/status") (some []) with
      | error fault => exact .error fault
      | ok address =>
          exact .ok
            (.patches address operator other status another version statuses)

theorem similar_writeStatus
    (name : String)
    {operator other : OperatorResource}
    (alike : operator.untimed = other.untimed)
    (deployment : Deployment)
    (registration : Registration)
    (now later : String) :
    Similar (SameEnd fun _ _ => True)
      (writeStatus name operator
        (operator.statusChange (statusAfter deployment registration now)))
      (writeStatus name other
        (other.statusChange (statusAfter deployment registration later))) := by
  have version : operator.metadata.resourceVersion =
      other.metadata.resourceVersion :=
    congrArg (fun resource => resource.metadata.resourceVersion) alike
  have before : (operator.status.getD {}).untimed =
      (other.status.getD {}).untimed := by
    have same : operator.status.map OperatorStatus.untimed =
        other.status.map OperatorStatus.untimed :=
          congrArg OperatorResource.status alike
    cases first : operator.status <;> cases second : other.status <;>
      simp_all
  have after :
      (statusAfter deployment registration now
        (operator.status.getD {})).untimed =
        (statusAfter deployment registration later
            (other.status.getD {})).untimed := by
    rw [OperatorStatus.untimed_statusAfter, OperatorStatus.untimed_statusAfter,
      before]
  have written :
      (operator.statusChange
        (statusAfter deployment registration now)).isWritten =
        (other.statusChange
            (statusAfter deployment registration later)).isWritten := by
    rw [Bool.eq_iff_iff, StatusChange.isWritten, StatusChange.isWritten,
      bne_iff_ne, bne_iff_ne]
    simp only [OperatorResource.statusChange]
    rw [ne_eq, ne_eq, OperatorStatus.statusAfter_eq_iff, before,
      ← OperatorStatus.statusAfter_eq_iff]
  unfold writeStatus
  rw [written]
  split
  · refine (similar_send_operator (alike_patchStatus _ name version after)).bind
      fun stored another same => ?_
    cases same with
    | ok => exact .done (.ok trivial)
    | error cause => exact .done (.error _)
  · exact .done (.ok trivial)

theorem similar_updateStatus
    (name : String)
    (deployment : Deployment)
    (registration : Registration) :
    Similar (SameEnd fun _ _ => True)
      (updateStatus name (statusAfter deployment registration))
      (updateStatus name (statusAfter deployment registration)) := by
  refine (similar_findOperator name).bind fun found other same => ?_
  cases same with
  | error failure => exact .done (.error _)
  | @ok found other same =>
      cases found with
      | none =>
          cases other with
          | none => exact .done (.error _)
          | some => cases same
      | some operator =>
          cases other with
          | none => cases same
          | some other =>
              have alike : operator.untimed = other.untimed :=
                Option.some.inj same
              refine .leftClock fun moment => .rightClock fun later => ?_
              exact similar_writeStatus name alike deployment registration _ _

/-! ## Similar steps -/

/-- Two steps are similar whatever the recorders remember. -/
def Step.Alike
    (Related : α → β → Prop)
    (step : Step α)
    (other : Step β) : Prop :=
  ∀ recorder another,
    Similar (fun ended final => SameEnd Related ended.1 final.1)
      (step.start recorder) (other.start another)

namespace Step.Alike

theorem pure
    {Related : α → β → Prop}
    {value : α}
    {other : β}
    (related : Related value other) :
    Alike Related (pure value : Step α) (pure other : Step β) :=
  fun _ _ => .done (.ok related)

theorem throw
    {Related : α → β → Prop}
    (failure : OperatorError) :
    Alike Related (throw failure : Step α) (throw failure : Step β) :=
  fun _ _ => .done (.error failure)

theorem bind
    {Related : α → β → Prop}
    {Final : γ → δ → Prop}
    {step : Step α}
    {other : Step β}
    (alike : Alike Related step other)
    {follow : α → Step γ}
    {next : β → Step δ}
    (rest : ∀ value final, Related value final →
        Alike Final (follow value) (next final)) :
    Alike Final (step >>= follow) (other >>= next) := by
  intro recorder another
  rw [start_bind, start_bind]
  refine (alike recorder another).bind ?_
  rintro ⟨result, kept⟩ ⟨final, left⟩ same
  cases same with
  | ok related => exact rest _ _ related kept left
  | error failure => exact .done (.error failure)

theorem ofProgram
    {Related : α → β → Prop}
    {program : Program (Except OperatorError α)}
    {other : Program (Except OperatorError β)}
    (similar : Similar (SameEnd Related) program other) :
    Alike Related (ofProgram program) (ofProgram other) :=
  fun _ _ => similar.bind fun _ _ same => .done same

theorem ofExcept (result : Except OperatorError α) :
    Alike (· = ·) (ofExcept result) (ofExcept result) :=
  fun _ _ => .done (.refl Eq.refl result)

theorem request
    {Related : α → β → Prop}
    (wrap : ApiError → OperatorError)
    {program : Program (Except ApiError α)}
    {other : Program (Except ApiError β)}
    (similar : Similar (SameEnd Related) program other) :
    Alike Related (request wrap program) (request wrap other) := by
  refine ofProgram (similar.bind fun outcome final same => .done ?_)
  cases same with
  | ok related => exact .ok related
  | error cause => exact .error (wrap cause)

theorem publish
    [ClusterObject α]
    [ClusterObject β]
    (object : α)
    (other : β)
    (notice told : Notice) :
    Alike (fun _ _ => True) (publish object notice) (publish other told) :=
  fun recorder another =>
    (similar_publish recorder another notice told _ _).bind fun _ _ _ =>
      .done (.ok trivial)

end Step.Alike

/-! ## Applying an object -/

section Apply

variable {α : Type} [ClusterObject α] {namespaceName : String}

theorem similar_find?
    (foreign : Request.IsForeign (ClusterObject.collection α namespaceName))
    (name : String) :
    Similar (SameEnd (· = ·)) (Client.find? α namespaceName name)
      (Client.find? α namespaceName name) := by
  refine (similar_send _ fun sent built =>
      foreign.not_isAboutOperator fun start begins plain =>
    Request.read_begins built begins plain).bind fun found other same => ?_
  rw [same.eq]
  exact .done (.refl Eq.refl _)

theorem alike_commit
    (write : Write)
    (name : String)
    (object : α)
    {request : Except RequestFault Request}
    (foreign : ∀ sent, request = .ok sent → ¬ sent.IsAboutOperator) :
    Step.Alike (· = ·)
      (Step.commit write name object
        (Client.send request ClusterObject.ofDatum?))
      (Step.commit write name object
          (Client.send request ClusterObject.ofDatum?)) := by
  have attempted :
      Step.Alike (· = ·)
        (Step.attempt (Client.send request
          (ClusterObject.ofDatum? : Datum → Option α)))
        (Step.attempt (Client.send request
          (ClusterObject.ofDatum? : Datum → Option α))) := by
    refine .ofProgram
      ((similar_send _ foreign).bind fun outcome final same => .done ?_)
    exact .ok same.eq
  refine attempted.bind ?_
  rintro outcome _ rfl
  cases outcome with
  | ok live => exact (Step.Alike.publish _ _ _ _).bind fun _ _ _ => .pure rfl
  | error cause => exact (Step.Alike.publish _ _ _ _).bind fun _ _ _ => .throw _

theorem alike_apply
    (foreign : Request.IsForeign (ClusterObject.collection α namespaceName))
    (merge : α → α → α)
    (wanted : α)
    (recorded : Option Int64) :
    Step.Alike (· = ·) (Step.apply namespaceName merge wanted recorded)
      (Step.apply namespaceName merge wanted recorded) := by
  refine (Step.Alike.request _ (similar_find? foreign _)).bind ?_
  rintro live _ rfl
  cases ApplyPlan.of merge wanted recorded live with
  | create object =>
      exact alike_commit _ _ _ fun sent built => foreign.not_isAboutOperator
        fun start begins plain => Request.create_begins built begins plain
  | keep object => exact .pure rfl
  | replace object =>
      exact alike_commit _ _ _ fun sent built => foreign.not_isAboutOperator
        fun start begins plain => Request.replace_begins built begins plain

end Apply

/-! ## Cycles -/

theorem alike_syncManaged
    (settings : Settings)
    (templates : Templates)
    {operator other : OperatorResource}
    (alike : operator.untimed = other.untimed) :
    Step.Alike (· = ·) (Step.syncManaged settings templates operator)
      (Step.syncManaged settings templates other) := by
  have spec : operator.untimed.spec = other.untimed.spec :=
    congrArg OperatorResource.spec alike
  simp only [OperatorResource.untimed] at spec
  have records : (operator.status.getD {}).generations =
      (other.status.getD {}).generations := by
    have same := congrArg
      (fun resource : OperatorResource => (resource.status.getD {}).generations)
        alike
    cases first : operator.status <;> cases second : other.status <;>
      simp_all [OperatorResource.untimed, OperatorStatus.untimed]
  have sized : Step.Alike (· = ·)
      (Step.sizedDeployment settings templates operator)
      (Step.sizedDeployment settings templates other) := by
    unfold Step.sizedDeployment
    rw [spec]
    refine (Step.Alike.ofExcept _).bind ?_
    rintro deployment _ rfl
    have listed : Step.Alike (· = ·)
        (Step.request .cluster (listNodes deployment.nodeSelector))
        (Step.request .cluster (listNodes deployment.nodeSelector)) :=
      .request _ (similar_send _ fun sent built =>
        (Request.isForeign_nodes "").not_isAboutOperator
            fun start begins plain =>
          Request.list_begins built begins plain)
    refine listed.bind ?_
    rintro nodes _ rfl
    exact .pure rfl
  unfold Step.syncManaged
  rw [records]
  refine sized.bind ?_
  rintro wanted _ rfl
  refine (alike_apply (Request.isForeign_deployments _) _ _ _).bind ?_
  rintro deployment _ rfl
  refine (Step.Alike.ofExcept _).bind ?_
  rintro hooks _ rfl
  refine (alike_apply (Request.isForeign_registrations _) _ _ _).bind ?_
  rintro registration _ rfl
  exact (Step.Alike.ofProgram (similar_updateStatus _ _ _)).bind fun _ _ _ =>
    .pure rfl

theorem alike_sync
    (settings : Settings)
    (templates : Templates) :
    Step.Alike (· = ·) (Step.sync settings templates)
        (Step.sync settings templates) := by
  refine (Step.Alike.request _ (similar_findOperator _)).bind
    fun found other same => ?_
  cases found with
  | none =>
      cases other with
      | none => exact .pure rfl
      | some => cases same
  | some operator =>
      cases other with
      | none => cases same
      | some other =>
          have alike : operator.untimed = other.untimed := Option.some.inj same
          have state : operator.untimed.spec.managementState =
              other.untimed.spec.managementState :=
            congrArg (fun resource => resource.spec.managementState) alike
          simp only [OperatorResource.untimed] at state
          simp only [state]
          split
          · exact alike_syncManaged settings templates alike
          · exact .pure rfl

/--
Cycles one after another, each with what the recorder remembers of those before
it.
-/
def cycles
    (settings : Settings)
    (templates : Templates) :
    Nat → Recorder → Program (List (Except OperatorError SyncOutcome))
  | 0, _ => .done []
  | count + 1, recorder =>
      ((Step.sync settings templates).start recorder).bind fun ended =>
        (cycles settings templates count ended.2).bind fun others =>
          .done (ended.1 :: others)

theorem similar_cycles
    (settings : Settings)
    (templates : Templates)
    (count : Nat)
    (recorder another : Recorder) :
    Similar (· = ·) (cycles settings templates count recorder)
      (cycles settings templates count another) := by
  induction count generalizing recorder another with
  | zero => exact .done rfl
  | succ count ih =>
      refine (alike_sync settings templates recorder another).bind ?_
      rintro ⟨result, kept⟩ ⟨final, left⟩ same
      refine (ih kept left).bind ?_
      rintro others _ rfl
      exact .done (by rw [same.eq])

/-! ## Servers that answer alike -/

/--
Requests about objects are answered by a function of them and of the earlier
ones.
-/
inductive Follows (respond : List Request → Request → Answer) :
    List Request → List Exchange → Prop where
  | nil (earlier : List Request) : Follows respond earlier []
  | events
      {earlier : List Request}
      {request : Request}
      {answer : Answer}
      {exchanges : List Exchange}
      (rest : Follows respond earlier exchanges) :
      Follows respond earlier (⟨.events, request, answer⟩ :: exchanges)
  | objects
      {earlier : List Request}
      {request : Request}
      {exchanges : List Exchange}
      (rest : Follows respond (earlier ++ [request]) exchanges) :
      Follows respond earlier
        (⟨.objects, request, respond earlier request⟩ :: exchanges)

/-- Two functions answer alike requests after alike ones alike. -/
def RespondAlike (respond reply : List Request → Request → Answer) : Prop :=
  ∀ earlier others request another,
    List.Forall₂ Request.Alike earlier others → request.Alike another →
      Answer.Alike request (respond earlier request) (reply others another)

/--
A host that keeps track of the requests about objects answers by a function of
them.
-/
theorem follows_exchanges
    {host : Host σ}
    {respond : List Request → Request → Answer}
    (seen : σ → List Request)
    (objects : ∀ state request, (host.answer state .objects request).1 = respond
      (seen state) request ∧ seen (host.answer state .objects request).2 =
      seen state ++ [request])
    (events : ∀ state request, seen (host.answer state .events request).2 =
      seen state)
    (waits : ∀ state seconds, seen (host.wait state seconds) = seen state)
    (program : Program α)
    (state : σ) :
    Follows respond (seen state) (program.exchanges host state) := by
  induction program generalizing state with
  | done result => exact .nil _
  | ask channel request next ih =>
      rw [Program.exchanges]
      cases channel with
      | events =>
          have rest := ih (host.answer state .events request).1
            (host.answer state .events request).2
          rw [events] at rest
          exact .events rest
      | objects =>
          have rest := ih (host.answer state .objects request).1
            (host.answer state .objects request).2
          rw [(objects state request).2] at rest
          dsimp only
          rw [(objects state request).1] at rest ⊢
          exact .objects rest
  | now next ih => exact ih _ state
  | pause seconds next ih =>
      have rest := ih (host.wait state seconds)
      rw [waits] at rest
      exact rest

/--
Similar programs send alike requests to servers that answer alike, and end
alike.
-/
theorem Similar.agree
    {Related : α → β → Prop}
    {program : Program α}
    {other : Program β}
    (similar : Similar Related program other)
    {respond reply : List Request → Request → Answer}
    (alike : RespondAlike respond reply)
    {earlier before : List Request}
    (seen : List.Forall₂ Request.Alike earlier before)
    {exchanges others : List Exchange}
    {result : α}
    {final : β}
    (trace : program.Traces exchanges result)
    (follows : Follows respond earlier exchanges)
    (another : other.Traces others final)
    (answers : Follows reply before others) :
    Related result final ∧
      List.Forall₂ Request.Alike (objectRequests exchanges)
          (objectRequests others) := by
  induction similar generalizing earlier before exchanges others with
  | done related =>
      rcases Program.traces_done_iff.1 trace with ⟨rfl, rfl⟩
      rcases Program.traces_done_iff.1 another with ⟨rfl, rfl⟩
      exact ⟨related, .nil⟩
  | leftEvent _ ih =>
      rcases Program.traces_ask_iff.1 trace with ⟨answer, rest, rfl, next⟩
      cases follows with
      | events follows =>
          -- An event is none of the requests about objects, so the rest agrees
          -- as the whole does.
          have agreed := ih answer seen next follows another answers
          exact agreed
  | rightEvent _ ih =>
      rcases Program.traces_ask_iff.1 another with ⟨answer, rest, rfl, next⟩
      cases answers with
      | events answers =>
          have agreed := ih answer seen trace follows next answers
          exact agreed
  | leftClock _ ih =>
      rcases Program.traces_now_iff.1 trace with ⟨moment, trace⟩
      exact ih moment seen trace follows another answers
  | rightClock _ ih =>
      rcases Program.traces_now_iff.1 another with ⟨moment, another⟩
      exact ih moment seen trace follows another answers
  | objects same _ ih =>
      rcases Program.traces_ask_iff.1 trace with ⟨answer, rest, rfl, next⟩
      rcases Program.traces_ask_iff.1 another with ⟨received, left, rfl, later⟩
      cases follows with
      | objects follows =>
          cases answers with
          | objects answers =>
              rcases ih _ _ (alike _ _ _ _ seen same)
                (List.rel_append seen (.cons same .nil)) next follows later
                    answers with
                ⟨related, requests⟩
              exact ⟨related, .cons same requests⟩

/-! ## Events of an apply -/

/--
One event is published: the request for it is sent, unless none can be built.
-/
inductive Publishes
    (recorder : Recorder)
    (notice : Notice)
    (regarding : ObjectReference) : List Exchange → Prop where
  | sent
      (moment : Moment)
      (request : Request)
      (answer : Answer)
      (built : Recorder.request regarding
        (recorder.event notice regarding moment) =
        .ok request) :
      Publishes recorder notice regarding [⟨.events, request, answer⟩]
  | unbuildable
      (moment : Moment)
      (fault : RequestFault)
      (unbuilt : Recorder.request regarding
        (recorder.event notice regarding moment) =
        .error fault) :
      Publishes recorder notice regarding []

theorem Recorder.publishes_of_traces
    {recorder kept : Recorder}
    {notice : Notice}
    {regarding : ObjectReference}
    {exchanges : List Exchange}
    (trace : (recorder.publish notice regarding).Traces exchanges kept) :
    Publishes recorder notice regarding exchanges := by
  rcases Program.traces_now_iff.1 trace with ⟨moment, trace⟩
  dsimp only at trace
  cases built : request regarding (recorder.event notice regarding moment) with
  | error fault =>
      rw [built] at trace
      rcases Program.traces_done_iff.1 trace with ⟨rfl, _⟩
      exact .unbuildable moment fault built
  | ok request =>
      rw [built] at trace
      rcases Program.traces_ask_iff.1 trace with ⟨answer, rest, rfl, ended⟩
      have last : rest = [] := by
        split at ended <;> exact (Program.traces_done_iff.1 ended).1
      subst last
      exact .sent moment request answer built

/-- What is told about the outcome of a write. -/
def Write.notice
    (write : Write)
    (kind name : String) : Except ApiError α → Notice
  | .ok _ => write.doneNotice kind name
  | .error cause => write.failedNotice kind cause

/-- A write is sent, if it can be, and one event tells its outcome. -/
def WritesAndTells
    [ClusterObject α]
    (recorder : Recorder)
    (write : Write)
    (name : String)
    (object : α)
    (request : Except RequestFault Request)
    (exchanges : List Exchange) : Prop :=
  ∃ sent outcome told,
    Call request (ClusterObject.ofDatum? : Datum → Option α) sent outcome ∧
      exchanges = sent.toList ++ told ∧
        Publishes recorder (write.notice (ClusterObject.kind α) name outcome)
          (.of (outcome.toOption.getD object)) told

/--
A step that publishes and then ends publishes one event and sends nothing else.
-/
theorem publishes_of_step
    [ClusterObject α]
    {object : α}
    {notice : Notice}
    {final : Step β}
    {recorder : Recorder}
    {exchanges : List Exchange}
    {ending : Except OperatorError β × Recorder}
    (silent : ∀ handed exchanges ended,
      (final.start handed).Traces exchanges ended → exchanges = [])
    (trace :
        ((Step.publish object notice >>= fun _ => final).start recorder).Traces
        exchanges ending) :
    Publishes recorder notice (.of object) exchanges := by
  rw [Step.start_bind] at trace
  rcases Program.traces_bind_iff.1 trace with
    ⟨⟨told, handed⟩, before, after, rfl, first, last⟩
  rcases Program.traces_bind_iff.1 first with
    ⟨remembered, telling, rest, rfl, tells, ended⟩
  rcases Program.traces_done_iff.1 ended with ⟨rfl, same⟩
  cases same
  rw [silent _ _ _ last, List.append_nil, List.append_nil]
  exact Recorder.publishes_of_traces tells

theorem writesAndTells_of_commit
    [ClusterObject α]
    {recorder kept : Recorder}
    {write : Write}
    {name : String}
    {object : α}
    {request : Except RequestFault Request}
    {exchanges : List Exchange}
    {result : Except OperatorError (Applied α)}
    (trace :
        ((Step.commit write name object
          (Client.send request ClusterObject.ofDatum?)).start recorder).Traces
          exchanges (result, kept)) :
    WritesAndTells recorder write name object request exchanges := by
  rw [Step.commit, Step.start_bind] at trace
  rcases Program.traces_bind_iff.1 trace with
    ⟨⟨attempted, handed⟩, before, after, rfl, first, last⟩
  rw [Step.attempt, Step.start_ofProgram, Program.bind_assoc] at first
  rcases Program.traces_bind_iff.1 first with
    ⟨outcome, sending, rest, rfl, sends, ended⟩
  rcases Client.traces_send_iff.1 sends with ⟨sent, call, rfl⟩
  rcases Program.traces_done_iff.1 ended with ⟨rfl, same⟩
  cases same
  refine ⟨sent, outcome, after, call, by rw [List.append_nil], ?_⟩
  cases outcome with
  | ok live =>
      exact publishes_of_step (fun _ _ _ returned =>
        (Program.traces_done_iff.1 returned).1) last
  | error cause =>
      exact publishes_of_step (fun _ _ _ thrown =>
        (Program.traces_done_iff.1 thrown).1) last

/--
What an apply sends: it reads the live object, and if its plan asks for a write
it attempts it and publishes one event about the outcome.  Otherwise it tells
nothing.
-/
def AppliesAndTells
    [ClusterObject α]
    (namespaceName : String)
    (merge : α → α → α)
    (wanted : α)
    (recorded : Option Int64)
    (recorder : Recorder)
    (exchanges : List Exchange) : Prop :=
  let name := (ClusterObject.metadata wanted).anyName
  let collection := ClusterObject.collection α namespaceName
  ∃ read found rest,
    Call (Request.read collection name)
      (ClusterObject.ofDatum? : Datum → Option α) read found ∧
      exchanges = read.toList ++ rest ∧
      match Client.presence found with
      | .error _ => rest = []
      | .ok live =>
          match ApplyPlan.of merge wanted recorded live with
          | .keep _ => rest = []
          | .create object =>
              WritesAndTells recorder .creation name object
                (Request.create collection Request.author
                  (ClusterObject.toValue object)) rest
          | .replace object =>
              WritesAndTells recorder .update name object
                (Request.replace collection name (ClusterObject.toValue object))
                  rest

theorem tells_of_apply
    [ClusterObject α]
    {namespaceName : String}
    {merge : α → α → α}
    {wanted : α}
    {recorded : Option Int64}
    {recorder kept : Recorder}
    {exchanges : List Exchange}
    {result : Except OperatorError (Applied α)}
    (trace :
        ((Step.apply namespaceName merge wanted recorded).start recorder).Traces
        exchanges (result, kept)) :
    AppliesAndTells namespaceName merge wanted recorded recorder exchanges := by
  rw [Step.apply, Step.start_bind] at trace
  rcases Program.traces_bind_iff.1 trace with
    ⟨⟨attempted, handed⟩, before, after, rfl, first, last⟩
  rw [Step.request, Step.start_ofProgram, Program.bind_assoc] at first
  rcases Program.traces_bind_iff.1 first with
    ⟨outcome, reading, rest, rfl, reads, ended⟩
  rcases Client.traces_find?_iff.1 reads with ⟨read, found, call, rfl, rfl⟩
  rcases Program.traces_done_iff.1 ended with ⟨rfl, same⟩
  refine ⟨read, found, after, call, by rw [List.append_nil], ?_⟩
  cases answered : Client.presence found with
  | error cause =>
      rw [answered] at same
      cases same
      exact (Program.traces_done_iff.1 last).1
  | ok live =>
      rw [answered] at same
      cases same
      dsimp only [Except.mapError] at last ⊢
      cases planned : ApplyPlan.of merge wanted recorded live with
      | keep object =>
          rw [planned] at last
          exact (Program.traces_done_iff.1 last).1
      | create object =>
          rw [planned] at last
          exact writesAndTells_of_commit last
      | replace object =>
          rw [planned] at last
          exact writesAndTells_of_commit last

/--
Events have no say in a cycle.  Against servers that answer requests about
objects alike, whatever they answer to events and whatever the clocks read,
cycles one after another send alike requests about objects and have the same
results.  And an apply publishes one event if it attempted a write, and none
otherwise; the event is sent unless its request cannot be built.
-/
theorem events_never_matter :
    (∀ (settings : Settings) (templates : Templates)
        (respond reply : List Request → Request → Answer),
          RespondAlike respond reply →
      ∀ (count : Nat) (recorder another : Recorder)
        (exchanges others : List Exchange)
        (results finals : List (Except OperatorError SyncOutcome)),
        (cycles settings templates count recorder).Traces exchanges results →
        Follows respond [] exchanges →
        (cycles settings templates count another).Traces others finals →
        Follows reply [] others →
          results = finals ∧
            List.Forall₂ Request.Alike (objectRequests exchanges)
              (objectRequests others)) ∧
    ∀ (α : Type) [ClusterObject α] (namespaceName : String) (merge : α → α →
      α) (wanted : α) (recorded : Option Int64) (recorder kept : Recorder)
      (exchanges : List Exchange)
      (result : Except OperatorError (Applied α)),
      ((Step.apply namespaceName merge wanted recorded).start recorder).Traces
        exchanges (result, kept) →
      AppliesAndTells namespaceName merge wanted recorded recorder
          exchanges := by
  constructor
  · intro settings templates respond reply alike count recorder another
      exchanges others results finals trace follows otherTrace answers
    exact (similar_cycles settings templates count recorder another).agree alike
      .nil trace follows otherTrace answers
  · intro α _ namespaceName merge wanted recorded recorder kept exchanges
      result trace
    exact tells_of_apply trace

/--
A server without objects that answers events in some way and remembers the other
requests.
-/
def eventHost
    (told : Request → Answer)
    (nanoseconds : Int) : Host (List Request) where
  answer := fun earlier channel request =>
    match channel with
    | .objects =>
        (((bareHost false).answer () .objects request).1, earlier ++ [request])
    | .events => (told request, earlier)
  clock := fun _ => ⟨nanoseconds⟩
  wait := fun earlier _ => earlier

def bareRespond (_ : List Request) (request : Request) : Answer :=
  ((bareHost false).answer () .objects request).1

theorem follows_eventHost
    (told : Request → Answer)
    (nanoseconds : Int)
    (program : Program α) :
    Follows bareRespond [] (program.exchanges (eventHost told nanoseconds)
        []) := by
  have objects (earlier : List Request) (request : Request) :
      ((eventHost told nanoseconds).answer earlier .objects request).1 =
          bareRespond earlier request ∧
        ((eventHost told nanoseconds).answer earlier .objects request).2 =
          earlier ++ [request] :=
    ⟨rfl, rfl⟩
  exact follows_exchanges (fun earlier => earlier) objects (fun _ _ => rfl)
    (fun _ _ => rfl) program []

theorem bareRespond_alike : RespondAlike bareRespond bareRespond := by
  intro earlier others request another _ alike
  cases alike with
  | same => exact .same _
  | patches => exact .same _

/--
Two cycles do the same where no event gets through and, an hour later, where
every one does.
-/
theorem events_never_matter_bare :
    let program :=
      cycles { image := "i", operatorName := "o" } bareTemplates 2 {}
    let silent := eventHost (fun _ => .unreachable "no route") 0
    let listening := eventHost
      (fun request => .reply ⟨201, .json (request.body.getD .null)⟩)
        3600000000000
    (program.run silent []).1 = (program.run listening []).1 ∧
      List.Forall₂ Request.Alike (objectRequests (program.exchanges silent []))
        (objectRequests (program.exchanges listening [])) ∧
      AppliesAndTells "n" Deployment.merged bareFindings.wanted.stamped none {}
        (((Step.applyDeployment bareFindings.wanted none).start {}).exchanges
            silent []) := by
  intro program silent listening
  rcases events_never_matter with ⟨indifferent, tells⟩
  rcases indifferent { image := "i", operatorName := "o" } bareTemplates _ _
      bareRespond_alike 2 {} {} _ _ _ _ (Program.traces_run silent program [])
      (follows_eventHost _ _ _)
      (Program.traces_run listening program []) (follows_eventHost _ _ _) with
    ⟨results, requests⟩
  exact ⟨results, requests,
    tells Deployment "n" Deployment.merged bareFindings.wanted.stamped none
      {} _ _ _ (Program.traces_run silent _ [])⟩

/--
A server that tells of the objects that it creates that they lie where no
address leads.
-/
def misplacingHost : Host Unit where
  answer := fun _ _ request =>
    (.reply (if request.method = .post then
      ⟨201, .json (.object [("metadata", .object [("name", .text "d"),
        ("namespace", .text "a b")])])⟩
    else Store.notFound), ())
  clock := fun _ => ⟨0⟩
  wait := fun _ _ => ()

/-- A Deployment is created, and no event is sent about it. -/
theorem creation_untold :
    let wanted : Deployment :=
      { metadata := { name := some "d", namespaceName := some "n" } }
    let exchanges :=
      ((Step.applyDeployment wanted none).start {}).exchanges misplacingHost ()
    (∃ exchange ∈ exchanges, exchange.channel = .objects ∧
      exchange.request.method = .post) ∧
      ¬ (exchanges.filter fun exchange => exchange.channel = .events).length =
          1 := by
  decide +kernel

end HookKeeper
