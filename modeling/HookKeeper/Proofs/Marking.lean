import HookKeeper.Cycle.Sync
import HookKeeper.Proofs.Document
import HookKeeper.Proofs.Quiescence

/-!
# Marking failed cycles

A cycle that fails marks the operator resource as degraded and keeps its own
failure.  The first main statement says what the marking sends and that it has
no say in the result: whatever the answers to its two requests are, the cycle
ends as it ended before them, and the next one comes when its own failure says.
The second one is about cycles that go on failing.  The operator watches the
resource that it marks, so a marking that wrote something new each time would
call the next cycle at once.  The status that a marking leaves is one that the
same failure does not change, at any time, and the time of the transition stays
as long as the failures last.
-/

namespace HookKeeper

open HookKeeper.Datum
open HookKeeper.Json
open HookKeeper.Json.Value
open HookKeeper.Manifest

/-! ## Conditions that tell of a failure -/

/--
Conditions are made to tell of a failure: the first degraded condition is
changed, or one is added, and the others stay.
-/
inductive TellsOf (message now : String) :
    List OperatorCondition → List OperatorCondition → Prop where
  | changed
      (earlier : List OperatorCondition)
      (old : OperatorCondition)
      (later : List OperatorCondition)
      (first : ∀ condition ∈ earlier, condition.type ≠ Health.degradedType)
      (own : old.type = Health.degradedType) :
      TellsOf message now (earlier ++ old :: later)
        (earlier ++
          { type := Health.degradedType
            status := .met
            lastTransitionTime :=
              if old.status = .met ∧ old.lastTransitionTime.isSome then
                old.lastTransitionTime
              else some now
            reason := some "SyncError"
            message := some message } :: later)
  | added
      (conditions : List OperatorCondition)
      (absent : ∀ condition ∈ conditions,
          condition.type ≠ Health.degradedType) :
      TellsOf message now conditions
        (conditions ++ [{
          type := Health.degradedType
          status := .met
          lastTransitionTime := some now
          reason := some "SyncError"
          message := some message }])

theorem TellsOf.cons
    {message now : String}
    {before after : List OperatorCondition}
    (tells : TellsOf message now before after)
    {condition : OperatorCondition}
    (other : condition.type ≠ Health.degradedType) :
    TellsOf message now (condition :: before) (condition :: after) := by
  cases tells with
  | changed earlier old later first own =>
      exact .changed (condition :: earlier) old later
        (List.forall_mem_cons.2 ⟨other, first⟩) own
  | added _ absent =>
      exact .added (condition :: before)
        (List.forall_mem_cons.2 ⟨other, absent⟩)

theorem OperatorCondition.setIn_append
    {condition : OperatorCondition}
    {earlier : List OperatorCondition}
    (others : ∀ other ∈ earlier, other.type ≠ condition.type)
    (now : String)
    (conditions : List OperatorCondition) :
    condition.setIn now (earlier ++ conditions) =
        earlier ++ condition.setIn now conditions := by
  induction earlier with
  | nil => rfl
  | cons first rest ih =>
      rcases List.forall_mem_cons.1 others with ⟨different, restOthers⟩
      rw [List.cons_append, setIn, if_neg different, ih restOthers,
        List.cons_append]

/--
The degraded condition of a failure keeps the time of one that was met and had a
time.
-/
theorem replacing_degraded
    (message now : String)
    {old : OperatorCondition}
    (own : old.type = Health.degradedType) :
    (Health.degraded (some message)).replacing old now =
      { type := Health.degradedType
        status := .met
        lastTransitionTime :=
          if old.status = .met ∧ old.lastTransitionTime.isSome then
            old.lastTransitionTime
          else some now
        reason := some "SyncError"
        message := some message } := by
  have moved :
      (old.status ≠ .met ∨ old.lastTransitionTime = none) ↔
        ¬ (old.status = .met ∧ old.lastTransitionTime.isSome) := by
    rw [Decidable.not_and_iff_or_not, Bool.not_eq_true,
      Option.isSome_eq_false_iff, Option.isNone_iff_eq_none]
  simp only [OperatorCondition.replacing, Health.degraded,
    OperatorCondition.withReason, OperatorCondition.bare, own, moved, ite_not]

/--
Conditions tell of a failure exactly when its condition was set among them.
-/
theorem tellsOf_iff
    {message now : String}
    {before after : List OperatorCondition} :
    TellsOf message now before after ↔
      after = (Health.degraded (some message)).setIn now before := by
  constructor
  · intro tells
    cases tells with
    | changed earlier old later first own =>
        rw [OperatorCondition.setIn_append first, OperatorCondition.setIn,
          Health.type_degraded, if_pos own, replacing_degraded message now own]
    | added _ absent =>
        have others : ∀ other ∈ before,
          other.type ≠ (Health.degraded (some message)).type := absent
        have whole := OperatorCondition.setIn_append others now []
        rw [List.append_nil] at whole
        exact whole.symm
  · rintro rfl
    induction before with
    | nil => exact .added [] (List.forall_mem_nil _)
    | cons old rest ih =>
        rw [OperatorCondition.setIn]
        split
        next own =>
          rw [replacing_degraded message now own]
          exact .changed [] old rest (List.forall_mem_nil _) own
        next other => exact ih.cons other

/--
A status whose conditions alone were made to tell of a failure has its condition
set.
-/
theorem TellsOf.eq_setCondition
    {message now : String}
    {before after : OperatorStatus}
    (tells : TellsOf message now before.conditions after.conditions)
    (observed : after.observedGeneration = before.observedGeneration)
    (generations : after.generations = before.generations) :
    after = before.setCondition (Health.degraded (some message)) now := by
  rcases after with ⟨observedGeneration, conditions, records⟩
  cases observed
  cases generations
  cases tellsOf_iff.1 tells
  rfl

/-! ## What a marking sends -/

/-- A condition is set once it is set at one time. -/
theorem OperatorCondition.IsSet.of_setIn_eq
    {condition : OperatorCondition}
    {now : String}
    {conditions : List OperatorCondition}
    (unchanged : condition.setIn now conditions = conditions) :
    condition.IsSet conditions := by
  have set := isSet_setIn condition now conditions
  rwa [unchanged] at set

/--
The requests, with their answers, that mark the operator resource of a name as
degraded by a failure.  The resource is read, and the patch changes nothing of
the status that was read but the first degraded condition.  No patch is sent to
a resource that tells of the failure already, or whose name leaves no room for
the address of one.
-/
inductive Marks
    (name : String)
    (failure : OperatorError) : List Exchange → Prop where
  | unasked
      (fault : RequestFault)
      (unbuilt :
          Request.read (ClusterObject.collection OperatorResource "") name =
          .error fault) :
      Marks name failure []
  | unwritten
      (request : Request)
      (answer : Answer)
      (asked :
        Request.read (ClusterObject.collection OperatorResource "") name =
        .ok request)
      (spared : ∀ operator, answer.decode OperatorResource.ofDatum? =
        .ok operator →
        (Health.degraded (some failure.message)).IsSet
          (operator.status.getD {}).conditions ∨
          65000 < name.utf8ByteSize) :
      Marks name failure [⟨.objects, request, answer⟩]
  | written
      (request : Request)
      (answer : Answer)
      (operator : OperatorResource)
      (now : String)
      (after : OperatorStatus)
      (patch : Request)
      (reply : Answer)
      (asked :
        Request.read (ClusterObject.collection OperatorResource "") name =
        .ok request)
      (found : answer.decode OperatorResource.ofDatum? = .ok operator)
      (changed : after ≠ operator.status.getD {})
      (observed : after.observedGeneration =
        (operator.status.getD {}).observedGeneration)
      (generations : after.generations = (operator.status.getD {}).generations)
      (conditions :
        TellsOf failure.message now (operator.status.getD {}).conditions
          after.conditions)
      (sent :
        Request.patchStatus (ClusterObject.collection OperatorResource "") name
        (operator.statusPatch after) = .ok patch) :
      Marks name failure [⟨.objects, request, answer⟩, ⟨.objects, patch, reply⟩]

theorem Marks.of_traces
    {name : String}
    {failure : OperatorError}
    {exchanges : List Exchange}
    {result : Except OperatorError StatusChange}
    (trace :
        (updateCondition name (Health.degraded (some failure.message))).Traces
        exchanges result) :
    Marks name failure exchanges := by
  rcases traces_updateStatus_iff.1 trace with
    ⟨sent, found, rest, call, rfl, last⟩
  cases call with
  | unbuildable fault unbuilt =>
      rcases currentOf_presence_error name (.unbuildable fault) with
        ⟨error, failed⟩
      rw [failed] at last
      rcases last with ⟨rfl, _⟩
      exact .unasked fault unbuilt
  | answered request answer asked =>
      cases decoded : answer.decode OperatorResource.ofDatum? with
      | error cause =>
          rcases currentOf_presence_error name cause with ⟨error, failed⟩
          rw [decoded, failed] at last
          rcases last with ⟨rfl, _⟩
          exact .unwritten request answer asked fun operator found => by
            cases decoded.symm.trans found
      | ok operator =>
          rw [decoded] at last
          rcases last with ⟨moment, last⟩
          have spared
              (reason : (Health.degraded (some failure.message)).IsSet
                  (operator.status.getD {}).conditions ∨
                      65000 < name.utf8ByteSize) :
              Marks name failure [⟨.objects, request, answer⟩] :=
            .unwritten request answer asked fun other found => by
              cases decoded.symm.trans found
              exact reason
          have shape := traces_writeStatus_iff.1 last
          split at shape
          next written =>
            rcases shape with ⟨sent, outcome, call, rfl, _⟩
            cases call with
            | unbuildable fault unbuilt =>
                -- The read had an address, so only the length of the name can
                -- be in the way.
                rcases patchStatus_of_name asked (operator.statusPatch _) with
                  ⟨patch, given⟩ | ⟨_, long⟩
                · cases unbuilt.symm.trans given
                · exact spared (.inr long)
            | answered patch reply sent =>
                refine .written request answer operator moment.instant.text _
                  patch reply asked decoded ?changed ?observed ?generations
                  ?conditions sent
                case changed => exact bne_iff_ne.1 written
                case observed => rfl
                case generations => rfl
                case conditions => exact tellsOf_iff.2 rfl
          next unwritten =>
            rcases shape with ⟨rfl, _⟩
            have same : (operator.status.getD {}).setCondition
                (Health.degraded (some failure.message)) moment.instant.text =
                  operator.status.getD {} := by
              simpa [StatusChange.isWritten, OperatorResource.statusChange]
                using unwritten
            exact spared
              (.inl (.of_setIn_eq (congrArg OperatorStatus.conditions same)))

/-! ## Cycles that are reported -/

section Reconcile

variable (host : Host σ) (state : σ) (settings : Settings)
  (templates : Templates) (name : String) (recorder : Recorder)

/-- A cycle with its marking ends as the cycle does. -/
theorem result_reconcile :
    ((reconcile settings templates name recorder).run host state).1 =
      (((Step.sync settings templates).start recorder).run host state).1 := by
  rw [reconcile, Program.bind_eq, Program.run_bind]
  rcases (((Step.sync settings templates).start recorder).run host state).1 with
    ⟨result, after⟩
  cases result with
  | ok outcome => rfl
  | error failure =>
      simp only [Program.bind_eq, Program.run_bind, Program.pure_eq,
        Program.run]

theorem run_reconcile_ok
    {outcome : SyncOutcome}
    (succeeds :
        (((Step.sync settings templates).start recorder).run host state).1.1 =
        .ok outcome) :
    (reconcile settings templates name recorder).run host state =
        ((Step.sync settings templates).start recorder).run host state ∧
      (reconcile settings templates name recorder).exchanges host state =
        ((Step.sync settings templates).start recorder).exchanges host
            state := by
  rw [reconcile, Program.bind_eq, Program.run_bind, Program.exchanges_bind]
  rcases ended : ((Step.sync settings templates).start recorder).run host state
      with
    ⟨⟨result, after⟩, last⟩
  rw [ended] at succeeds
  cases succeeds
  exact ⟨rfl, List.append_nil _⟩

theorem exchanges_reconcile_error
    {failure : OperatorError}
    (fails :
        (((Step.sync settings templates).start recorder).run host state).1.1 =
        .error failure) :
    (reconcile settings templates name recorder).exchanges host state =
      ((Step.sync settings templates).start recorder).exchanges host state ++
        (updateCondition name
          (Health.degraded (some failure.message))).exchanges host
          (((Step.sync settings templates).start recorder).run host
            state).2 := by
  rw [reconcile, Program.bind_eq, Program.exchanges_bind]
  rcases ended : ((Step.sync settings templates).start recorder).run host state
      with
    ⟨⟨result, after⟩, last⟩
  rw [ended] at fails
  cases fails
  simp only [Program.bind_eq, Program.exchanges_bind, Program.pure_eq,
    Program.exchanges, List.append_nil]

end Reconcile

/--
Whatever the host is and whichever operator resource called for the cycle, its
own outcome is reported.  After a success nothing more is sent and the next
cycle comes when the interval has passed.  After a failure the resource is
marked, the failure stays the result, and it alone says when the next cycle
comes.
-/
theorem reconcile_reports_outcome (host : Host σ) (state : σ)
    (settings : Settings) (templates : Templates) (operator : OperatorResource)
    (recorder : Recorder) :
    let cycle := (Step.sync settings templates).start recorder
    let whole := reconcile settings templates operator.metadata.anyName recorder
    (whole.run host state).1 = (cycle.run host state).1 ∧
      match (cycle.run host state).1.1 with
      | .ok _ =>
          whole.run host state = cycle.run host state ∧
            whole.exchanges host state = cycle.exchanges host state ∧
            NextCycle.of settings (whole.run host state).1.1 =
              .after settings.resyncSeconds.toNat
      | .error failure =>
          (∃ marking,
            whole.exchanges host state = cycle.exchanges host state ++ marking ∧
              Marks operator.metadata.anyName failure marking) ∧
            NextCycle.of settings (whole.run host state).1.1 =
              match failure with
              | .invalidLogLevel _ | .templateDecode _ _ | .contentHash _ =>
                  .onChange
              | .cluster _ | .apply _ _ _ | .statusUpdate _ => .after 60 := by
  intro cycle whole
  have kept : (whole.run host state).1 = (cycle.run host state).1 :=
    result_reconcile host state settings templates _ recorder
  refine ⟨kept, ?_⟩
  rw [kept]
  split
  next outcome succeeds =>
    rcases run_reconcile_ok host state settings templates
      operator.metadata.anyName recorder succeeds with ⟨run, exchanges⟩
    exact ⟨run, exchanges, by rw [succeeds, NextCycle.of]⟩
  next failure fails =>
    constructor
    · exact ⟨_,
        exchanges_reconcile_error host state settings templates _ recorder
        fails, Marks.of_traces (Program.traces_run host _ _)⟩
    · rw [fails]
      cases failure <;> rfl

/-! ## Failures that last -/

/--
Against some host a cycle failed, and these requests marked the resource of a
name.
-/
def Fails
    (name : String)
    (failure : OperatorError)
    (marking : List Exchange) : Prop :=
  ∃ (σ : Type) (host : Host σ) (state : σ) (settings : Settings)
    (templates : Templates) (recorder : Recorder),
    ((reconcile settings templates name recorder).run host state).1.1 =
      .error failure ∧
      (reconcile settings templates name recorder).exchanges host state =
        ((Step.sync settings templates).start recorder).exchanges host state ++
          marking

theorem Fails.marks
    {name : String}
    {failure : OperatorError}
    {marking : List Exchange}
    (fails : Fails name failure marking) : Marks name failure marking := by
  rcases fails with
    ⟨σ, host, state, settings, templates, recorder, failed, sent⟩
  rw [result_reconcile] at failed
  rw [exchanges_reconcile_error host state settings templates name recorder
    failed] at sent
  rw [← List.append_cancel_left sent]
  exact Marks.of_traces (Program.traces_run host _ _)

/--
A marking left a stored document as another one: it read the document, and it
needed no write or its patch was merged into the status.
-/
inductive Stores
    (failure : OperatorError)
    (before after : Document) : List Exchange → Prop where
  | unneeded
      (read : Exchange)
      (operator : OperatorResource)
      (now : String)
      (shown : read.answer.Reflects OperatorResource.ofDatum? before.value)
      (found : read.answer.decode OperatorResource.ofDatum? = .ok operator)
      (unchanged : (operator.status.getD {}).setCondition
        (Health.degraded (some failure.message)) now = operator.status.getD {})
      (kept : after.status? = before.status?) :
      Stores failure before after [read]
  | patched
      (read patch : Exchange)
      (body : Value)
      (shown : read.answer.Reflects OperatorResource.ofDatum? before.value)
      (carried : patch.request.body = some body)
      (merged : after.status? =
          (mergePatch before.value body.sorted).member? "status") :
      Stores failure before after [read, patch]

/--
A stored marking sets the degraded condition in the status that the document
showed.
-/
theorem Stores.report
    {name : String}
    {failure : OperatorError}
    {before after : Document}
    {marking : List Exchange}
    (marks : Marks name failure marking)
    (stores : Stores failure before after marking) :
    ∃ status now,
      before.report? = some status ∧
        after.report? =
          some (status.setCondition (Health.degraded (some failure.message))
              now) := by
  cases stores with
  | unneeded read operator now shown found unchanged kept =>
      have showed := Document.report?_of_read (shown operator found)
      refine ⟨_, now, showed, ?_⟩
      rw [Document.report?_congr kept, showed, unchanged]
  | patched read patch body shown carried merged =>
      cases marks with
      | written request answer operator now status patch reply asked found
          changed observed generations conditions sent =>
          have showed := Document.report?_of_read (shown operator found)
          have body : body = operator.statusPatch status :=
            Option.some.inj (carried.symm.trans (Request.of_patchStatus sent).2)
          refine ⟨_, now, showed, ?_⟩
          rcases Document.report_of_statusPatch (shown operator found) status
              with
            ⟨landed, reads, lands⟩
          rw [Document.report?, merged, body, reads,
            lands.eq_of_keeps fun absent => observed.symm.trans absent,
            conditions.eq_setCondition observed generations]

/--
The resource that is read as one that tells of a failure already is not patched.
-/
theorem Marks.reads_only
    {name : String}
    {failure : OperatorError}
    {marking : List Exchange}
    (marks : Marks name failure marking)
    (told : ∀ exchange ∈ marking, exchange.request.method = .get →
        ∀ operator, exchange.answer.decode OperatorResource.ofDatum? =
        .ok operator →
        (Health.degraded (some failure.message)).IsSet
        (operator.status.getD {}).conditions) :
    ∀ exchange ∈ marking, exchange.request.method = .get := by
  cases marks with
  | unasked fault unbuilt => exact List.forall_mem_nil _
  | unwritten request answer asked spared =>
      exact List.forall_mem_singleton.2 (Request.of_read asked).1
  | written request answer operator now status patch reply asked found changed
      observed generations conditions sent =>
      have set :=
        told _ List.mem_cons_self (Request.of_read asked).1 operator found now
      refine absurd ?_ changed
      rw [conditions.eq_setCondition observed generations,
        OperatorStatus.setCondition, set]

/-! ## The time of the transition -/

/-- When the degraded condition that a document shows came to be what it is. -/
def Document.degradedSince? (document : Document) : Option String :=
  document.report?.bind fun status =>
    (status.condition? Health.degradedType).bind (·.lastTransitionTime)

/-- A status tells of some failure since a time. -/
def OperatorStatus.FailsSince
    (status : OperatorStatus)
    (time : String) : Prop :=
  ∃ condition,
    status.condition? Health.degradedType = some condition ∧
      condition.status = .met ∧ condition.lastTransitionTime = some time

theorem OperatorStatus.failsSince_setCondition
    (status : OperatorStatus)
    (message now : String) :
    ∃ time,
      (status.setCondition (Health.degraded (some message)) now).FailsSince
      time ∧
      ∀ earlier, status.FailsSince earlier → time = earlier := by
  have found :
      (status.setCondition (Health.degraded (some message)) now).condition?
        Health.degradedType =
        _ :=
    OperatorCondition.find?_setIn (Health.degraded (some message)) now
      Health.degradedType status.conditions
  rw [if_pos (Health.type_degraded _)] at found
  cases known : OperatorCondition.find? Health.degradedType status.conditions
      with
  | none =>
      rw [known] at found
      refine ⟨now, ⟨_, found, rfl, rfl⟩, ?_⟩
      rintro earlier ⟨condition, here, _⟩
      cases known.symm.trans here
  | some old =>
      rw [known, Option.map_some, Option.getD_some] at found
      by_cases moved : old.status ≠ .met ∨ old.lastTransitionTime = none
      · refine ⟨now, ⟨_, found, rfl, if_pos moved⟩, ?_⟩
        rintro earlier ⟨condition, here, met, since⟩
        cases known.symm.trans here
        rcases moved with unmet | unknown
        · exact absurd met unmet
        · cases unknown.symm.trans since
      · rcases not_or.1 moved with ⟨_, timed⟩
        rcases Option.ne_none_iff_exists'.1 timed with ⟨time, since⟩
        refine ⟨time, ⟨_, found, rfl, (if_neg moved).trans since⟩, ?_⟩
        rintro earlier ⟨condition, here, _, earlierSince⟩
        cases known.symm.trans here
        exact Option.some.inj (since.symm.trans earlierSince)

theorem Document.degradedSince?_of_report
    {document : Document}
    {status : OperatorStatus}
    {time : String}
    (shows : document.report? = some status)
    (fails : status.FailsSince time) : document.degradedSince? = some time := by
  rcases fails with ⟨condition, found, _, since⟩
  rw [degradedSince?, shows, Option.bind_some, found, Option.bind_some, since]

/--
Cycles for the resource of a name fail one after another: each marking is
stored, and nobody else writes the status in between.  The documents are those
that the first marking and the last one left.
-/
inductive FailingRun (name : String) : Document → Document → Prop where
  | first
      {failure : OperatorError}
      {marking : List Exchange}
      {before after : Document}
      (fails : Fails name failure marking)
      (stores : Stores failure before after marking) :
      FailingRun name after after
  | next
      {failure : OperatorError}
      {marking : List Exchange}
      {first last before after : Document}
      (run : FailingRun name first last)
      (untouched : before.status? = last.status?)
      (fails : Fails name failure marking)
      (stores : Stores failure before after marking) :
      FailingRun name first after

/--
As long as the cycles fail the time of the transition stays what it was after
the first.
-/
theorem FailingRun.since
    {name : String}
    {first last : Document}
    (run : FailingRun name first last) :
    ∃ time initial final,
      first.report? = some initial ∧ initial.FailsSince time ∧
        last.report? = some final ∧ final.FailsSince time := by
  induction run with
  | @first failure marking before after fails stores =>
      rcases stores.report fails.marks with ⟨status, now, _, shows⟩
      rcases status.failsSince_setCondition failure.message now with
        ⟨time, since, _⟩
      exact ⟨time, _, _, shows, since, shows, since⟩
  | @next failure marking first last before after run untouched fails
      stores ih =>
      rcases ih with
        ⟨time, initial, final, initialShown, initialSince, finalShown,
          finalSince⟩
      rcases stores.report fails.marks with ⟨status, now, showed, shows⟩
      rcases status.failsSince_setCondition failure.message now with
        ⟨later, since, keeps⟩
      have same : status = final := by
        rw [Document.report?_congr untouched, finalShown] at showed
        exact (Option.some.inj showed).symm
      subst same
      -- The condition was met already, so it keeps the time that it has.
      rw [keeps time finalSince] at since
      exact ⟨time, initial, _, initialShown, initialSince, shows, since⟩

/--
A failure that lasts does not make the operator call for cycles by itself.
After a stored marking, a later cycle that fails with the same text sends no
patch, whatever the clock reads, if it reads the status as it was left.  And
in a run of failing cycles with any texts the time of the transition stays the
one that the first marking left.
-/
theorem lasting_failure_settles (name : String) :
    (∀ {failure later : OperatorError} {marking again : List Exchange}
        {before after shown : Document},
      Fails name failure marking → Stores failure before after marking →
      Fails name later again → later.message = failure.message →
      shown.status? = after.status? →
      (∀ exchange ∈ again, exchange.request.method = .get →
        exchange.answer.Reflects OperatorResource.ofDatum? shown.value) →
      ∀ exchange ∈ again, exchange.request.method = .get) ∧
    ∀ {first last : Document}, FailingRun name first last →
      ∃ time, first.degradedSince? = some time ∧
          last.degradedSince? = some time := by
  constructor
  · intro failure later marking again before after shown fails stores failsAgain
      same untouched reads
    rcases stores.report fails.marks with ⟨status, now, _, shows⟩
    refine failsAgain.marks.reads_only
      fun exchange member read operator found => ?_
    have showed :=
      Document.report?_of_read (reads exchange member read operator found)
    rw [Document.report?_congr untouched, shows] at showed
    rw [← Option.some.inj showed, same]
    exact OperatorCondition.isSet_setIn _ now _
  · intro first last run
    rcases run.since with
      ⟨time, initial, final, firstShown, firstSince, lastShown, lastSince⟩
    exact ⟨time, Document.degradedSince?_of_report firstShown firstSince,
      Document.degradedSince?_of_report lastShown lastSince⟩

def storedPath : String :=
  "/apis/operator.openshift.io/v1/csisnapshotcontrollers/cluster"

def storedSettings : Settings := { image := "i", operatorName := "cluster" }

def storedCycle : Program (Except OperatorError SyncOutcome × Recorder) :=
  reconcile storedSettings bareTemplates "cluster" {}

/--
A server that keeps a document and cannot be reached the first time it is asked
for it.
-/
def outageServer
    (document : Value)
    (reason : String)
    (seconds : Int) : Server where
  store := { objects := [(storedPath, document)], revision := 7 }
  prepared := [⟨.get, storedPath, .unreachable reason, some 1⟩]
  clock := ⟨seconds * 1000000000⟩

/-- The status that tells of an outage since the first one. -/
def outageStatus (reason : String) : OperatorStatus where
  observedGeneration := some 3
  conditions := [{
    type := Health.degradedType
    status := .met
    lastTransitionTime := some "2023-11-14T22:13:20Z"
    reason := some "SyncError"
    message := some ("Kubernetes API error: ServiceError: " ++ reason) }]

/--
The stored resource with the status that tells of an outage, at the next
version.
-/
def outageDocument (reason : String) : Value :=
  (Store.stamped ⟨[], 7⟩ (mergePatch storedDocument
    (.object [("status", (outageStatus reason).toValue)]))).sorted

def readStored (document : Value) : Exchange :=
  ⟨.objects, ⟨.get, ⟨storedPath, []⟩, none⟩, .reply ⟨200, .json document⟩⟩

def patchStored (version reason : String) : Exchange :=
  ⟨.objects,
    ⟨.patch, ⟨storedPath ++ "/status", []⟩,
      some (.object [("metadata", .object [("resourceVersion", .text version)]),
        ("status", (outageStatus reason).toValue)])⟩,
    .reply ⟨200, .json (outageDocument reason)⟩⟩

/-- A cycle against a server fails, and is followed by a marking. -/
def FailsAt
    (server : Server)
    (failure : OperatorError)
    (marking : List Exchange) : Prop :=
  (storedCycle.run Server.host server).1.1 = .error failure ∧
    storedCycle.exchanges Server.host server =
      ((Step.sync storedSettings bareTemplates).start {}).exchanges Server.host
        server ++ marking

instance (server : Server) (failure : OperatorError) (marking : List Exchange) :
    Decidable (FailsAt server failure marking) :=
  inferInstanceAs (Decidable (_ ∧ _))

theorem fails_of_failsAt
    {server : Server}
    {failure : OperatorError}
    {marking : List Exchange}
    (fails : FailsAt server failure marking) :
    Fails "cluster" failure marking :=
  ⟨Server, Server.host, server, storedSettings, bareTemplates, {}, fails⟩

def storedBefore : Document := ⟨storedDocument.members, by decide +kernel⟩

def storedOnce : Document :=
  ⟨(outageDocument "no route").members, by decide +kernel⟩

def storedTwice : Document :=
  ⟨(outageDocument "timeout").members, by decide +kernel⟩

/--
An outage is told once, not again a minute later, and another one after it has
its time.
-/
theorem lasting_failure_settles_outage :
    (∀ exchange ∈ [readStored storedOnce.value], exchange.request.method =
      .get) ∧
      ∃ time, storedOnce.degradedSince? = some time ∧
          storedTwice.degradedSince? = some time := by
  have firstFails : FailsAt (outageServer storedDocument "no route" 1700000000)
      (.cluster (.unreachable "no route"))
      [readStored storedDocument, patchStored "7" "no route"] := by
    decide +kernel
  have sameFails :
      FailsAt (outageServer (outageDocument "no route") "no route" 1700000060)
      (.cluster (.unreachable "no route"))
      [readStored (outageDocument "no route")] := by
    decide +kernel
  have otherFails :
      FailsAt (outageServer (outageDocument "no route") "timeout" 1700000120)
      (.cluster (.unreachable "timeout"))
      [readStored (outageDocument "no route"), patchStored "8" "timeout"] := by
    decide +kernel
  have firstStored :
      Stores (.cluster (.unreachable "no route")) storedBefore storedOnce
      [readStored storedDocument, patchStored "7" "no route"] :=
    .patched _ _ _ (Answer.reflects_json 200 storedDocument _) rfl
      (by decide +kernel)
  have otherStored :
      Stores (.cluster (.unreachable "timeout")) storedOnce storedTwice
      [readStored (outageDocument "no route"), patchStored "8" "timeout"] :=
    .patched _ _ _ (Answer.reflects_json 200 (outageDocument "no route") _) rfl
      (by decide +kernel)
  rcases lasting_failure_settles "cluster" with ⟨silent, run⟩
  constructor
  · refine silent (fails_of_failsAt firstFails) firstStored
      (fails_of_failsAt sameFails) rfl (Eq.refl storedOnce.status?) ?_
    intro exchange member _
    rcases List.mem_singleton.1 member with rfl
    exact Answer.reflects_json 200 (outageDocument "no route") _
  · exact run (.next (.first (fails_of_failsAt firstFails) firstStored) rfl
      (fails_of_failsAt otherFails) otherStored)

end HookKeeper
