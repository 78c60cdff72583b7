import HookKeeper.Server.Timeline

/-!
# When cycles run

A timeline goes through occasions: changes of others that ask for a cycle, and
cycles.  At most one cycle is due at any time.  A change that a watch shows puts
its own second in place of the one that was due; a cycle puts there the second
at which the pause after it is over, or nothing after a failure that only a
change can mend.

The writes of the operator itself are no occasion.  A change asks for a cycle
because it may call for one, and what a cycle has written calls for none.  So
after a cycle its result alone says when the next one comes, whatever it wrote.
-/

namespace HookKeeper

open HookKeeper.Json
open HookKeeper.Manifest

/-! ## Changes that ask for a cycle -/

namespace Controller

variable (settings : Settings) (controller : Controller) (second : Nat)
  (path : String) (object : Value)

/-- Whether a watched object asks for a cycle of the operator resource. -/
def heeds : Bool :=
  !(Watch.operator settings).shows path && isWatched path object &&
    controller.known.all (·.anyName == settings.operatorName)

/-- Whether a path and an object show the operator resource. -/
def recognizes : Bool :=
  (Watch.operator settings).shows path && (operatorMetadata? object).isSome

theorem due_ask :
    (controller.ask settings second).due =
      if controller.known.all (·.anyName == settings.operatorName) then
        some second
      else controller.due := by
  cases known : controller.known with
  | none => simp [ask, known]
  | some metadata =>
      by_cases same : metadata.anyName = settings.operatorName <;>
        simp [ask, known, same]

theorem due_written :
    (controller.written settings second path object).due =
      if controller.heeds settings path object ||
          recognizes settings path object then
        some second
      else controller.due := by
  rw [written, recognizes, heeds]
  cases (Watch.operator settings).shows path with
  | true => cases operatorMetadata? object <;> rfl
  | false =>
      rw [Bool.false_and, Bool.or_false]
      cases isWatched path object with
      | true => exact due_ask settings controller second
      | false => rfl

theorem due_deleted :
    (controller.deleted settings second path object).due =
      if controller.heeds settings path object then some second
      else controller.due := by
  rw [deleted, heeds]
  cases (Watch.operator settings).shows path with
  | true => rfl
  | false =>
      cases isWatched path object with
      | true => exact due_ask settings controller second
      | false => rfl

end Controller

namespace Timeline

variable (settings : Settings) (templates : Templates) (timeline : Timeline)

/-- The path and the object that an action shows to the watches. -/
def shown? : OutsideAction → Option (String × Value)
  | .put path object => some (path, timeline.server.store.stamped object)
  | .merge path patch =>
      some (path, timeline.server.store.stamped (Value.mergePatch
        ((timeline.server.store.find? path).getD (.object [])) patch))
  | .delete path =>
      (timeline.server.store.find? path).map fun object => (path, object)
  | .prepare _ => none

/-- Whether an action asks for a cycle; the loss of the operator does not. -/
def asks (action : OutsideAction) : Bool :=
  (timeline.shown? action).any fun (path, object) =>
    timeline.controller.heeds settings path object ||
      match action with
      | .delete _ => false
      | _ => Controller.recognizes settings path object

/--
A change makes a cycle due at its own second, or leaves the due one alone.
-/
theorem due_act (action : OutsideAction) :
    (act settings timeline action).controller.due =
      if timeline.asks settings action then some timeline.server.second
      else timeline.controller.due := by
  cases action with
  | put path object =>
      simp [act, notified, Server.suffer, asks, shown?, Controller.due_written]
  | merge path patch =>
      simp [act, notified, Server.suffer, asks, shown?, Store.merge,
        Controller.due_written]
  | delete path =>
      cases found : timeline.server.store.find? path <;>
        simp [act, notified, Server.suffer, asks, shown?, found,
          Controller.due_deleted]
  | prepare answer => rfl

@[simp]
theorem second_act (action : OutsideAction) :
    (act settings timeline action).server.second =
      timeline.server.second := by
  cases action <;> rfl

variable {settings timeline} in
/-- What asks for a cycle is shown by a watch. -/
theorem watched_of_asks
    {action : OutsideAction}
    (asks : timeline.asks settings action = true) :
    ∃ path object,
      timeline.shown? action = some (path, object) ∧
        (Watch.all settings).any (·.shows path) = true := by
  rcases Option.any_eq_true_iff_get .. |>.1 asks with ⟨shown, cause⟩
  rcases Option.isSome_iff_exists.1 shown with ⟨⟨path, object⟩, found⟩
  refine ⟨path, object, found, ?_⟩
  simp only [found, Option.get_some, Controller.heeds, Controller.recognizes,
    Controller.isWatched, Bool.and_eq_true, Bool.or_eq_true] at cause
  simp only [Watch.all, List.any_cons, List.any_nil, Bool.or_false,
    Bool.or_eq_true]
  rcases cause with ⟨⟨-, (⟨node, -⟩ | ⟨deployment, -⟩) | ⟨registration, -⟩⟩,
    -⟩ | recognized
  · exact .inl node
  · exact .inr (.inr (.inl deployment))
  · exact .inr (.inl registration)
  · cases action with
    | delete path => exact absurd recognized nofun
    | put | merge | prepare =>
        rw [Bool.and_eq_true] at recognized
        exact .inr (.inr (.inr recognized.1))

/-! ## Pauses between cycles -/

/-- What the cycle of a second comes to, if an operator resource is known. -/
def result? (second : Nat) : Option (Except OperatorError SyncOutcome) :=
  timeline.controller.known.map fun metadata =>
    (({ timeline.server with second := second } : Server).run
      (reconcile settings templates metadata.anyName
        timeline.recorder)).1.1

/-- The seconds from a cycle to the next one, if it comes by itself. -/
def pause? (result : Option (Except OperatorError SyncOutcome)) : Option Nat :=
  result.bind fun result =>
    match NextCycle.of settings result with
    | .after seconds => some seconds
    | .onChange => none

/-- After a cycle the next one is due by the result alone. -/
theorem due_runCycle (second : Nat) :
    (runCycle settings templates second timeline).controller.due =
      (pause? settings (timeline.result? settings templates second)).map
        (second + ·) := by
  rw [runCycle, result?]
  cases timeline.controller.known with
  | none => rfl
  | some metadata =>
      dsimp only [Option.map_some, pause?, Option.bind_some]
      cases NextCycle.of settings _ <;> rfl

variable {settings} in
/-- A pause takes some time. -/
theorem pos_of_pause?
    (lasting : 0 < settings.resyncSeconds.toNat)
    {result : Option (Except OperatorError SyncOutcome)}
    {seconds : Nat}
    (pause : pause? settings result = some seconds) : 0 < seconds := by
  rcases Option.bind_eq_some_iff.1 pause with ⟨ended, -, next⟩
  cases ended with
  | ok outcome =>
      rw [← Option.some.inj next]
      exact lasting
  | error failure =>
      have retry : 0 < retrySeconds := by decide
      cases permanent : failure.isPermanent with
      | true => simp [NextCycle.of, permanent] at next
      | false =>
          simp only [NextCycle.of, permanent] at next
          rw [← Option.some.inj next]
          exact retry

/-! ## The course of a timeline -/

/-- What bears on when cycles run. -/
inductive Occasion where
  /-- A change at a path that asks for a cycle. -/
  | asked (second : Nat) (path : String)
  /-- A cycle and its result; none if it was dropped. -/
  | cycle (second : Nat) (result : Option (Except OperatorError SyncOutcome))

/-- The second of a cycle. -/
def Occasion.cycle? : Occasion → Option Nat
  | .asked _ _ => none
  | .cycle second _ => some second

/-- The timeline with a second as the first one to come. -/
def upTo (second : Nat) : Timeline :=
  { timeline with server := { timeline.server with second := second } }

/-- No cycle that is due has been missed. -/
def Ready : Prop :=
  ∀ due ∈ timeline.controller.due, timeline.server.second ≤ due

/-- The course of a timeline: time never passes over a cycle that is due. -/
inductive Course : Timeline → List Occasion → Timeline → Prop where
  | rest {timeline : Timeline} : Course timeline [] timeline
  | wait
      {timeline after : Timeline}
      {occasions : List Occasion}
      {second : Nat}
      (onwards : timeline.server.second ≤ second)
      (idle : ∀ due ∈ timeline.controller.due, second ≤ due)
      (later : Course (timeline.upTo second) occasions after) :
      Course timeline occasions after
  | ask
      {timeline after : Timeline}
      {occasions : List Occasion}
      {action : OutsideAction}
      {path : String}
      {object : Value}
      (asks : timeline.asks settings action = true)
      (shown : timeline.shown? action = some (path, object))
      (later : Course (act settings timeline action) occasions after) :
      Course timeline (.asked timeline.server.second path :: occasions) after
  | ignore
      {timeline after : Timeline}
      {occasions : List Occasion}
      {action : OutsideAction}
      (ignored : timeline.asks settings action = false)
      (later : Course (act settings timeline action) occasions after) :
      Course timeline occasions after
  | cycle
      {timeline after : Timeline}
      {occasions : List Occasion}
      {second : Nat}
      (due : timeline.controller.due = some second)
      (later : Course
        ((runCycle settings templates second timeline).upTo (second + 1))
        occasions after) :
      Course timeline
        (.cycle second (timeline.result? settings templates second) ::
          occasions) after

section

variable {settings templates timeline} {middle after : Timeline}
  {occasions more : List Occasion}

theorem Course.trans
    (first : Course settings templates timeline occasions middle)
    (second : Course settings templates middle more after) :
    Course settings templates timeline (occasions ++ more) after := by
  induction first with
  | rest => exact second
  | wait onwards idle _ ih => exact .wait onwards idle (ih second)
  | ask asks shown _ ih => exact .ask asks shown (ih second)
  | ignore ignored _ ih => exact .ignore ignored (ih second)
  | cycle due _ ih => exact .cycle due (ih second)

theorem ready_act
    (ready : timeline.Ready)
    (action : OutsideAction) : (act settings timeline action).Ready := by
  intro due member
  rw [due_act] at member
  rw [second_act]
  split at member
  · exact Nat.le_of_eq (Option.some.inj member)
  · exact ready due member

/-- The cycle after a cycle comes at a later second. -/
theorem ready_runCycle
    (lasting : 0 < settings.resyncSeconds.toNat)
    (templates : Templates)
    (timeline : Timeline)
    (second : Nat) :
    ((runCycle settings templates second timeline).upTo
      (second + 1)).Ready := by
  intro due member
  have next := (due_runCycle settings templates timeline second).symm.trans
    member
  rcases Option.map_eq_some_iff.1 next with ⟨seconds, pause, rfl⟩
  exact Nat.add_le_add_left (pos_of_pause? lasting pause) second

/-- No cycle is ever missed, and time does not turn back. -/
theorem Course.ready
    (course : Course settings templates timeline occasions after)
    (lasting : 0 < settings.resyncSeconds.toNat)
    (ready : timeline.Ready) :
    after.Ready ∧ timeline.server.second ≤ after.server.second := by
  induction course with
  | rest => exact ⟨ready, Nat.le_refl _⟩
  | wait onwards idle _ ih =>
      exact ⟨(ih idle).1, Nat.le_trans onwards (ih idle).2⟩
  | ask _ _ _ ih | ignore _ _ ih =>
      rw [second_act] at ih
      exact ih (ready_act ready _)
  | @cycle _ _ _ second due _ ih =>
      have next := ih (ready_runCycle lasting _ _ second)
      have later : second + 1 ≤ _ := next.2
      have reached := ready second due
      exact ⟨next.1, by omega⟩

/-- A cycle runs between the seconds at which a course starts and ends. -/
theorem Course.cycle_within
    (course : Course settings templates timeline occasions after)
    (lasting : 0 < settings.resyncSeconds.toNat)
    (ready : timeline.Ready)
    {second : Nat}
    (member : second ∈ occasions.filterMap Occasion.cycle?) :
    timeline.server.second ≤ second ∧ second < after.server.second := by
  induction course with
  | rest => exact absurd member List.not_mem_nil
  | wait onwards idle _ ih =>
      exact ⟨Nat.le_trans onwards (ih idle member).1, (ih idle member).2⟩
  | ask _ _ _ ih | ignore _ _ ih =>
      rw [second_act] at ih
      exact ih (ready_act ready _) member
  | @cycle timeline _ _ first due later ih =>
      have next := ready_runCycle lasting templates timeline first
      have reached := ready first due
      have ended : first + 1 ≤ _ := (later.ready lasting next).2
      rcases List.mem_cons.1 member with rfl | others
      · exact ⟨reached, ended⟩
      · have inside : first + 1 ≤ second := (ih next others).1
        exact ⟨by omega, (ih next others).2⟩

/-- At most one cycle runs at a second. -/
theorem Course.pairwise
    (course : Course settings templates timeline occasions after)
    (lasting : 0 < settings.resyncSeconds.toNat) :
    (occasions.filterMap Occasion.cycle?).Pairwise (· < ·) := by
  induction course with
  | rest => exact .nil
  | wait _ _ _ ih | ask _ _ _ ih | ignore _ _ ih => exact ih
  | @cycle timeline _ _ first _ later ih =>
      refine List.pairwise_cons.2 ⟨fun second member => ?_, ih⟩
      have next := ready_runCycle lasting templates timeline first
      exact (later.cycle_within lasting next member).1

/-- A cycle that is due at once runs before time passes. -/
theorem Course.cycle_of_due
    (course : Course settings templates timeline occasions after)
    {second : Nat}
    (now : timeline.server.second = second)
    (due : timeline.controller.due = some second)
    (passed : second < after.server.second) :
    second ∈ occasions.filterMap Occasion.cycle? := by
  induction course with
  | rest => omega
  | wait onwards idle _ ih =>
      have same := idle second due
      exact ih (Nat.le_antisymm same (now ▸ onwards)) due passed
  | ask asks _ _ ih =>
      rw [second_act, due_act, if_pos asks] at ih
      exact ih now (congrArg some now) passed
  | ignore ignored _ ih =>
      rw [second_act, due_act, ignored] at ih
      exact ih now due passed
  | cycle known _ _ =>
      rw [known] at due
      exact List.mem_cons.2 (.inl (Option.some.inj due).symm)

/-- A change that asks for a cycle gets it at its own second. -/
theorem Course.cycle_of_asked
    (course : Course settings templates timeline occasions after)
    {second : Nat}
    {path : String}
    (asked : .asked second path ∈ occasions)
    (passed : second < after.server.second) :
    second ∈ occasions.filterMap Occasion.cycle? := by
  induction course with
  | rest => exact absurd asked List.not_mem_nil
  | wait _ _ _ ih | ignore _ _ ih => exact ih asked passed
  | ask asks _ later ih =>
      rcases List.mem_cons.1 asked with same | others
      · rw [(Occasion.asked.inj same).1] at passed ⊢
        refine later.cycle_of_due (second_act ..) ?_ passed
        rw [due_act, if_pos asks]
      · exact ih others passed
  | cycle _ _ ih =>
      rcases List.mem_cons.1 asked with same | others
      · exact absurd same nofun
      · exact List.mem_cons_of_mem _ (ih others passed)

/-- Why a cycle may run at a second. -/
inductive Reason
    (settings : Settings)
    (occasions : List Occasion) : Nat → Prop where
  /-- A watched object changed. -/
  | change
      {second : Nat}
      {path : String}
      (watched : (Watch.all settings).any (·.shows path) = true)
      (asked : .asked second path ∈ occasions) :
      Reason settings occasions second
  /-- The pause after an earlier cycle is over. -/
  | pause
      {second seconds : Nat}
      {result : Option (Except OperatorError SyncOutcome)}
      (ran : .cycle second result ∈ occasions)
      (pause : pause? settings result = some seconds) :
      Reason settings occasions (second + seconds)

theorem Reason.cons
    {second : Nat}
    (reason : Reason settings occasions second)
    (first : Occasion) :
    Reason settings (first :: occasions) second := by
  cases reason with
  | change watched asked =>
      exact .change watched (List.mem_cons_of_mem _ asked)
  | pause ran pause => exact .pause (List.mem_cons_of_mem _ ran) pause

/-- Every cycle but one that was due at the start has a reason. -/
theorem Course.reason
    (course : Course settings templates timeline occasions after)
    {second : Nat}
    (member : second ∈ occasions.filterMap Occasion.cycle?) :
    timeline.controller.due = some second ∨
      Reason settings occasions second := by
  induction course with
  | rest => exact absurd member List.not_mem_nil
  | wait _ _ _ ih => exact ih member
  | ask asks shown _ ih =>
      rcases ih member with now | reason
      · rw [due_act, if_pos asks] at now
        rcases watched_of_asks asks with ⟨path, object, same, watched⟩
        rw [shown] at same
        rcases Option.some.inj same with ⟨rfl, rfl⟩
        rw [← Option.some.inj now]
        exact .inr (.change watched List.mem_cons_self)
      · exact .inr (reason.cons _)
  | ignore ignored _ ih =>
      rw [due_act, ignored] at ih
      exact ih member
  | cycle due _ ih =>
      rcases List.mem_cons.1 member with rfl | others
      · exact .inl due
      · rcases ih others with next | reason
        · have soon := (due_runCycle ..).symm.trans next
          rcases Option.map_eq_some_iff.1 soon with ⟨seconds, pause, rfl⟩
          exact .inr (.pause List.mem_cons_self pause)
        · exact .inr (reason.cons _)

end

/-! ## Timelines that are played -/

variable {settings templates} in
/-- The second that a timeline has come to does not matter to its cycles. -/
theorem runCycle_upTo (first second : Nat) :
    runCycle settings templates second (timeline.upTo first) =
        runCycle settings templates second timeline ∨
      runCycle settings templates second (timeline.upTo first) =
        (runCycle settings templates second timeline).upTo first := by
  rcases timeline with ⟨server, ⟨known, due⟩, recorder⟩
  cases known with
  | none => exact .inr rfl
  | some metadata => exact .inl rfl

theorem runBefore_upTo (first second last most : Nat) :
    (runBefore settings templates second most
        (timeline.upTo first)).upTo last =
      (runBefore settings templates second most timeline).upTo last := by
  induction most generalizing timeline first with
  | zero => rfl
  | succ most ih =>
      have due : (timeline.upTo first).controller.due =
          timeline.controller.due := rfl
      rw [runBefore, runBefore, due]
      cases timeline.controller.due with
      | none => rfl
      | some soon =>
          dsimp only
          split
          · rcases runCycle_upTo timeline first soon with same | later
            · rw [same]
            · rw [later, ih]
          · rfl

variable {settings} in
/-- All cycles before a second run, one after another. -/
theorem exists_course_runBefore
    (lasting : 0 < settings.resyncSeconds.toNat)
    {second most : Nat}
    (onwards : timeline.server.second ≤ second)
    (enough : second - timeline.server.second < most)
    (ready : timeline.Ready) :
    ∃ occasions,
      Course settings templates timeline occasions
        ((runBefore settings templates second most timeline).upTo
          second) := by
  induction most generalizing timeline with
  | zero => omega
  | succ most ih =>
      rw [runBefore]
      cases due : timeline.controller.due with
      | none =>
          refine ⟨[], .wait onwards (fun soon member => ?_) .rest⟩
          rw [due] at member
          exact absurd member nofun
      | some soon =>
          have reached := ready soon due
          dsimp only
          split
          next early =>
            have again := ready_runCycle lasting templates timeline soon
            have fewer : second - (soon + 1) < most := by omega
            rcases ih ((runCycle settings templates soon timeline).upTo
              (soon + 1)) early fewer again with ⟨occasions, later⟩
            rw [runBefore_upTo] at later
            exact ⟨_, .cycle due later⟩
          next late =>
            refine ⟨[], .wait onwards (fun other member => ?_) .rest⟩
            rw [due] at member
            rw [← Option.some.inj member]
            exact Nat.not_lt.1 late

variable {timeline} in
/-- Nothing is due before the present. -/
theorem runBefore_of_ready
    (ready : timeline.Ready)
    {second : Nat}
    (past : second ≤ timeline.server.second)
    (most : Nat) :
    runBefore settings templates second most timeline = timeline := by
  cases most with
  | zero => rfl
  | succ most =>
      rw [runBefore]
      cases due : timeline.controller.due with
      | none => rfl
      | some soon =>
          exact if_neg (Nat.not_lt.2 (Nat.le_trans past (ready soon due)))

section

variable {settings} {timeline}

theorem exists_course_advance
    (lasting : 0 < settings.resyncSeconds.toNat)
    (ready : timeline.Ready)
    (second : Nat) :
    ∃ occasions,
      Course settings templates timeline occasions
        (advance settings templates timeline second) := by
  rw [advance]
  rcases Nat.le_total timeline.server.second second with onwards | past
  · rw [Nat.max_eq_left onwards]
    exact exists_course_runBefore templates timeline lasting onwards
      (by omega) ready
  · rw [runBefore_of_ready settings templates ready past,
      Nat.max_eq_right past]
    exact ⟨[], .rest⟩

/-- Whatever others do, a timeline takes its course. -/
theorem exists_course_play
    (lasting : 0 < settings.resyncSeconds.toNat)
    (ready : timeline.Ready)
    (finish : Nat)
    (actions : List (Nat × OutsideAction)) :
    ∃ occasions,
      Course settings templates timeline occasions
        (play settings templates timeline finish actions) := by
  induction actions generalizing timeline with
  | nil => exact exists_course_advance templates lasting ready finish
  | cons entry rest ih =>
      rcases entry with ⟨second, action⟩
      rcases exists_course_advance templates lasting ready second with
        ⟨before, reached⟩
      have again := (reached.ready lasting ready).1
      rcases ih (ready_act again action) with ⟨occasions, later⟩
      rw [play]
      cases asks : (advance settings templates timeline second).asks settings
          action with
      | false => exact ⟨_, reached.trans (.ignore asks later)⟩
      | true =>
          rcases watched_of_asks asks with ⟨path, object, shown, -⟩
          exact ⟨_, reached.trans (.ask asks shown later)⟩

/--
A controller that starts on a new server runs at most one cycle at a second and
each for a reason, and every change that asks for a cycle gets one at once.
-/
theorem exists_cycles_play
    (lasting : 0 < settings.resyncSeconds.toNat)
    {server : Server}
    (fresh : server.second = 0)
    (finish : Nat)
    (actions : List (Nat × OutsideAction)) :
    ∃ occasions,
      Course settings templates (start settings server) occasions
          (play settings templates (start settings server) finish actions) ∧
        (occasions.filterMap Occasion.cycle?).Pairwise (· < ·) ∧
        (∀ second ∈ occasions.filterMap Occasion.cycle?,
          second = 0 ∨ Reason settings occasions second) ∧
        ∀ second path,
          .asked second path ∈ occasions →
            second < (play settings templates (start settings server) finish
              actions).server.second →
            second ∈ occasions.filterMap Occasion.cycle? := by
  have ready : (start settings server).Ready := fun due _ =>
    Nat.le_trans (Nat.le_of_eq fresh) (Nat.zero_le due)
  rcases exists_course_play templates lasting ready finish actions with
    ⟨occasions, course⟩
  refine ⟨occasions, course, course.pairwise lasting, fun second member => ?_,
    fun second path asked passed => course.cycle_of_asked asked passed⟩
  rcases course.reason member with due | reason
  · rcases Option.map_eq_some_iff.1 due with ⟨metadata, -, zero⟩
    exact .inl zero.symm
  · exact .inr reason

end

end Timeline

end HookKeeper
