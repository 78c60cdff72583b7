import HookKeeper.Proofs.Keyed

/-!
# The history of conditions

Conditions are set one after another, each at a time.  The main statement says
what is left of such a history: under every type the statement of the last
condition that was set, and the time of the last one that was a turn.  A
condition is a turn when none of its type is known, when the known one has no
time, or when its status is another; the time that it carries itself does not
count.
-/

namespace HookKeeper

/-- A condition that is set, and what the clock shows then. -/
structure Observation where
  condition : OperatorCondition
  time : String
  deriving DecidableEq, Repr

/-- An observation whose condition carries another time of its own. -/
def Observation.carrying
    (observation : Observation)
    (time : Option String) : Observation :=
  { observation with condition := { observation.condition with
    lastTransitionTime := time } }

namespace OperatorCondition

/-- What a condition states: its status, its reason and its message. -/
def statement (condition : OperatorCondition) :
    ConditionStatus × Option String × Option String :=
  (condition.status, condition.reason, condition.message)

/-- Setting a condition, as an edit of conditions kept by type. -/
def edit
    (condition : OperatorCondition)
    (now : String) : KeyedEdit OperatorCondition.type where
  about := condition.type
  change := (condition.replacing · now)
  added := { condition with lastTransitionTime := some now }
  key_change := fun _ => rfl
  key_added := rfl

theorem setIn_eq_on
    (condition : OperatorCondition)
    (now : String)
    (conditions : List OperatorCondition) :
    condition.setIn now conditions = (condition.edit now).on conditions := by
  induction conditions with
  | nil => rfl
  | cons old rest ih =>
      rw [setIn, KeyedEdit.on, ih]
      rfl

end OperatorCondition

namespace OperatorStatus

def observe
    (status : OperatorStatus)
    (observation : Observation) : OperatorStatus :=
  status.setCondition observation.condition observation.time

/-- A status after a series of observations. -/
def observeAll
    (status : OperatorStatus)
    (observations : List Observation) : OperatorStatus :=
  observations.foldl observe status

/-- What is stated under a type. -/
def statement?
    (status : OperatorStatus)
    (type : String) :
    Option (ConditionStatus × Option String × Option String) :=
  (status.condition? type).map (·.statement)

/-- Since when the condition of a type is what it is, if that is known. -/
def since? (status : OperatorStatus) (type : String) : Option String :=
  (status.condition? type).bind (·.lastTransitionTime)

/--
Whether a condition is a turn: none of its type is known, or one without a time,
or one of another status.
-/
def isTurnedBy
    (status : OperatorStatus)
    (condition : OperatorCondition) : Bool :=
  match status.condition? condition.type with
  | none => true
  | some old => old.lastTransitionTime.isNone || old.status != condition.status

/-- Those of a series of observations that are turns when they are made. -/
def turns (status : OperatorStatus) : List Observation → List Observation
  | [] => []
  | observation :: rest =>
      let later := turns (status.observe observation) rest
      if status.isTurnedBy observation.condition then observation :: later
      else later

variable (status : OperatorStatus) (observation : Observation)
  (observations : List Observation) (type : String)

/-! ## One observation -/

theorem condition?_observe :
    (status.observe observation).condition? type =
      if observation.condition.type = type then
        some (((status.condition? type).map
          (observation.condition.replacing · observation.time)).getD
            { observation.condition with
              lastTransitionTime := some observation.time })
      else status.condition? type :=
  OperatorCondition.find?_setIn _ _ _ _

theorem statement?_observe :
    (status.observe observation).statement? type =
      if observation.condition.type = type then
        some observation.condition.statement
      else status.statement? type := by
  rw [statement?, condition?_observe]
  split
  · cases status.condition? type <;> rfl
  · rfl

theorem since?_observe :
    (status.observe observation).since? type =
      if observation.condition.type = type ∧
          status.isTurnedBy observation.condition then
        some observation.time
      else status.since? type := by
  rw [since?, condition?_observe]
  by_cases own : observation.condition.type = type
  · subst own
    rw [if_pos rfl, since?, isTurnedBy]
    cases status.condition? observation.condition.type with
    | none => simp
    | some old =>
        by_cases moved : old.status ≠ observation.condition.status ∨
          old.lastTransitionTime = none
        · have turned : old.lastTransitionTime = none ∨
              ¬ old.status = observation.condition.status := moved.symm
          simp [OperatorCondition.replacing, moved, turned]
        · obtain ⟨same, timed⟩ := not_or.1 moved
          simp [OperatorCondition.replacing, Decidable.not_not.1 same, timed]
  · simp [own, since?]

/-- A condition that is set has its status and a time. -/
theorem condition?_observe_own :
    ∃ set, (status.observe observation).condition? observation.condition.type =
      some set ∧
      set.status = observation.condition.status ∧
          set.lastTransitionTime.isSome := by
  rw [condition?_observe, if_pos rfl]
  cases status.condition? observation.condition.type with
  | none => exact ⟨_, rfl, rfl, rfl⟩
  | some old =>
      refine ⟨_, rfl, rfl, ?_⟩
      by_cases moved : old.status ≠ observation.condition.status ∨
        old.lastTransitionTime = none
      · simp [OperatorCondition.replacing, moved]
      · obtain ⟨same, timed⟩ := not_or.1 moved
        simpa [OperatorCondition.replacing, Decidable.not_not.1 same,
          timed] using Option.isSome_iff_ne_none.2 timed

/-- The time that a condition carries when it is set does not count. -/
theorem observe_carrying (time : Option String) :
    status.observe (observation.carrying time) =
        status.observe observation := by
  rw [observe, observe, setCondition, setCondition,
    OperatorCondition.setIn_eq_on, OperatorCondition.setIn_eq_on]
  rfl

/--
Observations of two types may be made in either order, unless both types are
new.
-/
theorem observe_comm
    {first second : Observation}
    (different : first.condition.type ≠ second.condition.type)
    (known : first.condition.type ∈ status.conditions.map (·.type) ∨
        second.condition.type ∈ status.conditions.map (·.type)) :
    (status.observe first).observe second =
        (status.observe second).observe first := by
  have edits := KeyedEdit.on_comm (first.condition.edit first.time)
    (second.condition.edit second.time) different known
  simp only [observe, setCondition, OperatorCondition.setIn_eq_on, edits]

/-! ## Series of observations -/

@[simp]
theorem observeAll_nil : status.observeAll [] = status := rfl

@[simp]
theorem observeAll_cons :
    status.observeAll (observation :: observations) =
      (status.observe observation).observeAll observations := rfl

theorem observeAll_append (earlier later : List Observation) :
    status.observeAll (earlier ++ later) =
        (status.observeAll earlier).observeAll later :=
  List.foldl_append

/-- Observations edit the conditions and nothing else. -/
theorem observeAll_eq :
    status.observeAll observations =
      { status with
        conditions := KeyedEdit.onAll
          (observations.map fun observation =>
            observation.condition.edit observation.time)
          status.conditions } := by
  induction observations generalizing status with
  | nil => rfl
  | cons observation rest ih =>
      rw [observeAll_cons, ih, observe, setCondition,
        OperatorCondition.setIn_eq_on]
      rfl

theorem revision_observeAll :
    Revision OperatorCondition.type (observations.map (·.condition.type))
      status.conditions (status.observeAll observations).conditions := by
  have revision := KeyedEdit.revision_onAll
    (observations.map fun observation =>
      observation.condition.edit observation.time)
    status.conditions
  rw [observeAll_eq]
  rwa [List.map_map] at revision

theorem observeAll_carrying (times : Observation → Option String) :
    status.observeAll
        (observations.map fun observation =>
          observation.carrying (times observation)) =
      status.observeAll observations := by
  induction observations generalizing status with
  | nil => rfl
  | cons observation rest ih =>
      rw [List.map_cons, observeAll_cons, observeAll_cons, observe_carrying, ih]

/-- The last condition that was set under a type says what is stated there. -/
theorem statement?_observeAll :
    (status.observeAll observations).statement? type =
      ((observations.filter (·.condition.type = type)).getLast?.map
        (·.condition.statement)).or (status.statement? type) := by
  have seen := foldl_seen observe (·.statement? type) (·.condition.type = type)
    (fun found observation => (some observation.condition.statement).or found)
    (fun status observation => by simp [statement?_observe]) observations status
  rw [observeAll, seen, foldl_or fun observation : Observation =>
    some observation.condition.statement, List.filterMap_eq_map',
      List.getLast?_map]

/-- The last turn under a type says since when its condition is what it is. -/
theorem since?_observeAll :
    (status.observeAll observations).since? type =
      (((status.turns observations).filter (·.condition.type =
        type)).getLast?.map (·.time)).or (status.since? type) := by
  induction observations generalizing status with
  | nil => rfl
  | cons observation rest ih =>
      rw [observeAll_cons, ih, since?_observe, turns]
      by_cases turned : status.isTurnedBy observation.condition = true
      · by_cases own : observation.condition.type = type
        · rw [if_pos turned, if_pos ⟨own, turned⟩,
            List.filter_cons_of_pos (by simpa using own), getLast?_cons_eq_or,
            Option.map_or, Option.or_assoc, Option.map_some, Option.some_or]
        · rw [if_pos turned, if_neg (own ·.1),
            List.filter_cons_of_neg (by simpa using own)]
      · rw [if_neg turned, if_neg (turned ·.2)]

variable {status observations type}

/-- A condition of unchanged status keeps its time when it is set again. -/
theorem observeAll_steady
    {old : OperatorCondition}
    (found : status.condition? type = some old)
    (timed : old.lastTransitionTime.isSome)
    (steady : ∀ later ∈ observations, later.condition.type = type →
        later.condition.status = old.status) :
    (status.observeAll observations).since? type = old.lastTransitionTime := by
  induction observations generalizing status old with
  | nil => simp [since?, found]
  | cons observation rest ih =>
      rw [observeAll_cons]
      obtain ⟨first, restSteady⟩ := List.forall_mem_cons.1 steady
      have present := condition?_observe status observation type
      rw [found] at present
      split at present
      next own =>
        have unmoved :
            ¬ (old.status ≠ observation.condition.status ∨
                old.lastTransitionTime = none) := by
          simp [first own, Option.isSome_iff_ne_none.1 timed]
        have time :
          (observation.condition.replacing old
            observation.time).lastTransitionTime =
            old.lastTransitionTime := if_neg unmoved
        rw [ih present (by simpa [time] using timed) ?_]
        · exact time
        · intro later member same
          exact (restSteady later member same).trans (first own).symm
      next other => exact ih present timed restSteady

end OperatorStatus

/--
After any series of observations, the condition that is found under a type
states what the last observation of that type states, and is what it is since
its last turn; without such observations both are as they were.  Observations
that repeat a status never move the time, and times that they carry do not
count.  Every condition keeps its place, conditions of other types stay as they
are, and a type that had at most one condition has at most one still.  Nothing
else of the status changes.  Observations of two types, one of which is known
already, may be made in either order.
-/
theorem condition_history
    (status : OperatorStatus)
    (observations : List Observation) :
    (∀ type,
      (status.observeAll observations).statement? type =
        ((observations.filter (·.condition.type = type)).getLast?.map
          (·.condition.statement)).or (status.statement? type)) ∧
    (∀ type,
      (status.observeAll observations).since? type =
        (((status.turns observations).filter (·.condition.type =
          type)).getLast?.map (·.time)).or (status.since? type)) ∧
    (∀ earlier observation repeated,
      observations = earlier ++ observation :: repeated →
      (∀ later ∈ repeated, later.condition.type = observation.condition.type →
        later.condition.status = observation.condition.status) →
      (status.observeAll observations).since? observation.condition.type =
        (status.observeAll (earlier ++ [observation])).since?
          observation.condition.type) ∧
    (∀ times : Observation → Option String,
      status.observeAll
          (observations.map fun observation =>
            observation.carrying (times observation)) =
        status.observeAll observations) ∧
    Revision OperatorCondition.type (observations.map (·.condition.type))
      status.conditions (status.observeAll observations).conditions ∧
    (status.observeAll observations).conditions.filter
        (·.type ∉ observations.map (·.condition.type)) =
      status.conditions.filter (·.type ∉ observations.map (·.condition.type)) ∧
    (∀ type, (status.conditions.map (·.type)).count type ≤ 1 →
      ((status.observeAll observations).conditions.map (·.type)).count type ≤
        1) ∧
    (status.observeAll observations).observedGeneration =
      status.observedGeneration ∧
    (status.observeAll observations).generations = status.generations ∧
    ∀ first second : Observation,
      first.condition.type ≠ second.condition.type →
      (first.condition.type ∈ status.conditions.map (·.type) ∨
        second.condition.type ∈ status.conditions.map (·.type)) →
      (status.observe first).observe second =
          (status.observe second).observe first := by
  have revision := status.revision_observeAll observations
  refine ⟨status.statement?_observeAll observations,
    status.since?_observeAll observations, ?steady,
    status.observeAll_carrying observations, revision, revision.filter_others,
    fun type => revision.count_le_one, ?observed, ?generations,
    fun first second => status.observe_comm⟩
  case steady =>
    rintro earlier observation repeated rfl same
    rw [OperatorStatus.observeAll_append, OperatorStatus.observeAll_append]
    obtain ⟨set, found, own, timed⟩ :=
      (status.observeAll earlier).condition?_observe_own observation
    rw [OperatorStatus.observeAll_cons, OperatorStatus.observeAll_cons,
      OperatorStatus.observeAll_nil]
    have kept :=
      OperatorStatus.observeAll_steady found timed fun later member type =>
      (same later member type).trans own.symm
    rw [kept, OperatorStatus.since?, found, Option.bind_some]
  case observed => rw [OperatorStatus.observeAll_eq]
  case generations => rw [OperatorStatus.observeAll_eq]

/--
A status with a foreign condition and with two of one type, the first of which
has no time.
-/
def crowdedStatus : OperatorStatus :=
  { conditions :=
      [{ type := "Foreign", status := .unknown
         lastTransitionTime := some "2020-01-01T00:00:00Z" },
        .bare "Ready" .unmet,
        { type := "Ready", status := .met
          lastTransitionTime := some "2021-01-01T00:00:00Z" }] }

def unready : Observation := ⟨.bare "Ready" .unmet, "2026-01-01T00:00:00Z"⟩

/-- An observation of a type that is new to the crowded status. -/
def mounted : Observation := ⟨.bare "Mounted" .met, "2026-01-01T00:01:00Z"⟩

/-- An observation that repeats the status of another and gives a reason. -/
def waiting : Observation :=
  ⟨(OperatorCondition.bare "Ready" .unmet).withReason "Waiting" "no pod yet",
    "2026-01-01T00:02:00Z"⟩

/--
The time that was missing is set once, and later observations change the reason
only.
-/
theorem condition_history_crowded :
    (crowdedStatus.observeAll [unready, mounted, waiting]).statement? "Ready" =
        some (.unmet, some "Waiting", some "no pod yet") ∧
      (crowdedStatus.observeAll [unready, mounted, waiting]).since? "Ready" =
        some "2026-01-01T00:00:00Z" ∧
      (crowdedStatus.observeAll [unready, mounted, waiting]).since? "Ready" =
        (crowdedStatus.observeAll [unready]).since? "Ready" ∧
      ((crowdedStatus.observeAll [unready, mounted, waiting]).conditions.map
        (·.type)).count "Foreign" ≤ 1 ∧
      (crowdedStatus.observe unready).observe mounted =
        (crowdedStatus.observe mounted).observe unready := by
  obtain ⟨statements, times, steady, -, -, -, single, -, -, commute⟩ :=
    condition_history crowdedStatus [unready, mounted, waiting]
  constructor
  · exact (statements "Ready").trans (by decide)
  constructor
  · exact (times "Ready").trans (by decide)
  constructor
  · exact steady [] unready [mounted, waiting] rfl (by decide)
  constructor
  · exact single "Foreign" (by decide)
  · exact commute unready mounted (by decide) (by decide)

end HookKeeper
