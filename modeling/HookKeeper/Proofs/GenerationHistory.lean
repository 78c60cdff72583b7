import HookKeeper.Proofs.Keyed
import HookKeeper.Proofs.Quiescence

/-!
# The history of recorded generations

Generations are recorded one after another: under a key, of a Deployment or of a
registration.  The main statement says that the records are a map by key: what
is expected under a key is the last generation that was recorded under it, and
recordings under other keys have no say in it.
-/

namespace HookKeeper

namespace GenerationKey

/-- Keys differ when one of their four parts does. -/
theorem ne_of_part
    {first second : GenerationKey}
    (differs : first.group ≠ second.group ∨ first.resource ≠ second.resource ∨
        first.namespaceName ≠ second.namespaceName ∨ first.name ≠ second.name) :
    first ≠ second := by
  rintro rfl
  simp at differs

end GenerationKey

namespace GenerationRecord

/--
A generation, if there is one, that is recorded under a key or of an object.
-/
inductive Recording where
  | ofKey (key : GenerationKey) (generation : Option Int64)
  | ofDeployment (deployment : Deployment)
  | ofRegistration (registration : Registration)

namespace Recording

def key : Recording → GenerationKey
  | ofKey key _ => key
  | ofDeployment deployment => .ofDeployment deployment
  | ofRegistration registration => .ofRegistration registration

def generation? : Recording → Option Int64
  | ofKey _ generation => generation
  | ofDeployment deployment => deployment.metadata.generation
  | ofRegistration registration => registration.metadata.generation

end Recording

/-- The records after a recording. -/
def record (records : List GenerationRecord) : Recording → List GenerationRecord
  | .ofKey key generation => set records key generation
  | .ofDeployment deployment => setDeployment records deployment
  | .ofRegistration registration => setRegistration records registration

/-- The records after a series of recordings. -/
def recordAll
    (records : List GenerationRecord)
    (recordings : List Recording) : List GenerationRecord :=
  recordings.foldl record records

theorem record_eq_set
    (records : List GenerationRecord)
    (recording : Recording) :
    record records recording =
        set records recording.key recording.generation? := by
  cases recording <;> rfl

/-! ## Recordings as edits -/

/-- Recording a generation, as an edit of records kept by key. -/
def edit
    (key : GenerationKey)
    (generation : Int64) : KeyedEdit GenerationRecord.key where
  about := key
  change := fun record => { record with lastGeneration := generation }
  added := { key := key, lastGeneration := generation }
  key_change := fun _ => rfl
  key_added := rfl

theorem put_eq_on
    (key : GenerationKey)
    (generation : Int64)
    (records : List GenerationRecord) :
    put key generation records = (edit key generation).on records := by
  induction records with
  | nil => rfl
  | cons record rest ih =>
      rw [put, KeyedEdit.on, ih]
      rfl

/-- The edit that a recording makes, if it has a generation. -/
def Recording.edit? (recording : Recording) :
    Option (KeyedEdit GenerationRecord.key) :=
  recording.generation?.map (edit recording.key)

theorem recordAll_eq_onAll
    (records : List GenerationRecord)
    (recordings : List Recording) :
    recordAll records recordings = KeyedEdit.onAll
        (recordings.filterMap (·.edit?)) records := by
  induction recordings generalizing records with
  | nil => rfl
  | cons recording rest ih =>
      change recordAll (record records recording) rest = _
      rw [ih, record_eq_set]
      cases known : recording.generation? with
      | none =>
          rw [List.filterMap_cons_none (by simp [Recording.edit?, known]), set]
      | some generation =>
          rw [List.filterMap_cons_some (b := edit recording.key generation)
            (by simp [Recording.edit?, known]), KeyedEdit.onAll_cons, set,
              put_eq_on]

/-- The keys of the recordings that have a generation. -/
def recordedKeys (recordings : List Recording) : List GenerationKey :=
  recordings.filterMap fun recording => recording.generation?.map fun _ =>
    recording.key

theorem map_about_filterMap_edit? (recordings : List Recording) :
    (recordings.filterMap (·.edit?)).map KeyedEdit.about =
        recordedKeys recordings := by
  simp only [recordedKeys, List.map_filterMap, Recording.edit?, Option.map_map]
  rfl

theorem revision_recordAll
    (records : List GenerationRecord)
    (recordings : List Recording) :
    Revision GenerationRecord.key (recordedKeys recordings) records
      (recordAll records recordings) := by
  rw [recordAll_eq_onAll, ← map_about_filterMap_edit?]
  exact KeyedEdit.revision_onAll _ _

/-- Recordings leave the keys and hashes of records, and their places. -/
theorem identities_recordAll
    (records : List GenerationRecord)
    (recordings : List Recording) :
    records.map (fun record => (record.key, record.hash)) <+:
      (recordAll records recordings).map fun record =>
          (record.key, record.hash) := by
  rw [recordAll_eq_onAll]
  apply KeyedEdit.labels_onAll
  intro change member record
  obtain ⟨recording, _, made⟩ := List.mem_filterMap.1 member
  obtain ⟨generation, _, rfl⟩ := Option.map_eq_some_iff.1 made
  rfl

/-! ## What is expected after recordings -/

theorem expected?_record
    (records : List GenerationRecord)
    (recording : Recording)
    (key : GenerationKey) :
    expected? (record records recording) key =
      if recording.key = key then
        recording.generation?.or (expected? records key)
      else expected? records key := by
  rw [record_eq_set, expected?_set]

/--
What is expected under a key is the last generation that was recorded under it.
-/
theorem expected?_recordAll
    (records : List GenerationRecord)
    (recordings : List Recording)
    (key : GenerationKey) :
    expected? (recordAll records recordings) key =
      ((recordings.filter (·.key = key)).filterMap (·.generation?)).getLast?.or
        (expected? records key) := by
  have seen := foldl_seen record (expected? · key) (·.key = key)
    (fun found recording => recording.generation?.or found)
    (fun records recording => by simp [expected?_record]) recordings records
  rw [recordAll, seen, foldl_or]

end GenerationRecord

open GenerationRecord

/--
After any series of recordings, the generation that is expected under a key is
the last one that was recorded under it, or the one that was expected before.
Recordings whose keys differ in the group, the resource, the namespace or the
name do not count, and those of Deployments and of registrations always differ.
Records keep their places, keys and hashes, at most one is added for a key, and
a key that had at most one record has at most one still.
-/
theorem generation_history
    (records : List GenerationRecord)
    (recordings : List Recording) :
    (∀ key,
      expected? (recordAll records recordings) key =
        ((recordings.filter (·.key = key)).filterMap
          (·.generation?)).getLast?.or (expected? records key)) ∧
    (∀ key : GenerationKey,
      (∀ recording ∈ recordings,
        recording.key.group ≠ key.group ∨
          recording.key.resource ≠ key.resource ∨
          recording.key.namespaceName ≠ key.namespaceName ∨
            recording.key.name ≠ key.name) →
      expected? (recordAll records recordings) key = expected? records key) ∧
    (∀ deployment registration,
      GenerationKey.ofDeployment deployment ≠ .ofRegistration registration) ∧
    Revision GenerationRecord.key (recordedKeys recordings) records
      (recordAll records recordings) ∧
    records.map (fun record => (record.key, record.hash)) <+:
      (recordAll records recordings).map (fun record =>
        (record.key, record.hash)) ∧
    ∀ key, (records.map (·.key)).count key ≤ 1 →
      ((recordAll records recordings).map (·.key)).count key ≤ 1 := by
  have revision := revision_recordAll records recordings
  refine ⟨expected?_recordAll records recordings, ?others,
    GenerationKey.ofDeployment_ne_ofRegistration, revision,
    identities_recordAll records recordings, fun key => revision.count_le_one⟩
  case others =>
    intro key differ
    have none_concerns : recordings.filter (·.key = key) = [] := by
      apply List.filter_eq_nil_iff.2
      intro recording member
      simpa using GenerationKey.ne_of_part (differ recording member)
    rw [expected?_recordAll, none_concerns]
    rfl

/-- A Deployment of a name, with a generation or without. -/
def trackedDeployment (generation : Option Int64) : Deployment :=
  { metadata :=
    { name := some "hook", namespaceName := some "storage", generation } }

/-- A registration of the same name. -/
def trackedRegistration : Registration :=
  { metadata := { name := some "hook", generation := some 9 } }

/--
A foreign record, and two records of the Deployment with a hash in the first.
-/
def crowdedRecords : List GenerationRecord :=
  [{ key := ⟨"g", "r", "n", "foreign"⟩, lastGeneration := 7 },
    { key := .ofDeployment (trackedDeployment none), lastGeneration := 1
      hash := some "h" },
      { key := .ofDeployment (trackedDeployment none), lastGeneration := 5 }]

/--
A missing generation is not recorded, and a registration of the same name has
its own record.
-/
theorem generation_history_crowded :
    let recordings : List Recording :=
      [.ofDeployment (trackedDeployment (some 4)),
        .ofRegistration trackedRegistration,
        .ofDeployment (trackedDeployment none)]
    expected? (recordAll crowdedRecords recordings)
      (.ofDeployment (trackedDeployment none)) =
        some 4 ∧
      expected? (recordAll crowdedRecords recordings) ⟨"g", "r", "n",
        "foreign"⟩ =
        expected? crowdedRecords ⟨"g", "r", "n", "foreign"⟩ ∧
      ((recordAll crowdedRecords recordings).map (·.key)).count
        (.ofRegistration trackedRegistration) ≤ 1 := by
  intro recordings
  obtain ⟨expected, others, -, -, -, single⟩ :=
    generation_history crowdedRecords recordings
  constructor
  · exact (expected _).trans (by decide)
  constructor
  · exact others ⟨"g", "r", "n", "foreign"⟩ (by decide)
  · exact single _ (by decide)

end HookKeeper
