import HookKeeper.Proofs.Quiescence
import Mathlib.Data.List.Sort

/-!
# Detection agrees with the merge

Whether a live object has to be written is decided by going through the wanted
labels and annotations, and what is written by layering them over the live ones.
The two meet in what is found under a key: a wanted entry is a live one exactly
when the merge leaves what was found under its key.  So an object has to be
written exactly when it was edited or when the merge would change it, and what
a merge has left is neither changed nor written again.
-/

namespace HookKeeper

namespace TextMap

/-- A map is known by what is found in it. -/
theorem eq_of_find?
    {first second : TextMap}
    (same : ∀ key, first.find? key = second.find? key) : first = second := by
  have irreflexive : Std.Irrefl fun left right : String × String =>
      left.1 < right.1 :=
    ⟨fun entry => String.lt_irrefl entry.1⟩
  have antisymmetric : Std.Antisymm fun left right : String × String =>
      left.1 < right.1 :=
    ⟨fun left _ lower upper =>
      absurd (String.lt_trans lower upper) (String.lt_irrefl left.1)⟩
  apply TextMap.ext
  apply first.ordered.eq_of_mem_iff second.ordered
  intro entry
  rw [← find?_eq_some_iff, ← find?_eq_some_iff, same entry.1]

/-- Entries that were set over a map are set. -/
theorem layer_layer (lower upper : TextMap) :
    (lower.layer upper).layer upper = lower.layer upper := by
  apply eq_of_find?
  intro key
  rw [find?_layer, find?_layer, ← Option.or_assoc, Option.or_self]

end TextMap

/-! ## Entries under a key -/

/-- What is found under a key of entries that may be absent altogether. -/
def entryUnder? (entries : Option TextMap) (key : String) : Option String :=
  entries.bind (·.find? key)

theorem find?_getD_empty
    (entries : Option TextMap)
    (key : String) :
    (entries.getD .empty).find? key = entryUnder? entries key := by
  cases entries with
  | none => rfl
  | some map => rfl

theorem entryUnder?_layered
    (wanted live : Option TextMap)
    (key : String) :
    entryUnder? (layered wanted live) key =
      (entryUnder? wanted key).or (entryUnder? live key) := by
  cases wanted with
  | none => rfl
  | some entries =>
      rw [← find?_getD_empty live]
      exact TextMap.find?_layer _ _ _

/--
Wanted entries are live ones exactly when layering them changes nothing under
any key.
-/
theorem isCovered_iff_entryUnder?_layered {wanted live : Option TextMap} :
    isCovered wanted live = true ↔
      ∀ key, entryUnder? (layered wanted live) key = entryUnder? live key := by
  simp only [isCovered_iff, find?_getD_empty, entryUnder?_layered]
  constructor
  · intro covered key
    cases found : entryUnder? wanted key with
    | none => rfl
    | some value => exact (covered key value found).symm
  · intro unchanged key value found
    rw [← unchanged key, found]
    rfl

theorem layered_layered (wanted live : Option TextMap) :
    layered wanted (layered wanted live) = layered wanted live := by
  cases wanted with
  | none => rfl
  | some entries => exact congrArg some (TextMap.layer_layer _ _)

namespace ObjectMeta

theorem merged_merged (live wanted : ObjectMeta) :
    (live.merged wanted).merged wanted = live.merged wanted := by
  simp only [merged, layered_layered]

/--
What a merge has left need not be written as long as its generation is the
recorded one.
-/
theorem needsUpdate_merged
    {live wanted : ObjectMeta}
    {recorded : Option Int64}
    (known : recorded = none ∨ recorded = (live.merged wanted).generation) :
    (live.merged wanted).needsUpdate wanted recorded = false :=
  needsUpdate_eq_false_iff.2 ⟨isEdited_eq_false_iff.2 known,
    covers_merged live wanted⟩

end ObjectMeta

/--
A live object need not be written exactly when no generation is recorded for it
or it still has the recorded one, and the merge with the wanted metadata leaves
what is found under every key of its labels and annotations.  Merging twice is
merging once, and what was merged need not be written, whether nothing or its
own generation is recorded.
-/
theorem detection_agrees_with_merge (live wanted : ObjectMeta) :
    (∀ recorded,
      live.needsUpdate wanted recorded = false ↔
        (recorded = none ∨ live.generation = recorded) ∧
          (∀ key, entryUnder? (live.merged wanted).labels key =
            entryUnder? live.labels key) ∧
          ∀ key, entryUnder? (live.merged wanted).annotations key =
            entryUnder? live.annotations key) ∧
      (live.merged wanted).merged wanted = live.merged wanted ∧
      (live.merged wanted).needsUpdate wanted none = false ∧
      (live.merged wanted).needsUpdate wanted (live.merged wanted).generation =
          false := by
  refine ⟨?detection, live.merged_merged wanted, ?unrecorded, ?recorded⟩
  case detection =>
    intro recorded
    rw [ObjectMeta.needsUpdate_eq_false_iff, ObjectMeta.isEdited_eq_false_iff,
      ObjectMeta.Covers, isCovered_iff_entryUnder?_layered,
      isCovered_iff_entryUnder?_layered, eq_comm (a := live.generation)]
    exact Iff.rfl
  case unrecorded => exact ObjectMeta.needsUpdate_merged (.inl rfl)
  case recorded => exact ObjectMeta.needsUpdate_merged (.inr rfl)

end HookKeeper
