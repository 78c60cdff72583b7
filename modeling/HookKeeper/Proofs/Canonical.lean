import HookKeeper.Proofs.MergePatch

/-!
# Values in order

A value in order has the members of every object in ascending order of their
keys.  Putting a value in order once is enough, and whatever is put into a value
in order, taken out of it or merged into it leaves it in order.
-/

namespace HookKeeper.Json.Value

/-- Members in order: their keys rise, and every value is in order. -/
structure Canonical (members : Members) : Prop where
  ascending : Ascending members
  inner : ∀ entry ∈ members, entry.2.sorted = entry.2

theorem canonical_nil : Canonical [] := ⟨ascending_nil, List.forall_mem_nil _⟩

theorem insertMember_of_above
    {key : String}
    {value : Value}
    {members : Members}
    (above : ∀ entry ∈ members, entry.1 < key) :
    insertMember key value members = members ++ [(key, value)] := by
  induction members with
  | nil => rfl
  | cons first rest ih =>
      rcases first with ⟨other, old⟩
      rcases List.forall_mem_cons.1 above with ⟨smaller, others⟩
      have later : ¬ key < other := String.lt_asymm smaller
      have differs : ¬ key = other := fun same =>
        String.lt_irrefl _ (same ▸ smaller)
      rw [insertMember, if_neg later, if_neg differs, ih others,
        List.cons_append]

/-- Members that rise above others are put behind them. -/
theorem sortedMembers_of_ascending
    {done rest : Members}
    (ascending : Ascending (done ++ rest))
    (inner : ∀ entry ∈ rest, entry.2.sorted = entry.2) :
    sortedMembers done rest = done ++ rest := by
  induction rest generalizing done with
  | nil => simp [sortedMembers]
  | cons first rest ih =>
      rcases first with ⟨key, value⟩
      rcases List.forall_mem_cons.1 inner with ⟨here, others⟩
      rcases List.pairwise_append.1 ascending with ⟨_, _, apart⟩
      have above : ∀ entry ∈ done, entry.1 < key := fun entry member =>
        apart entry member (key, value) List.mem_cons_self
      have whole : done ++ (key, value) :: rest = (done ++ [(key, value)]) ++
        rest := by simp
      rw [sortedMembers, here, insertMember_of_above above, whole]
      exact ih (whole ▸ ascending) others

theorem Canonical.sorted
    {members : Members}
    (canonical : Canonical members) :
    (Value.object members).sorted = .object members := by
  have whole : sortedMembers [] members = [] ++ members :=
    sortedMembers_of_ascending canonical.ascending canonical.inner
  rw [Value.sorted, whole, List.nil_append]

mutual

/-- A value that was put in order is in order. -/
theorem sorted_sorted : (value : Value) → value.sorted.sorted = value.sorted
  | .null => by simp [sorted]
  | .bool _ => by simp [sorted]
  | .number _ => by simp [sorted]
  | .text _ => by simp [sorted]
  | .array items => by simp [sorted, sortedItems_sortedItems items]
  | .object members => by
      rw [sorted]
      exact (canonical_sortedMembers canonical_nil members).sorted

theorem sortedItems_sortedItems :
    (items : List Value) →
    sortedItems (sortedItems items) = sortedItems items
  | [] => by simp [sortedItems]
  | item :: rest => by
    simp [sortedItems, sorted_sorted item, sortedItems_sortedItems rest]

theorem canonical_sortedMembers
    {done : Members}
    (canonical : Canonical done) :
    (members : List (String × Value)) → Canonical (sortedMembers done members)
  | [] => by simpa [sortedMembers] using canonical
  | (key, value) :: rest => by
      rw [sortedMembers]
      refine canonical_sortedMembers ⟨canonical.ascending.insertMember key _,
        ?_⟩ rest
      intro entry member
      rcases mem_insertMember member with rfl | old
      · exact sorted_sorted value
      · exact canonical.inner entry old

end

theorem canonical_iff {members : Members} :
    (Value.object members).sorted = .object members ↔ Canonical members := by
  constructor
  · intro same
    rw [Value.sorted] at same
    rw [← Value.object.inj same]
    exact canonical_sortedMembers canonical_nil members
  · exact Canonical.sorted

/-- The members of a value in order are in order. -/
theorem canonical_members
    {value : Value}
    (sorted : value.sorted = value) : Canonical value.members := by
  cases value with
  | object members => exact canonical_iff.1 sorted
  | _ => exact canonical_nil

namespace Canonical

variable {members : Members}

theorem insertMember
    (canonical : Canonical members)
    (key : String)
    {value : Value}
    (sorted : value.sorted = value) :
    Canonical (insertMember key value members) := by
  refine ⟨canonical.ascending.insertMember key value, fun entry member => ?_⟩
  rcases mem_insertMember member with rfl | old
  · exact sorted
  · exact canonical.inner entry old

theorem eraseMember
    (canonical : Canonical members)
    (key : String) : Canonical (eraseMember key members) :=
  ⟨canonical.ascending.eraseMember key,
    fun entry member => canonical.inner entry (List.mem_filter.1 member).1⟩

theorem lookup
    (canonical : Canonical members)
    {key : String}
    {value : Value}
    (found : Value.lookup key members = some value) : value.sorted = value :=
  canonical.inner _ (mem_of_lookup found)

end Canonical

theorem sorted_getD
    {value : Option Value}
    (sorted : ∀ given, value = some given → given.sorted = given) :
    (value.getD .null).sorted = value.getD .null := by
  cases value with
  | none => simp [Value.sorted]
  | some given => exact sorted given rfl

mutual

/-- What is merged in order into a value in order is in order. -/
theorem sorted_mergePatch
    {target : Value}
    (canonical : Canonical target.members) :
    (patch : Value) → patch.sorted = patch →
      (mergePatch target patch).sorted = mergePatch target patch
  | .object patch, sorted => by
      rw [mergePatch]
      exact (canonical_mergeMembers canonical patch
        (canonical_iff.1 sorted).inner).sorted
  | .null, _ => by simp [mergePatch, Value.sorted]
  | .bool _, _ => by simp [mergePatch, Value.sorted]
  | .number _, _ => by simp [mergePatch, Value.sorted]
  | .text _, _ => by simp [mergePatch, Value.sorted]
  | .array _, sorted => by simpa [mergePatch] using sorted

theorem canonical_mergeMembers
    {target : Members}
    (canonical : Canonical target) :
    (patch : List (String × Value)) →
      (∀ entry ∈ patch, entry.2.sorted = entry.2) →
      Canonical (mergeMembers target patch)
  | [], _ => by simpa [mergeMembers] using canonical
  | (key, change) :: rest, inner => by
      have here : change.sorted = change := inner _ List.mem_cons_self
      have others : ∀ entry ∈ rest, entry.2.sorted = entry.2 :=
        fun entry member =>
        inner entry (List.mem_cons_of_mem _ member)
      by_cases given : change = .null
      · rw [given, mergeMembers_null]
        exact canonical_mergeMembers (canonical.eraseMember key) rest others
      · rw [mergeMembers_some given]
        have before :
            Canonical ((Value.lookup key target).getD .null).members :=
          canonical_members (sorted_getD fun _ found => canonical.lookup found)
        exact canonical_mergeMembers
          (canonical.insertMember key (sorted_mergePatch before change here))
            rest others

end

end HookKeeper.Json.Value
