import HookKeeper.Json.Value

/-!
# Members after a merge patch

Members in ascending order of their keys hold at most one value for each key,
so a look-up says everything about them.  Sorting makes members ascending at
every depth, and putting in, taking out and merging keep them so.  The main
statement says what a look-up finds after a merge patch: what the patch says of
the key, and what was there before where the patch does not name it.
-/

namespace HookKeeper.Json.Value

/-- Members whose keys rise strictly. -/
def Ascending (members : Members) : Prop := members.Pairwise fun left right =>
    left.1 < right.1

theorem ascending_nil : Ascending [] := List.Pairwise.nil

theorem Ascending.nodup
    {members : Members}
    (ascending : Ascending members) : (members.map Prod.fst).Nodup := by
  rw [List.Nodup, List.pairwise_map]
  refine ascending.imp ?_
  intro left right smaller same
  rw [same] at smaller
  exact String.lt_irrefl _ smaller

theorem Ascending.eraseMember
    {members : Members}
    (ascending : Ascending members)
    (key : String) : Ascending (eraseMember key members) :=
  ascending.filter _

theorem mem_insertMember
    {key : String}
    {value : Value}
    {entry : String × Value}
    {members : Members}
    (member : entry ∈ insertMember key value members) :
    entry = (key, value) ∨ entry ∈ members := by
  induction members with
  | nil => exact Or.inl (List.mem_singleton.1 member)
  | cons first rest ih =>
      rcases first with ⟨other, old⟩
      rw [insertMember] at member
      split at member
      · exact List.mem_cons.1 member
      · split at member
        · rcases List.mem_cons.1 member with here | later
          · exact Or.inl here
          · exact Or.inr (List.mem_cons_of_mem _ later)
        · rcases List.mem_cons.1 member with here | later
          · exact Or.inr (here ▸ List.mem_cons_self)
          · rcases ih later with new | old
            · exact Or.inl new
            · exact Or.inr (List.mem_cons_of_mem _ old)

theorem Ascending.insertMember
    {members : Members}
    (ascending : Ascending members)
    (key : String)
    (value : Value) :
    Ascending (insertMember key value members) := by
  induction members with
  | nil => exact List.pairwise_singleton _ _
  | cons first rest ih =>
      rcases first with ⟨other, old⟩
      rcases List.pairwise_cons.1 ascending with ⟨above, restAscending⟩
      rw [Value.insertMember]
      split
      next smaller =>
        refine List.pairwise_cons.2 ⟨fun entry member => ?_, ascending⟩
        rcases List.mem_cons.1 member with here | later
        · exact here ▸ smaller
        · exact String.lt_trans smaller (above entry later)
      next notSmaller =>
        split
        next same =>
          exact List.pairwise_cons.2 ⟨fun entry member =>
            same ▸ above entry member, restAscending⟩
        next different =>
          have larger : other < key :=
            Decidable.byContradiction fun notLarger =>
              different
                (String.le_antisymm (String.not_lt.1 notLarger)
                  (String.not_lt.1 notSmaller))
          refine List.pairwise_cons.2 ⟨fun entry member => ?_, ih restAscending⟩
          rcases mem_insertMember member with here | later
          · exact here ▸ larger
          · exact above entry later

/-! ## Sorted values -/

theorem ascending_sortedMembers
    {done : Members}
    (ascending : Ascending done)
    (members : List (String × Value)) :
    Ascending (sortedMembers done members) := by
  induction members generalizing done with
  | nil => simpa [sortedMembers] using ascending
  | cons first rest ih =>
      rcases first with ⟨key, value⟩
      rw [sortedMembers]
      exact ih (ascending.insertMember key (sorted value))

theorem mem_sortedMembers
    {done : Members}
    {members : List (String × Value)}
    {entry : String × Value}
    (member : entry ∈ sortedMembers done members) :
    entry ∈ done ∨ ∃ inner, sorted inner = entry.2 := by
  induction members generalizing done with
  | nil => exact Or.inl (by simpa [sortedMembers] using member)
  | cons first rest ih =>
      rcases first with ⟨key, value⟩
      rw [sortedMembers] at member
      rcases ih member with inserted | inner
      · rcases mem_insertMember inserted with new | old
        · exact Or.inr ⟨value, new ▸ rfl⟩
        · exact Or.inl old
      · exact Or.inr inner

/-- The members of a sorted object are those that were sorted. -/
theorem object_of_sorted
    {value : Value}
    {members : Members}
    (sorted : value.sorted = .object members) :
    ∃ written, value = .object written ∧
        members = sortedMembers [] written := by
  cases value with
  | object written =>
      simp only [Value.sorted] at sorted
      cases sorted
      exact ⟨written, rfl, rfl⟩
  | _ => simp [Value.sorted] at sorted

theorem ascending_of_sorted
    {value : Value}
    {members : Members}
    (sorted : value.sorted = .object members) : Ascending members := by
  rcases object_of_sorted sorted with ⟨written, rfl, rfl⟩
  exact ascending_sortedMembers ascending_nil written

theorem member?_eq
    (key : String)
    (value : Value) :
    value.member? key = lookup key value.members := by
  cases value <;> rfl

theorem mem_of_lookup
    {key : String}
    {value : Value}
    {members : Members}
    (found : lookup key members = some value) : (key, value) ∈ members := by
  unfold lookup at found
  induction members with
  | nil => cases found
  | cons first rest ih =>
      rcases first with ⟨other, old⟩
      rw [List.lookup_cons] at found
      split at found
      next same =>
        cases found
        rw [beq_iff_eq.1 same]
        exact List.mem_cons_self
      next => exact List.mem_cons_of_mem _ (ih found)

theorem lookup_eq_none
    {key : String}
    {members : Members}
    (absent : key ∉ members.map Prod.fst) : lookup key members = none := by
  cases found : lookup key members with
  | none => rfl
  | some value =>
      exact absurd (List.mem_map.2 ⟨_, mem_of_lookup found, rfl⟩) absent

theorem sorted_of_lookup
    {value : Value}
    {members : Members}
    (sorted : value.sorted = .object members)
    {key : String}
    {found : Value}
    (here : lookup key members = some found) :
    ∃ inner : Value, inner.sorted = found := by
  rcases object_of_sorted sorted with ⟨written, rfl, rfl⟩
  rcases mem_sortedMembers (mem_of_lookup here) with impossible | inner
  · cases impossible
  · exact inner

/-! ## Merge patches -/

theorem mergePatch_object
    (target : Value)
    (patch : List (String × Value)) :
    mergePatch target (.object patch) = .object
        (mergeMembers target.members patch) := by
  simp only [mergePatch]

theorem mergePatch_replacement
    {change : Value}
    (given : ∀ members, change ≠ .object members)
    (target : Value) : mergePatch target change = change := by
  cases change with
  | object members => exact absurd rfl (given members)
  | _ => simp only [mergePatch]

/--
What a patch makes of the value under a key, given what it says of the key.
-/
def patched (before : Option Value) : Option Value → Option Value
  | none => before
  | some .null => none
  | some change => some (mergePatch (before.getD .null) change)

theorem patched_some
    {change : Value}
    (given : change ≠ .null)
    (before : Option Value) :
    patched before (some change) =
        some (mergePatch (before.getD .null) change) := by
  cases change with
  | null => exact absurd rfl given
  | _ => rfl

theorem patched_replacement
    {change : Value}
    (given : change ≠ .null)
    (plain : ∀ members, change ≠ .object members)
    (before : Option Value) :
    patched before (some change) = some change := by
  rw [patched_some given, mergePatch_replacement plain]

theorem mergeMembers_null
    (target : Members)
    (key : String)
    (rest : List (String × Value)) :
    mergeMembers target ((key, .null) :: rest) = mergeMembers
        (eraseMember key target) rest := by
  simp only [mergeMembers]

theorem mergeMembers_some
    {change : Value}
    (given : change ≠ .null)
    (target : Members)
    (key : String)
    (rest : List (String × Value)) :
    mergeMembers target ((key, change) :: rest) =
      mergeMembers
        (insertMember key (mergePatch ((lookup key target).getD .null) change)
            target) rest := by
  cases change with
  | null => exact absurd rfl given
  | _ => simp only [mergeMembers]

/-- One member of a patch changes what is found under its key. -/
theorem lookup_mergeMembers_cons
    (target : Members)
    (key : String)
    (change : Value)
    (rest : List (String × Value)) :
    ∃ changed,
      mergeMembers target ((key, change) :: rest) = mergeMembers changed rest ∧
        (Ascending target → Ascending changed) ∧
        ∀ other, lookup other changed =
          if other = key then patched (lookup key target) (some change)
          else lookup other target := by
  by_cases given : change = .null
  · subst given
    exact ⟨eraseMember key target, mergeMembers_null target key rest,
      fun ascending => ascending.eraseMember key, fun other =>
        lookup_eraseMember key other target⟩
  · refine ⟨_, mergeMembers_some given target key rest,
      fun ascending => ascending.insertMember key _, fun other => ?_⟩
    rw [patched_some given]
    exact lookup_insertMember key other _ target

theorem Ascending.mergeMembers
    {target : Members}
    (ascending : Ascending target)
    (patch : List (String × Value)) :
    Ascending (mergeMembers target patch) := by
  induction patch generalizing target with
  | nil => simpa [Value.mergeMembers] using ascending
  | cons first rest ih =>
      rcases first with ⟨key, change⟩
      rcases lookup_mergeMembers_cons target key change rest with
        ⟨changed, merged, keeps, _⟩
      rw [merged]
      exact ih (keeps ascending)

/--
After a merge patch that names no key twice, a look-up finds what the patch
makes of the value that was there.
-/
theorem lookup_mergeMembers
    {target : Members}
    {patch : List (String × Value)}
    (distinct : (patch.map Prod.fst).Nodup)
    (key : String) :
    lookup key (mergeMembers target patch) = patched (lookup key target)
        (lookup key patch) := by
  induction patch generalizing target with
  | nil => simp [mergeMembers, lookup, patched]
  | cons first rest ih =>
      rcases first with ⟨own, change⟩
      rcases List.nodup_cons.1 distinct with ⟨fresh, restDistinct⟩
      rcases lookup_mergeMembers_cons target own change rest with
        ⟨changed, merged, _, found⟩
      rw [merged, ih restDistinct, found key]
      by_cases same : key = own
      · subst same
        rw [if_pos rfl, lookup_eq_none fresh]
        simp [patched, lookup]
      · have differs : (key == own) = false := by simpa using same
        rw [if_neg same]
        simp [lookup, List.lookup_cons, differs]

/-- A patch that does not name a key keeps what is found under it. -/
theorem member?_mergePatch_absent
    {key : String}
    {patch : Members}
    (distinct : (patch.map Prod.fst).Nodup)
    (absent : lookup key patch = none)
    (target : Value) :
    (mergePatch target (.object patch)).member? key = target.member? key := by
  rw [mergePatch_object, member?, lookup_mergeMembers distinct, absent,
    member?_eq]
  rfl

end HookKeeper.Json.Value
