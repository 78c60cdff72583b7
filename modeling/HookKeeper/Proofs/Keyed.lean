import HookKeeper.Operator.Resource
import Mathlib.Data.List.Nodup

/-!
# Lists kept by key

The conditions and the records of the operator are lists in which an entry is
found by its key and the first one of a key counts.  Both are edited in the same
way: the first entry of a key is changed, or a new one is added at the end.  The
main statement says what a series of such edits does to the list as a whole:
every entry keeps its place and its key, only the first entry of an edited key
may be another, and each edited key that had no entry gets one at the end.
-/

namespace HookKeeper

variable {α κ : Type} {key : α → κ}

/-! ## Edits -/

/--
What becomes of the first entry of a key, and the entry that is added where
there is none.
-/
structure KeyedEdit (key : α → κ) where
  about : κ
  change : α → α
  added : α
  key_change : ∀ entry, key (change entry) = key entry
  key_added : key added = about

namespace KeyedEdit

variable [DecidableEq κ]

def on (edit : KeyedEdit key) : List α → List α
  | [] => [edit.added]
  | entry :: rest =>
      if key entry = edit.about then edit.change entry :: rest
      else entry :: edit.on rest

/-- A list after a series of edits. -/
def onAll (edits : List (KeyedEdit key)) (entries : List α) : List α :=
  edits.foldl (fun entries edit => edit.on entries) entries

@[simp]
theorem onAll_nil (entries : List α) :
    onAll ([] : List (KeyedEdit key)) entries = entries := rfl

@[simp]
theorem onAll_cons
    (edit : KeyedEdit key)
    (edits : List (KeyedEdit key))
    (entries : List α) :
    onAll (edit :: edits) entries = onAll edits (edit.on entries) := rfl

/--
Edits of two keys may be made in either order, unless neither has an entry.
-/
theorem on_comm
    (first second : KeyedEdit key)
    (different : first.about ≠ second.about)
    {entries : List α}
    (known : first.about ∈ entries.map key ∨ second.about ∈ entries.map key) :
    second.on (first.on entries) = first.on (second.on entries) := by
  induction entries with
  | nil => simp at known
  | cons entry rest ih =>
      by_cases ofFirst : key entry = first.about
      · simp [on, ofFirst, first.key_change, different]
      · by_cases ofSecond : key entry = second.about
        · simp [on, ofSecond, second.key_change, Ne.symm different]
        · have later : first.about ∈ rest.map key ∨
              second.about ∈ rest.map key := by
            simpa [Ne.symm ofFirst, Ne.symm ofSecond] using known
          simp [on, ofFirst, ofSecond, ih later]

/-- What an edit leaves of every entry stays in its place. -/
theorem labels_on
    {β : Type}
    {label : α → β}
    {edit : KeyedEdit key}
    (keeps : ∀ entry, label (edit.change entry) = label entry)
    (entries : List α) :
    entries.map label <+: (edit.on entries).map label := by
  induction entries with
  | nil => exact List.nil_prefix
  | cons entry rest ih =>
      rw [on]
      split
      · exact ⟨[], by rw [List.append_nil, List.map_cons, List.map_cons, keeps]⟩
      · exact (List.prefix_cons_inj _).2 ih

theorem labels_onAll
    {β : Type}
    {label : α → β}
    {edits : List (KeyedEdit key)}
    (keeps : ∀ edit ∈ edits, ∀ entry, label (edit.change entry) = label entry)
    (entries : List α) :
    entries.map label <+: (onAll edits entries).map label := by
  induction edits generalizing entries with
  | nil => exact List.prefix_refl _
  | cons edit edits ih =>
      rw [onAll_cons]
      apply (labels_on (keeps edit List.mem_cons_self) entries).trans
      apply ih
      intro later member
      exact keeps later (List.mem_cons_of_mem _ member)

end KeyedEdit

/-! ## Revisions -/

/--
A list becomes another one by changes under some keys.  Its entries keep their
places and keys, and one entry is added at the end for each of these keys that
had none.  An entry stays as it is unless it is the first of one of these keys.
-/
structure Revision
    (key : α → κ)
    (keys : List κ)
    (before after : List α) : Prop where
  places : ∃ added : List κ, after.map key = before.map key ++ added ∧
    added.Nodup ∧
    ∀ wanted, wanted ∈ added ↔ wanted ∈ keys ∧ wanted ∉ before.map key
  kept : ∀ index entry, before[index]? = some entry →
    key entry ∉ keys ∨ key entry ∈ (before.take index).map key →
      after[index]? = some entry

namespace Revision

variable {keys others : List κ} {before between after : List α}

theorem refl (entries : List α) : Revision key [] entries entries where
  places := ⟨[], by simp⟩
  kept := fun _ _ found _ => found

/-- A revision stays one behind an entry of another key. -/
theorem cons
    (revision : Revision key keys before after)
    {entry : α}
    (other : key entry ∉ keys) :
    Revision key keys (entry :: before) (entry :: after) := by
  constructor
  case places =>
    obtain ⟨added, whole, distinct, members⟩ := revision.places
    refine ⟨added, by simp [whole], distinct, ?_⟩
    intro wanted
    rw [members, List.map_cons, List.mem_cons, not_or]
    constructor
    · rintro ⟨edited, absent⟩
      exact ⟨edited, fun same => other (same ▸ edited), absent⟩
    · rintro ⟨edited, _, absent⟩
      exact ⟨edited, absent⟩
  case kept =>
    intro index found place untouched
    cases index with
    | zero => exact place
    | succ index =>
        apply revision.kept index found place
        by_cases edited : key found ∈ keys
        · have earlier := untouched.resolve_left (not_not_intro edited)
          rw [List.take_succ_cons, List.map_cons, List.mem_cons] at earlier
          exact .inr (earlier.resolve_left fun same => other (same ▸ edited))
        · exact .inl edited

/-- Revisions that follow one another are a revision under the keys of both. -/
theorem trans
    (first : Revision key keys before between)
    (second : Revision key others between after) :
    Revision key (keys ++ others) before after := by
  obtain ⟨added, whole, distinct, members⟩ := first.places
  obtain ⟨more, wholeMore, distinctMore, membersMore⟩ := second.places
  constructor
  case places =>
    refine ⟨added ++ more, by rw [wholeMore, whole, List.append_assoc], ?_, ?_⟩
    · refine List.nodup_append.2 ⟨distinct, distinctMore, ?_⟩
      rintro wanted here _ there rfl
      apply ((membersMore wanted).1 there).2
      rw [whole]
      exact List.mem_append_right _ here
    · intro wanted
      rw [List.mem_append, List.mem_append, membersMore, whole, List.mem_append,
        members]
      tauto
  case kept =>
    intro index entry place untouched
    have bound : index < before.length := (List.getElem?_eq_some_iff.1 place).1
    -- What comes before an old entry has the same keys after the first
    -- revision.
    have sameKeys : (between.take index).map key =
        (before.take index).map key := by
      rw [List.map_take, List.map_take, whole,
        List.take_append_of_le_length (by simpa using Nat.le_of_lt bound)]
    have here : between[index]? = some entry := by
      apply first.kept index entry place
      exact untouched.imp_left fun absent edited =>
        absent (List.mem_append_left _ edited)
    apply second.kept index entry here
    rw [sameKeys]
    exact untouched.imp_left fun absent edited =>
      absent (List.mem_append_right _ edited)

/-- Entries of other keys stay as they are and in their order. -/
theorem filter_others
    [DecidableEq κ]
    (revision : Revision key keys before after) :
    after.filter (key · ∉ keys) = before.filter (key · ∉ keys) := by
  obtain ⟨added, whole, _, members⟩ := revision.places
  have edited : ∀ wanted ∈ added, wanted ∈ keys := fun wanted member =>
    ((members wanted).1 member).1
  -- The tail of a list is no revision under these keys, but entries of other
  -- keys are kept in it.
  have kept : ∀ index entry, before[index]? = some entry → key entry ∉ keys →
      after[index]? = some entry :=
    fun index entry place other => revision.kept index entry place (.inl other)
  clear revision members
  induction before generalizing after with
  | nil =>
      rw [List.map_nil, List.nil_append] at whole
      refine List.filter_eq_nil_iff.2 ?_
      intro entry member
      have present : key entry ∈ added := whole ▸ List.mem_map_of_mem member
      simpa using edited _ present
  | cons old rest ih =>
      cases after with
      | nil => simp at whole
      | cons new later =>
          obtain ⟨sameKey, sameKeys⟩ := List.cons.inj whole
          have tail := ih sameKeys fun index entry place other =>
            kept (index + 1) entry place other
          by_cases other : key old ∈ keys
          · rw [List.filter_cons_of_neg (by simpa [sameKey] using other),
              List.filter_cons_of_neg (by simpa using other), tail]
          · have same : new = old := Option.some.inj (kept 0 old rfl other)
            rw [same, List.filter_cons, List.filter_cons, tail]

/-- A key that had at most one entry has at most one still. -/
theorem count_le_one
    [DecidableEq κ]
    (revision : Revision key keys before after)
    {wanted : κ}
    (single : (before.map key).count wanted ≤ 1) :
    (after.map key).count wanted ≤ 1 := by
  obtain ⟨added, whole, distinct, members⟩ := revision.places
  rw [whole, List.count_append]
  by_cases member : wanted ∈ added
  · have absent : (before.map key).count wanted = 0 :=
      List.count_eq_zero.2 ((members wanted).1 member).2
    have once : added.count wanted ≤ 1 :=
      List.nodup_iff_count_le_one.1 distinct wanted
    omega
  · rw [List.count_eq_zero.2 member]
    exact single

end Revision

namespace KeyedEdit

variable [DecidableEq κ]

theorem revision_on
    (edit : KeyedEdit key)
    (entries : List α) :
    Revision key [edit.about] entries (edit.on entries) := by
  induction entries with
  | nil =>
      constructor
      case places => exact ⟨[edit.about], by simp [on, edit.key_added]⟩
      case kept =>
        intro index entry place
        cases place
  | cons entry rest ih =>
      rw [on]
      split
      next own =>
        constructor
        case places => exact ⟨[], by simp [edit.key_change, own]⟩
        case kept =>
          intro index found place untouched
          cases index with
          | zero =>
              -- The first entry is the one that was edited.
              cases place
              simp [own] at untouched
          | succ index => exact place
      next other => exact ih.cons (by simpa using other)

/-- A series of edits revises a list under the keys of the edits. -/
theorem revision_onAll
    (edits : List (KeyedEdit key))
    (entries : List α) :
    Revision key (edits.map about) entries (onAll edits entries) := by
  induction edits generalizing entries with
  | nil => exact .refl entries
  | cons edit edits ih =>
      exact (edit.revision_on entries).trans (ih (edit.on entries))

end KeyedEdit

/-! ## Series of steps, seen under a key -/

/--
What is seen of a state is what the steps that concern it make of what was seen
first.
-/
theorem foldl_seen
    {σ τ β : Type}
    (step : σ → τ → σ)
    (seen : σ → β)
    (concerns : τ → Bool)
    (act : β → τ → β)
    (law : ∀ state move, seen (step state move) = if concerns move then act
      (seen state) move else seen state)
    (moves : List τ)
    (state : σ) :
    seen (moves.foldl step state) = (moves.filter concerns).foldl act
        (seen state) := by
  induction moves generalizing state with
  | nil => rfl
  | cons move moves ih =>
      rw [List.foldl_cons, ih, law]
      by_cases concerned : concerns move = true
      · rw [if_pos concerned, List.filter_cons_of_pos concerned,
          List.foldl_cons]
      · rw [if_neg concerned, List.filter_cons_of_neg concerned]

/--
The last entry of a list is the last one after its head, or else the head.
-/
theorem getLast?_cons_eq_or
    {τ : Type}
    (first : τ)
    (rest : List τ) :
    (first :: rest).getLast? = rest.getLast?.or (some first) := by
  rw [List.getLast?_cons]
  cases rest.getLast? <;> rfl

/-- Where every step that has a value sets it, the last one counts. -/
theorem foldl_or
    {τ β : Type}
    (value : τ → Option β)
    (moves : List τ)
    (start : Option β) :
    moves.foldl (fun found move => (value move).or found) start =
      (moves.filterMap value).getLast?.or start := by
  induction moves generalizing start with
  | nil => rfl
  | cons move moves ih =>
      rw [List.foldl_cons, ih]
      cases known : value move with
      | none => rw [List.filterMap_cons_none known, Option.none_or]
      | some found =>
          rw [List.filterMap_cons_some known, getLast?_cons_eq_or,
            Option.or_assoc]

end HookKeeper
