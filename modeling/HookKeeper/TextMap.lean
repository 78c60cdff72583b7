/-!
# Finite maps from texts to texts

Labels, annotations, node selectors and resource quantities are maps from
texts to texts.  A map is held as its entries in strictly ascending order of
their keys, so maps with the same entries are equal.  The main statements say
what `find?` gives after `insert` and after `layer`, and when one map is part of
another.
-/

namespace HookKeeper

/-- A finite map from texts to texts. -/
@[ext]
structure TextMap where
  /-- The entries, strictly ascending by key. -/
  entries : List (String × String)
  ordered : entries.Pairwise fun left right => left.1 < right.1
  deriving DecidableEq, Repr

namespace TextMap

/-- Put an entry into ascending entries, in place of one with the same key. -/
def insertEntry (key value : String) :
    List (String × String) → List (String × String)
  | [] => [(key, value)]
  | (other, old) :: rest =>
      if key < other then (key, value) :: (other, old) :: rest
      else if key = other then (key, value) :: rest
      else (other, old) :: insertEntry key value rest

/-- An entry after an insertion is the new one or was there before. -/
theorem mem_insertEntry
    {key value : String}
    {entry : String × String}
    {entries : List (String × String)}
    (member : entry ∈ insertEntry key value entries) :
    entry = (key, value) ∨ entry ∈ entries := by
  induction entries with
  | nil => simpa [insertEntry] using member
  | cons first rest ih =>
      obtain ⟨other, old⟩ := first
      rw [insertEntry] at member
      split at member
      · simpa using member
      · split at member
        · rcases List.mem_cons.1 member with here | later
          · exact Or.inl here
          · exact Or.inr (List.mem_cons_of_mem _ later)
        · rcases List.mem_cons.1 member with here | later
          · exact Or.inr (here ▸ List.mem_cons_self)
          · exact (ih later).imp id (List.mem_cons_of_mem _)

/-- Insertion keeps entries ascending. -/
theorem insertEntry_ordered
    (key value : String)
    {entries : List (String × String)}
    (ordered : entries.Pairwise fun left right => left.1 < right.1) :
    (insertEntry key value entries).Pairwise fun left right =>
        left.1 < right.1 := by
  induction entries with
  | nil => simp [insertEntry]
  | cons first rest ih =>
      obtain ⟨other, old⟩ := first
      obtain ⟨above, restOrdered⟩ := List.pairwise_cons.1 ordered
      rw [insertEntry]
      split
      next smaller =>
        refine List.pairwise_cons.2 ⟨fun entry member => ?_, ordered⟩
        rcases List.mem_cons.1 member with here | later
        · exact here ▸ smaller
        · exact String.lt_trans smaller (above entry later)
      next notSmaller =>
        split
        next same =>
          exact List.pairwise_cons.2 ⟨fun entry member =>
            same ▸ above entry member, restOrdered⟩
        next different =>
          have larger : other < key :=
            Decidable.byContradiction fun notLarger =>
              different
                (String.le_antisymm (String.not_lt.1 notLarger)
                  (String.not_lt.1 notSmaller))
          refine List.pairwise_cons.2 ⟨fun entry member => ?_, ih restOrdered⟩
          rcases mem_insertEntry member with here | later
          · exact here ▸ larger
          · exact above entry later

/-- The map without entries. -/
def empty : TextMap := ⟨[], List.Pairwise.nil⟩

instance : Inhabited TextMap := ⟨empty⟩

/-- The map with a key set to a value. -/
def insert (map : TextMap) (key value : String) : TextMap :=
  ⟨insertEntry key value map.entries, insertEntry_ordered key value map.ordered⟩

def find? (map : TextMap) (key : String) : Option String :=
  map.entries.lookup key

/-- The map of a list of entries; of entries with one key the last wins. -/
def ofList (entries : List (String × String)) : TextMap :=
  entries.foldl (fun map entry => map.insert entry.1 entry.2) empty

def isEmpty (map : TextMap) : Bool := map.entries.isEmpty

/-- The lower map with the entries of the upper one set over it. -/
def layer (lower upper : TextMap) : TextMap :=
  upper.entries.foldl (fun map entry => map.insert entry.1 entry.2) lower

/-- Whether every entry of a map is an entry of another. -/
def isSubmap (part whole : TextMap) : Bool :=
  part.entries.all fun entry => whole.find? entry.1 == some entry.2

@[simp]
theorem find?_empty (key : String) : empty.find? key = none := rfl

private theorem lookup_insertEntry
    (key value other : String)
    (entries : List (String × String)) :
    (insertEntry key value entries).lookup other =
      if other = key then some value else entries.lookup other := by
  induction entries with
  | nil =>
      by_cases same : other = key
      · simp [insertEntry, same]
      · have differs : (other == key) = false := by simpa using same
        simp [insertEntry, List.lookup_cons, same, differs]
  | cons first rest ih =>
      obtain ⟨head, old⟩ := first
      rw [insertEntry]
      by_cases same : other = key
      · subst same
        split
        · simp
        · split
          · simp
          next different =>
            have differs : (other == head) = false := by simpa using different
            simp [List.lookup_cons, differs, ih]
      · have differs : (other == key) = false := by simpa using same
        split
        · simp [List.lookup_cons, differs]
        · split
          next equal => simp [List.lookup_cons, differs, ← equal]
          next => simp [List.lookup_cons, same, ih]

/--
A look-up after an insertion finds the new value at its key and the old ones
elsewhere.
-/
@[simp]
theorem find?_insert
    (map : TextMap)
    (key value other : String) :
    (map.insert key value).find? other = if other = key then some value
        else map.find? other :=
  lookup_insertEntry key value other map.entries

private theorem lookup_eq_none_of_above
    {key : String}
    {entries : List (String × String)}
    (above : ∀ entry ∈ entries, key < entry.1) : entries.lookup key = none := by
  induction entries with
  | nil => rfl
  | cons first rest ih =>
      have here : key < first.1 := above first List.mem_cons_self
      have differs : (key == first.1) = false := by
        simpa using fun same : key = first.1 =>
          String.lt_irrefl key (same ▸ here)
      rw [List.lookup_cons, differs]
      exact ih fun entry member => above entry (List.mem_cons_of_mem _ member)

private theorem find?_foldl_insert
    (key : String)
    {entries : List (String × String)}
    (ordered : entries.Pairwise fun left right => left.1 < right.1)
    (lower : TextMap) :
    (entries.foldl (fun map entry => map.insert entry.1 entry.2)
        lower).find? key =
      (entries.lookup key).or (lower.find? key) := by
  induction entries generalizing lower with
  | nil => rfl
  | cons first rest ih =>
      obtain ⟨above, restOrdered⟩ := List.pairwise_cons.1 ordered
      rw [List.foldl_cons, ih restOrdered, find?_insert, List.lookup_cons]
      by_cases same : key = first.1
      · subst same
        simp [lookup_eq_none_of_above above]
      · have differs : (key == first.1) = false := by simpa using same
        simp [same, differs]

/--
A look-up in layered maps finds the value of the upper map before that of the
lower one.
-/
@[simp]
theorem find?_layer
    (lower upper : TextMap)
    (key : String) :
    (lower.layer upper).find? key = (upper.find? key).or (lower.find? key) :=
  find?_foldl_insert key upper.ordered lower

private theorem lookup_eq_some_iff_mem
    {entries : List (String × String)}
    (ordered : entries.Pairwise fun left right => left.1 < right.1)
    {key value : String} :
    entries.lookup key = some value ↔ (key, value) ∈ entries := by
  induction entries with
  | nil => simp
  | cons first rest ih =>
      obtain ⟨above, restOrdered⟩ := List.pairwise_cons.1 ordered
      rw [List.lookup_cons]
      by_cases same : key = first.1
      · subst same
        have absent : (first.1, value) ∉ rest := fun member =>
          String.lt_irrefl first.1 (above (first.1, value) member)
        have unpack : (first.1, value) = first ↔ first.2 = value :=
          ⟨fun equal => equal ▸ rfl, fun equal => equal ▸ rfl⟩
        simp [absent, unpack]
      · have differs : (key == first.1) = false := by simpa using same
        have other : (key, value) ≠ first := fun equal => same (equal ▸ rfl)
        simp [differs, ih restOrdered, other]

/-- The entries of a map are what its look-ups find. -/
theorem find?_eq_some_iff
    (map : TextMap)
    (key value : String) :
    map.find? key = some value ↔ (key, value) ∈ map.entries :=
  lookup_eq_some_iff_mem map.ordered

/-- A map is part of another when the other finds whatever it finds. -/
theorem isSubmap_iff (part whole : TextMap) :
    part.isSubmap whole = true ↔
      ∀ key value, part.find? key = some value →
          whole.find? key = some value := by
  simp [isSubmap, find?_eq_some_iff]

/-- The upper of two layered maps is part of them. -/
theorem isSubmap_layer (lower upper : TextMap) :
    upper.isSubmap (lower.layer upper) = true :=
  (isSubmap_iff upper (lower.layer upper)).2 fun key value found => by
    simp [found]

end TextMap

end HookKeeper
