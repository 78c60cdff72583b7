import HookKeeper.Yaml.Document

/-!
# Nodes of documents in block style

The tokens of a node in block style are read back as that node, whatever
follows them.  A path leads from the root of such a document to one of its
values.  What stands there is read by itself: whatever its tokens are, the node
of the whole document has what was read at the end of the path, and where the
tokens after it are those of the document, all the rest is as it was.
-/

namespace HookKeeper.Yaml

/-- A node in block style, without anchors, aliases and tags. -/
inductive Outline where
  | leaf (text : String) (style : Style)
  | list (items : List Outline)
  | record (entries : List (String × Outline))

namespace Outline

mutual

def node : Outline → Node
  | leaf text style => .scalar text style none
  | list items => .sequence (itemNodes items)
  | record entries => .mapping (entryNodes entries)

/-- The nodes of items. -/
def itemNodes : List Outline → List Node
  | [] => []
  | item :: rest => node item :: itemNodes rest

/-- The nodes of entries. -/
def entryNodes : List (String × Outline) → List (Node × Node)
  | [] => []
  | (key, value) :: rest =>
      (.scalar key .plain none, node value) :: entryNodes rest

end

mutual

def tokens : Outline → List Token
  | leaf text style => [.scalar text style]
  | list items => .blockSequenceStart :: (itemTokens items ++ [.blockEnd])
  | record entries => .blockMappingStart :: (entryTokens entries ++ [.blockEnd])

/-- The tokens of items. -/
def itemTokens : List Outline → List Token
  | [] => []
  | item :: rest => .blockEntry :: (tokens item ++ itemTokens rest)

/-- The tokens of entries. -/
def entryTokens : List (String × Outline) → List Token
  | [] => []
  | (key, value) :: rest =>
      .key :: .scalar key .plain :: .value :: (tokens value ++ entryTokens rest)

end

mutual

/-- A number of steps that reading the tokens does not use up. -/
def cost : Outline → Nat
  | leaf _ _ => 2
  | list items => itemCost items + 3
  | record entries => entryCost entries + 3

/-- The number of steps for items. -/
def itemCost : List Outline → Nat
  | [] => 0
  | item :: rest => cost item + itemCost rest + 1

/-- The number of steps for entries. -/
def entryCost : List (String × Outline) → Nat
  | [] => 0
  | (_, value) :: rest => cost value + entryCost rest + 1

end

theorem two_le_cost (outline : Outline) : 2 ≤ outline.cost := by
  cases outline <;> simp only [cost] <;> omega

theorem length_le_itemCost (items : List Outline) :
    items.length ≤ itemCost items := by
  induction items with
  | nil => exact Nat.le_refl 0
  | cons item items ih =>
      rw [List.length_cons, itemCost]
      omega

theorem length_le_entryCost (entries : List (String × Outline)) :
    entries.length ≤ entryCost entries := by
  induction entries with
  | nil => exact Nat.le_refl 0
  | cons entry entries ih =>
      rw [List.length_cons, entryCost]
      omega

end Outline

namespace Reading

open Outline

section

variable (reading : Reading) (first rest : List Token)

@[simp]
theorem tokens_withTokens : (reading.withTokens first).tokens = first := rfl

@[simp]
theorem withTokens_withTokens :
    (reading.withTokens first).withTokens rest = reading.withTokens rest := rfl

/-- Whether a token is no alias and no part of the properties of a node. -/
def isBare : Token → Bool
  | .alias _ | .anchor _ | .tag _ _ => false
  | _ => true

theorem node?_of_isBare
    {token : Token}
    (bare : isBare token = true)
    (fuel : Nat)
    (block indentless : Bool) :
    node? (fuel + 1) block indentless (reading.withTokens (token :: rest)) =
      content? fuel block indentless true none
        (reading.withTokens (token :: rest)) := by
  have same :
      ((content? fuel block indentless true none
          (reading.withTokens (token :: rest))).bind fun found =>
        some (found.1, found.2)) =
        content? fuel block indentless true none
          (reading.withTokens (token :: rest)) :=
    Option.bind_fun_some _
  cases token with
  | «alias» | anchor | tag => exact absurd bare Bool.false_ne_true
  | _ => exact same

/-! ## Parts of block collections -/

/-- An item of a block sequence. -/
def item? (fuel : Nat) (reading : Reading) : Option (Node × Reading) :=
  if endsBlockItem reading.tokens then some (Node.missing, reading)
  else node? fuel true false reading

/-- The value of an entry of a block mapping. -/
def entryValue? (fuel : Nat) (reading : Reading) : Option (Node × Reading) :=
  if endsBlockPart reading.tokens then some (Node.missing, reading)
  else node? fuel true true reading

/-- The items of a block sequence after others, and its end. -/
def moreItems?
    (before : List Node)
    (fuel : Nat)
    (reading : Reading) : Option (List Node × Reading) :=
  (blockItems? fuel reading).map fun (items, reading) =>
    (before ++ items, reading)

/-- The entries of a block mapping after others, and its end. -/
def moreEntries?
    (before : List (Node × Node))
    (fuel : Nat)
    (reading : Reading) : Option (List (Node × Node) × Reading) :=
  (blockEntries? fuel reading).map fun (entries, reading) =>
    (before ++ entries, reading)

theorem moreItems?_nil (fuel : Nat) :
    moreItems? [] fuel reading = blockItems? fuel reading := by
  rw [moreItems?]
  cases blockItems? fuel reading <;> rfl

theorem moreEntries?_nil (fuel : Nat) :
    moreEntries? [] fuel reading = blockEntries? fuel reading := by
  rw [moreEntries?]
  cases blockEntries? fuel reading <;> rfl

theorem moreItems?_blockEntry
    (before : List Node)
    (fuel : Nat) :
    moreItems? before (fuel + 1)
        (reading.withTokens (.blockEntry :: rest)) =
      (item? fuel (reading.withTokens rest)).bind fun (item, reading) =>
        moreItems? (before ++ [item]) fuel reading := by
  simp only [moreItems?, Option.map_eq_bind, List.append_assoc]
  rw [blockItems?, item?]
  cases ends : endsBlockItem rest <;>
    simp only [tokens_withTokens, withTokens_withTokens, ends,
      Option.bind_eq_bind, Option.bind_assoc, Bool.false_eq_true, if_false,
      if_true] <;>
    rfl

theorem moreEntries?_key
    (before : List (Node × Node))
    (key : String)
    (fuel : Nat) :
    moreEntries? before (fuel + 3)
        (reading.withTokens (.key :: .scalar key .plain :: .value :: rest)) =
      (entryValue? (fuel + 2) (reading.withTokens rest)).bind
        fun (value, reading) =>
          moreEntries? (before ++ [(.scalar key .plain none, value)])
            (fuel + 2) reading := by
  have named : node? (fuel + 2) true true
      (reading.withTokens (.scalar key .plain :: .value :: rest)) =
        some (.scalar key .plain none, reading.withTokens (.value :: rest)) :=
    node?_of_isBare reading _ rfl (fuel + 1) true true
  have starts :
      endsBlockPart (.scalar key .plain :: .value :: rest) = false := rfl
  simp only [moreEntries?, Option.map_eq_bind, List.append_assoc]
  rw [blockEntries?, entryValue?]
  cases ends : endsBlockPart rest <;>
    simp only [tokens_withTokens, withTokens_withTokens, starts, named, ends,
      Option.bind_eq_bind, Option.bind_some, Option.bind_assoc,
      Bool.false_eq_true, if_false, if_true] <;>
    rfl

theorem moreItems?_blockEnd
    (before : List Node)
    (fuel : Nat) :
    moreItems? before (fuel + 1) (reading.withTokens (.blockEnd :: rest)) =
      some (before, reading.withTokens rest) := by
  show some (before ++ [], _) = _
  rw [List.append_nil]
  rfl

theorem moreEntries?_blockEnd
    (before : List (Node × Node))
    (fuel : Nat) :
    moreEntries? before (fuel + 1) (reading.withTokens (.blockEnd :: rest)) =
      some (before, reading.withTokens rest) := by
  show some (before ++ [], _) = _
  rw [List.append_nil]
  rfl

theorem node?_blockSequenceStart
    (fuel : Nat)
    (indentless : Bool) :
    node? (fuel + 2) true indentless
        (reading.withTokens (.blockSequenceStart :: rest)) =
      (moreItems? [] fuel (reading.withTokens rest)).map
        fun (items, reading) => (.sequence items, reading) := by
  rw [node?_of_isBare reading rest rfl, moreItems?_nil]
  cases indentless <;> rfl

theorem node?_blockMappingStart
    (fuel : Nat)
    (indentless : Bool) :
    node? (fuel + 2) true indentless
        (reading.withTokens (.blockMappingStart :: rest)) =
      (moreEntries? [] fuel (reading.withTokens rest)).map
        fun (entries, reading) => (.mapping entries, reading) := by
  rw [node?_of_isBare reading rest rfl, moreEntries?_nil]
  cases indentless <;> rfl

/-- The tokens of a node start with none that could end what is before it. -/
theorem tokens_start (outline : Outline) :
    endsBlockItem (outline.tokens ++ rest) = false ∧
      endsBlockPart (outline.tokens ++ rest) = false := by
  cases outline <;> exact ⟨rfl, rfl⟩

end

/-! ## Reading back -/

mutual

/-- The tokens of a node are read back. -/
theorem node?_tokens
    (outline : Outline)
    {fuel : Nat}
    (enough : outline.cost ≤ fuel)
    (indentless : Bool)
    (reading : Reading)
    (rest : List Token) :
    node? fuel true indentless
        (reading.withTokens (outline.tokens ++ rest)) =
      some (outline.node, reading.withTokens rest) := by
  cases outline with
  | leaf text style =>
      obtain ⟨fuel, rfl⟩ := Nat.exists_eq_add_of_le' enough
      exact node?_of_isBare reading _ rfl (fuel + 1) true indentless
  | list items =>
      have within := length_le_itemCost items
      rw [cost] at enough
      obtain ⟨left, rfl⟩ :=
        Nat.exists_eq_add_of_le' (show items.length + 3 ≤ fuel by omega)
      rw [Outline.tokens, List.cons_append, List.append_assoc,
        show left + (items.length + 3) = left + 1 + items.length + 2 by omega,
        node?_blockSequenceStart, moreItems?_tokens items (by omega),
        Nat.add_sub_cancel]
      exact congrArg _ (moreItems?_blockEnd reading rest _ left)
  | record entries =>
      have within := length_le_entryCost entries
      rw [cost] at enough
      obtain ⟨left, rfl⟩ :=
        Nat.exists_eq_add_of_le' (show entries.length + 3 ≤ fuel by omega)
      rw [Outline.tokens, List.cons_append, List.append_assoc,
        show left + (entries.length + 3) = left + 1 + entries.length + 2 by
          omega,
        node?_blockMappingStart, moreEntries?_tokens entries (by omega),
        Nat.add_sub_cancel]
      exact congrArg _ (moreEntries?_blockEnd reading rest _ left)

/-- The tokens of items are read back, and what follows them is read on. -/
theorem moreItems?_tokens
    (items : List Outline)
    {fuel : Nat}
    (enough : itemCost items ≤ fuel)
    (before : List Node)
    (reading : Reading)
    (rest : List Token) :
    moreItems? before fuel
        (reading.withTokens (itemTokens items ++ rest)) =
      moreItems? (before ++ itemNodes items) (fuel - items.length)
        (reading.withTokens rest) := by
  cases items with
  | nil =>
      rw [itemNodes, List.append_nil]
      rfl
  | cons item items =>
      rw [itemCost] at enough
      obtain ⟨fuel, rfl⟩ :=
        Nat.exists_eq_add_of_le' (Nat.le_trans (Nat.le_add_left _ _) enough)
      rw [itemTokens, List.cons_append, List.append_assoc,
        moreItems?_blockEntry, item?, tokens_withTokens,
        (tokens_start _ item).1, if_neg Bool.false_ne_true,
        node?_tokens item (by omega), Option.bind_some]
      refine (moreItems?_tokens items (by omega) _ reading rest).trans ?_
      rw [List.length_cons, Nat.succ_sub_succ, itemNodes, List.append_assoc]
      rfl

/-- The tokens of entries are read back, and what follows them is read on. -/
theorem moreEntries?_tokens
    (entries : List (String × Outline))
    {fuel : Nat}
    (enough : entryCost entries ≤ fuel)
    (before : List (Node × Node))
    (reading : Reading)
    (rest : List Token) :
    moreEntries? before fuel
        (reading.withTokens (entryTokens entries ++ rest)) =
      moreEntries? (before ++ entryNodes entries) (fuel - entries.length)
        (reading.withTokens rest) := by
  cases entries with
  | nil =>
      rw [entryNodes, List.append_nil]
      rfl
  | cons entry entries =>
      rcases entry with ⟨key, value⟩
      have least := two_le_cost value
      rw [entryCost] at enough
      obtain ⟨fuel, rfl⟩ := Nat.exists_eq_add_of_le' (show 3 ≤ fuel by omega)
      rw [entryTokens, List.cons_append, List.cons_append, List.cons_append,
        List.append_assoc, moreEntries?_key, entryValue?, tokens_withTokens,
        (tokens_start _ value).2, if_neg Bool.false_ne_true,
        node?_tokens value (by omega), Option.bind_some]
      refine (moreEntries?_tokens entries (by omega) _ reading rest).trans ?_
      rw [List.length_cons, Nat.succ_sub_succ, entryNodes, List.append_assoc]
      rfl

end

end Reading

/-! ## Paths -/

/-- The place of a value in a block collection. -/
inductive Frame where
  | item (before after : List Outline)
  | entry
      (before : List (String × Outline))
      (key : String)
      (after : List (String × Outline))

namespace Frame

open Outline Reading

/-- The tokens before the value. -/
def opening : Frame → List Token
  | item before _ =>
      .blockSequenceStart :: (itemTokens before ++ [.blockEntry])
  | entry before key _ =>
      .blockMappingStart ::
        (entryTokens before ++ [.key, .scalar key .plain, .value])

/-- The tokens after the value. -/
def closing : Frame → List Token
  | item _ after => itemTokens after ++ [.blockEnd]
  | entry _ _ after => entryTokens after ++ [.blockEnd]

/-- The collection with a value. -/
def plug : Frame → Node → Node
  | item before after, value =>
      .sequence (itemNodes before ++ value :: itemNodes after)
  | entry before key after, value =>
      .mapping (entryNodes before ++
        (.scalar key .plain none, value) :: entryNodes after)

/-- A collection that has a value at the place, whatever comes after it. -/
def Holds : Frame → Node → Node → Prop
  | item before _, value, whole =>
      ∃ later, whole = .sequence (itemNodes before ++ value :: later)
  | entry before key _, value, whole =>
      ∃ later, whole = .mapping (entryNodes before ++
        (.scalar key .plain none, value) :: later)

/-- The number of steps from the collection to the value. -/
def depth : Frame → Nat
  | item before _ => before.length + 3
  | entry before _ _ => before.length + 3

/-- A number of steps that reading the other parts does not use up. -/
def cost : Frame → Nat
  | item before after => itemCost before + itemCost after + 2
  | entry before _ after => entryCost before + entryCost after + 2

/-- Read the value. -/
def value? : Frame → Nat → Reading → Option (Node × Reading)
  | item _ _ => item?
  | entry _ _ _ => entryValue?

/-- Read what comes after a value, which completes the collection. -/
def rest? : Frame → Nat → Node → Reading → Option (Node × Reading)
  | item before _, fuel, value, reading =>
      (moreItems? (itemNodes before ++ [value]) fuel reading).map
        fun (items, reading) => (.sequence items, reading)
  | entry before key _, fuel, value, reading =>
      (moreEntries? (entryNodes before ++ [(.scalar key .plain none, value)])
          fuel reading).map
        fun (entries, reading) => (.mapping entries, reading)

variable {frame : Frame} {fuel : Nat} {value whole : Node}
  {reading after : Reading}

theorem node?_opening
    (enough : frame.cost ≤ fuel)
    (indentless : Bool)
    (reading : Reading)
    (rest : List Token) :
    node? (fuel + frame.depth) true indentless
        (reading.withTokens (frame.opening ++ rest)) =
      (frame.value? fuel (reading.withTokens rest)).bind
        fun (value, reading) => frame.rest? fuel value reading := by
  cases frame with
  | item before later =>
      rw [cost] at enough
      rw [opening, depth, List.cons_append, List.append_assoc,
        show fuel + (before.length + 3) = fuel + 1 + before.length + 2 by
          omega,
        node?_blockSequenceStart, moreItems?_tokens before (by omega),
        Nat.add_sub_cancel, List.singleton_append, moreItems?_blockEntry]
      cases found : item? fuel (reading.withTokens rest) <;>
        simp [value?, rest?, found]
  | entry before key later =>
      rw [cost] at enough
      obtain ⟨fuel, rfl⟩ := Nat.exists_eq_add_of_le' (show 2 ≤ fuel by omega)
      rw [opening, depth, List.cons_append, List.append_assoc,
        show fuel + 2 + (before.length + 3) = fuel + 3 + before.length + 2 by
          omega,
        node?_blockMappingStart, moreEntries?_tokens before (by omega),
        Nat.add_sub_cancel, List.cons_append, List.cons_append,
        List.singleton_append, moreEntries?_key]
      cases found : entryValue? (fuel + 2) (reading.withTokens rest) <;>
        simp [value?, rest?, found]

/-- The value of a collection may be a collection with a value of its own. -/
theorem value?_opening
    (outer : Frame)
    (enough : frame.cost ≤ fuel)
    (reading : Reading)
    (rest : List Token) :
    outer.value? (fuel + frame.depth)
        (reading.withTokens (frame.opening ++ rest)) =
      (frame.value? fuel (reading.withTokens rest)).bind
        fun (value, reading) => frame.rest? fuel value reading := by
  have starts : endsBlockItem (frame.opening ++ rest) = false ∧
      endsBlockPart (frame.opening ++ rest) = false := by
    cases frame <;> exact ⟨rfl, rfl⟩
  cases outer with
  | item =>
      rw [value?, item?, tokens_withTokens, starts.1,
        if_neg Bool.false_ne_true, node?_opening enough]
  | entry =>
      rw [value?, entryValue?, tokens_withTokens, starts.2,
        if_neg Bool.false_ne_true, node?_opening enough]

/-- The tokens after the value of a collection complete it. -/
theorem rest?_closing
    (enough : frame.cost ≤ fuel)
    (value : Node)
    (reading : Reading)
    (rest : List Token) :
    frame.rest? fuel value (reading.withTokens (frame.closing ++ rest)) =
      some (frame.plug value, reading.withTokens rest) := by
  cases frame with
  | item before later =>
      have within := length_le_itemCost later
      rw [cost] at enough
      obtain ⟨left, rfl⟩ :=
        Nat.exists_eq_add_of_le' (show later.length + 1 ≤ fuel by omega)
      rw [rest?, closing, List.append_assoc,
        moreItems?_tokens later (by omega),
        show left + (later.length + 1) - later.length = left + 1 by omega,
        List.singleton_append, moreItems?_blockEnd, List.append_assoc]
      rfl
  | entry before key later =>
      have within := length_le_entryCost later
      rw [cost] at enough
      obtain ⟨left, rfl⟩ :=
        Nat.exists_eq_add_of_le' (show later.length + 1 ≤ fuel by omega)
      rw [rest?, closing, List.append_assoc,
        moreEntries?_tokens later (by omega),
        show left + (later.length + 1) - later.length = left + 1 by omega,
        List.singleton_append, moreEntries?_blockEnd, List.append_assoc]
      rfl

/-- Whatever comes after a value, the collection has it at its place. -/
theorem holds_of_rest?
    (found : frame.rest? fuel value reading = some (whole, after)) :
    frame.Holds value whole := by
  cases frame with
  | item before later =>
      rcases Option.map_eq_some_iff.1 found with ⟨⟨items, left⟩, read, same⟩
      rcases Option.map_eq_some_iff.1 read with ⟨⟨more, rest⟩, -, parts⟩
      cases same
      cases parts
      exact ⟨more, by rw [List.append_assoc, List.singleton_append]⟩
  | entry before key later =>
      rcases Option.map_eq_some_iff.1 found with ⟨⟨entries, left⟩, read, same⟩
      rcases Option.map_eq_some_iff.1 read with ⟨⟨more, rest⟩, -, parts⟩
      cases same
      cases parts
      exact ⟨more, by rw [List.append_assoc, List.singleton_append]⟩

end Frame

/-- The way from the root of a document to a value, the innermost part first. -/
abbrev Path := List Frame

namespace Path

open Reading

/-- The tokens before the value. -/
def opening : Path → List Token
  | [] => []
  | frame :: outer => opening outer ++ frame.opening

/-- The tokens after the value. -/
def closing : Path → List Token
  | [] => []
  | frame :: outer => frame.closing ++ closing outer

/-- The document with a value. -/
def plug : Path → Node → Node
  | [], value => value
  | frame :: outer, value => plug outer (frame.plug value)

/-- A document that has a value at the end of the way. -/
def Holds : Path → Node → Node → Prop
  | [], value, root => root = value
  | frame :: outer, value, root =>
      ∃ whole, frame.Holds value whole ∧ Holds outer whole root

/-- The number of steps from the root to the value. -/
def depth : Path → Nat
  | [] => 0
  | frame :: outer => frame.depth + depth outer

/-- Read what comes after a value, which completes the document. -/
def rest? : Path → Nat → Node → Reading → Option (Node × Reading)
  | [], _, value, reading => some (value, reading)
  | frame :: outer, fuel, value, reading =>
      (frame.rest? fuel value reading).bind fun (whole, reading) =>
        rest? outer (fuel + frame.depth) whole reading

variable {frame : Frame} {outer path : Path} {fuel : Nat}
  {value root : Node} {reading after : Reading}

/-- A document is read up to a value, and on from there. -/
theorem node?_opening
    (enough : ∀ part ∈ frame :: outer, part.cost ≤ fuel)
    (indentless : Bool)
    (reading : Reading)
    (rest : List Token) :
    node? (fuel + depth (frame :: outer)) true indentless
        (reading.withTokens (opening (frame :: outer) ++ rest)) =
      (frame.value? fuel (reading.withTokens rest)).bind
        fun (value, reading) =>
          rest? (frame :: outer) fuel value reading := by
  rcases List.forall_mem_cons.1 enough with ⟨here, further⟩
  induction outer generalizing frame fuel rest with
  | nil =>
      have last (value : Node) (reading : Reading) :
          rest? [frame] fuel value reading =
            frame.rest? fuel value reading := by
        rw [Path.rest?]
        cases frame.rest? fuel value reading <;> rfl
      rw [depth, depth, opening, opening, List.nil_append, Nat.add_zero,
        Frame.node?_opening here]
      simp only [last]
  | cons next outer ih =>
      have wider : ∀ part ∈ next :: outer, part.cost ≤ fuel + frame.depth :=
        fun part member => Nat.le_add_right_of_le (further part member)
      rcases List.forall_mem_cons.1 wider with ⟨there, others⟩
      rw [depth, opening, List.append_assoc, ← Nat.add_assoc,
        ih wider _ there others, Frame.value?_opening next here,
        Option.bind_assoc]
      rfl

/-- The tokens after a value complete the document. -/
theorem rest?_closing
    (enough : ∀ part ∈ path, part.cost ≤ fuel)
    (value : Node)
    (reading : Reading)
    (rest : List Token) :
    path.rest? fuel value (reading.withTokens (path.closing ++ rest)) =
      some (path.plug value, reading.withTokens rest) := by
  induction path generalizing fuel value with
  | nil => rfl
  | cons frame outer ih =>
      rcases List.forall_mem_cons.1 enough with ⟨here, further⟩
      rw [Path.rest?, closing, List.append_assoc,
        Frame.rest?_closing here, Option.bind_some]
      exact ih (fun part member =>
        Nat.le_add_right_of_le (further part member)) _

/-- Whatever comes after a value, the document has it at its place. -/
theorem holds_of_rest?
    (found : path.rest? fuel value reading = some (root, after)) :
    path.Holds value root := by
  induction path generalizing fuel value reading with
  | nil => exact congrArg Prod.fst (Option.some.inj found).symm
  | cons frame outer ih =>
      rcases Option.bind_eq_some_iff.1 found with ⟨⟨whole, left⟩, here, more⟩
      exact ⟨whole, Frame.holds_of_rest? here, ih more⟩

end Path

/-! ## Values without structure -/

namespace Token

/-- Whether a token is an alias, a scalar or a part of its properties. -/
def isLeaf : Token → Bool
  | .alias _ | .anchor _ | .tag _ _ | .scalar _ _ => true
  | _ => false

/-- Whether a token is a bracket, a brace or a comma. -/
def isBracket : Token → Bool
  | .flowSequenceStart | .flowSequenceEnd | .flowMappingStart
  | .flowMappingEnd | .flowEntry => true
  | _ => false

/-- Whether a token goes on with a block mapping after an entry. -/
def isBlockPart : Token → Bool
  | .key | .blockEnd => true
  | _ => false

/-- The number of characters of scalars. -/
def textLength : List Token → Nat
  | [] => 0
  | .scalar text _ :: rest => text.length + textLength rest
  | _ :: rest => textLength rest

theorem textLength_le_cons
    (token : Token)
    (rest : List Token) :
    textLength rest ≤ textLength (token :: rest) := by
  cases token with
  | scalar text style => exact Nat.le_add_left _ _
  | _ => exact Nat.le_refl _

end Token

def Node.IsCollection : Node → Prop
  | .sequence _ | .mapping _ => True
  | _ => False

namespace Reading

variable {fuel : Nat} {reading after : Reading} {value : Node}
  {leaves rest : List Token} {next : Token}

theorem isBlockPart_of_blockEntries?
    {found : List (Node × Node) × Reading}
    (unread : reading.tokens = next :: rest)
    (read : blockEntries? fuel reading = some found) :
    next.isBlockPart = true := by
  cases fuel with
  | zero => exact absurd read nofun
  | succ fuel =>
      rw [blockEntries?, unread] at read
      cases next with
      | key | blockEnd => rfl
      | _ => exact absurd read nofun

/-- Only anchors and tags are taken as properties. -/
theorem properties_split (tokens : List Token) :
    ∃ taken,
      tokens = taken ++ (properties tokens).2.2 ∧
        ∀ token ∈ taken, isBare token = false := by
  rw [properties.eq_def]
  split
  next name handle suffix rest =>
    exact ⟨[.anchor name, .tag handle suffix], rfl, by simp [isBare]⟩
  next name rest _ => exact ⟨[.anchor name], rfl, by simp [isBare]⟩
  next handle suffix name rest =>
    exact ⟨[.tag handle suffix, .anchor name], rfl, by simp [isBare]⟩
  next handle suffix rest _ =>
    exact ⟨[.tag handle suffix], rfl, by simp [isBare]⟩
  next => exact ⟨[], rfl, nofun⟩

theorem properties_leaves (bare : isBare next = true) :
    ∃ fewer,
      (properties (leaves ++ next :: rest)).2.2 = fewer ++ next :: rest ∧
        fewer <:+ leaves := by
  rcases properties_split (leaves ++ next :: rest) with
    ⟨taken, parts, properties⟩
  rcases List.append_eq_append_iff.1 parts with
    ⟨more, rfl, left⟩ | ⟨fewer, rfl, left⟩
  · cases more with
    | nil => exact ⟨[], left.symm, List.nil_suffix⟩
    | cons first more =>
        have same : next = first := (List.cons.inj left).1
        have member : next ∈ leaves ++ first :: more := by simp [same]
        rw [properties next member] at bare
        exact absurd bare Bool.false_ne_true
  · exact ⟨fewer, left, List.suffix_append taken fewer⟩

/-- A token without which a node is missing. -/
def isVoid : Token → Bool
  | .scalar _ _ | .flowSequenceStart | .flowMappingStart | .blockEntry
  | .blockSequenceStart | .blockMappingStart => false
  | _ => true

theorem of_isVoid
    {bare : Bool}
    {tag : Option String}
    (void : isVoid next = true)
    (unread : reading.tokens = next :: rest)
    (read : content? fuel true true bare tag reading = some (value, after)) :
    value = .scalar "" .plain tag ∧ after = reading := by
  cases fuel with
  | zero => exact absurd read nofun
  | succ fuel =>
      have missing : content? (fuel + 1) true true bare tag reading =
          if bare then none else some (.scalar "" .plain tag, reading) := by
        rw [content?, unread]
        cases next with
        | scalar | flowSequenceStart | flowMappingStart | blockEntry
        | blockSequenceStart | blockMappingStart =>
            exact absurd void Bool.false_ne_true
        | _ => rfl
      rw [missing] at read
      cases bare with
      | true => exact absurd read nofun
      | false => cases read; exact ⟨rfl, rfl⟩

/-- What a node is after its properties, and what it leaves unread. -/
theorem content?_leaves
    {bare : Bool}
    {tag : Option String}
    (leafy : ∀ token ∈ leaves, token.isLeaf = true)
    (ends : next.isBracket = true ∨ next.isBlockPart = true)
    (unread : reading.tokens = leaves ++ next :: rest)
    (read : content? fuel true true bare tag reading = some (value, after)) :
    value.IsCollection ∨
      ∃ text style tag fewer,
        value = .scalar text style tag ∧
          after.tokens = fewer ++ next :: rest ∧ fewer <:+ leaves ∧
            text.length ≤ Token.textLength leaves := by
  have missing {first : Token} {others : List Token}
      (starts : leaves ++ next :: rest = first :: others)
      (void : isVoid first = true) :
      ∃ text style tag fewer,
        value = .scalar text style tag ∧
          after.tokens = fewer ++ next :: rest ∧ fewer <:+ leaves ∧
            text.length ≤ Token.textLength leaves := by
    rcases of_isVoid void (unread.trans starts) read with ⟨rfl, rfl⟩
    exact ⟨"", .plain, tag, leaves, rfl, unread, List.suffix_rfl,
      Nat.zero_le _⟩
  cases leaves with
  | nil =>
      cases fuel with
      | zero => exact absurd read nofun
      | succ fuel =>
          cases next with
          | flowSequenceStart =>
              rw [content?, unread] at read
              rcases Option.map_eq_some_iff.1 read with ⟨found, -, same⟩
              cases same
              exact .inl trivial
          | flowMappingStart =>
              rw [content?, unread] at read
              rcases Option.map_eq_some_iff.1 read with ⟨found, -, same⟩
              cases same
              exact .inl trivial
          | flowSequenceEnd | flowMappingEnd | flowEntry | key | blockEnd =>
              exact .inr (missing rfl rfl)
          | _ =>
              exact absurd ends (by simp [Token.isBracket, Token.isBlockPart])
  | cons first leaves =>
      cases first with
      | scalar text style =>
          cases fuel with
          | zero => exact absurd read nofun
          | succ fuel =>
              rw [content?, unread] at read
              cases read
              exact .inr ⟨text, style, scalarTag tag, leaves, rfl, rfl,
                List.suffix_cons _ _, Nat.le_add_right _ _⟩
      | «alias» | anchor | tag => exact .inr (missing rfl rfl)
      | _ => exact absurd (leafy _ List.mem_cons_self) Bool.false_ne_true

theorem textLength_le_of_suffix
    {fewer : List Token}
    (suffix : fewer <:+ leaves) :
    Token.textLength fewer ≤ Token.textLength leaves := by
  induction leaves with
  | nil =>
      obtain rfl := List.suffix_nil.1 suffix
      exact Nat.le_refl 0
  | cons first leaves ih =>
      rcases List.suffix_cons_iff.1 suffix with rfl | later
      · exact Nat.le_refl _
      · exact Nat.le_trans (ih later)
          (Token.textLength_le_cons first leaves)

/-- A node with its properties, and what it leaves unread. -/
theorem node?_leaves
    (leafy : ∀ token ∈ leaves, token.isLeaf = true)
    (ends : next.isBracket = true ∨ next.isBlockPart = true)
    (nameless : reading.anchors.slots = [])
    (unread : reading.tokens = leaves ++ next :: rest)
    (read : node? fuel true true reading = some (value, after)) :
    value.IsCollection ∨
      ∃ text style tag fewer,
        value = .scalar text style tag ∧
          after.tokens = fewer ++ next :: rest ∧ fewer <:+ leaves ∧
            text.length ≤ Token.textLength leaves := by
  cases fuel with
  | zero => exact absurd read nofun
  | succ fuel =>
      have bare : isBare next = true := by
        cases next with
        | «alias» | anchor | tag => exact absurd ends (by
            simp [Token.isBracket, Token.isBlockPart])
        | _ => rfl
      have properties : ∃ fewer,
          (properties (leaves ++ next :: rest)).2.2 = fewer ++ next :: rest ∧
            fewer <:+ leaves := properties_leaves bare
      rcases properties with ⟨fewer, left, suffix⟩
      rw [node?] at read
      split at read
      · simp [nameless] at read
      · rw [unread] at read
        generalize properties (leaves ++ next :: rest) = parts at *
        obtain ⟨anchor, written, tokens⟩ := parts
        have content : ∃ bare tag anchors left,
            content? fuel true true bare tag
                ⟨tokens, reading.handles, anchors⟩ = some (value, left) ∧
              after.tokens = left.tokens := by
          cases written <;>
            rcases Option.bind_eq_some_iff.1 read with ⟨tag, -, more⟩ <;>
            rcases Option.bind_eq_some_iff.1 more with
              ⟨⟨node, left⟩, found, done⟩ <;>
            dsimp only at done <;>
            split at done <;>
            cases done <;>
            exact ⟨_, _, _, _, found, rfl⟩
        rcases content with ⟨bare, tag, anchors, left, found, same⟩
        rcases content?_leaves (fun token member =>
          leafy token (suffix.subset member)) ends ‹_› found with
          collection | ⟨text, style, tag, others, scalar, unread, later, short⟩
        · exact .inl collection
        · exact .inr ⟨text, style, tag, others, scalar, same.trans unread,
            later.trans suffix,
            Nat.le_trans short (textLength_le_of_suffix suffix)⟩

/--
The value of an entry that is written without structure is a scalar that leaves
nothing of it unread, if the mapping goes on after it.
-/
theorem entryValue?_leaves
    (leafy : ∀ token ∈ leaves, token.isLeaf = true)
    (ends : next.isBracket = true ∨ next.isBlockPart = true)
    (nameless : reading.anchors.slots = [])
    (read : entryValue? fuel (reading.withTokens (leaves ++ next :: rest)) =
      some (value, after))
    (before : List (Node × Node))
    {found : List (Node × Node) × Reading}
    (goesOn : moreEntries? before fuel after = some found) :
    value.IsCollection ∨
      ∃ text style tag,
        value = .scalar text style tag ∧ next.isBlockPart = true ∧
          after.tokens = next :: rest ∧
            text.length ≤ Token.textLength leaves := by
  have value : value.IsCollection ∨
      ∃ text style tag fewer,
        value = .scalar text style tag ∧
          after.tokens = fewer ++ next :: rest ∧ fewer <:+ leaves ∧
            text.length ≤ Token.textLength leaves := by
    rw [entryValue?] at read
    split at read
    · cases read
      exact .inr ⟨"", .plain, none, leaves, rfl, rfl, List.suffix_rfl,
        Nat.zero_le _⟩
    · have unnamed :
        (reading.withTokens (leaves ++ next :: rest)).anchors.slots =
          [] := nameless
      exact node?_leaves leafy ends unnamed rfl read
  rcases Option.map_eq_some_iff.1 goesOn with ⟨entries, continued, -⟩
  rcases value with
    collection | ⟨text, style, tag, fewer, scalar, unread, suffix, short⟩
  · exact .inl collection
  · refine .inr ⟨text, style, tag, scalar, ?_⟩
    cases fewer with
    | nil =>
        exact ⟨isBlockPart_of_blockEntries? unread continued, unread, short⟩
    | cons first fewer =>
        have part := isBlockPart_of_blockEntries? unread continued
        have leaf := leafy first (suffix.subset List.mem_cons_self)
        cases first <;> simp_all [Token.isLeaf, Token.isBlockPart]

end Reading

end HookKeeper.Yaml
