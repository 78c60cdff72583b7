import HookKeeper.Yaml.Layout
import HookKeeper.Yaml.Scalar

/-!
# YAML documents as data

Every scalar becomes its readings and every alias the datum of the node in its
slot.  A node may contain an alias to itself, so the data of the slots are
computed by rounds: in each round aliases stand for the data of the round
before, and at first for a scalar that has no reading.  No typed value nests
as deep as there are rounds.
-/

namespace HookKeeper.Yaml

/-- The data of slots. -/
abbrev SlotData := List (Nat × Datum)

namespace Node

mutual

/-- The datum of a node, with the data of the slots known. -/
def datum (slots : SlotData) : Node → Datum
  | .scalar text style tag => .scalar (scalarReading text style tag)
  | .sequence items => .list (itemData slots items)
  | .mapping entries => .map (entryData slots entries)
  | .alias slot => (slots.lookup slot).getD (.scalar .unreadable)

/-- The data of the items of a sequence. -/
def itemData (slots : SlotData) : List Node → List Datum
  | [] => []
  | item :: rest => datum slots item :: itemData slots rest

/-- The data of the entries of a mapping. -/
def entryData (slots : SlotData) : List (Node × Node) → List (Datum × Datum)
  | [] => []
  | (key, value) :: rest =>
      (datum slots key, datum slots value) :: entryData slots rest

end

end Node

namespace Document

/-- The slots that hold a node, with their nodes. -/
def slotNodes (anchors : Anchors) : List (Nat × Node) :=
  (anchors.owners.map (·.1)).filterMap fun slot =>
    (anchors.node? slot).map (slot, ·)

/-- The data of slots after a number of rounds. -/
def slotData (nodes : List (Nat × Node)) : Nat → SlotData
  | 0 => []
  | rounds + 1 =>
      let before := slotData nodes rounds
      nodes.map fun entry => (entry.1, entry.2.datum before)

/-- The number of rounds: more than any typed value nests. -/
def rounds : Nat := 64

/-- The datum of a document; an empty one is an empty record. -/
def datum (document : Document) : Datum :=
  match document.root with
  | none => .map []
  | some node =>
      match slotNodes document.anchors with
      | [] => node.datum []
      | nodes => node.datum (slotData nodes rounds)

end Document

/-- The datum that characters write. -/
def datumOfChars? (characters : List Char) : Option Datum :=
  ((Token.ofText? characters).bind Document.ofTokens?).map Document.datum

/-- The datum of a YAML text. -/
def datum? (text : String) : Option Datum := datumOfChars? text.toList

@[simp]
theorem datum?_ofList (characters : List Char) :
    datum? (String.ofList characters) = datumOfChars? characters := by
  simp [datum?]

end HookKeeper.Yaml
