import HookKeeper.Yaml.Token

/-!
# From tokens to nodes

A document is a node: a scalar, a sequence, a mapping or an alias.  Where a
node may be missing, an empty plain scalar stands for it.  Anchors are
recorded as their nodes start; an alias refers to the slot that its name has
at that point, and a slot holds the node that was recorded in it last.
-/

namespace HookKeeper.Yaml

/-- A node of a document. -/
inductive Node where
  | scalar (text : String) (style : Style) (tag : Option String)
  | sequence (items : List Node)
  | mapping (entries : List (Node × Node))
  | alias (slot : Nat)
  deriving Repr

namespace Node

/-- What stands for a missing node. -/
def missing : Node := .scalar "" .plain none

end Node

/-- The anchors of a document. -/
structure Anchors where
  /-- The slot of each name. -/
  slots : List (String × Nat)
  /-- The number of the anchor that each slot holds, the latest first. -/
  owners : List (Nat × Nat)
  /-- The nodes of the anchors by number. -/
  nodes : List (Nat × Node)
  /-- The number of anchors so far. -/
  count : Nat
  deriving Repr

namespace Anchors

def empty : Anchors := ⟨[], [], [], 0⟩

/--
Record an anchor whose node starts here; its slot is the number of names known
before.
-/
def declare (anchors : Anchors) (name : String) : Anchors :=
  let slot := anchors.slots.length
  { anchors with
    slots := (name, slot) :: anchors.slots.filter fun entry => entry.1 != name
    owners := (slot, anchors.count) :: anchors.owners
    count := anchors.count + 1 }

/-- Record the node of an anchor. -/
def define (anchors : Anchors) (number : Nat) (node : Node) : Anchors :=
  { anchors with nodes := (number, node) :: anchors.nodes }

def node? (anchors : Anchors) (slot : Nat) : Option Node :=
  (anchors.owners.lookup slot).bind fun number => anchors.nodes.lookup number

end Anchors

/-- The state of reading nodes from tokens. -/
structure Reading where
  tokens : List Token
  /-- What the handles of tags stand for. -/
  handles : List (String × String)
  anchors : Anchors

namespace Reading

/-- The state with other tokens to come. -/
def withTokens (reading : Reading) (tokens : List Token) : Reading :=
  { reading with tokens := tokens }

def tag? (reading : Reading) (handle suffix : String) : Option String :=
  if handle == "" then some suffix
  else (reading.handles.lookup handle).map (· ++ suffix)

/-- An anchor and a tag in either order, and the tokens after them. -/
def properties :
    List Token → Option String × Option (String × String) × List Token
  | .anchor name :: .tag handle suffix :: rest =>
      (some name, some (handle, suffix), rest)
  | .anchor name :: rest => (some name, none, rest)
  | .tag handle suffix :: .anchor name :: rest =>
      (some name, some (handle, suffix), rest)
  | .tag handle suffix :: rest => (none, some (handle, suffix), rest)
  | rest => (none, none, rest)

/-- Whether a token ends an entry of a block mapping. -/
def endsBlockPart : List Token → Bool
  | .key :: _ | .value :: _ | .blockEnd :: _ => true
  | _ => false

/--
Whether a token ends an item of a sequence that has no indentation of its own.
-/
def endsIndentlessItem : List Token → Bool
  | .blockEntry :: _ => true
  | tokens => endsBlockPart tokens

/-- Whether a token ends an item of a block sequence. -/
def endsBlockItem : List Token → Bool
  | .blockEntry :: _ | .blockEnd :: _ => true
  | _ => false

/-- Whether a token ends the value of a pair inside a sequence in brackets. -/
def endsFlowItem : List Token → Bool
  | .flowEntry :: _ | .flowSequenceEnd :: _ => true
  | _ => false

/-- Whether a token ends the value of an entry in braces. -/
def endsFlowPart : List Token → Bool
  | .flowEntry :: _ | .flowMappingEnd :: _ => true
  | _ => false

/-- The tag that a scalar keeps: the mark for no particular tag is none. -/
def scalarTag (tag : Option String) : Option String :=
  if tag == some "!" then none else tag

mutual

/--
A node.  `block` allows block collections, `indentless` a sequence whose
dashes stand at the column of the mapping around it.
-/
def node? : Nat → Bool → Bool → Reading → Option (Node × Reading)
  | 0, _, _, _ => none
  | fuel + 1, block, indentless, reading =>
      match reading.tokens with
      | .alias name :: rest => do
          let slot ← reading.anchors.slots.lookup name
          some (.alias slot, reading.withTokens rest)
      | _ => do
          let (anchor, written, tokens) := properties reading.tokens
          let tag ←
            match written with
            | some (handle, suffix) => (reading.tag? handle suffix).map some
            | none => some none
          let number := reading.anchors.count
          let anchors :=
            match anchor with
            | some name => reading.anchors.declare name
            | none => reading.anchors
          let bare := anchor.isNone && written.isNone
          let (node, reading) ←
            content? fuel block indentless bare tag
              { reading with tokens, anchors }
          if anchor.isSome then
            some (node,
              { reading with anchors := reading.anchors.define number node })
          else some (node, reading)

/-- A node after its anchor and tag; without either it may not be missing. -/
def content? :
    Nat → Bool → Bool → Bool → Option String → Reading → Option (Node × Reading)
  | 0, _, _, _, _, _ => none
  | fuel + 1, block, indentless, bare, tag, reading =>
      match reading.tokens with
      | .scalar text style :: rest =>
          some (.scalar text style (scalarTag tag), reading.withTokens rest)
      | .flowSequenceStart :: rest =>
          (flowItems? fuel true (reading.withTokens rest)).map
              fun (items, reading) =>
            (.sequence items, reading)
      | .flowMappingStart :: rest =>
          (flowEntries? fuel true (reading.withTokens rest)).map
              fun (entries, reading) =>
            (.mapping entries, reading)
      | token :: rest =>
          if indentless && token == .blockEntry then
            (indentlessItems? fuel reading).map fun (items, reading) =>
              (.sequence items, reading)
          else if block && token == .blockSequenceStart then
            (blockItems? fuel (reading.withTokens rest)).map
                fun (items, reading) =>
              (.sequence items, reading)
          else if block && token == .blockMappingStart then
            (blockEntries? fuel (reading.withTokens rest)).map
                fun (entries, reading) =>
              (.mapping entries, reading)
          else if bare then none
          else some (.scalar "" .plain tag, reading)
      | [] => if bare then none else some (.scalar "" .plain tag, reading)

/-- The items of a block sequence and its end. -/
def blockItems? : Nat → Reading → Option (List Node × Reading)
  | 0, _ => none
  | fuel + 1, reading =>
      match reading.tokens with
      | .blockEntry :: rest => do
          let (item, reading) ←
            if endsBlockItem rest then
              some (Node.missing, reading.withTokens rest)
            else node? fuel true false (reading.withTokens rest)
          let (items, reading) ← blockItems? fuel reading
          some (item :: items, reading)
      | .blockEnd :: rest => some ([], reading.withTokens rest)
      | _ => none

/-- The items of a sequence that has no indentation of its own. -/
def indentlessItems? : Nat → Reading → Option (List Node × Reading)
  | 0, _ => none
  | fuel + 1, reading =>
      match reading.tokens with
      | .blockEntry :: rest => do
          let (item, reading) ←
            if endsIndentlessItem rest then
              some (Node.missing, reading.withTokens rest)
            else node? fuel true false (reading.withTokens rest)
          let (items, reading) ← indentlessItems? fuel reading
          some (item :: items, reading)
      | _ => some ([], reading)

/-- The entries of a block mapping and its end. -/
def blockEntries? : Nat → Reading → Option (List (Node × Node) × Reading)
  | 0, _ => none
  | fuel + 1, reading =>
      match reading.tokens with
      | .key :: rest => do
          let (key, reading) ←
            if endsBlockPart rest then
              some (Node.missing, reading.withTokens rest)
            else node? fuel true true (reading.withTokens rest)
          let (value, reading) ←
            match reading.tokens with
            | .value :: rest =>
                if endsBlockPart rest then
                  some (Node.missing, reading.withTokens rest)
                else node? fuel true true (reading.withTokens rest)
            | _ => some (Node.missing, reading)
          let (entries, reading) ← blockEntries? fuel reading
          some ((key, value) :: entries, reading)
      | .blockEnd :: rest => some ([], reading.withTokens rest)
      | _ => none

/--
The items of a sequence in brackets and its end; `first` tells that no comma is
due.
-/
def flowItems? : Nat → Bool → Reading → Option (List Node × Reading)
  | 0, _, _ => none
  | fuel + 1, first, reading =>
      match reading.tokens with
      | .flowSequenceEnd :: rest => some ([], reading.withTokens rest)
      | tokens => do
          let tokens ←
            if first then some tokens
            else
              match tokens with
              | .flowEntry :: rest => some rest
              | _ => none
          match tokens with
          | .flowSequenceEnd :: rest => some ([], reading.withTokens rest)
          | .key :: rest =>
              let (item, reading) ← flowPair? fuel (reading.withTokens rest)
              let (items, reading) ← flowItems? fuel false reading
              some (item :: items, reading)
          | tokens =>
              let (item, reading) ← node? fuel false false
                (reading.withTokens tokens)
              let (items, reading) ← flowItems? fuel false reading
              some (item :: items, reading)

/--
A mapping with a single entry, written without braces in a sequence.  Where
the key is missing, the token after its mark is passed over.
-/
def flowPair? : Nat → Reading → Option (Node × Reading)
  | 0, _ => none
  | fuel + 1, reading => do
      let (key, reading) ←
        match reading.tokens with
        | .value :: rest | .flowEntry :: rest | .flowSequenceEnd :: rest =>
            some (Node.missing, reading.withTokens rest)
        | _ => node? fuel false false reading
      let (value, reading) ←
        match reading.tokens with
        | .value :: rest =>
            if endsFlowItem rest then
              some (Node.missing, reading.withTokens rest)
            else node? fuel false false (reading.withTokens rest)
        | _ => some (Node.missing, reading)
      some (.mapping [(key, value)], reading)

/--
The entries of a mapping in braces and its end; `first` tells that no comma is
due.
-/
def flowEntries? : Nat → Bool → Reading → Option (List (Node × Node) × Reading)
  | 0, _, _ => none
  | fuel + 1, first, reading =>
      match reading.tokens with
      | .flowMappingEnd :: rest => some ([], reading.withTokens rest)
      | tokens => do
          let tokens ←
            if first then some tokens
            else
              match tokens with
              | .flowEntry :: rest => some rest
              | _ => none
          match tokens with
          | .flowMappingEnd :: rest => some ([], reading.withTokens rest)
          | .key :: rest =>
              let (key, reading) ←
                match rest with
                | .value :: _ | .flowEntry :: _ | .flowMappingEnd :: _ =>
                    some (Node.missing, reading.withTokens rest)
                | _ => node? fuel false false (reading.withTokens rest)
              let (value, reading) ←
                match reading.tokens with
                | .value :: rest =>
                    if endsFlowPart rest then
                      some (Node.missing, reading.withTokens rest)
                    else node? fuel false false (reading.withTokens rest)
                | _ => some (Node.missing, reading)
              let (entries, reading) ← flowEntries? fuel false reading
              some ((key, value) :: entries, reading)
          | tokens =>
              let (key, reading) ← node? fuel false false
                (reading.withTokens tokens)
              let (entries, reading) ← flowEntries? fuel false reading
              some ((key, Node.missing) :: entries, reading)

end

end Reading

/--
A stream with at most one document: its node, unless it is empty, and its
anchors.
-/
structure Document where
  root : Option Node
  anchors : Anchors

namespace Document

/-- The handles that need no directive. -/
def defaultHandles : List (String × String) :=
  [("!", "!"), ("!!", "tag:yaml.org,2002:")]

/--
Take directives.  A second version or a second expansion of a handle is a
fault, as is a version other than 1.1 and 1.2.
-/
def directives?
    (versioned : Bool)
    (handles : List (String × String)) :
    List Token → Option (List (String × String) × List Token)
  | .directive (.version major minor) :: rest =>
      if versioned || major != 1 || (minor != 1 && minor != 2) then none
      else directives? true handles rest
  | .directive (.tag handle expansion) :: rest =>
      if (handles.lookup handle).isSome then none
      else directives? versioned ((handle, expansion) :: handles) rest
  | rest => some (handles, rest)

def endsEmpty : List Token → Bool
  | [] | .directive _ :: _ | .documentStart :: _ | .documentEnd :: _ => true
  | _ => false

/-- Whether only marks for the end of a document are left. -/
def isDone (tokens : List Token) : Bool := tokens.all (· == .documentEnd)

/-- A number of steps that reading tokens never uses up. -/
def stepsFor (tokens : List Token) : Nat := 4 * tokens.length + 8

/-- A document whose node starts with the given tokens. -/
def body?
    (handles : List (String × String))
    (tokens : List Token) : Option Document := do
  let (node, reading) ←
    Reading.node? (stepsFor tokens) true false ⟨tokens, handles, Anchors.empty⟩
  if isDone reading.tokens then some ⟨some node, reading.anchors⟩ else none

def ofTokens? (tokens : List Token) : Option Document :=
  match tokens with
  | [] => some ⟨none, Anchors.empty⟩
  | .directive _ :: _ | .documentStart :: _ => do
      let (handles, rest) ← directives? false [] tokens
      match rest with
      | .documentStart :: rest =>
          if endsEmpty rest then
            if isDone rest then some ⟨some Node.missing, Anchors.empty⟩
            else none
          else body? (handles ++ defaultHandles) rest
      | _ => none
  | _ => body? defaultHandles tokens

end Document

end HookKeeper.Yaml
