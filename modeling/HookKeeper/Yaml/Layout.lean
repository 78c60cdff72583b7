import HookKeeper.Yaml.BlockText
import HookKeeper.Yaml.FlowText
import HookKeeper.Yaml.Token

/-!
# From text to tokens

Tokens are scanned one after another.  The scan keeps the columns of the open
block collections, the depth of brackets, and at each depth the place where a
key may have started: a key is recognised only at the colon that follows it,
on the same line and at most 1024 characters later, and its tokens are then
put before it.
-/

namespace HookKeeper.Yaml

/-- A token that may turn out to be a key. -/
structure Candidate where
  /-- The number of tokens before it. -/
  position : Nat
  index : Nat
  line : Nat
  column : Nat
  /-- Whether it is a fault if no colon follows. -/
  required : Bool
  deriving Repr

/-- The state of a scan. -/
structure Layout where
  cursor : Cursor
  /-- The tokens so far, newest first. -/
  newestFirst : List Token
  /-- The number of tokens so far. -/
  count : Nat
  /-- The column of the innermost open block collection, `-1` outside of all. -/
  indent : Int
  /-- The columns of the block collections around it, innermost first. -/
  outer : List Int
  /-- The key candidate of the innermost brackets, or of the block level. -/
  candidate : Option Candidate
  /-- The candidates around it; there is one for each open bracket. -/
  outerCandidates : List (Option Candidate)
  /-- Whether a key may start here. -/
  keyAllowed : Bool

namespace Layout

/-- The state at the start of a text. -/
def start (text : List Char) : Layout :=
  ⟨Cursor.start text, [], 0, -1, [], none, [], true⟩

/-- Whether some bracket is open. -/
def inFlow (layout : Layout) : Bool := !layout.outerCandidates.isEmpty

/-- The state with a further token. -/
def push (layout : Layout) (token : Token) : Layout :=
  { layout with
    newestFirst := token :: layout.newestFirst, count := layout.count + 1 }

/-- The state with a token put in before those from a position on. -/
def insert (layout : Layout) (position : Nat) (token : Token) : Layout :=
  let later := layout.count - position
  { layout with
    newestFirst :=
      layout.newestFirst.take later ++ token :: layout.newestFirst.drop later
    count := layout.count + 1 }

/-- The state at a place. -/
def moveTo (layout : Layout) (cursor : Cursor) : Layout :=
  { layout with cursor := cursor }

/-- Close the block collections right of a column; brackets hide them. -/
def closeFrom : List Int → Int → Layout → Layout
  | [], _, layout => layout
  | next :: more, column, layout =>
      if column < layout.indent then
        closeFrom more column
          { layout.push .blockEnd with indent := next, outer := more }
      else layout

/-- Close the block collections right of a column, unless brackets are open. -/
def unroll (layout : Layout) (column : Int) : Layout :=
  if layout.inFlow then layout else closeFrom layout.outer column layout

/--
Open a block collection, its token put in at a position, if it lies further
right.
-/
def roll
    (layout : Layout)
    (column : Int)
    (position : Nat)
    (token : Token) : Layout :=
  if layout.inFlow then layout
  else if layout.indent < column then
    { layout.insert position token with
      indent := column, outer := layout.indent :: layout.outer }
  else layout

/-- Drop the key candidate; one that was required is a fault. -/
def dropCandidate? (layout : Layout) : Option Layout :=
  match layout.candidate with
  | some candidate =>
      if candidate.required then none
      else some { layout with candidate := none }
  | none => some layout

/-- Make the coming token a key candidate, if a key may start here. -/
def saveCandidate? (layout : Layout) : Option Layout :=
  if layout.keyAllowed then do
    let layout ← layout.dropCandidate?
    let cursor := layout.cursor
    some { layout with
      candidate := some
        { position := layout.count
          index := cursor.index
          line := cursor.line
          column := cursor.column
          required :=
            !layout.inFlow && layout.indent == (cursor.column : Int) } }
  else some layout

/-- Drop a candidate that lies too far back; a required one is a fault. -/
def refresh? (cursor : Cursor) : Option Candidate → Option (Option Candidate)
  | none => some none
  | some candidate =>
      if candidate.line < cursor.line ||
          candidate.index + 1024 < cursor.index then
        if candidate.required then none else some none
      else some (some candidate)

/-- Drop all candidates that lie too far back. -/
def refreshCandidates? (layout : Layout) : Option Layout := do
  let outerCandidates ← layout.outerCandidates.mapM (refresh? layout.cursor)
  let candidate ← refresh? layout.cursor layout.candidate
  some { layout with
    candidate := candidate, outerCandidates := outerCandidates }

/-- Pass over white space, comments and line breaks before a token. -/
def skipSpace : Nat → Layout → Layout
  | 0, layout => layout
  | fuel + 1, layout =>
      let tabs := layout.inFlow || !layout.keyAllowed
      let cursor := layout.cursor.skipWhile fun character =>
        character == ' ' || (tabs && character == '\t')
      let cursor :=
        if cursor.holds 0 '#' then
          cursor.skipWhile fun character => !isBreak character
        else cursor
      if cursor.atBreak then
        skipSpace fuel
          { layout with
            cursor := cursor.skipBreak
            keyAllowed := layout.keyAllowed || !layout.inFlow }
      else layout.moveTo cursor

/--
End all block collections before a directive, a border of a document or the end.
-/
def closeAll? (layout : Layout) : Option Layout :=
  ((layout.unroll (-1)).dropCandidate?).map fun layout =>
    { layout with keyAllowed := false }

/--
A scalar, anchor, alias or tag, which may start a key but after which none may
start.
-/
def leaf? (layout : Layout) (token : Token) (cursor : Cursor) : Option Layout :=
  (layout.saveCandidate?).map fun layout =>
    { (layout.push token).moveTo cursor with keyAllowed := false }

/-- An opening bracket. -/
def openFlow? (layout : Layout) (token : Token) : Option Layout :=
  (layout.saveCandidate?).map fun layout =>
    { (layout.push token).moveTo (layout.cursor.skip 1) with
      candidate := none
      outerCandidates := layout.candidate :: layout.outerCandidates
      keyAllowed := true }

/-- A closing bracket. -/
def closeFlow? (layout : Layout) (token : Token) : Option Layout :=
  (layout.dropCandidate?).map fun layout =>
    let layout := { (layout.push token).moveTo (layout.cursor.skip 1) with
      keyAllowed := false }
    match layout.outerCandidates with
    | [] => layout
    | candidate :: more =>
        { layout with candidate := candidate, outerCandidates := more }

/-- A comma inside brackets. -/
def flowEntry? (layout : Layout) : Option Layout :=
  (layout.dropCandidate?).map fun layout =>
    { (layout.push .flowEntry).moveTo (layout.cursor.skip 1) with
      keyAllowed := true }

/-- Open a block collection here for an entry or a key that stands by itself. -/
def rollHere? (layout : Layout) (token : Token) : Option Layout :=
  if layout.inFlow then some layout
  else if layout.keyAllowed then
    some (layout.roll layout.cursor.column layout.count token)
  else none

/-- A dash before an item. -/
def blockEntry? (layout : Layout) : Option Layout := do
  let layout ← layout.rollHere? .blockSequenceStart
  let layout ← layout.dropCandidate?
  some { (layout.push .blockEntry).moveTo (layout.cursor.skip 1) with
    keyAllowed := true }

/-- A question mark before a key. -/
def key? (layout : Layout) : Option Layout := do
  let layout ← layout.rollHere? .blockMappingStart
  let layout ← layout.dropCandidate?
  some { (layout.push .key).moveTo (layout.cursor.skip 1) with
    keyAllowed := !layout.inFlow }

/--
A colon after a key: after the candidate if there is one, else after a key that
is announced.
-/
def value? (layout : Layout) : Option Layout :=
  let finish (layout : Layout) : Layout :=
    (layout.push .value).moveTo (layout.cursor.skip 1)
  match layout.candidate with
  | some candidate =>
      let layout := layout.insert candidate.position .key
      let layout :=
        layout.roll candidate.column candidate.position .blockMappingStart
      some (finish { layout with candidate := none, keyAllowed := false })
  | none => do
      let layout ← layout.rollHere? .blockMappingStart
      some (finish { layout with keyAllowed := !layout.inFlow })

def blockScalar? (layout : Layout) (literal : Bool) : Option Layout := do
  let layout ← layout.dropCandidate?
  let (text, cursor) ← BlockText.read? literal layout.indent layout.cursor
  let token :=
    Token.scalar (String.ofList text) (if literal then .literal else .folded)
  some { (layout.push token).moveTo cursor with keyAllowed := true }

def quotedScalar? (layout : Layout) (single : Bool) : Option Layout := do
  let (text, cursor) ← QuotedText.read? single layout.cursor
  layout.leaf? (.scalar (String.ofList text) .quoted) cursor

/-- A plain scalar; a key may start after it where it ended its line. -/
def plainScalar? (layout : Layout) : Option Layout := do
  let scanned ← PlainText.read? layout.inFlow layout.indent layout.cursor
  let layout ← layout.leaf? (.scalar (String.ofList scanned.text) .plain)
    scanned.next
  some { layout with keyAllowed := scanned.broken }

/--
Whether a plain scalar may start with a character that another one follows.
-/
def startsPlain (inFlow : Bool) (cursor : Cursor) (first : Char) : Bool :=
  let indicator :=
    isGap first || ['-', '?', ':', ',', '[', ']', '\x7b', '\x7d', '#', '&',
    '*', '!', '|', '>', '\'', '"', '%', '@', '\x60'].contains first
  !indicator || (first == '-' && !cursor.test 1 false isSpace)
    || (!inFlow && (first == '?' || first == ':') && !cursor.atGapOrEnd 1)

/-- The token that starts with a character. -/
def token? (layout : Layout) (first : Char) : Option Layout :=
  let cursor := layout.cursor
  let flow := layout.inFlow
  if cursor.column == 0 && first == '%' then do
    let layout ← layout.closeAll?
    let (directive, next) ← Property.directive? layout.cursor
    some ((layout.push (.directive directive)).moveTo next)
  else if cursor.atMarker '-' then
    layout.closeAll?.map fun layout =>
      (layout.push .documentStart).moveTo (cursor.skip 3)
  else if cursor.atMarker '.' then
    layout.closeAll?.map fun layout =>
      (layout.push .documentEnd).moveTo (cursor.skip 3)
  else if first == '[' then layout.openFlow? .flowSequenceStart
  else if first == '\x7b' then layout.openFlow? .flowMappingStart
  else if first == ']' then layout.closeFlow? .flowSequenceEnd
  else if first == '\x7d' then layout.closeFlow? .flowMappingEnd
  else if first == ',' then layout.flowEntry?
  else if first == '-' && cursor.atGapOrEnd 1 then layout.blockEntry?
  else if first == '?' && (flow || cursor.atGapOrEnd 1) then layout.key?
  else if first == ':' && (flow || cursor.atGapOrEnd 1) then layout.value?
  else if first == '*' then do
    let (name, next) ← Property.name? cursor
    layout.leaf? (.alias name) next
  else if first == '&' then do
    let (name, next) ← Property.name? cursor
    layout.leaf? (.anchor name) next
  else if first == '!' then do
    let (handle, suffix, next) ← Property.tag? flow cursor
    layout.leaf? (.tag handle suffix) next
  else if first == '|' && !flow then layout.blockScalar? true
  else if first == '>' && !flow then layout.blockScalar? false
  else if first == '\'' then layout.quotedScalar? true
  else if first == '"' then layout.quotedScalar? false
  else if startsPlain flow cursor first then layout.plainScalar?
  else none

/-- Scan tokens up to the end of the text. -/
def scan? : Nat → Layout → Option (List Token)
  | 0, _ => none
  | fuel + 1, layout => do
      let layout := skipSpace (layout.cursor.rest.length + 1) layout
      let layout ← layout.refreshCandidates?
      let layout := layout.unroll layout.cursor.column
      match layout.cursor.rest with
      | [] => (layout.closeAll?).map fun layout => layout.newestFirst.reverse
      | first :: _ =>
          let layout ← layout.token? first
          scan? fuel layout

end Layout

/--
The characters after a byte order mark at the very start, and the place they
start at.
-/
def afterMark (text : List Char) : Layout :=
  match text with
  | '\uFEFF' :: rest =>
      { Layout.start rest with cursor := ⟨rest, 1, 0, 1⟩ }
  | _ => Layout.start text

def Token.ofText? (text : List Char) : Option (List Token) :=
  if text.all isAllowed then Layout.scan? (text.length + 2) (afterMark text)
  else none

end HookKeeper.Yaml
