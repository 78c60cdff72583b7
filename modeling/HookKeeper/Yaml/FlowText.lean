import HookKeeper.Text.Digits
import HookKeeper.Yaml.Cursor

/-!
# Plain and quoted scalars

White space inside a plain or quoted scalar is kept on a line and folded
across lines: a single line break becomes a space, further line breaks stand
for themselves, and the spaces around them are dropped.

A plain scalar ends before a comment, before a colon that white space follows,
at a line that is indented too little, at the border of a document and, inside
brackets, before the characters that structure the collection.

Between single quotes a doubled quote stands for one.  Between double quotes a
backslash starts an escape: of one character, by number, or of a line break.
Lines fold as in plain scalars, and the border of a document is a fault.
-/

/-! ## Gaps between words -/

namespace HookKeeper.Yaml

/-- The white space met so far between two words. -/
structure Gap where
  /-- Spaces and tabs before any line break. -/
  spaces : List Char
  /-- Whether a line has ended. -/
  broken : Bool
  /-- What the first line break contributes. -/
  first : List Char
  /-- What the further line breaks contribute. -/
  more : List Char
  deriving Repr

namespace Gap

/-- No white space. -/
def empty : Gap := ⟨[], false, [], []⟩

/-- The gap after a line break that contributes nothing. -/
def escapedBreak : Gap := ⟨[], true, [], []⟩

/-- The gap with a further space or tab. -/
def addSpace (gap : Gap) (character : Char) : Gap :=
  if gap.broken then gap else { gap with spaces := gap.spaces ++ [character] }

/-- The gap with a further line break. -/
def addBreak (gap : Gap) (contribution : List Char) : Gap :=
  if gap.broken then { gap with more := gap.more ++ contribution }
  else ⟨[], true, contribution, []⟩

/-- The characters that a gap leaves in the text. -/
def folded (gap : Gap) : List Char :=
  if gap.broken then
    if gap.first = ['\n'] then if gap.more.isEmpty then [' '] else gap.more
    else gap.first ++ gap.more
  else gap.spaces

/--
Take white space into a gap.  After a line break, a tab left of column
`indentation` is a fault.
-/
def take? (indentation : Int) : Nat → Gap → Cursor → Option (Gap × Cursor)
  | 0, _, _ => none
  | fuel + 1, gap, cursor =>
      match cursor.rest with
      | [] => some (gap, cursor)
      | character :: _ =>
          if isSpace character then
            if gap.broken && character == '\t' &&
                (cursor.column : Int) < indentation then none
            else take? indentation fuel (gap.addSpace character) (cursor.skip 1)
          else if isBreak character then
            let (contribution, next) := cursor.takeBreak
            take? indentation fuel (gap.addBreak contribution) next
          else some (gap, cursor)

end Gap

end HookKeeper.Yaml

/-! ## Plain scalars -/

namespace HookKeeper.Yaml.PlainText

/-- Whether a character structures collections in brackets. -/
def isFlowIndicator (character : Char) : Bool :=
  character == ',' || character == '[' || character == ']'
    || character == '\x7b' || character == '\x7d'

/--
The characters up to white space or the end of the scalar.  Inside brackets a
colon directly before a structuring character is a fault.
-/
def word? (inFlow : Bool) : List Char → Option (List Char)
  | [] => some []
  | character :: rest =>
      if isGap character then some []
      else if inFlow && isFlowIndicator character then some []
      else if character == ':' then
        match rest with
        | [] => some []
        | next :: _ =>
            if inFlow && (isFlowIndicator next || next == '?') then none
            else if isGap next then some []
            else (word? inFlow rest).map (character :: ·)
      else (word? inFlow rest).map (character :: ·)

/-- A scanned plain scalar. -/
structure Scanned where
  text : List Char
  /-- Whether a line ended after the last word. -/
  broken : Bool
  next : Cursor

/--
Take words and the gaps between them.  `indentation` is the least column of a
further line outside of brackets.
-/
def scan?
    (inFlow : Bool)
    (indentation : Int) :
    Nat → List Char → Gap → Cursor → Option Scanned
  | 0, _, _, _ => none
  | fuel + 1, done, gap, cursor =>
      if cursor.atBorder || cursor.holds 0 '#' then
        some ⟨done, gap.broken, cursor⟩
      else do
        let word ← word? inFlow cursor.rest
        if word.isEmpty then some ⟨done, gap.broken, cursor⟩
        else
          let done := done ++ gap.folded ++ word
          let cursor := cursor.skip word.length
          if cursor.test 0 false isGap then
            let (gap, cursor) ← Gap.take? indentation (cursor.rest.length + 1)
              Gap.empty cursor
            if !inFlow && (cursor.column : Int) < indentation then
              some ⟨done, gap.broken, cursor⟩
            else scan? inFlow indentation fuel done gap cursor
          else some ⟨done, false, cursor⟩

/-- The plain scalar at a place, in a collection indented by `indent`. -/
def read? (inFlow : Bool) (indent : Int) (cursor : Cursor) : Option Scanned :=
  scan? inFlow (indent + 1) (cursor.rest.length + 1) [] Gap.empty cursor

end HookKeeper.Yaml.PlainText

/-! ## Quoted scalars -/

namespace HookKeeper.Yaml.QuotedText

open HookKeeper.Text

/-- The character of an escape by one letter. -/
def simpleEscape? : Char → Option Char
  | '0' => some '\x00'
  | 'a' => some '\x07'
  | 'b' => some '\x08'
  | 't' | '\t' => some '\t'
  | 'n' => some '\n'
  | 'v' => some '\x0b'
  | 'f' => some '\x0c'
  | 'r' => some '\r'
  | 'e' => some '\x1b'
  | ' ' => some ' '
  | '"' => some '"'
  | '/' => some '/'
  | '\\' => some '\\'
  | 'N' => some '\x85'
  | '_' => some '\xa0'
  | 'L' => some '\u2028'
  | 'P' => some '\u2029'
  | _ => none

/-- The number of digits of an escape by number. -/
def numberLength? : Char → Option Nat
  | 'x' => some 2
  | 'u' => some 4
  | 'U' => some 8
  | _ => none

/-- The character written by hexadecimal digits. -/
def numbered? (digits : List Char) : Option Char := do
  let code ← Hex.value? digits
  if (0xD800 ≤ code ∧ code ≤ 0xDFFF) ∨ 0x10FFFF < code then
    none else some (Char.ofNat code)

/--
The character of an escape after its backslash, and the number of characters it
takes.
-/
def escape? : List Char → Option (Char × Nat)
  | [] => none
  | letter :: rest =>
      match simpleEscape? letter with
      | some character => some (character, 1)
      | none => do
          let length ← numberLength? letter
          if rest.length < length then none
          else
            let character ← numbered? (rest.take length)
            some (character, length + 1)

/--
The characters up to white space, the closing quote or an escaped line break;
the flag tells whether it was the last of these.
-/
def word? (single : Bool) :
    Nat → List Char → Cursor → Option (List Char × Bool × Cursor)
  | 0, _, _ => none
  | fuel + 1, done, cursor =>
      match cursor.rest with
      | [] => some (done, false, cursor)
      | character :: rest =>
          if isGap character then some (done, false, cursor)
          else if single then
            if character == '\'' then
              if rest.head? == some '\'' then
                word? single fuel (done ++ ['\'']) (cursor.skip 2)
              else some (done, false, cursor)
            else word? single fuel (done ++ [character]) (cursor.skip 1)
          else if character == '"' then some (done, false, cursor)
          else if character == '\\' then
            if (cursor.skip 1).atBreak then
              some (done, true, (cursor.skip 1).skipBreak)
            else do
              let (value, length) ← escape? rest
              word? single fuel (done ++ [value]) (cursor.skip (length + 1))
          else word? single fuel (done ++ [character]) (cursor.skip 1)

/-- Take words and gaps up to the closing quote. -/
def scan? (single : Bool) :
    Nat → List Char → Cursor → Option (List Char × Cursor)
  | 0, _, _ => none
  | fuel + 1, done, cursor =>
      if cursor.atBorder || cursor.atEnd then none
      else do
        let (word, escaped, cursor) ← word? single (cursor.rest.length + 1)
          [] cursor
        let done := done ++ word
        if cursor.holds 0 (if single then '\'' else '"') then
          some (done, cursor.skip 1)
        else
          let (gap, cursor) ←
            Gap.take? 0 (cursor.rest.length + 1)
              (if escaped then Gap.escapedBreak else Gap.empty) cursor
          scan? single fuel (done ++ gap.folded) cursor

/-- The quoted scalar at a place, which holds its opening quote. -/
def read? (single : Bool) (cursor : Cursor) : Option (List Char × Cursor) :=
  scan? single (cursor.rest.length + 1) [] (cursor.skip 1)

end HookKeeper.Yaml.QuotedText
