/-!
# Characters and places in a YAML text

A text may hold tabs, line breaks and printable characters only.  Five
characters break lines, a carriage return followed by a line feed being one
break.  A cursor is a place in a text: what follows it, and where it stands.
-/

namespace HookKeeper.Yaml

/-- Whether a character may stand in a text at all. -/
def isAllowed (character : Char) : Bool :=
  let code := character.toNat
  code == 0x09 || code == 0x0A || code == 0x0D ||
    (0x20 ≤ code && code ≤ 0x7E) || code == 0x85 ||
    (0xA0 ≤ code && code ≤ 0xD7FF) ||
    (0xE000 ≤ code && code ≤ 0xFFFD) || 0x10000 ≤ code

/-- Whether a character ends a line. -/
def isBreak (character : Char) : Bool :=
  character == '\n' || character == '\r' || character == '\x85' ||
    character == '\u2028' || character == '\u2029'

/-- Whether a character is a space or a tab. -/
def isSpace (character : Char) : Bool := character == ' ' || character == '\t'

/-- Whether a character is a space, a tab or a line break. -/
def isGap (character : Char) : Bool := isSpace character || isBreak character

/--
Whether a character may stand in a name: an ASCII letter or digit, a dash or an
underscore.
-/
def isNameChar (character : Char) : Bool :=
  ('0' ≤ character && character ≤ '9') || ('A' ≤ character && character ≤ 'Z')
    || ('a' ≤ character && character ≤ 'z') || character == '_'
      || character == '-'

/-- A place in a text. -/
structure Cursor where
  /-- The characters that follow. -/
  rest : List Char
  /-- The number of characters before it. -/
  index : Nat
  /-- The number of line breaks before it. -/
  line : Nat
  /-- The number of characters between it and the start of its line. -/
  column : Nat
  deriving Repr

namespace Cursor

def start (text : List Char) : Cursor := ⟨text, 0, 0, 0⟩

def peek (cursor : Cursor) (distance : Nat) : Option Char :=
  (cursor.rest.drop distance).head?

def holds (cursor : Cursor) (distance : Nat) (character : Char) : Bool :=
  cursor.peek distance == some character

/-- Whether the text is used up. -/
def atEnd (cursor : Cursor) : Bool := cursor.rest.isEmpty

/--
Whether the character at a distance satisfies a test, the end of the text giving
`final`.
-/
def test
    (cursor : Cursor)
    (distance : Nat)
    (final : Bool)
    (condition : Char → Bool) : Bool :=
  match cursor.peek distance with
  | some character => condition character
  | none => final

/--
Whether a space, a tab, a line break or the end of the text is at a distance.
-/
def atGapOrEnd (cursor : Cursor) (distance : Nat) : Bool :=
  cursor.test distance true isGap

/-- Whether a line break or the end of the text follows. -/
def atBreakOrEnd (cursor : Cursor) : Bool := cursor.test 0 true isBreak

/-- Whether a line break follows. -/
def atBreak (cursor : Cursor) : Bool := cursor.test 0 false isBreak

/-- Whether a space or a tab follows. -/
def atSpace (cursor : Cursor) : Bool := cursor.test 0 false isSpace

/-- The place `count` characters further on the same line. -/
def skip (cursor : Cursor) (count : Nat) : Cursor :=
  ⟨cursor.rest.drop count, cursor.index + count, cursor.line,
    cursor.column + count⟩

/--
The characters up to the first one that fails a test, and the place before that
one.
-/
def takeWhile
    (cursor : Cursor)
    (condition : Char → Bool) : List Char × Cursor :=
  let taken := cursor.rest.takeWhile condition
  (taken, cursor.skip taken.length)

/-- The place before the first character that fails a test. -/
def skipWhile (cursor : Cursor) (condition : Char → Bool) : Cursor :=
  (cursor.takeWhile condition).2

/--
What a line break contributes to a text, and the place at the start of the
next line.  Nothing happens where no line break follows.
-/
def takeBreak (cursor : Cursor) : List Char × Cursor :=
  match cursor.rest with
  | '\r' :: '\n' :: rest =>
      (['\n'], ⟨rest, cursor.index + 2, cursor.line + 1, 0⟩)
  | character :: rest =>
      if isBreak character then
        let kept :=
          if character == '\u2028' || character == '\u2029' then character
          else '\n'
        ([kept], ⟨rest, cursor.index + 1, cursor.line + 1, 0⟩)
      else ([], cursor)
  | [] => ([], cursor)

/-- The start of the next line, if a line break follows. -/
def skipBreak (cursor : Cursor) : Cursor := cursor.takeBreak.2

/--
Whether three equal characters that mark a document's border start the line.
-/
def atMarker (cursor : Cursor) (character : Char) : Bool :=
  cursor.column == 0 && cursor.holds 0 character && cursor.holds 1 character
    && cursor.holds 2 character && cursor.atGapOrEnd 3

/-- Whether the border of a document starts the line. -/
def atBorder (cursor : Cursor) : Bool :=
  cursor.atMarker '-' || cursor.atMarker '.'

/-- The place after spaces, tabs and a comment. -/
def skipToLineEnd (cursor : Cursor) : Cursor :=
  let cursor := cursor.skipWhile isSpace
  if cursor.holds 0 '#' then
    cursor.skipWhile fun character => !isBreak character else cursor

end Cursor

end HookKeeper.Yaml
