import HookKeeper.Text.Digits
import HookKeeper.Text.Utf8
import HookKeeper.Yaml.Cursor

/-!
# Properties and tokens of a YAML text

An anchor or alias is a name.  A tag is written in full between angle
brackets, or as a handle and a suffix.  A directive line gives the version of
the format or a handle for tags.

Tokens carry the structure that indentation gives: the start and the end of
block collections stand as tokens of their own, and a key is announced before
it even where only the colon after it shows that it is one.
-/

/-! ## Anchors, tags and directives -/

namespace HookKeeper.Yaml.Property

open HookKeeper.Text

/-- Whether a character may follow an anchor or alias directly. -/
def endsName (character : Char) : Bool :=
  isGap character || character == '?' || character == ':' || character == ','
    || character == ']' || character == '\x7d' || character == '%'
    || character == '@' || character == '\x60'

/-- The name of an anchor or alias whose indicator a place holds. -/
def name? (cursor : Cursor) : Option (String × Cursor) :=
  let (taken, next) := (cursor.skip 1).takeWhile isNameChar
  if taken.isEmpty || !next.test 0 true endsName then none
  else some (String.ofList taken, next)

/--
Whether a character may stand in a tag; `verbatim` allows those of full tags.
-/
def isTagChar (verbatim : Bool) (character : Char) : Bool :=
  isNameChar character || [';', '/', '?', ':', '@', '&', '=', '+', '$', '.',
    '%', '!', '~', '*', '\'', '(', ')'].contains character
    || (verbatim && [',', '[', ']'].contains character)

/-- The number of bytes that a character starting with a byte takes. -/
def byteLength? (byte : Nat) : Option Nat :=
  if byte < 0x80 then some 1
  else if 0xC0 ≤ byte ∧ byte < 0xE0 then some 2
  else if 0xE0 ≤ byte ∧ byte < 0xF0 then some 3
  else if 0xF0 ≤ byte ∧ byte < 0xF8 then some 4
  else none

/-- One byte written as a percent sign and two digits. -/
def escapedByte? : List Char → Option (Nat × List Char)
  | '%' :: high :: low :: rest => (Hex.value? [high, low]).map (·, rest)
  | _ => none

/-- The bytes that continue a character, each escaped. -/
def continuation? : Nat → List Char → Option (List UInt8)
  | 0, _ => some []
  | count + 1, characters => do
      let (byte, rest) ← escapedByte? characters
      if 0x80 ≤ byte ∧ byte < 0xC0 then
        (continuation? count rest).map (UInt8.ofNat byte :: ·)
      else none

/-- The bytes of an escaped character. -/
def escapedChar? (characters : List Char) : Option (List UInt8) := do
  let (byte, rest) ← escapedByte? characters
  let length ← byteLength? byte
  let more ← continuation? (length - 1) rest
  some (UInt8.ofNat byte :: more)

/--
The bytes of the characters of a tag, escapes resolved, and the place after
them.
-/
def tagBytes? (verbatim : Bool) :
    Nat → List UInt8 → Cursor → Option (List UInt8 × Cursor)
  | 0, _, _ => none
  | fuel + 1, done, cursor =>
      match cursor.rest with
      | [] => some (done, cursor)
      | character :: _ =>
          if isTagChar verbatim character then
            if character == '%' then do
              let bytes ← escapedChar? cursor.rest
              tagBytes? verbatim fuel (done ++ bytes)
                (cursor.skip (3 * bytes.length))
            else
              tagBytes? verbatim fuel
                (done ++ Utf8.encode (String.singleton character))
                (cursor.skip 1)
          else some (done, cursor)

/--
The text of the characters of a tag after those of `head`; it may not be empty.
-/
def tagText?
    (verbatim : Bool)
    (head : String)
    (nonempty : Bool)
    (cursor : Cursor) : Option (String × Cursor) := do
  let (bytes, next) ← tagBytes? verbatim (cursor.rest.length + 1)
    (Utf8.encode head) cursor
  if nonempty || next.index != cursor.index then
    some (Utf8.decodeLossy bytes, next) else none

/--
The characters of a handle: an exclamation mark, a name and a second mark if
there is one.
-/
def handle? (cursor : Cursor) : Option (List Char × Cursor) :=
  if cursor.holds 0 '!' then
    let (name, next) := (cursor.skip 1).takeWhile isNameChar
    if next.holds 0 '!' then some ('!' :: name ++ ['!'], next.skip 1)
    else some ('!' :: name, next)
  else none

/--
Whether the characters of a handle are more than a lone mark and end in a mark.
-/
def isNamedHandle (handle : List Char) : Bool :=
  1 < handle.length && handle.getLast? == some '!'

/-- The handle and the suffix of the tag whose indicator a place holds. -/
def tag?
    (inFlow : Bool)
    (cursor : Cursor) : Option (String × String × Cursor) := do
  let (handle, suffix, next) ←
    if cursor.holds 1 '<' then do
      let (suffix, next) ← tagText? true "" false (cursor.skip 2)
      if next.holds 0 '>' then some ("", suffix, next.skip 1) else none
    else do
      let (handle, next) ← handle? cursor
      if isNamedHandle handle then
        let (suffix, next) ← tagText? false "" false next
        some (String.ofList handle, suffix, next)
      else
        let (suffix, next) ← tagText? false (String.ofList (handle.drop 1))
          true next
        if suffix == "" then some ("", "!", next) else some ("!", suffix, next)
  if next.atGapOrEnd 0 || (inFlow && next.holds 0 ',') then
    some (handle, suffix, next) else none

/-- A directive before a document. -/
inductive Directive where
  | version (major minor : Nat)
  | tag (handle expansion : String)
  deriving Repr, DecidableEq

/-- A number of at most nine digits. -/
def versionNumber? (cursor : Cursor) : Option (Nat × Cursor) :=
  let (digits, next) := cursor.takeWhile Digits.isDigit
  if digits.isEmpty || 9 < digits.length then
    none else (Digits.value? digits).map (·, next)

/--
The directive whose indicator a place holds, and the start of the next line.
-/
def directive? (cursor : Cursor) : Option (Directive × Cursor) := do
  let (name, next) := (cursor.skip 1).takeWhile isNameChar
  if name.isEmpty || !next.atGapOrEnd 0 then none
  else
    let start := next.skipWhile isSpace
    let (directive, next) ←
      if name == ['Y', 'A', 'M', 'L'] then do
        let (major, next) ← versionNumber? start
        if next.holds 0 '.' then
          let (minor, next) ← versionNumber? (next.skip 1)
          some (Directive.version major minor, next)
        else none
      else if name == ['T', 'A', 'G'] then do
        let (handle, next) ← handle? start
        if !isNamedHandle handle && handle != ['!'] then none
        else if !next.atSpace then none
        else
          let (expansion, next) ← tagText? true "" false
            (next.skipWhile isSpace)
          if next.atGapOrEnd 0 then
            some (Directive.tag (String.ofList handle) expansion, next)
          else none
      else none
    let next := next.skipToLineEnd
    if next.atBreakOrEnd then some (directive, next.skipBreak) else none

end HookKeeper.Yaml.Property

/-! ## Tokens -/

namespace HookKeeper.Yaml

/-- How a scalar is written. -/
inductive Style where
  | plain
  | quoted
  | literal
  | folded
  deriving Repr, DecidableEq

/-- A token. -/
inductive Token where
  | directive (value : Property.Directive)
  | documentStart
  | documentEnd
  | blockSequenceStart
  | blockMappingStart
  | blockEnd
  | flowSequenceStart
  | flowSequenceEnd
  | flowMappingStart
  | flowMappingEnd
  | blockEntry
  | flowEntry
  | key
  | value
  | alias (name : String)
  | anchor (name : String)
  | tag (handle suffix : String)
  | scalar (text : String) (style : Style)
  deriving Repr, DecidableEq

end HookKeeper.Yaml
