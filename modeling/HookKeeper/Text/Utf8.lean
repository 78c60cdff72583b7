import HookKeeper.Text.Digits
import HookKeeper.Text.Unprintable

/-!
# Quoted text and bytes

A quoted text stands between double quotes.  The quote and the backslash take a
backslash, four control characters have an escape of one letter, every other
unprintable character is written as its number in braces, and all else stands
for itself.

A sequence of bytes splits into characters and faulty runs.  A faulty run is the
longest start of a well-formed character that is not continued, or a single byte
that starts none.  Bytes are text when no run is faulty; the lenient reading
puts the replacement character in place of each faulty run.
-/

/-! ## Quoted text in messages -/

namespace HookKeeper.Text

/-- The form of one character inside double quotes. -/
def escaped (character : Char) : List Char :=
  if character = '"' then ['\\', '"']
  else if character = '\\' then ['\\', '\\']
  else if character = '\t' then ['\\', 't']
  else if character = '\r' then ['\\', 'r']
  else if character = '\n' then ['\\', 'n']
  else if character = '\x00' then ['\\', '0']
  else if isUnprintable character then
    ['\\', 'u', '\x7b'] ++ Hex.number character.toNat ++ ['\x7d']
  else [character]

/-- A text between double quotes, with its special characters escaped. -/
def quoted (text : String) : String :=
  String.ofList ('"' :: text.toList.flatMap escaped ++ ['"'])

end HookKeeper.Text

/-! ## Bytes read as UTF-8 -/

namespace HookKeeper.Text.Utf8

/-- A stretch of bytes: one character, or a run that is part of none. -/
inductive Piece where
  | character (value : Char)
  | faulty (bytes : List UInt8)
  deriving Repr, DecidableEq

/--
For a leading byte of a longer character: the bits it gives, the range of the
second byte and the number of bytes that follow.
-/
private def lead? (byte : Nat) : Option (Nat × Nat × Nat × Nat) :=
  if 0xC2 ≤ byte ∧ byte ≤ 0xDF then some (byte - 0xC0, 0x80, 0xBF, 1)
  else if byte = 0xE0 then some (0, 0xA0, 0xBF, 2)
  else if byte = 0xED then some (0xD, 0x80, 0x9F, 2)
  else if 0xE1 ≤ byte ∧ byte ≤ 0xEF then some (byte - 0xE0, 0x80, 0xBF, 2)
  else if byte = 0xF0 then some (0, 0x90, 0xBF, 3)
  else if byte = 0xF4 then some (4, 0x80, 0x8F, 3)
  else if 0xF1 ≤ byte ∧ byte ≤ 0xF3 then some (byte - 0xF0, 0x80, 0xBF, 3)
  else none

/--
Continue a character that has `code` so far and needs `missing` more bytes, of
which the next lies between `low` and `high`.  The answer is the piece and the
number of bytes that it takes after the leading one.
-/
private def continued
    (taken : List UInt8)
    (code : Nat) :
    Nat → Nat → Nat → List UInt8 → Piece × Nat
  | 0, _, _, _ => (.character (Char.ofNat code), taken.length - 1)
  | _ + 1, _, _, [] => (.faulty taken.reverse, taken.length - 1)
  | missing + 1, low, high, byte :: rest =>
      if low ≤ byte.toNat ∧ byte.toNat ≤ high then
        continued (byte :: taken) (code * 64 + (byte.toNat - 0x80)) missing 0x80
          0xBF rest
      else (.faulty taken.reverse, taken.length - 1)

/--
The piece that starts with a byte, and how many of the next bytes it takes.
-/
def piece (byte : UInt8) (rest : List UInt8) : Piece × Nat :=
  if byte.toNat < 0x80 then (.character (Char.ofNat byte.toNat), 0)
  else
    match lead? byte.toNat with
    | none => (.faulty [byte], 0)
    | some (code, low, high, missing) =>
        continued [byte] code missing low high rest

/-- The pieces of a sequence of bytes, passing over the first `skip` bytes. -/
def piecesFrom : Nat → List UInt8 → List Piece
  | _, [] => []
  | skip + 1, _ :: rest => piecesFrom skip rest
  | 0, byte :: rest =>
      (piece byte rest).1 :: piecesFrom (piece byte rest).2 rest

/-- The pieces of a sequence of bytes. -/
def pieces (bytes : List UInt8) : List Piece := piecesFrom 0 bytes

/-- The text of a sequence of bytes, when no run is faulty. -/
def decode? (bytes : List UInt8) : Option String :=
  ((pieces bytes).mapM fun
    | Piece.character value => some value
    | Piece.faulty _ => none).map String.ofList

/-- The text of a sequence of bytes with a replacement for each faulty run. -/
def decodeLossy (bytes : List UInt8) : String :=
  String.ofList ((pieces bytes).map fun
    | Piece.character value => value
    | Piece.faulty _ => '\uFFFD')

/-- The bytes of a text. -/
def encode (text : String) : List UInt8 := text.toUTF8.toList

/--
Bytes that may not be text, between double quotes: faulty bytes by their
numbers, characters as in quoted text, the single quote escaped as well.
-/
def quotedBytes (bytes : List UInt8) : String :=
  String.ofList ('"' :: (pieces bytes).flatMap form ++ ['"'])
where
  /-- The form of one piece. -/
  form : Piece → List Char
    | .character value => if value = '\'' then ['\\', '\''] else escaped value
    | .faulty run => run.flatMap fun byte => ['\\', 'x'] ++ Hex.upperByte byte

end HookKeeper.Text.Utf8
