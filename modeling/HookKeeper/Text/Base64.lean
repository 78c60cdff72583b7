/-!
# Base64

The standard alphabet with padding.  Reading is strict: the length is a
multiple of four, padding stands only at the end and the bits it hides are
zero, so a sequence of bytes has exactly one text.
-/

namespace HookKeeper.Text.Base64

/-- The character of a six-bit number. -/
def digit (value : Nat) : Char :=
  if value < 26 then Char.ofNat (65 + value)
  else if value < 52 then Char.ofNat (71 + value)
  else if value < 62 then Char.ofNat (value - 4)
  else if value = 62 then '+'
  else '/'

/-- The six-bit number of a character of the alphabet. -/
def digitValue? (character : Char) : Option Nat :=
  let code := character.toNat
  if 65 ≤ code ∧ code ≤ 90 then some (code - 65)
  else if 97 ≤ code ∧ code ≤ 122 then some (code - 71)
  else if 48 ≤ code ∧ code ≤ 57 then some (code + 4)
  else if character = '+' then some 62
  else if character = '/' then some 63
  else none

/-- The characters of a sequence of bytes, three bytes at a time. -/
def encodeChars : List UInt8 → List Char
  | [] => []
  | [first] =>
      [digit (first.toNat / 4), digit (first.toNat % 4 * 16), '=', '=']
  | [first, second] =>
      [digit (first.toNat / 4),
        digit (first.toNat % 4 * 16 + second.toNat / 16),
        digit (second.toNat % 16 * 4), '=']
  | first :: second :: third :: rest =>
      digit (first.toNat / 4)
        :: digit (first.toNat % 4 * 16 + second.toNat / 16)
        :: digit (second.toNat % 16 * 4 + third.toNat / 64)
        :: digit (third.toNat % 64)
        :: encodeChars rest

/-- The text of a sequence of bytes. -/
def encode (bytes : List UInt8) : String := String.ofList (encodeChars bytes)

/-- The bytes written by a run of characters, four characters at a time. -/
def decodeChars? : List Char → Option (List UInt8)
  | [] => some []
  | [a, b, '=', '='] => do
      let first ← digitValue? a
      let second ← digitValue? b
      if second % 16 = 0 then
        some [UInt8.ofNat (first * 4 + second / 16)]
      else none
  | [a, b, c, '='] => do
      let first ← digitValue? a
      let second ← digitValue? b
      let third ← digitValue? c
      if third % 4 = 0 then
        some [UInt8.ofNat (first * 4 + second / 16),
          UInt8.ofNat (second % 16 * 16 + third / 4)]
      else none
  | a :: b :: c :: d :: rest => do
      let first ← digitValue? a
      let second ← digitValue? b
      let third ← digitValue? c
      let fourth ← digitValue? d
      let bytes ← decodeChars? rest
      some (UInt8.ofNat (first * 4 + second / 16)
        :: UInt8.ofNat (second % 16 * 16 + third / 4)
        :: UInt8.ofNat (third % 4 * 64 + fourth) :: bytes)
  | _ => none

/-- The bytes written by a text. -/
def decode? (text : String) : Option (List UInt8) := decodeChars? text.toList

end HookKeeper.Text.Base64
