/-!
# Numbers as text

Integers are written with the decimal digits that they need and a minus sign
where they have one.  Reading a natural number takes decimal digits alone, from
left to right.  Bytes are written with two hexadecimal digits, and numbers that
are not padded with as many as they need.
-/

/-! ## Decimal numbers -/

namespace HookKeeper.Text.Digits

/-- The decimal digits of a natural number. -/
def ofNat (value : Nat) : List Char := Nat.toDigits 10 value

/-- The decimal digits of an integer, after a minus sign where it has one. -/
def ofInt : Int → List Char
  | .ofNat value => ofNat value
  | .negSucc value => '-' :: ofNat (value + 1)

/-- The decimal text of a natural number. -/
def natText (value : Nat) : String := String.ofList (ofNat value)

theorem natText_inj {first second : Nat} :
    natText first = natText second ↔ first = second := by
  constructor
  · intro same
    have digits : Nat.toDigits 10 first = Nat.toDigits 10 second :=
      String.ofList_inj.1 same
    rw [← @Nat.ofDigitChars_toDigits 10 first (by decide) (by decide), digits,
      Nat.ofDigitChars_toDigits (by decide) (by decide)]
  · exact congrArg natText

/-- The decimal text of an integer. -/
def intText (value : Int) : String := String.ofList (ofInt value)

/-- Whether a character is one of the ten ASCII digits. -/
def isDigit (character : Char) : Bool := '0' ≤ character && character ≤ '9'

/-- The value of a decimal digit. -/
def digitValue? (character : Char) : Option Nat :=
  if isDigit character then some (character.toNat - 48) else none

/-- The number written by a run of digits; refuses any other character. -/
def value? (characters : List Char) : Option Nat :=
  characters.foldlM (fun total character =>
    (digitValue? character).map (total * 10 + ·)) 0

/-- Why a text is not a natural number below a bound. -/
inductive Fault where
  | empty
  | invalidDigit
  | tooLarge
  deriving Repr, DecidableEq

/--
Read further digits onto `total`.  Digits are taken from left to right and the
first fault wins: a character that is no digit, or a value that reaches the
bound.
-/
def boundedFrom (bound : Nat) : Nat → List Char → Except Fault Nat
  | total, [] => .ok total
  | total, character :: rest =>
      match digitValue? character with
      | none => .error .invalidDigit
      | some value =>
          if total * 10 + value < bound then
            boundedFrom bound (total * 10 + value) rest
          else .error .tooLarge

/-- Read a natural number below a bound, with at most one leading plus sign. -/
def bounded (bound : Nat) : List Char → Except Fault Nat
  | [] => .error .empty
  | ['+'] => .error .invalidDigit
  | '+' :: rest => boundedFrom bound 0 rest
  | characters => boundedFrom bound 0 characters

end HookKeeper.Text.Digits

/-! ## Hexadecimal numbers -/

namespace HookKeeper.Text.Hex

/-- The lower-case digit of a number below sixteen. -/
def digit (value : Nat) : Char :=
  if value < 10 then Char.ofNat (48 + value) else Char.ofNat (87 + value)

/-- The upper-case digit of a number below sixteen. -/
def upperDigit (value : Nat) : Char :=
  if value < 10 then Char.ofNat (48 + value) else Char.ofNat (55 + value)

/-- The two lower-case digits of a byte. -/
def byte (value : UInt8) : List Char :=
  [digit (value.toNat / 16), digit (value.toNat % 16)]

/-- The two upper-case digits of a byte. -/
def upperByte (value : UInt8) : List Char :=
  [upperDigit (value.toNat / 16), upperDigit (value.toNat % 16)]

/-- The lower-case digits of a number, without padding. -/
def number (value : Nat) : List Char := Nat.toDigits 16 value

/-- The value of a digit of either case. -/
def digitValue? (character : Char) : Option Nat :=
  let code := character.toNat
  if 48 ≤ code ∧ code ≤ 57 then some (code - 48)
  else if 97 ≤ code ∧ code ≤ 102 then some (code - 87)
  else if 65 ≤ code ∧ code ≤ 70 then some (code - 55)
  else none

/-- The number written by a run of digits; refuses any other character. -/
def value? (characters : List Char) : Option Nat :=
  characters.foldlM (fun total character =>
    (digitValue? character).map (total * 16 + ·)) 0

/-- The lower-case text of a sequence of bytes. -/
def text (bytes : List UInt8) : String := String.ofList (bytes.flatMap byte)

end HookKeeper.Text.Hex
