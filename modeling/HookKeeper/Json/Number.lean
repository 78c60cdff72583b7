import HookKeeper.Json.Binary64
import HookKeeper.Text.Digits

/-!
# Numbers in JSON text

A number without fraction and exponent that fits sixty-four bits is a whole
number; every other number is held in double precision.  A double is written
with its shortest digits, positionally when the first digit stands between the
sixteenth place before the point and the fifth after it, else with an exponent.
-/

namespace HookKeeper.Json

open HookKeeper.Text

/-- A decimal as written for a double: sign, digits and power of ten. -/
structure Decimal where
  negative : Bool
  digits : Nat
  exponent : Int
  deriving Repr, DecidableEq

/-- A number as JSON text gives it. -/
inductive Number where
  | whole (value : Int)
  | real (value : Decimal)
  deriving Repr, DecidableEq

namespace Decimal

/--
The text of a double: a point is always shown unless there is an exponent.
-/
def chars (value : Decimal) : List Char :=
  let digits := Digits.ofNat value.digits
  let length : Int := digits.length
  -- the place of the point, counted from the first digit
  let point := length + value.exponent
  let sign := if value.negative then ['-'] else []
  let exponentText := 'e' :: Digits.ofInt (point - 1)
  let unsigned :=
    if value.digits = 0 then ['0', '.', '0']
    else if 0 ≤ value.exponent ∧ point ≤ 16 then
      digits ++ List.replicate value.exponent.toNat '0' ++ ['.', '0']
    else if 0 < point ∧ point ≤ 16 then
      digits.take point.toNat ++ '.' :: digits.drop point.toNat
    else if -5 < point ∧ point ≤ 0 then
      ['0', '.'] ++ List.replicate (-point).toNat '0' ++ digits
    else
      match digits with
      | first :: second :: rest =>
          first :: '.' :: second :: rest ++ exponentText
      | single => single ++ exponentText
  sign ++ unsigned

/-- The decimal that a double is written with. -/
def ofBinary64 (negative : Bool) (value : Binary64) : Decimal :=
  ⟨negative, value.shortest.1, value.shortest.2⟩

end Decimal

namespace Number

/-- The bound of a sixty-four bit word. -/
def wordBound : Nat := Nat.pow 2 64

def chars : Number → List Char
  | .whole value => Digits.ofInt value
  | .real value => value.chars

/--
Take digits into a significand as long as it fits a word.  The answer is the
significand, the count of digits taken and the count of digits left over.
-/
def significandFrom : Nat → List Nat → Nat × Nat × Nat
  | significand, [] => (significand, 0, 0)
  | significand, digit :: rest =>
      if significand * 10 + digit < wordBound then
        let (final, taken, left) :=
          significandFrom (significand * 10 + digit) rest
        (final, taken + 1, left)
      else (significand, 0, rest.length + 1)

/-- Divide by `10 ^ 308` until the remaining power of ten is in range. -/
def scaleDown : Nat → Binary64 → Nat → Option (Binary64 × Nat)
  | 0, value, power => some (value, power)
  | fuel + 1, value, power =>
      if power ≤ 308 then some (value, power)
      else if value.significand = 0 then some (value, 0)
      else do
        let unit ← Binary64.ofRatio? (Nat.pow 10 308) 1
        let smaller ← Binary64.div? value unit
        scaleDown fuel smaller (power - 308)

/--
The double for `significand * 10 ^ exponent`, by one rounded step after another.
-/
def scaled? (significand : Nat) (exponent : Int) : Option Binary64 := do
  let start ← Binary64.ofRatio? significand 1
  if 0 ≤ exponent then
    if exponent ≤ 308 then
      Binary64.mul? start (← Binary64.ofRatio? (Nat.pow 10 exponent.toNat) 1)
    else if start.significand = 0 then some start
    else none
  else
    let (value, power) ← scaleDown 8 start (-exponent).toNat
    Binary64.div? value (← Binary64.ofRatio? (Nat.pow 10 power) 1)

/--
The largest exponent that is read as a number; beyond it only the sign counts.
-/
def exponentBound : Nat := 2147483647

/--
The number written by its parts: a sign, the digits before the point, the
digits after it where there is a point, and the exponent where there is one.
`none` means that the number is too large.
-/
def ofParts?
    (negative : Bool)
    (before : List Nat)
    (after : Option (List Nat))
    (exponent : Option Int) : Option Number :=
  let (leading, _, beyond) := significandFrom 0 before
  match after, exponent, beyond with
  | none, none, 0 =>
      if negative then
        if leading = 0 then some (.real ⟨true, 0, 0⟩)
        else if leading ≤ Nat.pow 2 63 then some (.whole (-leading))
        else (scaled? leading 0).map fun value =>
          .real (Decimal.ofBinary64 true value)
      else some (.whole leading)
  | _, _, _ =>
      let (significand, taken, _) := significandFrom leading (after.getD [])
      let shift : Int := (beyond : Int) - taken
      let given := exponent.getD 0
      if exponentBound < given.natAbs then
        if significand ≠ 0 ∧ 0 < given then none
        else some (.real ⟨negative, 0, 0⟩)
      else
        (scaled? significand (shift + given)).map fun value =>
          .real (Decimal.ofBinary64 negative value)

end Number

end HookKeeper.Json
