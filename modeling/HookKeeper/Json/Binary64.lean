/-!
# Rounding to double precision

A finite number in double precision is a whole multiple of a power of two with
at most fifty-three significant bits.  `ofRatio?` rounds a quotient of natural
numbers to the nearest such number, to the even one on a tie, and refuses what
is too large.  `shortest` gives the decimal digits that a double is written
with: the fewest that lie nearer to it than to any other double, and of those
the nearest.
-/

namespace HookKeeper.Json

/-- A non-negative finite double: `significand * 2 ^ exponent`. -/
structure Binary64 where
  significand : Nat
  exponent : Int
  deriving Repr, DecidableEq

namespace Binary64

/-- The least exponent of a double. -/
def leastExponent : Int := -1074

def zero : Binary64 := ⟨0, leastExponent⟩

/-- `value * 2 ^ exponent` as a numerator and a denominator. -/
def ratio (value : Binary64) : Nat × Nat :=
  if 0 ≤ value.exponent then
    (value.significand * Nat.pow 2 value.exponent.toNat, 1)
  else (value.significand, Nat.pow 2 (-value.exponent).toNat)

/-- The quotient rounded to the nearest whole number, a half to the even one. -/
def roundHalfEven (numerator denominator : Nat) : Nat :=
  let quotient := numerator / denominator
  let twice := 2 * (numerator % denominator)
  if twice < denominator then quotient
  else if denominator < twice then quotient + 1
  else quotient + quotient % 2

/--
The exponent for which the quotient has fifty-three bits before the point, or
the least one.
-/
def exponentFor (numerator denominator : Nat) : Int :=
  let estimate : Int :=
    (Nat.log2 numerator : Int) - (Nat.log2 denominator : Int) - 52
  let scaled : Nat × Nat :=
    if 0 ≤ estimate then (numerator, denominator * Nat.pow 2 estimate.toNat)
    else (numerator * Nat.pow 2 (-estimate).toNat, denominator)
  let exact :=
    if scaled.1 < scaled.2 * Nat.pow 2 52 then estimate - 1
    else estimate
  max exact leastExponent

/-- The double nearest to a quotient, unless it is too large to be finite. -/
def ofRatio? (numerator denominator : Nat) : Option Binary64 :=
  if numerator = 0 then some zero
  else
    let exponent := exponentFor numerator denominator
    let significand :=
      if 0 ≤ exponent then
        roundHalfEven numerator (denominator * Nat.pow 2 exponent.toNat)
      else roundHalfEven (numerator * Nat.pow 2 (-exponent).toNat) denominator
    let carried : Binary64 :=
      if significand = Nat.pow 2 53 then ⟨Nat.pow 2 52, exponent + 1⟩
      else ⟨significand, exponent⟩
    if 971 < carried.exponent then none else some carried

/-- The product of two doubles, rounded. -/
def mul? (left right : Binary64) : Option Binary64 :=
  ofRatio? (left.ratio.1 * right.ratio.1) (left.ratio.2 * right.ratio.2)

/-- The quotient of two doubles, rounded. -/
def div? (left right : Binary64) : Option Binary64 :=
  ofRatio? (left.ratio.1 * right.ratio.2) (left.ratio.2 * right.ratio.1)

/-- The decimal `digits * 10 ^ exponent` as a numerator and a denominator. -/
def decimalRatio (digits : Nat) (exponent : Int) : Nat × Nat :=
  if 0 ≤ exponent then (digits * Nat.pow 10 exponent.toNat, 1)
  else (digits, Nat.pow 10 (-exponent).toNat)

/--
Four times the distance unit below and above: the ends of the stretch of
reals that round to a double, as multiples of a quarter of its last place.
-/
def ends (value : Binary64) : Nat × Nat :=
  let low :=
    if value.significand = Nat.pow 2 52 ∧ leastExponent < value.exponent then
      4 * value.significand - 1
    else 4 * value.significand - 2
  (low, 4 * value.significand + 2)

/--
Whether a decimal rounds to a double; the ends count when the significand is
even.
-/
def accepts (value : Binary64) (digits : Nat) (exponent : Int) : Bool :=
  let decimal := decimalRatio digits exponent
  let place := ratio ⟨1, value.exponent - 2⟩
  -- decimal / place, compared with the ends by cross multiplication
  let scaled := decimal.1 * place.2
  let unit := decimal.2 * place.1
  let stretch := value.ends
  if value.significand % 2 = 0 then
    stretch.1 * unit ≤ scaled && scaled ≤ stretch.2 * unit
  else
    stretch.1 * unit < scaled && scaled < stretch.2 * unit

/--
Twice the distance of a decimal from a double, as a fraction over a common
denominator.
-/
def distance (value : Binary64) (digits : Nat) (exponent : Int) : Nat :=
  let decimal := decimalRatio digits exponent
  let own := value.ratio
  let left := decimal.1 * own.2
  let right := own.1 * decimal.2
  if left ≤ right then right - left else left - right

/--
The decimal on the grid `10 ^ exponent` that rounds to a double, if there is
one: of the two neighbours the nearer, on a tie the even one.
-/
def onGrid? (value : Binary64) (exponent : Int) : Option Nat :=
  let own := value.ratio
  let low :=
    if 0 ≤ exponent then own.1 / (own.2 * Nat.pow 10 exponent.toNat)
    else own.1 * Nat.pow 10 (-exponent).toNat / own.2
  let lowFits := accepts value low exponent && 0 < low
  let highFits := accepts value (low + 1) exponent
  if lowFits && highFits then
    let below := distance value low exponent
    let above := distance value (low + 1) exponent
    if below < above then some low
    else if above < below then some (low + 1)
    else some (low + low % 2)
  else if lowFits then some low
  else if highFits then some (low + 1)
  else none

/-- Try finer and finer grids, starting at `exponent`. -/
def search (value : Binary64) : Nat → Int → Nat × Int
  | 0, exponent => (0, exponent)
  | fuel + 1, exponent =>
      match onGrid? value exponent with
      | some digits => (digits, exponent)
      | none => search value fuel (exponent - 1)

/-- Move trailing zeros of the digits into the exponent. -/
def trimZeros : Nat → Nat × Int → Nat × Int
  | 0, decimal => decimal
  | fuel + 1, (digits, exponent) =>
      if digits ≠ 0 ∧ digits % 10 = 0 then
        trimZeros fuel (digits / 10, exponent + 1)
      else (digits, exponent)

/-- The fewest digits that read back as a double, with their power of ten. -/
def shortest (value : Binary64) : Nat × Int :=
  if value.significand = 0 then (0, 0)
  else
    let bits : Int := (Nat.log2 value.significand : Int) + value.exponent
    -- the power of ten just above the value, overestimated by at most two
    let start := bits * 30103 / 100000 + 2
    trimZeros 20 (search value 24 start)

end Binary64

end HookKeeper.Json
