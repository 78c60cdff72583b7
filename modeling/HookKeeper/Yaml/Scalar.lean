import HookKeeper.Datum.Basic
import HookKeeper.Json.Binary64
import HookKeeper.Text.Digits
import HookKeeper.Yaml.Node

/-!
# Readings of YAML scalars

In a text position a scalar is its text, whatever it looks like.  Elsewhere
its look decides: an unquoted empty scalar or a word for null means no value,
and unquoted words and digits read as truth values and numbers.  A tag can
overrule the look where a position takes values of several kinds.
-/

namespace HookKeeper.Yaml

open HookKeeper.Text

def nullTag : String := "tag:yaml.org,2002:null"

/-- The tag of truth values. -/
def boolTag : String := "tag:yaml.org,2002:bool"

/-- The tag of whole numbers. -/
def intTag : String := "tag:yaml.org,2002:int"

/-- The tag of fractional numbers. -/
def floatTag : String := "tag:yaml.org,2002:float"

def isNullWord (text : String) : Bool :=
  ["~", "null", "Null", "NULL"].contains text

/-- The truth value that a text is a word for. -/
def boolWord? (text : String) : Option Bool :=
  if ["true", "True", "TRUE"].contains text then some true
  else if ["false", "False", "FALSE"].contains text then some false
  else none

def isSign (character : Char) : Bool := character == '+' || character == '-'

/-- The characters without one leading sign. -/
def dropSign : List Char → List Char
  | [] => []
  | first :: rest => if isSign first then rest else first :: rest

/--
Whether characters are digits that start with a superfluous zero, after at most
one sign.
-/
def hasLeadingZero (characters : List Char) : Bool :=
  match dropSign characters with
  | '0' :: next :: rest => (next :: rest).all Digits.isDigit
  | _ => false

def digitsValue? (base : Nat) (characters : List Char) : Option Nat :=
  if characters.isEmpty then none
  else
    characters.foldlM
      (fun total character =>
        match Hex.digitValue? character with
        | some value => if value < base then some (total * base + value)
            else none
        | none => none)
      0

/--
The magnitude of an unsigned number: decimal, or to another base after its mark.
-/
def magnitude? (characters : List Char) : Option Nat :=
  match characters with
  | '0' :: 'x' :: digits => digitsValue? 16 digits
  | '0' :: 'o' :: digits => digitsValue? 8 digits
  | '0' :: 'b' :: digits => digitsValue? 2 digits
  | digits => if hasLeadingZero digits then none else digitsValue? 10 digits

/-- The whole number that characters look like, with at most one sign. -/
def wholeNumber? (characters : List Char) : Option Int :=
  match characters with
  | '+' :: rest => (magnitude? rest).map fun value => (value : Int)
  | '-' :: rest => (magnitude? rest).map fun value => -(value : Int)
  | rest => (magnitude? rest).map fun value => (value : Int)

/-- The digits of a fractional number and the power of ten of the last one. -/
def fractional? (characters : List Char) : Option (Nat × Int) := do
  let before := characters.takeWhile Digits.isDigit
  let rest := characters.dropWhile Digits.isDigit
  let (after, rest) :=
    match rest with
    | '.' :: rest =>
        (rest.takeWhile Digits.isDigit, rest.dropWhile Digits.isDigit)
    | rest => ([], rest)
  if before.isEmpty && after.isEmpty then none
  else
    let value ← Digits.value? (before ++ after)
    let scale : Int := -(after.length : Int)
    match rest with
    | [] => some (value, scale)
    | mark :: rest =>
        if mark == 'e' || mark == 'E' then
          let (negative, digits) :=
            match rest with
            | '-' :: digits => (true, digits)
            | '+' :: digits => (false, digits)
            | digits => (false, digits)
          if digits.isEmpty then none
          else
            let exponent ← Digits.value? digits
            some (value, scale + if negative then -(exponent : Int)
              else (exponent : Int))
        else none

/-- Whether `value * 10 ^ exponent` is finite in double precision. -/
def isFinite (value : Nat) (exponent : Int) : Bool :=
  if value = 0 then true
  else if 400 < exponent then false
  else if 0 ≤ exponent then
    (Json.Binary64.ofRatio? (value * Nat.pow 10 exponent.toNat) 1).isSome
  else if ((Digits.ofNat value).length : Int) + exponent ≤ 300 then true
  else (Json.Binary64.ofRatio? value (Nat.pow 10 (-exponent).toNat)).isSome

/--
Whether characters look like a fractional number, an infinity or no number.
-/
def looksFractional (characters : List Char) : Bool :=
  let text := String.ofList characters
  let unsigned := match characters with | '+' :: rest => rest | rest => rest
  if characters.head? == some '+' && (unsigned.head?.any isSign) then false
  else if [".inf", ".Inf", ".INF"].contains (String.ofList unsigned) then true
  else if ["-.inf", "-.Inf", "-.INF", ".nan", ".NaN", ".NAN"].contains text then
    true
  else
    let magnitude := match unsigned with | '-' :: rest => rest | rest => rest
    match fractional? magnitude with
    | some (value, exponent) => isFinite value exponent
    | none => false

/--
Whether a number fits a word of a hundred and twenty-eight bits, signed or not.
-/
def fitsWide (value : Int) : Bool :=
  -Int.pow 2 127 ≤ value && value < Int.pow 2 128

/-- What an unquoted scalar means where a number or a text may stand. -/
def looseIntOrText? (text : String) : Option IntOrText :=
  let characters := text.toList
  if text == "" || isNullWord text || (boolWord? text).isSome then none
  else
    match (wholeNumber? characters).filter fitsWide with
    | some value => (Scalar.int32? value).map .int
    | none =>
        if !hasLeadingZero characters && looksFractional characters then none
        else some (.text text)

/-- What a scalar means where a number or a text may stand. -/
def intOrText?
    (text : String)
    (style : Style) : Option String → Option IntOrText
  | none => if style == .plain then looseIntOrText? text else some (.text text)
  | some tag =>
      if tag == boolTag || tag == floatTag || tag == nullTag
          || tag.toList.head? == some '!' then
        none
      else if tag == intTag then
        ((wholeNumber? text.toList).filter fitsWide).bind fun value =>
          (Scalar.int32? value).map .int
      else some (.text text)

/-- What a scalar means in an optional position. -/
def presence (text : String) (style : Style) (tag : Option String) : Presence :=
  if style != .plain then .given
  else
    match tag with
    | none => if text == "" || isNullWord text then .absent else .given
    | some tag =>
        if tag == nullTag then if isNullWord text then .absent else .refused
        else .given

/--
Whether a scalar is read by its look where only values with a given tag may
stand.
-/
def readsAs (expected : String) (style : Style) (tag : Option String) : Bool :=
  style == .plain || (style == .literal && tag == some expected)

/-- The readings of a scalar. -/
def scalarReading
    (text : String)
    (style : Style)
    (tag : Option String) : Scalar where
  presence := presence text style tag
  text := some text
  integer := if readsAs intTag style tag then wholeNumber? text.toList else none
  boolean := if readsAs boolTag style tag then boolWord? text else none
  intOrText := intOrText? text style tag
  blank := style == .plain && text == ""

end HookKeeper.Yaml
