import HookKeeper.Json.Tree

/-!
# Data that typed values are read from

A datum is what a document gives before any type is known: a scalar, a
sequence or a list of entries.  A scalar carries, for each kind of position
that it may stand in, what it reads as there, so one set of typed readers
serves documents whose scalars follow different rules.
-/

namespace HookKeeper

/-- A number or a text, for positions that take both. -/
inductive IntOrText where
  | int (value : Int32)
  | text (value : String)
  deriving DecidableEq, Repr

/-- What a scalar means in an optional position. -/
inductive Presence where
  /-- A value is given and is read by the rule of the position. -/
  | given
  /-- No value is given. -/
  | absent
  /-- The scalar is a fault in any optional position. -/
  | refused
  deriving DecidableEq, Repr

/-- The readings of a scalar, one for each kind of position. -/
structure Scalar where
  presence : Presence
  text : Option String
  integer : Option Int
  boolean : Option Bool
  intOrText : Option IntOrText
  /-- Whether it stands for an empty collection. -/
  blank : Bool
  deriving DecidableEq, Repr

/-- A document before any type is known. -/
inductive Datum where
  | scalar (reading : Scalar)
  | list (items : List Datum)
  | map (entries : List (Datum × Datum))

namespace Scalar

/-- A whole number in the range of a word of thirty-two bits. -/
def int32? (value : Int) : Option Int32 :=
  if -2147483648 ≤ value ∧ value ≤ 2147483647 then some (Int32.ofInt value)
  else none

/-- A whole number in the range of a word of sixty-four bits. -/
def int64? (value : Int) : Option Int64 :=
  if -9223372036854775808 ≤ value ∧ value ≤ 9223372036854775807 then
    some (Int64.ofInt value)
  else none

/-- A scalar that is given but has no reading of its own. -/
def unreadable : Scalar := ⟨.given, none, none, none, none, false⟩

/-- A scalar that stands for no value. -/
def null : Scalar := { unreadable with presence := .absent }

def ofText (value : String) : Scalar :=
  { unreadable with text := some value, intOrText := some (.text value) }

/-- A truth value. -/
def ofBool (value : Bool) : Scalar := { unreadable with boolean := some value }

def ofInt (value : Int) : Scalar :=
  { unreadable with
    integer := some value, intOrText := (int32? value).map .int }

/-- A number of a JSON document. -/
def ofNumber : Json.Number → Scalar
  | .whole value => ofInt value
  | .real _ => unreadable

end Scalar

namespace Datum

def null : Datum := .scalar .null

def text (value : String) : Datum := .scalar (.ofText value)

mutual

def ofValue : Json.Value → Datum
  | .null => null
  | .bool value => .scalar (.ofBool value)
  | .number value => .scalar (.ofNumber value)
  | .text value => text value
  | .array items => .list (ofItems items)
  | .object members => .map (ofMembers members)

/-- The data of a sequence of JSON values. -/
def ofItems : List Json.Value → List Datum
  | [] => []
  | item :: rest => ofValue item :: ofItems rest

/-- The entries of the members of a JSON object. -/
def ofMembers : List (String × Json.Value) → List (Datum × Datum)
  | [] => []
  | (key, value) :: rest => (text key, ofValue value) :: ofMembers rest

end

/-- The datum of a text that may stand for no characters. -/
def ofText? (value : Option String) : Datum :=
  match value with
  | some value => text value
  | none => .scalar .unreadable

mutual

/-- The datum of a JSON text as written, with every repeated member. -/
def ofTree : Json.Tree → Datum
  | .null => null
  | .bool value => .scalar (.ofBool value)
  | .number (some value) => .scalar (.ofNumber value)
  | .number none => .scalar .unreadable
  | .text value => ofText? value
  | .array items => .list (ofTrees items)
  | .object members => .map (ofTreeMembers members)

/-- The data of a sequence of JSON texts. -/
def ofTrees : List Json.Tree → List Datum
  | [] => []
  | item :: rest => ofTree item :: ofTrees rest

/-- The entries of the members of a JSON object as written. -/
def ofTreeMembers : List (Option String × Json.Tree) → List (Datum × Datum)
  | [] => []
  | (key, value) :: rest => (ofText? key, ofTree value) :: ofTreeMembers rest

end

def ofJson? (text : String) : Option Datum := (Json.Tree.read? text).map ofTree

end Datum

end HookKeeper
