import HookKeeper.Datum.Basic
import HookKeeper.Instant
import HookKeeper.Text.Base64
import HookKeeper.TextMap

/-!
# Reading typed values from data

Two kinds of record are read.  An *open* record takes every known field as
optional, lets the last of repeated fields win and ignores unknown ones.  A
*closed* record refuses repeated known fields, tells required, defaulted and
optional fields apart, and may be given as a sequence of its fields in order.
-/

namespace HookKeeper.Datum

def text? : Datum → Option String
  | .scalar reading => reading.text
  | _ => none

def integer? : Datum → Option Int
  | .scalar reading => reading.integer
  | _ => none

/-- The whole number of a datum in the range of thirty-two bits. -/
def int32? (datum : Datum) : Option Int32 := datum.integer?.bind Scalar.int32?

/-- The whole number of a datum in the range of sixty-four bits. -/
def int64? (datum : Datum) : Option Int64 := datum.integer?.bind Scalar.int64?

/-- The whole number of a datum below `2 ^ 16`. -/
def uint16? (datum : Datum) : Option UInt16 :=
  datum.integer?.bind fun value =>
    if 0 ≤ value ∧ value < 65536 then some (UInt16.ofNat value.toNat) else none

/-- The truth value of a datum. -/
def bool? : Datum → Option Bool
  | .scalar reading => reading.boolean
  | _ => none

def intOrText? : Datum → Option IntOrText
  | .scalar reading => reading.intOrText
  | _ => none

/-- The instant written by the text of a datum. -/
def instant? (datum : Datum) : Option Instant := datum.text?.bind Instant.read?

/-- The bytes written by the text of a datum. -/
def bytes? (datum : Datum) : Option (List UInt8) :=
  datum.text?.bind Text.Base64.decode?

/-- A datum in an optional position. -/
def optional (read : Datum → Option α) : Datum → Option (Option α)
  | .scalar reading =>
      match reading.presence with
      | .absent => some none
      | .refused => none
      | .given => (read (.scalar reading)).map some
  | datum => (read datum).map some

def isAbsent : Datum → Bool
  | .scalar reading => reading.presence == .absent
  | _ => false

/-- The items of a datum, each read alike. -/
def listOf? (read : Datum → Option α) : Datum → Option (List α)
  | .list items => items.mapM read
  | .scalar reading => if reading.blank then some [] else none
  | .map _ => none

/-- The fields of a record, in order. -/
abbrev Fields := List (String × Datum)

/-- The fields of a datum whose keys are texts. -/
def fields? : Datum → Option Fields
  | .map entries => entries.mapM fun entry => (entry.1.text?).map (·, entry.2)
  | .scalar reading => if reading.blank then some [] else none
  | .list _ => none

def textMap? (datum : Datum) : Option TextMap := do
  let fields ← datum.fields?
  let entries ← fields.mapM fun field => (field.2.text?).map (field.1, ·)
  some (TextMap.ofList entries)

namespace Fields

/--
An optional field of an open record: every occurrence must read and the last one
wins.
-/
def optional
    (fields : Fields)
    (name : String)
    (read : Datum → Option α) : Option (Option α) :=
  fields.foldlM
    (fun found field => if field.1 = name then Datum.optional read field.2
      else some found) none

/-- A field of an open record that has a value where none is given. -/
def defaulted
    (fields : Fields)
    (name : String)
    (read : Datum → Option α)
    (absent : α) : Option α :=
  (fields.optional name read).map (·.getD absent)

/-- Whether every occurrence of a field is a given text. -/
def constant (fields : Fields) (name expected : String) : Option Unit :=
  if fields.all fun field =>
    field.1 != name || field.2.text? == some expected then some ()
  else none

end Fields

/-! ## Closed records -/

/-- The fields of a closed record, each at most once. -/
structure Closed where
  fields : Fields

/-- Whether a name occurs twice among those of a list. -/
def repeats (names : List String) (fields : Fields) : Bool :=
  names.any fun name => 1 < (fields.filter fun field => field.1 == name).length

/--
The fields of a closed record with the given names.  As a sequence it has at
least `least` fields and at most one for each name.
-/
def closed? (names : List String) (least : Nat) : Datum → Option Closed
  | .map entries => do
      let fields ← fields? (.map entries)
      if repeats names fields then none else some ⟨fields⟩
  | .list items =>
      if items.length ≤ names.length ∧ least ≤ items.length then
        some ⟨names.zip items⟩ else none
  | .scalar _ => none

namespace Closed

def required
    (record : Closed)
    (name : String)
    (read : Datum → Option α) : Option α :=
  (record.fields.lookup name).bind read

/-- A field that may be left out but not given as no value. -/
def defaulted
    (record : Closed)
    (name : String)
    (read : Datum → Option α)
    (absent : α) : Option α :=
  match record.fields.lookup name with
  | none => some absent
  | some datum => read datum

def optional
    (record : Closed)
    (name : String)
    (read : Datum → Option α) : Option (Option α) :=
  match record.fields.lookup name with
  | none => some none
  | some datum => Datum.optional read datum

end Closed

/--
One of several names: a text, or a record whose only field has the name and no
value.
-/
def name? (read : String → Option α) : Datum → Option α
  | .map [(key, value)] => if value.isAbsent then key.text?.bind read else none
  | .scalar reading => reading.text.bind read
  | _ => none

end HookKeeper.Datum
