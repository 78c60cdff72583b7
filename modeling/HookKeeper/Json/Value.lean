import HookKeeper.Json.Number
import HookKeeper.Text.Digits

/-!
# JSON values

A value is null, a truth value, a number, a text, a sequence of values or an
object.  An object keeps its members in the order in which they are written;
`sorted` orders the members of every object by key, the last of equal keys
winning, so that values that mean the same become equal.  The main statements
say what `lookup` finds after a member was put in or taken out.
-/

namespace HookKeeper.Json

/-- A JSON value. -/
inductive Value where
  | null
  | bool (value : Bool)
  | number (value : Number)
  | text (value : String)
  | array (items : List Value)
  | object (members : List (String × Value))
  deriving Repr

instance : Inhabited Value := ⟨.null⟩

/-- The members of an object, in order. -/
abbrev Members := List (String × Value)

namespace Value

def int (value : Int) : Value := .number (.whole value)

mutual

def same : Value → Value → Bool
  | .null, .null => true
  | .bool left, .bool right => left == right
  | .number left, .number right => left == right
  | .text left, .text right => left == right
  | .array left, .array right => sameItems left right
  | .object left, .object right => sameMembers left right
  | _, _ => false

/-- Whether two sequences of values are the same. -/
def sameItems : List Value → List Value → Bool
  | [], [] => true
  | left :: lefts, right :: rights => same left right && sameItems lefts rights
  | _, _ => false

/-- Whether two sequences of members are the same. -/
def sameMembers : List (String × Value) → List (String × Value) → Bool
  | [], [] => true
  | (leftKey, left) :: lefts, (rightKey, right) :: rights =>
      leftKey == rightKey && same left right && sameMembers lefts rights
  | _, _ => false

end

mutual

/-- A value is the same as another exactly when it equals it. -/
theorem same_iff (left right : Value) :
    same left right = true ↔ left = right := by
  cases left <;> cases right <;> simp [same]
  · exact sameItems_iff _ _
  · exact sameMembers_iff _ _

/-- Sequences of values are the same exactly when they are equal. -/
theorem sameItems_iff (left right : List Value) :
    sameItems left right = true ↔ left = right := by
  cases left with
  | nil => cases right <;> simp [sameItems]
  | cons first rest =>
      cases right with
      | nil => simp [sameItems]
      | cons other others =>
          simp [sameItems, same_iff first other, sameItems_iff rest others]

/-- Sequences of members are the same exactly when they are equal. -/
theorem sameMembers_iff (left right : List (String × Value)) :
    sameMembers left right = true ↔ left = right := by
  cases left with
  | nil => cases right <;> simp [sameMembers]
  | cons first rest =>
      cases right with
      | nil => simp [sameMembers]
      | cons other others =>
          obtain ⟨key, value⟩ := first
          obtain ⟨otherKey, otherValue⟩ := other
          simp [sameMembers, same_iff value otherValue,
            sameMembers_iff rest others]

end

instance : DecidableEq Value := fun left right =>
  decidable_of_iff (same left right = true) (same_iff left right)

/--
Put a member into members that are ordered by key, in place of one with the
same key.
-/
def insertMember (key : String) (value : Value) : Members → Members
  | [] => [(key, value)]
  | (other, old) :: rest =>
      if key < other then (key, value) :: (other, old) :: rest
      else if key = other then (key, value) :: rest
      else (other, old) :: insertMember key value rest

mutual

/--
The value with the members of every object ordered by key, the last of equal
keys winning.
-/
def sorted : Value → Value
  | .array items => .array (sortedItems items)
  | .object members => .object (sortedMembers [] members)
  | scalar => scalar

/-- Every value of a sequence in sorted form. -/
def sortedItems : List Value → List Value
  | [] => []
  | item :: rest => sorted item :: sortedItems rest

/--
Members put one after another, in sorted form, into members that are ordered by
key.
-/
def sortedMembers (done : Members) : List (String × Value) → Members
  | [] => done
  | (key, value) :: rest =>
      sortedMembers (insertMember key (sorted value) done) rest

end

def lookup (key : String) (members : Members) : Option Value :=
  List.lookup key members

/-- A member of a value; only objects have any. -/
def member? (key : String) : Value → Option Value
  | .object members => lookup key members
  | _ => none

/-- The members of a value; none unless it is an object. -/
def members : Value → Members
  | .object members => members
  | _ => []

/-- The members without those of a key. -/
def eraseMember (key : String) (members : Members) : Members :=
  members.filter fun entry => entry.1 != key

/--
A look-up after a member was put in finds it under its key and the others
elsewhere.
-/
@[simp]
theorem lookup_insertMember
    (key other : String)
    (value : Value)
    (members : Members) :
    lookup other (insertMember key value members) =
      if other = key then some value else lookup other members := by
  unfold lookup
  induction members with
  | nil =>
      by_cases same : other = key
      · simp [insertMember, same]
      · have differs : (other == key) = false := by simpa using same
        simp [insertMember, List.lookup_cons, same, differs]
  | cons first rest ih =>
      obtain ⟨head, old⟩ := first
      rw [insertMember]
      by_cases same : other = key
      · subst same
        split
        · simp
        · split
          · simp
          next different =>
            have differs : (other == head) = false := by simpa using different
            simp [List.lookup_cons, differs, ih]
      · have differs : (other == key) = false := by simpa using same
        split
        · simp [List.lookup_cons, differs]
        · split
          next equal => simp [List.lookup_cons, differs, ← equal]
          next => simp [List.lookup_cons, same, ih]

/-- A look-up after a member was taken out finds the others. -/
@[simp]
theorem lookup_eraseMember
    (key other : String)
    (members : Members) :
    lookup other (eraseMember key members) =
      if other = key then none else lookup other members := by
  unfold lookup eraseMember
  induction members with
  | nil => simp
  | cons first rest ih =>
      obtain ⟨head, value⟩ := first
      by_cases kept : head = key
      · subst kept
        by_cases same : other = head
        · subst same
          simpa using ih
        · have differs : (other == head) = false := by simpa using same
          simpa [List.lookup_cons, same, differs] using ih
      · by_cases same : other = head
        · subst same
          simp [kept]
        · have differs : (other == head) = false := by simpa using same
          simp [List.lookup_cons, kept, differs, ih]

def text? : Value → Option String
  | .text value => some value
  | _ => none

def int? : Value → Option Int
  | .number (.whole value) => some value
  | _ => none

end Value

end HookKeeper.Json

/-!
## Merge patches

A patch that is no object takes the place of its target.  A patch that is an
object changes the members it names and keeps the others: a null removes the
member, any other value is merged into it.  A target that is no object counts
as the empty object.  Members stay ordered by key.
-/

namespace HookKeeper.Json.Value

mutual

def mergePatch (target : Value) : Value → Value
  | .object patch => .object (mergeMembers target.members patch)
  | replacement => replacement

/-- The members of a target after the members of a patch, one after another. -/
def mergeMembers (target : Members) : List (String × Value) → Members
  | [] => target
  | (key, .null) :: rest => mergeMembers (eraseMember key target) rest
  | (key, change) :: rest =>
      mergeMembers
        (insertMember key (mergePatch ((lookup key target).getD .null) change)
          target) rest

end

end HookKeeper.Json.Value

/-!
## Compact text

Values are written without spaces.  In texts the quote, the backslash and five
control characters have an escape of one letter, other control characters are
written as four hexadecimal digits, and all else stands for itself.  The
members of an object are written in their order.
-/

namespace HookKeeper.Json

open HookKeeper.Text

/-- The form of one character inside a JSON text. -/
def escapedChar (character : Char) : List Char :=
  if character = '"' then ['\\', '"']
  else if character = '\\' then ['\\', '\\']
  else if character = '\x08' then ['\\', 'b']
  else if character = '\x0c' then ['\\', 'f']
  else if character = '\n' then ['\\', 'n']
  else if character = '\r' then ['\\', 'r']
  else if character = '\t' then ['\\', 't']
  else if character.toNat < 32 then
    ['\\', 'u', '0', '0', Hex.digit (character.toNat / 16),
      Hex.digit (character.toNat % 16)]
  else [character]

/-- A text between quotes. -/
def textChars (value : String) : List Char :=
  '"' :: value.toList.flatMap escapedChar ++ ['"']

namespace Value

mutual

def chars : Value → List Char
  | .null => ['n', 'u', 'l', 'l']
  | .bool true => ['t', 'r', 'u', 'e']
  | .bool false => ['f', 'a', 'l', 's', 'e']
  | .number value => value.chars
  | .text value => textChars value
  | .array items => '[' :: itemsChars true items
  | .object members => '\x7b' :: membersChars true members

/--
The characters of the values of a sequence, each after a comma unless it is the
first.
-/
def itemsChars : Bool → List Value → List Char
  | _, [] => [']']
  | true, item :: rest => chars item ++ itemsChars false rest
  | false, item :: rest => ',' :: chars item ++ itemsChars false rest

/--
The characters of the members of an object, each after a comma unless it is the
first.
-/
def membersChars : Bool → List (String × Value) → List Char
  | _, [] => ['\x7d']
  | true, (key, value) :: rest =>
      textChars key ++ ':' :: chars value ++ membersChars false rest
  | false, (key, value) :: rest =>
      ',' :: textChars key ++ ':' :: chars value ++ membersChars false rest

end

def compact (value : Value) : String := String.ofList value.chars

end Value

end HookKeeper.Json
