import HookKeeper.Json.Value
import HookKeeper.Text.Digits

/-!
# JSON text as written

A syntax tree keeps what a value forgets: repeated members, their order, texts
whose escapes stand for no characters and numbers that are too large to hold.
Reading accepts exactly the JSON grammar, with white space around tokens and
nothing after the value.
-/

namespace HookKeeper.Json

open HookKeeper.Text

/--
A JSON text as written; `none` marks a text or a number that has no value.
-/
inductive Tree where
  | null
  | bool (value : Bool)
  | number (value : Option Number)
  | text (value : Option String)
  | array (items : List Tree)
  | object (members : List (Option String × Tree))

namespace Tree

/-- The rest after white space. -/
def skipSpace : List Char → List Char
  | [] => []
  | character :: rest =>
      if character = ' ' ∨ character = '\n' ∨ character = '\t' ∨
          character = '\r' then
        skipSpace rest
      else character :: rest

/-- The sixteen-bit unit written by four hexadecimal digits, and the rest. -/
def unit? : List Char → Option (Nat × List Char)
  | a :: b :: c :: d :: rest => (Hex.value? [a, b, c, d]).map (·, rest)
  | _ => none

def simpleEscape? : Char → Option Char
  | '"' => some '"'
  | '\\' => some '\\'
  | '/' => some '/'
  | 'b' => some '\x08'
  | 'f' => some '\x0c'
  | 'n' => some '\n'
  | 'r' => some '\r'
  | 't' => some '\t'
  | _ => none

/-- One part of a text: a character, a unit of sixteen bits, or its end. -/
inductive Part where
  | character (value : Char)
  | unit (value : Nat)

/--
The parts of a text up to its closing quote, and the rest.  Control characters
are refused.
-/
def parts? : Nat → List Char → Option (List Part × List Char)
  | 0, _ => none
  | _ + 1, [] => none
  | _ + 1, '"' :: rest => some ([], rest)
  | fuel + 1, '\\' :: 'u' :: rest => do
      let (value, rest) ← unit? rest
      let (parts, rest) ← parts? fuel rest
      some (.unit value :: parts, rest)
  | fuel + 1, '\\' :: letter :: rest => do
      let value ← simpleEscape? letter
      let (parts, rest) ← parts? fuel rest
      some (.character value :: parts, rest)
  | fuel + 1, character :: rest =>
      if character.toNat < 32 then none
      else do
        let (parts, rest) ← parts? fuel rest
        some (.character character :: parts, rest)

/-- The characters of a text; units above the basic plane must come in pairs. -/
def characters? : List Part → Option (List Char)
  | [] => some []
  | .character value :: rest => (characters? rest).map (value :: ·)
  | .unit high :: .unit low :: rest =>
      if 0xD800 ≤ high ∧ high ≤ 0xDBFF then
        if 0xDC00 ≤ low ∧ low ≤ 0xDFFF then
          let code := 0x10000 + (high - 0xD800) * 0x400 + (low - 0xDC00)
          (characters? rest).map (Char.ofNat code :: ·)
        else none
      else if 0xDC00 ≤ high ∧ high ≤ 0xDFFF then none
      else (characters? (.unit low :: rest)).map (Char.ofNat high :: ·)
  | .unit single :: rest =>
      if 0xD800 ≤ single ∧ single ≤ 0xDFFF then none
      else (characters? rest).map (Char.ofNat single :: ·)

/-- A text after its opening quote, and the rest. -/
def quotedText?
    (characters : List Char) : Option (Option String × List Char) := do
  let (parts, rest) ← parts? (characters.length + 1) characters
  some ((characters? parts).map String.ofList, rest)

/-- The leading decimal digits as numbers, and the rest. -/
def digits : List Char → List Nat × List Char
  | [] => ([], [])
  | character :: rest =>
      match Digits.digitValue? character with
      | some value => let (more, rest) := digits rest; (value :: more, rest)
      | none => ([], character :: rest)

/-- The digits after a point, where there is one. -/
def fraction? : List Char → Option (Option (List Nat) × List Char)
  | '.' :: rest =>
      match digits rest with
      | ([], _) => none
      | (found, rest) => some (some found, rest)
  | rest => some (none, rest)

/-- The number written by digits. -/
def digitsValue (found : List Nat) : Nat :=
  found.foldl (fun total digit => total * 10 + digit) 0

def exponent? : List Char → Option (Option Int × List Char)
  | [] => some (none, [])
  | mark :: rest =>
      if mark = 'e' ∨ mark = 'E' then
        let (negative, rest) :=
          match rest with
          | '+' :: rest => (false, rest)
          | '-' :: rest => (true, rest)
          | rest => (false, rest)
        match digits rest with
        | ([], _) => none
        | (found, rest) =>
            let size : Int := digitsValue found
            some (some (if negative then -size else size), rest)
      else some (none, mark :: rest)

/-- A number after its sign, and the rest; a leading zero stands alone. -/
def numeral?
    (negative : Bool)
    (characters : List Char) : Option (Option Number × List Char) :=
  match digits characters with
  | ([], _) => none
  | (0 :: _ :: _, _) => none
  | (before, rest) => do
      let (after, rest) ← fraction? rest
      let (exponent, rest) ← exponent? rest
      some (Number.ofParts? negative before after exponent, rest)

/-- The rest after a fixed word. -/
def word? : List Char → List Char → Option (List Char)
  | [], rest => some rest
  | expected :: more, character :: rest =>
      if expected = character then word? more rest else none
  | _ :: _, [] => none

mutual

/-- A value at the start of a text, and the rest. -/
def value? : Nat → List Char → Option (Tree × List Char)
  | 0, _ => none
  | fuel + 1, characters =>
      match skipSpace characters with
      | 'n' :: rest => (word? ['u', 'l', 'l'] rest).map (Tree.null, ·)
      | 't' :: rest => (word? ['r', 'u', 'e'] rest).map (Tree.bool true, ·)
      | 'f' :: rest =>
          (word? ['a', 'l', 's', 'e'] rest).map (Tree.bool false, ·)
      | '"' :: rest => (quotedText? rest).map fun (value, rest) =>
          (.text value, rest)
      | '-' :: rest => (numeral? true rest).map fun (value, rest) =>
          (.number value, rest)
      | '[' :: rest =>
          match skipSpace rest with
          | ']' :: rest => some (.array [], rest)
          | rest => (items? fuel rest).map fun (items, rest) =>
              (.array items, rest)
      | '\x7b' :: rest =>
          match skipSpace rest with
          | '\x7d' :: rest => some (.object [], rest)
          | rest => (members? fuel rest).map fun (members, rest) =>
              (.object members, rest)
      | rest => (numeral? false rest).map fun (value, rest) =>
          (.number value, rest)

/-- The remaining values of a sequence, with its closing bracket. -/
def items? : Nat → List Char → Option (List Tree × List Char)
  | 0, _ => none
  | fuel + 1, characters => do
      let (item, rest) ← value? fuel characters
      match skipSpace rest with
      | ',' :: rest =>
          let (items, rest) ← items? fuel rest
          some (item :: items, rest)
      | ']' :: rest => some ([item], rest)
      | _ => none

/-- The remaining members of an object, with its closing brace. -/
def members? :
    Nat → List Char → Option (List (Option String × Tree) × List Char)
  | 0, _ => none
  | fuel + 1, characters =>
      match skipSpace characters with
      | '"' :: rest => do
          let (key, rest) ← quotedText? rest
          match skipSpace rest with
          | ':' :: rest =>
              let (value, rest) ← value? fuel rest
              match skipSpace rest with
              | ',' :: rest =>
                  let (members, rest) ← members? fuel rest
                  some ((key, value) :: members, rest)
              | '\x7d' :: rest => some ([(key, value)], rest)
              | _ => none
          | _ => none
      | _ => none

end

def read? (text : String) : Option Tree := do
  let characters := text.toList
  let (tree, rest) ← value? (characters.length + 1) characters
  if (skipSpace rest).isEmpty then some tree else none

mutual

/--
The value that a tree stands for, its members sorted, if every text and number
has one.
-/
def meaning? : Tree → Option Value
  | .null => some .null
  | .bool value => some (.bool value)
  | .number value => value.map .number
  | .text value => value.map .text
  | .array items => (itemsMeaning? items).map .array
  | .object members => (membersMeaning? [] members).map .object

/-- The values that the trees of a sequence stand for. -/
def itemsMeaning? : List Tree → Option (List Value)
  | [] => some []
  | item :: rest => do
      let value ← meaning? item
      let values ← itemsMeaning? rest
      some (value :: values)

/--
The members that trees stand for, put into members that are ordered by key.
-/
def membersMeaning? (done : Members) :
    List (Option String × Tree) → Option Members
  | [] => some done
  | (key, tree) :: rest => do
      let key ← key
      let value ← meaning? tree
      membersMeaning? (Value.insertMember key value done) rest

end

end Tree

/--
The value of a JSON text, its members sorted by key, the last of equal keys
winning.
-/
def Value.read? (text : String) : Option Value :=
  (Tree.read? text).bind Tree.meaning?

end HookKeeper.Json
