import HookKeeper.Text.Digits
import HookKeeper.Yaml.Cursor

/-!
# Block scalars

A literal block keeps its line breaks; a folded block joins its lines by
spaces except beside lines that start with white space.  The first line that
is not empty sets the indentation unless the header gives it, and the header
says what happens to the final line breaks.
-/

namespace HookKeeper.Yaml.BlockText

open HookKeeper.Text

/-- What happens to the line breaks at the end of a block. -/
inductive Chomping where
  | strip
  | clip
  | keep
  deriving Repr, DecidableEq

/-- The chomping that an indicator asks for. -/
def chomping? : Char → Option Chomping
  | '-' => some .strip
  | '+' => some .keep
  | _ => none

/--
The header of a block after its indicator: chomping and given indentation.
-/
def header? (characters : List Char) : Option (Chomping × Option Nat × Nat) :=
  match characters with
  | [] => some (.clip, none, 0)
  | first :: rest =>
      match chomping? first with
      | some chomping =>
          match rest.head?.bind Digits.digitValue? with
          | some 0 => none
          | some width => some (chomping, some width, 2)
          | none => some (chomping, none, 1)
      | none =>
          match Digits.digitValue? first with
          | some 0 => none
          | some width =>
              match rest.head?.bind chomping? with
              | some chomping => some (chomping, some width, 2)
              | none => some (.clip, some width, 1)
          | none => some (.clip, none, 0)

/-- The empty lines met before a line of content. -/
structure Margin where
  /-- What their line breaks contribute. -/
  breaks : List Char
  /-- The widest indentation among them and the line that follows. -/
  widest : Nat
  next : Cursor

/--
Take indentation and empty lines.  Without a known indentation all leading
spaces are indentation; a tab among it is a fault.
-/
def margin? (known : Option Nat) :
    Nat → List Char → Nat → Cursor → Option Margin
  | 0, _, _, _ => none
  | fuel + 1, breaks, widest, cursor =>
      let spaces := (cursor.rest.takeWhile (· == ' ')).length
      let taken :=
        match known with
        | none => spaces
        | some indentation => min spaces (indentation - cursor.column)
      let cursor := cursor.skip taken
      let widest := max widest cursor.column
      let inside :=
        match known with
        | none => true
        | some indentation => cursor.column < indentation
      if inside && cursor.holds 0 '\t' then none
      else if cursor.atBreak then
        let (contribution, next) := cursor.takeBreak
        margin? known fuel (breaks ++ contribution) widest next
      else some ⟨breaks, widest, cursor⟩

/-- The text gathered so far. -/
structure Gathered where
  text : List Char
  /-- What the line break after the last line contributes. -/
  lastBreak : List Char
  /-- What the empty lines after it contribute. -/
  breaks : List Char
  /-- Whether the last line started with white space. -/
  indented : Bool

/-- Take the lines of a block with a known indentation. -/
def lines?
    (literal : Bool)
    (indentation : Nat) :
    Nat → Gathered → Cursor → Option (Gathered × Cursor)
  | 0, _, _ => none
  | fuel + 1, gathered, cursor =>
      if cursor.column != indentation || cursor.atEnd then
        some (gathered, cursor)
      else do
        let startsBlank := cursor.atSpace
        let joined :=
          if !literal && gathered.lastBreak == ['\n'] && !gathered.indented
              && !startsBlank then
            if gathered.breaks.isEmpty then [' '] else []
          else gathered.lastBreak
        let (line, cursor) := cursor.takeWhile fun character =>
          !isBreak character
        let (lastBreak, cursor) := cursor.takeBreak
        let margin ← margin? (some indentation) (cursor.rest.length + 1)
          [] 0 cursor
        lines? literal indentation fuel
          ⟨gathered.text ++ joined ++ gathered.breaks ++ line, lastBreak,
            margin.breaks, startsBlank⟩
          margin.next

/--
The block scalar at a place, which holds its indicator, in a collection indented
by `indent`.
-/
def read?
    (literal : Bool)
    (indent : Int)
    (cursor : Cursor) : Option (List Char × Cursor) := do
  let cursor := cursor.skip 1
  let (chomping, width, length) ← header? (cursor.rest.take 2)
  let cursor := (cursor.skip length).skipToLineEnd
  if !cursor.atBreakOrEnd then none
  else
    let cursor := cursor.skipBreak
    let given := width.map fun width =>
      (if 0 ≤ indent then indent.toNat else 0) + width
    let margin ← margin? given (cursor.rest.length + 1) [] 0 cursor
    let indentation := given.getD (max (max margin.widest (indent + 1).toNat) 1)
    let (gathered, cursor) ←
      lines? literal indentation (margin.next.rest.length + 1)
        ⟨[], [], margin.breaks, false⟩ margin.next
    let tail :=
      match chomping with
      | .strip => []
      | .clip => gathered.lastBreak
      | .keep => gathered.lastBreak ++ gathered.breaks
    some (gathered.text ++ tail, cursor)

end HookKeeper.Yaml.BlockText
