import HookKeeper.Proofs.KeyedLines

/-!
# Documents of lines

A document in block style is a list of lines, each with an indentation, an
optional dash, an optional key and an ending.  Which tokens a line adds depends
on its form and on the columns of the open collections only.  The scanner finds
these tokens, whatever the texts of the lines are.
-/

namespace HookKeeper.Yaml

/-! ## Lines and documents -/

/-- A line in block style. -/
inductive Line where
  /--
  A key, a colon and what follows them, after a dash where the line starts an
  item.
  -/
  | entry (indent : Nat) (dashed : Bool) (key : String) (ending : Ending)
  /-- An item of plain text after its dash. -/
  | item (indent : Nat) (text : List Char)

namespace Line

def indent : Line → Nat
  | entry indent _ _ _ => indent
  | item indent _ => indent

/-- The column of the mapping that an entry is part of. -/
def place (indent : Nat) (dashed : Bool) : Nat := if dashed then indent + 2
    else indent

def content : Line → List Char
  | entry _ dashed key ending =>
      (if dashed then ['-', ' '] else []) ++ (key.toList ++ ':' :: ending.chars)
  | item _ text => '-' :: ' ' :: text

def chars (line : Line) : List Char :=
  List.replicate line.indent ' ' ++ line.content ++ ['\n']

/-- The margin after the key and the colon of a line. -/
def opened
    (indent : Nat)
    (dashed : Bool)
    (key : String)
    (margin : Margin) : Margin :=
  let closed := margin.close indent
  let inner :=
    if dashed then (closed.enter indent .blockSequenceStart).push [.blockEntry]
    else closed
  (inner.enter (place indent dashed) .blockMappingStart).push
    [.key, .scalar key .plain, .value]

/-- The margin after a line. -/
def margin (before : Margin) : Line → Margin
  | entry indent dashed key ending =>
      (opened indent dashed key before).push ending.tokens
  | item indent text =>
      (((before.close indent).enter indent .blockSequenceStart).push
        [.blockEntry]).push
        [.scalar (String.ofList (PlainText.spoken true text)) .plain]

/-- The number of scanning steps of a line. -/
def steps : Line → Nat
  | entry _ dashed _ ending => dashed.toNat + 2 + ending.tokens.length
  | item _ _ => 2

/-- A line is followed by one with a given indentation. -/
def Fits (depth : Nat) : Line → Prop
  | entry indent dashed key ending =>
      IsKey key.toList ∧ IsLine ending.chars ∧
        ending.chars.head?.all isSpace = true ∧
        ending.Fits (place indent dashed) depth
  | item indent text =>
      IsLine text ∧ PlainText.opens text = true ∧
        (PlainText.unspoken true text).head? ≠ some ':' ∧ depth ≤ indent

instance (depth : Nat) : (line : Line) → Decidable (line.Fits depth)
  | entry indent dashed key ending =>
      inferInstanceAs (Decidable (IsKey key.toList ∧ IsLine ending.chars ∧
        ending.chars.head?.all isSpace = true ∧
          ending.Fits (place indent dashed) depth))
  | item indent text =>
      inferInstanceAs (Decidable (IsLine text ∧ PlainText.opens text = true ∧
        (PlainText.unspoken true text).head? ≠ some ':' ∧ depth ≤ indent))

theorem grounded_opened
    {margin : Margin}
    (grounded : margin.Grounded)
    (indent : Nat)
    (dashed : Bool)
    (key : String) :
    (opened indent dashed key margin).Grounded := by
  have closed := (grounded.close indent).1
  cases dashed with
  | false => exact (closed.enter _ _).push _
  | true => exact ((((closed.enter _ _).push _).enter _ _).push _)

theorem indent_opened
    {margin : Margin}
    (grounded : margin.Grounded)
    (indent : Nat)
    (dashed : Bool)
    (key : String) :
    (opened indent dashed key margin).indent = place indent dashed := by
  have inside := (grounded.close indent).2
  cases dashed with
  | false => exact Margin.indent_enter inside _
  | true =>
      refine Margin.indent_enter ?_ _
      rw [Margin.push, Margin.indent_enter inside .blockSequenceStart, place]
      simp only [if_true]
      omega

theorem grounded_margin
    {before : Margin}
    (grounded : before.Grounded)
    (line : Line) : (line.margin before).Grounded := by
  cases line with
  | entry indent dashed key ending =>
      exact (grounded_opened grounded indent dashed key).push _
  | item indent text =>
      exact (((grounded.close indent).1.enter _ _).push _).push _

theorem isTokenStart_entry
    {key : String}
    (named : IsKey key.toList)
    (ending : Ending)
    (unbroken : IsLine ending.chars)
    (indent : Nat)
    (dashed : Bool)
    (later : List Char) :
    IsTokenStart ((entry indent dashed key ending).content ++ later) := by
  cases dashed with
  | false => exact isTokenStart_key named unbroken later
  | true => exact rfl

theorem isTokenStart_content
    {line : Line}
    {depth : Nat}
    (fits : line.Fits depth)
    (later : List Char) : IsTokenStart (line.content ++ later) := by
  cases line with
  | entry indent dashed key ending =>
      exact isTokenStart_entry fits.1 ending fits.2.1 indent dashed later
  | item indent text => exact rfl

end Line

namespace Layout

variable {margin : Margin} {candidate : Option Candidate}
  {index line column depth : Nat} {next : List Char}

/-- The start of a line up to the colon after its key. -/
theorem reaches_opened
    {indent : Nat}
    {dashed : Bool}
    {key : String}
    (ending : Ending)
    (named : IsKey key.toList)
    (unbroken : IsLine ending.chars)
    (last : ending.chars.head?.all isSpace = true)
    (starts : IsTokenStart next)
    (grounded : margin.Grounded)
    (stale :
        refresh? ⟨(Line.entry indent dashed key ending).content ++
          lineEnd depth next, index, line, indent⟩ candidate = some none) :
    ∃ more column, Line.place indent dashed < column ∧
      Reaches (dashed.toNat + 2)
        (margin.layout ⟨(Line.entry indent dashed key ending).content ++
          lineEnd depth next, index, line, indent⟩ candidate true)
        ((Line.opened indent dashed key margin).layout
          ⟨ending.chars ++ lineEnd depth next, index + more, line,
              column⟩ none false) := by
  rcases grounded.close indent with ⟨-, inside⟩
  have visible := isTokenStart_key named unbroken (lineEnd depth next)
  cases dashed with
  | false =>
      have keyed :=
        reaches_key named unbroken last starts inside depth index line
      exact ⟨key.toList.length + 1, _, Nat.lt_succ_of_le (Nat.le_add_right _ _),
        (reaches_close visible stale inside).trans keyed⟩
  | true =>
      have started : IsTokenStart
          ((Line.entry indent true key ending).content ++ lineEnd depth next) :=
            rfl
      have entered := Margin.indent_enter inside .blockSequenceStart
      have nested :
          (((margin.close indent).enter indent .blockSequenceStart).push
            [.blockEntry]).indent ≤ ((indent + 2 : Nat) : Int) := by
        rw [Margin.push, entered]
        omega
      have keyed :=
        reaches_key named unbroken last starts nested depth (index + 2) line
      have far : index + 2 + key.toList.length + 1 =
        index + (key.toList.length + 3) := by omega
      rw [far] at keyed
      exact ⟨key.toList.length + 3, _, Nat.lt_succ_of_le (Nat.le_add_right _ _),
        (reaches_close started stale inside).trans
          ((reaches_dash inside visible index line).trans keyed)⟩

/-- A line as a whole, up to the start of the next one. -/
theorem reaches_line
    {current : Line}
    (fits : current.Fits depth)
    (starts : IsTokenStart next)
    (grounded : margin.Grounded)
    (stale : refresh? ⟨current.content ++ lineEnd depth next, index, line,
        current.indent⟩ candidate = some none) :
    ∃ kept more, refresh? ⟨next, index + more, line + 1, depth⟩ kept =
      some none ∧
      Reaches current.steps
        (margin.layout ⟨current.content ++ lineEnd depth next, index, line,
          current.indent⟩ candidate true)
        ((current.margin margin).layout ⟨next, index + more, line + 1,
            depth⟩ kept true) := by
  cases current with
  | entry indent dashed key ending =>
      rcases fits with ⟨named, unbroken, last, ends⟩
      rcases reaches_opened ending named unbroken last starts grounded stale
          with
        ⟨more, column, inside, opening⟩
      have ending :=
        reaches_ending ends unbroken
          (Line.indent_opened grounded indent dashed key)
        inside starts (index + more) line
      rw [Nat.add_assoc, Nat.add_assoc, Nat.add_assoc] at ending
      exact ⟨none, _, rfl, opening.trans ending⟩
  | item indent text =>
      rcases fits with ⟨unbroken, opens, ends, shallow⟩
      cases text with
      | nil => exact absurd opens nofun
      | cons first rest =>
          rcases grounded.close indent with ⟨-, inside⟩
          have started : IsTokenStart
              ((Line.item indent (first :: rest)).content ++
                lineEnd depth next) := rfl
          have entered := Margin.indent_enter inside .blockSequenceStart
          have dashed := reaches_dash inside
            (isTokenStart_of_opens unbroken opens (lineEnd depth next))
              index line
          have nested :
              (((margin.close indent).enter indent .blockSequenceStart).push
                [.blockEntry]).indent = indent := entered
          have free :=
            Cursor.atBorder_of_column (first :: rest ++ lineEnd depth next)
              (index + 2)
            line (Nat.succ_pos (indent + 1))
          have plain :=
            reaches_plain unbroken opens starts (by rw [nested]; omega) free
              true ends
            (by rw [nested]; omega)
          rw [Nat.add_assoc, Nat.add_assoc, Nat.add_assoc] at plain
          have reached :=
            (reaches_close started stale inside).trans (dashed.trans plain)
          refine ⟨_, _, refresh?_earlier (Nat.lt_succ_self line) ?_, reached⟩
          refine beq_false_of_ne fun same => ?_
          rw [Margin.push, entered] at same
          exact absurd (Int.ofNat_inj.1 same) (by dsimp only; omega)

end Layout

namespace Line

/-- The column at which lines go on, given that of what follows them. -/
def depthOf (depth : Nat) : List Line → Nat
  | [] => depth
  | line :: _ => line.indent

/--
The characters of lines after the first indentation, with what follows them.
-/
def visible (depth : Nat) (next : List Char) : List Line → List Char
  | [] => next
  | line :: rest =>
      line.content ++ lineEnd (depthOf depth rest) (visible depth next rest)

/-- Lines fit one after another, and the last of them fits what follows. -/
def Fit (depth : Nat) : List Line → Prop
  | [] => True
  | line :: rest => line.Fits (depthOf depth rest) ∧ Fit depth rest

instance decidableFit (depth : Nat) : (lines : List Line) →
    Decidable (Fit depth lines)
  | [] => isTrue trivial
  | _ :: rest => @instDecidableAnd _ _ inferInstance (decidableFit depth rest)

/-- The number of scanning steps of lines. -/
def stepsOf : List Line → Nat
  | [] => 0
  | line :: rest => line.steps + stepsOf rest

/-- The margin after lines. -/
def marginOf (before : Margin) (lines : List Line) : Margin :=
  lines.foldl Line.margin before

/-- The tokens of a document. -/
def tokens (lines : List Line) : List Token :=
  (((marginOf Margin.start lines).close 0).close (-1)).newestFirst.reverse

theorem flatMap_chars (lines : List Line) :
    lines.flatMap chars = List.replicate (depthOf 0 lines) ' ' ++
        visible 0 [] lines := by
  induction lines with
  | nil => rfl
  | cons line rest ih =>
      rw [List.flatMap_cons, ih, chars, depthOf, visible, lineEnd]
      simp

theorem visible_append
    (depth : Nat)
    (next : List Char)
    (front rest : List Line) :
    visible depth next (front ++ rest) =
      visible (depthOf depth rest) (visible depth next rest) front := by
  induction front with
  | nil => rfl
  | cons line front ih =>
      rw [List.cons_append, visible, visible, ih]
      cases front <;> rfl

theorem fit_append
    {depth : Nat}
    {front rest : List Line} :
    Fit depth (front ++ rest) ↔ Fit (depthOf depth rest) front ∧
        Fit depth rest := by
  induction front with
  | nil => exact ⟨fun fit => ⟨trivial, fit⟩, And.right⟩
  | cons line front ih =>
      rw [List.cons_append, Fit, Fit, ih, and_assoc]
      cases front <;> exact Iff.rfl

theorem isTokenStart_visible
    {lines : List Line}
    {depth : Nat}
    (fit : Fit depth lines)
    {next : List Char}
    (starts : IsTokenStart next) : IsTokenStart (visible depth next lines) := by
  cases lines with
  | nil => exact starts
  | cons line rest => exact isTokenStart_content fit.1 _

theorem steps_lt_length
    {key : String}
    (named : IsKey key.toList)
    (indent : Nat)
    (dashed : Bool)
    (ending : Ending) :
    dashed.toNat + 2 + ending.chars.length <
        (entry indent dashed key ending).chars.length := by
  have given : 0 < key.toList.length := List.length_pos_iff.2 fun empty => by
    have starts := named.starts
    rw [empty] at starts
    exact absurd starts nofun
  have dash : dashed.toNat ≤ (if dashed then ['-', ' '] else []).length := by
    cases dashed <;> decide
  simp only [chars, content, List.length_append, List.length_cons,
    List.length_nil]
  omega

theorem steps_le
    {line : Line}
    {depth : Nat}
    (fits : line.Fits depth) : line.steps ≤ line.chars.length := by
  cases line with
  | entry indent dashed key ending =>
      have few := ending.tokens_le
      have more := steps_lt_length fits.1 indent dashed ending
      rw [steps]
      omega
  | item indent text =>
      simp only [steps, chars, content, List.length_append, List.length_cons,
        List.length_nil]
      omega

theorem stepsOf_le
    {lines : List Line}
    {depth : Nat}
    (fit : Fit depth lines) :
    stepsOf lines ≤ (lines.flatMap chars).length := by
  induction lines with
  | nil => exact Nat.le_refl _
  | cons line rest ih =>
      rw [List.flatMap_cons, List.length_append]
      exact Nat.add_le_add (steps_le fit.1) (ih fit.2)

end Line

namespace Layout

/-- Lines one after another. -/
theorem reaches_lines
    {lines : List Line}
    {depth : Nat}
    (fit : Line.Fit depth lines)
    {next : List Char}
    (starts : IsTokenStart next)
    {margin : Margin}
    (grounded : margin.Grounded)
    {candidate : Option Candidate}
    {index line : Nat}
    (stale : refresh? ⟨Line.visible depth next lines, index, line,
        Line.depthOf depth lines⟩ candidate = some none) :
    ∃ kept further number, (Line.marginOf margin lines).Grounded ∧
      refresh? ⟨next, further, number, depth⟩ kept = some none ∧
      Reaches (Line.stepsOf lines)
        (margin.layout
          ⟨Line.visible depth next lines, index, line,
            Line.depthOf depth lines⟩ candidate true)
        ((Line.marginOf margin lines).layout ⟨next, further, number,
            depth⟩ kept true) := by
  induction lines generalizing margin candidate index line with
  | nil => exact ⟨candidate, index, line, grounded, stale, Reaches.refl _⟩
  | cons current lines ih =>
      rcases reaches_line fit.1 (Line.isTokenStart_visible fit.2 starts)
          grounded stale with
        ⟨kept, more, fresh, reached⟩
      rcases ih fit.2 (Line.grounded_margin grounded current) fresh with
        ⟨last, further, number, steady, ended, others⟩
      exact ⟨last, further, number, steady, ended, reached.trans others⟩

end Layout

/-! ## Documents -/

theorem afterMark_of_head
    {text : List Char}
    (unmarked : text.head? ≠ some '\uFEFF') :
    afterMark text = Margin.start.layout ⟨text, 0, 0, 0⟩ none true := by
  rw [afterMark.eq_def]
  split
  · exact absurd rfl unmarked
  · rfl

/-- A text of lines has the tokens of its lines. -/
theorem Token.ofText?_lines
    {lines : List Line}
    (fit : Line.Fit 0 lines)
    (flush : Line.depthOf 0 lines = 0)
    (unmarked : (lines.flatMap Line.chars).head? ≠ some '\uFEFF') :
    Token.ofText? (lines.flatMap Line.chars) =
      if (lines.flatMap Line.chars).all isAllowed then some (Line.tokens lines)
      else none := by
  have few := Line.stepsOf_le fit
  have text := Line.flatMap_chars lines
  rw [flush] at text
  rw [List.replicate_zero, List.nil_append] at text
  rw [Token.ofText?, afterMark_of_head unmarked]
  refine ite_congr rfl (fun _ => ?_) (fun _ => rfl)
  have ended : IsTokenStart [] := rfl
  rcases Layout.reaches_lines fit ended Margin.grounded_start
      (Layout.refresh?_none ⟨_, 0, 0, _⟩) with
    ⟨kept, further, number, -, fresh, reached⟩
  obtain ⟨fuel, enough⟩ := Nat.exists_eq_add_of_le' few
  rw [flush, ← text] at reached
  rw [show (lines.flatMap Line.chars).length + 2 =
    fuel + 1 + Line.stepsOf lines + 1 by omega, reached (fuel + 1),
    Layout.scan?_of_end (Layout.settled_of_start ended) fresh rfl rfl]
  rfl

end HookKeeper.Yaml
