import HookKeeper.Proofs.BlockNodes
import HookKeeper.Proofs.LineMarks
import HookKeeper.Proofs.ScannedTokens

/-!
# Any line after a key

What follows a key on its line may be plain text, and then it is one token; but
it may also start with quotes, an anchor, a tag, a block mark or a bracket.
Whatever it is, a scan that succeeds gets from it to the next line with tokens
that have no structure, which stand for no more text than the line has; or it
comes to a bracket, which is then the first token with structure after the key.
-/

namespace HookKeeper.Yaml

variable {depth : Nat} {next line : List Char} {before after : Cursor}

/-! ## One token -/

namespace Layout

/-- What a token after a key is, and where the scan goes on after it. -/
inductive Step
    (margin : Margin)
    (depth : Nat)
    (next line : List Char)
    (column : Nat) : Layout → Prop where
  /-- A token without structure, which stands on the line. -/
  | leaf
      {token : Token}
      {front more : List Char}
      {after : Cursor}
      (leafy : token.isLeaf = true)
      (whole : line = front ++ more)
      (short : Token.textLength [token] < front.length)
      (rest : after.rest = more ++ lineEnd depth next)
      (further : after.column = column + front.length) :
      Step margin depth next line column
        ((margin.push [token]).layout after none false)
  /-- A block mark, up to the next line. -/
  | block
      (style : Style)
      (index number : Nat) :
      Step margin depth next line column
        ((margin.push [.scalar "" style]).layout
          ⟨next, index, number, depth⟩ none true)
  /-- A bracket. -/
  | bracket
      {token : Token}
      {after : Layout}
      (structured : token.isBracket = true)
      (keeps : after.Keeps (margin.newestFirst.reverse ++ [token])) :
      Step margin depth next line column after
  /-- Quotes that the line leaves open, up to the last quote of the text. -/
  | quote
      {token : Token}
      {after : Cursor}
      {rest : List Char}
      (starts : after.rest = '"' :: rest)
      (last : '"' ∉ rest) :
      Step margin depth next line column
        ((margin.push [token]).layout after none false)

variable {margin : Margin} {first : Char} {rest : List Char}
  {index number column : Nat} {after : Layout}

/-- An anchor, an alias or a tag. -/
theorem Step.of_crosses
    {token : Token}
    {place : Cursor}
    (leafy : token.isLeaf = true)
    (textless : Token.textLength [token] = 0)
    (crosses : Property.Crosses ⟨line ++ lineEnd depth next, index, number,
        column⟩ place) :
    Step margin depth next line column
      ((margin.push [token]).layout place none false) := by
  rcases crosses.on_line rfl with ⟨front, more, whole, given, text, further⟩
  refine .leaf leafy whole ?_ text further
  rw [textless]
  exact List.length_pos_iff.2 given

theorem step_quotedScalar?
    {single : Bool}
    (sealed : Seals (lineEnd depth next))
    (unbroken : IsLine rest)
    (found :
        (margin.layout ⟨QuotedText.mark single :: rest ++ lineEnd depth next,
          index, number, column⟩ none false).quotedScalar? single =
          some after) :
    Step margin depth next (QuotedText.mark single :: rest) column after := by
  rcases Option.bind_eq_some_iff.1 found with ⟨⟨text, place⟩, read, made⟩
  cases made
  rcases QuotedText.read?_line rfl unbroken read with
    ⟨front, more, whole, short, text, further⟩ | ⟨inner, parts, escapes⟩
  · refine .leaf rfl whole ?_ text further
    show (String.ofList _).length + 0 < _
    rw [String.length_ofList]
    exact short
  · cases single with
    | true =>
        refine absurd ?_ sealed.single
        rw [parts]
        exact List.mem_append_right inner List.mem_cons_self
    | false =>
        have closed : Seals (inner ++ '"' :: place.rest) := parts ▸ sealed
        rcases closed.of_escapesQuotes (escapes rfl) with ⟨rest, starts, last⟩
        exact .quote starts last

theorem step_blockScalar?
    {literal : Bool}
    (unbroken : IsLine rest)
    (starts : IsTokenStart next)
    (shallow : (depth : Int) ≤ margin.indent)
    (found :
        (margin.layout ⟨first :: rest ++ lineEnd depth next, index, number,
          column⟩ none false).blockScalar? literal = some after) :
    Step margin depth next (first :: rest) column after := by
  have dropped (cursor : Cursor) :
      (margin.layout cursor none false).dropCandidate? =
        some (margin.layout cursor none false) := rfl
  rw [blockScalar?, dropped] at found
  simp only [Option.bind_eq_bind, Option.bind_some] at found
  rcases Option.bind_eq_some_iff.1 found with ⟨⟨text, place⟩, read, made⟩
  rcases BlockText.read?_line rfl unbroken starts shallow read with
    ⟨rfl, index, number, rfl⟩
  cases made
  exact .block _ index number

theorem keeps_of_newestFirst
    {token : Token}
    (tokens : after.newestFirst = token :: margin.newestFirst)
    (counted : after.count = margin.newestFirst.length + 1)
    (innermost : after.candidate = none)
    (around : ∀ place ∈ after.outerCandidates, place = none) :
    after.Keeps (margin.newestFirst.reverse ++ [token]) := by
  refine ⟨⟨[], by rw [tokens]; simp⟩, by rw [tokens, counted]; rfl, ?_, ?_⟩
  · rw [innermost]
    exact nofun
  · intro place member
    rw [around place member]
    exact nofun

/-- The token that starts with a mark, where no key may start. -/
def markToken? (layout : Layout) : Char → Option Layout
  | ',' => layout.flowEntry?
  | '[' => layout.openFlow? .flowSequenceStart
  | ']' => layout.closeFlow? .flowSequenceEnd
  | '\x7b' => layout.openFlow? .flowMappingStart
  | '\x7d' => layout.closeFlow? .flowMappingEnd
  | '*' => (Property.name? layout.cursor).bind fun (name, place) =>
      layout.leaf? (.alias name) place
  | '&' => (Property.name? layout.cursor).bind fun (name, place) =>
      layout.leaf? (.anchor name) place
  | '!' => (Property.tag? false layout.cursor).bind
      fun (handle, suffix, place) => layout.leaf? (.tag handle suffix) place
  | '|' => layout.blockScalar? true
  | '>' => layout.blockScalar? false
  | '\'' => layout.quotedScalar? true
  | '"' => layout.quotedScalar? false
  | _ => none

theorem token?_of_mark
    (marked : first ∈ PlainText.marks)
    (right : 0 < column)
    (rest : List Char)
    (index number : Nat) :
    (margin.layout ⟨first :: rest, index, number, column⟩ none false).token?
        first =
      (margin.layout ⟨first :: rest, index, number, column⟩ none
        false).markToken? first := by
  have free := Cursor.atBorder_of_column (first :: rest) index number right
  have inner : (column == 0) = false := beq_false_of_ne (Nat.ne_of_gt right)
  simp only [Cursor.atBorder, Bool.or_eq_false_iff] at free
  have place : (margin.layout ⟨first :: rest, index, number, column⟩ none
      false).cursor = ⟨first :: rest, index, number, column⟩ := rfl
  have block : (margin.layout ⟨first :: rest, index, number, column⟩ none
      false).inFlow = false := rfl
  rw [token?, place, block, inner, free.1, free.2]
  simp only [PlainText.marks, List.mem_cons, List.not_mem_nil, or_false]
    at marked
  rcases marked with
    rfl | rfl | rfl | rfl | rfl | rfl | rfl | rfl | rfl | rfl | rfl | rfl <;>
    simp only [Bool.false_and, Bool.and_true, Bool.not_false,
      Char.reduceBEq, Bool.false_eq_true, if_false, if_true] <;>
    rfl

/-- A bracket, a brace or a comma is kept as the first token. -/
theorem keeps_of_bracket
    {cursor : Cursor}
    (marked : first ∈ [',', '[', ']', '\x7b', '\x7d'])
    (found : (margin.layout cursor none false).markToken? first = some after) :
    ∃ token,
      token.isBracket = true ∧
        after.Keeps (margin.newestFirst.reverse ++ [token]) := by
  simp only [List.mem_cons, List.not_mem_nil, or_false] at marked
  rcases marked with rfl | rfl | rfl | rfl | rfl <;> cases found
  · exact ⟨_, rfl, keeps_of_newestFirst rfl rfl rfl nofun⟩
  · exact ⟨_, rfl, keeps_of_newestFirst rfl rfl rfl
      (List.forall_mem_singleton.2 rfl)⟩
  · exact ⟨_, rfl, keeps_of_newestFirst rfl rfl rfl nofun⟩
  · exact ⟨_, rfl, keeps_of_newestFirst rfl rfl rfl
      (List.forall_mem_singleton.2 rfl)⟩
  · exact ⟨_, rfl, keeps_of_newestFirst rfl rfl rfl nofun⟩

/-- So is an alias. -/
theorem keeps_of_star
    {cursor : Cursor}
    (found : (margin.layout cursor none false).markToken? '*' = some after) :
    ∃ name, after.Keeps (margin.newestFirst.reverse ++ [.alias name]) := by
  rcases Option.bind_eq_some_iff.1 found with ⟨⟨name, place⟩, -, made⟩
  cases made
  exact ⟨name, keeps_of_newestFirst rfl rfl rfl nofun⟩

/-- What is no plain text starts with a mark, and is one of these tokens. -/
theorem step_of_mark
    (marked : first ∈ PlainText.marks)
    (sealed : Seals (lineEnd depth next))
    (unbroken : IsLine (first :: rest))
    (starts : IsTokenStart next)
    (shallow : (depth : Int) ≤ margin.indent)
    (found :
        (margin.layout ⟨first :: rest ++ lineEnd depth next, index, number,
          column⟩ none false).markToken? first = some after) :
    Step margin depth next (first :: rest) column after := by
  have visible := unbroken first List.mem_cons_self
  have later := unbroken.tail
  by_cases structured : first ∈ [',', '[', ']', '\x7b', '\x7d']
  · rcases keeps_of_bracket structured found with ⟨token, bracket, keeps⟩
    exact .bracket bracket keeps
  · simp only [PlainText.marks, List.mem_cons, List.not_mem_nil, or_false]
      at marked structured
    simp only [not_or] at structured
    obtain ⟨comma, opening, closing, left, right⟩ := structured
    simp only [comma, opening, closing, left, right, false_or] at marked
    rcases marked with rfl | rfl | rfl | rfl | rfl | rfl | rfl
    · rcases Option.bind_eq_some_iff.1 found with ⟨⟨name, place⟩, read, made⟩
      cases made
      exact .of_crosses rfl rfl (Property.crosses_name? rfl visible read)
    · rcases Option.bind_eq_some_iff.1 found with ⟨⟨name, place⟩, read, made⟩
      cases made
      exact .of_crosses rfl rfl (Property.crosses_name? rfl visible read)
    · rcases Option.bind_eq_some_iff.1 found with
        ⟨⟨handle, suffix, place⟩, read, made⟩
      cases made
      exact .of_crosses rfl rfl (Property.crosses_tag? rfl read)
    · exact step_blockScalar? later starts shallow found
    · exact step_blockScalar? later starts shallow found
    · exact step_quotedScalar? sealed later found
    · exact step_quotedScalar? sealed later found

/-! ## All tokens up to the next line -/

/-- A quote that none follows is a fault. -/
theorem scan?_of_quote
    {cursor : Cursor}
    {rest : List Char}
    (starts : cursor.rest = '"' :: rest)
    (last : '"' ∉ rest)
    (fuel : Nat) :
    scan? fuel (margin.layout cursor none false) = none := by
  obtain ⟨characters, index, number, column⟩ := cursor
  obtain rfl : characters = '"' :: rest := starts
  have unread : QuotedText.read? false ⟨'"' :: rest, index, number, column⟩ =
      none := by
    cases read : QuotedText.read? false ⟨'"' :: rest, index, number,
        column⟩ with
    | none => rfl
    | some found =>
        rcases QuotedText.passes_read? rfl read with ⟨inner, passes, -⟩
        have same := (List.cons.inj passes.text).2
        refine absurd ?_ last
        rw [same]
        exact List.mem_append_left _
          (List.mem_append_right inner List.mem_cons_self)
  have token (margin : Margin) :
      (margin.layout ⟨'"' :: rest, index, number, column⟩ none false).token?
        '"' = none := by
    have place : (margin.layout ⟨'"' :: rest, index, number, column⟩ none
        false).cursor = ⟨'"' :: rest, index, number, column⟩ := rfl
    have marker (mark : Char) (other : ('"' == mark) = false) :
        Cursor.atMarker ⟨'"' :: rest, index, number, column⟩ mark = false := by
      simp [Cursor.atMarker, Cursor.holds, Cursor.peek, other]
    rw [token?, place, marker '-' rfl, marker '.' rfl]
    simp [quotedScalar?, place, unread]
  have started : IsTokenStart ('"' :: rest) := rfl
  exact scan?_of_fault (settled_of_start started) rfl rfl (token _) fuel

/-- How a scan gets on from a key, with the tokens that it finds first. -/
inductive Walk
    (margin : Margin)
    (depth : Nat)
    (next : List Char)
    (tokens leaves : List Token) : Prop where
  /-- To the next line. -/
  | ended
      (fuel index number : Nat)
      (scanned : scan? fuel ((margin.push leaves).layout
        ⟨next, index, number, depth⟩ none true) = some tokens)
  /-- To a bracket. -/
  | bracket
      (token : Token)
      (structured : token.isBracket = true)
      (found : margin.newestFirst.reverse ++ leaves ++ [token] <+: tokens)

variable {tokens : List Token} {fuel : Nat}

theorem Walk.cons
    {token : Token}
    {leaves : List Token}
    (walk : Walk (margin.push [token]) depth next tokens leaves) :
    Walk margin depth next tokens (token :: leaves) := by
  have same : (margin.push [token]).push leaves =
      margin.push (token :: leaves) := by
    simp [Margin.push]
  cases walk with
  | ended fuel index number scanned =>
      exact .ended fuel index number (same ▸ scanned)
  | bracket bracket structured found =>
      refine .bracket bracket structured ?_
      simpa [Margin.push] using found

theorem scan?_visible
    (starts : IsTokenStart (first :: rest))
    (inside : margin.indent ≤ column)
    (fuel : Nat) :
    scan? (fuel + 1)
        (margin.layout ⟨first :: rest, index, number, column⟩ none false) =
      ((margin.layout ⟨first :: rest, index, number, column⟩ none
        false).token? first).bind (scan? fuel) := by
  rw [scan?_of_settled (settled_of_start starts) rfl, Margin.close_of_le inside]

/--
What was found on a line after a key, and how the scan gets on from there.
-/
structure Walks
    (margin : Margin)
    (depth : Nat)
    (next line : List Char)
    (tokens leaves : List Token) : Prop where
  leafy : ∀ token ∈ leaves, token.isLeaf = true
  short : Token.textLength leaves ≤ line.length
  /-- A mark is no part of the text that it starts. -/
  shorter :
    line.head?.any PlainText.marks.contains = true →
      Token.textLength leaves < line.length
  onwards : Walk margin depth next tokens leaves

theorem walks_of_step
    (step : Step margin depth next (first :: rest) column after)
    (found : scan? fuel after = some tokens)
    (later : ∀ {token : Token} {front more : List Char} {cursor : Cursor},
        first :: rest = front ++ more →
        cursor.rest = more ++ lineEnd depth next →
        cursor.column = column + front.length →
        scan? fuel ((margin.push [token]).layout cursor none false) =
        some tokens →
        ∃ leaves,
        Walks (margin.push [token]) depth next (more.dropWhile isSpace) tokens
        leaves) :
    ∃ leaves, Walks margin depth next (first :: rest) tokens leaves := by
  cases step with
  | @leaf token front more place leafy whole short text further =>
      rcases later whole text further found with ⟨leaves, walks⟩
      have blanks := (List.dropWhile_suffix isSpace (l := more)).length_le
      have total := congrArg List.length whole
      rw [List.length_append] at total
      have parts : Token.textLength (token :: leaves) =
          Token.textLength [token] + Token.textLength leaves := by
        cases token <;> simp [Token.textLength]
      have fewer := walks.short
      exact ⟨token :: leaves, List.forall_mem_cons.2 ⟨leafy, walks.leafy⟩,
        by omega, fun _ => by omega, walks.onwards.cons⟩
  | block style index number =>
      exact ⟨[.scalar "" style], List.forall_mem_singleton.2 rfl,
        Nat.zero_le _, fun _ => Nat.succ_pos _,
        .ended fuel index number found⟩
  | bracket structured keeps =>
      exact ⟨[], nofun, Nat.zero_le _, fun _ => Nat.succ_pos _,
        .bracket _ structured (by simpa using keeps.scan? found)⟩
  | quote starts last =>
      rw [scan?_of_quote starts last] at found
      exact absurd found nofun

/-- What starts with no mark is plain text, or a fault. -/
theorem walks_of_unmarked
    (unbroken : IsLine (first :: rest))
    (started : IsTokenStart (first :: (rest ++ lineEnd depth next)))
    (starts : IsTokenStart next)
    (shallow : (depth : Int) ≤ margin.indent)
    (inside : margin.indent ≤ column)
    (right : 0 < column)
    (unmarked : first ∉ PlainText.marks)
    (found :
        scan? (fuel + 1) (margin.layout ⟨first :: (rest ++ lineEnd depth next),
          index, number, column⟩ none false) = some tokens) :
    ∃ leaves, Walks margin depth next (first :: rest) tokens leaves := by
  by_cases opens : PlainText.opens (first :: rest) = true
  · have free := Cursor.atBorder_of_column
      (first :: rest ++ lineEnd depth next) index number right
    by_cases ends : (PlainText.unspoken true (first :: rest)).head? = some ':'
    · have fault :=
        scan?_plain_colon unbroken opens starts inside free ends fuel
      cases fault.symm.trans (scan?_succ found)
    · have plain := reaches_plain unbroken opens starts inside free false ends
        shallow fuel
      refine ⟨_, List.forall_mem_singleton.2 rfl, ?_,
        fun marked => absurd marked (by simp [unmarked]),
        .ended (fuel + 1) _ _ (plain.symm.trans (scan?_succ found))⟩
      show (String.ofList _).length + 0 ≤ _
      rw [String.length_ofList]
      exact PlainText.length_spoken_le true (first :: rest)
  · have strange : PlainText.marks.contains first = false :=
      Bool.eq_false_iff.2 fun member =>
        unmarked (List.contains_iff_mem.1 member)
    have visible : isGap first = false ∧ first ≠ '#' := by
      simpa [IsTokenStart] using started
    have seen : isSpace first = false := (Bool.or_eq_false_iff.1 visible.1).1
    have barred : (margin.layout
        ⟨first :: rest ++ lineEnd depth next, index, number, column⟩ none
          false).token? first = none :=
      token?_of_barred unbroken (Bool.eq_false_iff.2 opens) seen visible.2
        strange right
    rw [scan?_visible started inside, ← List.cons_append, barred] at found
    cases found

/--
Whatever stands after a key, a scan that succeeds finds tokens without structure
and then the next line or a bracket.
-/
theorem exists_walks
    (sealed : Seals (lineEnd depth next))
    (starts : IsTokenStart next)
    (unbroken : IsLine line)
    (shallow : (depth : Int) ≤ margin.indent)
    (inside : margin.indent ≤ column)
    (right : 0 < column)
    (found :
        scan? fuel (margin.layout ⟨line ++ lineEnd depth next, index, number,
          column⟩ none false) = some tokens) :
    ∃ leaves,
      Walks margin depth next (line.dropWhile isSpace) tokens leaves := by
  induction fuel generalizing margin line index number column with
  | zero => exact absurd found nofun
  | succ fuel ih =>
      have blank : ∀ character ∈ line.takeWhile isSpace,
          isSpace character = true := List.all_eq_true.1 List.all_takeWhile
      have parts : line.takeWhile isSpace ++ line.dropWhile isSpace = line :=
        List.takeWhile_append_dropWhile
      have visible := List.head?_dropWhile_not isSpace line
      rw [← parts] at unbroken
      have later := unbroken.of_append
      generalize line.takeWhile isSpace = blanks at *
      generalize line.dropWhile isSpace = body at *
      subst parts
      rw [List.append_assoc] at found
      by_cases silent : body.head?.all (· == '#') = true
      · have indented : ∀ character ∈ blanks,
            isIndent false character = true := blank
        rw [reaches_lineEnd indented later silent starts depth fuel] at found
        refine ⟨[], nofun, Nat.zero_le _, fun marked => ?_,
          .ended (fuel + 1) _ _ found⟩
        cases body with
        | nil => exact absurd marked Bool.false_ne_true
        | cons first rest => exact Nat.succ_pos _
      cases body with
      | nil => exact absurd rfl silent
      | cons first rest =>
          have seen : isSpace first = false := by simpa using visible
          have other : first ≠ '#' := by simpa using silent
          have started :
              IsTokenStart (first :: (rest ++ lineEnd depth next)) := by
            simp [IsTokenStart, isGap, seen, later first List.mem_cons_self,
              other]
          have further :
              margin.indent ≤ ((column + blanks.length : Nat) : Int) := by
            omega
          have place : 0 < column + blanks.length := by omega
          rw [List.cons_append,
            reaches_gap blank started margin index number column fuel] at found
          by_cases marked : first ∈ PlainText.marks
          · rw [scan?_visible started further, token?_of_mark marked place]
              at found
            rcases Option.bind_eq_some_iff.1 found with ⟨after, token, more⟩
            refine walks_of_step
              (step_of_mark marked sealed later starts shallow token) more ?_
            intro token front more cursor whole text moved found
            obtain ⟨characters, index, number, ahead⟩ := cursor
            obtain rfl : characters = more ++ lineEnd depth next := text
            rw [whole] at later
            have unbroken : IsLine more := later.of_append
            have gone : margin.indent ≤ (ahead : Int) := by
              dsimp only at moved
              omega
            exact ih unbroken shallow gone (by dsimp only at moved; omega) found
          · exact walks_of_unmarked later started starts shallow further place
              marked found

/-- What a mark starts is the first token after a key. -/
theorem exists_markToken?
    (inside : margin.indent ≤ column)
    (right : 0 < column)
    (marked : first ∈ PlainText.marks)
    (visible : (line.dropWhile isSpace).head? = some first)
    (found :
        scan? fuel (margin.layout ⟨line ++ lineEnd depth next, index, number,
          column⟩ none false) = some tokens) :
    ∃ cursor after fuel,
      (margin.layout cursor none false).markToken? first = some after ∧
        scan? fuel after = some tokens := by
  cases fuel with
  | zero => exact absurd found nofun
  | succ fuel =>
      have blank : ∀ character ∈ line.takeWhile isSpace,
          isSpace character = true := List.all_eq_true.1 List.all_takeWhile
      have parts : line.takeWhile isSpace ++ line.dropWhile isSpace = line :=
        List.takeWhile_append_dropWhile
      rcases List.head?_eq_some_iff.1 visible with ⟨rest, starts⟩
      rw [starts] at parts
      generalize line.takeWhile isSpace = blanks at *
      subst parts
      have started :
          IsTokenStart (first :: (rest ++ lineEnd depth next)) := by
        have apart : PlainText.marks.all
            (fun mark => !isGap mark && mark != '#') = true := by decide
        exact List.all_eq_true.1 apart first marked
      have further :
          margin.indent ≤ ((column + blanks.length : Nat) : Int) := by
        omega
      have place : 0 < column + blanks.length := by omega
      rw [List.append_assoc, List.cons_append,
        reaches_gap blank started margin index number column fuel,
        scan?_visible started further, token?_of_mark marked place] at found
      rcases Option.bind_eq_some_iff.1 found with ⟨after, token, more⟩
      exact ⟨_, after, fuel, token, more⟩

end Layout

/-! ## Documents with such a line -/

namespace Layout

/-- Lines that fit determine the tokens up to the end of the text. -/
theorem eq_of_scan?_lines
    {lines : List Line}
    {margin : Margin}
    {fuel index number : Nat}
    {tokens : List Token}
    (fit : Line.Fit 0 lines)
    (grounded : margin.Grounded)
    (found :
        scan? fuel (margin.layout ⟨Line.visible 0 [] lines, index, number,
          Line.depthOf 0 lines⟩ none true) = some tokens) :
    tokens =
      (((Line.marginOf margin lines).close 0).close
        (-1)).newestFirst.reverse := by
  have ended : IsTokenStart [] := rfl
  rcases reaches_lines fit ended grounded (refresh?_none ⟨_, index, number, _⟩)
    with ⟨kept, further, line, -, fresh, reached⟩
  have scanned := scan?_add found (Line.stepsOf lines + 1 + 1)
  rw [show fuel + (Line.stepsOf lines + 1 + 1) =
      fuel + 1 + Line.stepsOf lines + 1 by omega, reached,
    scan?_of_end (settled_of_start ended) fresh rfl rfl] at scanned
  exact (Option.some.inj scanned).symm

end Layout

theorem Line.grounded_marginOf
    {before : Margin}
    (grounded : before.Grounded)
    (lines : List Line) : (marginOf before lines).Grounded := by
  induction lines generalizing before with
  | nil => exact grounded
  | cons line lines ih => exact ih (grounded_margin grounded line)

/-- A text is scanned up to the colon after a key, whatever stands after it. -/
theorem Token.exists_scan?_of_entry
    {lines front others : List Line}
    {indent : Nat}
    {dashed : Bool}
    {key : String}
    {tokens : List Token}
    (parts : lines = front ++ .entry indent dashed key (.plain line) :: others)
    (unbroken : IsLine line)
    (spaced : line.head?.all isSpace = true)
    (named : IsKey key.toList)
    (fit : Line.Fit indent front)
    (rest : Line.Fit 0 others)
    (flush : Line.depthOf 0 lines = 0)
    (unmarked : (lines.flatMap Line.chars).head? ≠ some '\uFEFF')
    (found : Token.ofText? (lines.flatMap Line.chars) = some tokens) :
    (lines.flatMap Line.chars).all isAllowed = true ∧
      ∃ fuel index number column,
        Line.place indent dashed < column ∧
          Layout.scan? fuel
            ((Line.opened indent dashed key
              (Line.marginOf Margin.start front)).layout
              ⟨line ++ lineEnd (Line.depthOf 0 others)
                (Line.visible 0 [] others), index, number, column⟩ none
                false) = some tokens := by
  have ended : IsTokenStart [] := rfl
  have started := Line.isTokenStart_entry named (.plain line) unbroken indent
    dashed (lineEnd (Line.depthOf 0 others) (Line.visible 0 [] others))
  have text := Line.flatMap_chars lines
  have depth : Line.depthOf indent front = 0 := by
    rw [← flush, parts]
    cases front <;> rfl
  rw [flush, List.replicate_zero, List.nil_append] at text
  rw [Token.ofText?, afterMark_of_head unmarked] at found
  split at found
  next allowed =>
    refine ⟨allowed, ?_⟩
    have scanned := Layout.scan?_add found
      (Line.stepsOf front + (dashed.toNat + 2))
    rcases Layout.reaches_lines fit started Margin.grounded_start
        (Layout.refresh?_none ⟨_, 0, 0, _⟩) with
      ⟨kept, further, number, grounded, fresh, reached⟩
    rcases Layout.reaches_opened (.plain line) named unbroken spaced
        (Line.isTokenStart_visible rest ended) grounded fresh with
      ⟨more, column, inside, opening⟩
    generalize (lines.flatMap Line.chars).length = length at scanned
    rw [text, parts, Line.visible_append, Line.visible] at scanned
    rw [depth] at reached
    refine ⟨length + 2, further + more, number, column, inside, ?_⟩
    rw [show length + 2 + (Line.stepsOf front + (dashed.toNat + 2)) =
        length + 1 + (dashed.toNat + 2) + Line.stepsOf front + 1 by omega]
      at scanned
    exact (opening _).symm.trans ((reached _).symm.trans scanned)
  · cases found

/-- A line that starts with no mark is a value where a text is scanned. -/
theorem PlainText.isValue_of_ofText?
    {lines front others : List Line}
    {indent : Nat}
    {dashed : Bool}
    {key : String}
    {tokens : List Token}
    (parts : lines = front ++ .entry indent dashed key (.plain line) :: others)
    (unbroken : IsLine line)
    (spaced : line.head?.all isSpace = true)
    (plain : (line.dropWhile isSpace).head?.any marks.contains = false)
    (named : IsKey key.toList)
    (fit : Line.Fit indent front)
    (rest : Line.Fit 0 others)
    (flush : Line.depthOf 0 lines = 0)
    (unmarked : (lines.flatMap Line.chars).head? ≠ some '\uFEFF')
    (found : Token.ofText? (lines.flatMap Line.chars) = some tokens) :
    IsValue line := by
  rcases Token.exists_scan?_of_entry parts unbroken spaced named fit rest flush
    unmarked found with ⟨-, fuel, index, number, column, inside, scanned⟩
  have grounded := Line.grounded_marginOf Margin.grounded_start front
  have place := Line.indent_opened grounded indent dashed key
  have ended : IsTokenStart [] := rfl
  refine Decidable.byContradiction fun fault => ?_
  have scanned := Layout.scan?_add scanned 2
  rw [Layout.scan?_of_not_isValue fault unbroken plain
    (Line.isTokenStart_visible rest ended) (by omega) (by omega)] at scanned
  exact absurd scanned nofun

/-! ## Tokens that come after others -/

namespace Margin

/-- A margin that comes after further tokens. -/
def behind (earlier : List Token) (margin : Margin) : Margin :=
  { margin with newestFirst := margin.newestFirst ++ earlier }

variable (earlier : List Token) (margin : Margin)

theorem push_behind (tokens : List Token) :
    (margin.behind earlier).push tokens =
        (margin.push tokens).behind earlier := by
  simp [push, behind]

theorem close_behind (column : Int) :
    (margin.behind earlier).close column =
      (margin.close column).behind earlier := by
  have closing (around : List Int) (margin : Margin) :
      closeFrom around column (margin.behind earlier) =
        (closeFrom around column margin).behind earlier := by
    induction around generalizing margin with
    | nil => rfl
    | cons next more ih =>
        rw [closeFrom, closeFrom]
        by_cases right : column < margin.indent
        · rw [if_pos right]
          exact (if_pos right).trans
            (ih ⟨.blockEnd :: margin.newestFirst, next, more⟩)
        · rw [if_neg right]
          exact if_neg right
  exact closing margin.outer margin

theorem enter_behind
    (column : Int)
    (token : Token) :
    (margin.behind earlier).enter column token =
      (margin.enter column token).behind earlier := by
  rw [enter, enter]
  by_cases right : margin.indent < column
  · rw [if_pos right]
    exact if_pos right
  · rw [if_neg right]
    exact if_neg right

end Margin

namespace Line

theorem margin_behind
    (earlier : List Token)
    (before : Margin)
    (line : Line) :
    line.margin (before.behind earlier) =
      (line.margin before).behind earlier := by
  cases line with
  | entry indent dashed key ending =>
      cases dashed <;>
        simp only [margin, opened, Margin.close_behind, Margin.enter_behind,
          Margin.push_behind, Bool.false_eq_true, if_false, if_true]
  | item indent text =>
      simp only [margin, Margin.close_behind, Margin.enter_behind,
        Margin.push_behind]

theorem marginOf_behind
    (earlier : List Token)
    (before : Margin)
    (lines : List Line) :
    marginOf (before.behind earlier) lines =
      (marginOf before lines).behind earlier := by
  induction lines generalizing before with
  | nil => rfl
  | cons line lines ih =>
      rw [marginOf, List.foldl_cons, margin_behind]
      exact ih (line.margin before)

/-- The tokens of lines, and of what ends with them. -/
def closing
    (indent : Int)
    (outer : List Int)
    (lines : List Line) : List Token :=
  (((marginOf ⟨[], indent, outer⟩ lines).close 0).close
    (-1)).newestFirst.reverse

/-- The tokens of lines come after those before them. -/
theorem tokens_marginOf
    (margin : Margin)
    (lines : List Line) :
    (((marginOf margin lines).close 0).close (-1)).newestFirst.reverse =
      margin.newestFirst.reverse ++
          closing margin.indent margin.outer lines := by
  have whole : margin =
      Margin.behind margin.newestFirst ⟨[], margin.indent, margin.outer⟩ := rfl
  rw [whole, marginOf_behind, Margin.close_behind, Margin.close_behind]
  exact List.reverse_append

end Line

end HookKeeper.Yaml
