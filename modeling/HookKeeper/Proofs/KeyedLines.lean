import HookKeeper.Proofs.LineTokens

/-!
# Lines with a key

A key, its colon and what follows them are scanned to the tokens of an entry,
after a dash to those of an item that holds the entry.  Where the line opens a
collection is told by the column of its key, and a margin is grounded, so that
the line ends every collection that lies further right.
-/

namespace HookKeeper.Yaml

/-! ## Lines -/

namespace PlainText

/--
Whether a line after a key is a comment at most, or plain text that no colon
stops.
-/
def IsValue (line : List Char) : Prop :=
  (line.dropWhile isSpace).head?.all (· == '#') = true ∨
    opens (line.dropWhile isSpace) = true ∧
      (unspoken true (line.dropWhile isSpace)).head? ≠ some ':'

instance (line : List Char) : Decidable (IsValue line) :=
  inferInstanceAs (Decidable (_ ∨ _))

/--
The characters that may start something other than plain text after a key.
-/
def marks : List Char :=
  [',', '[', ']', '\x7b', '\x7d', '&', '*', '!', '|', '>', '\'', '"']

end PlainText

/-- What follows a key and its colon on a line. -/
inductive Ending where
  | plain (text : List Char)
  | emptyQuotes

namespace Ending

def chars : Ending → List Char
  | plain text => text
  | emptyQuotes => [' ', '"', '"']

def tokens : Ending → List Token
  | plain text =>
      if (PlainText.heard text).isEmpty then []
      else [.scalar (String.ofList (PlainText.heard text)) .plain]
  | emptyQuotes => [.scalar "" .quoted]

theorem tokens_le (ending : Ending) :
    ending.tokens.length ≤ ending.chars.length := by
  cases ending with
  | plain text =>
      rw [tokens]
      cases text with
      | nil => exact Nat.le_refl _
      | cons first rest =>
          have least : 1 ≤ (first :: rest).length := Nat.succ_pos _
          split
          · exact Nat.zero_le _
          · exact least
  | emptyQuotes => decide

/-- Plain text is a scalar at most, which the next line does not go on with. -/
def Fits (column depth : Nat) : Ending → Prop
  | plain text => PlainText.IsValue text ∧
      (PlainText.heard text = [] ∨ depth ≤ column)
  | emptyQuotes => True

instance (column depth : Nat) : (ending : Ending) →
    Decidable (ending.Fits column depth)
  | plain text =>
      inferInstanceAs
        (Decidable (PlainText.IsValue text ∧
          (PlainText.heard text = [] ∨ depth ≤ column)))
  | emptyQuotes => isTrue trivial

end Ending

namespace Layout

variable {margin : Margin} {index line column depth : Nat} {next : List Char}

/-- The blanks that a text starts with stand before its first token. -/
theorem reaches_blanks
    {candidate : Option Candidate}
    {allowed : Bool}
    {blanks : List Char}
    (blank : ∀ character ∈ blanks, isIndent allowed character = true)
    {body : List Char}
    (starts : IsTokenStart body) :
    Reaches 0
      (margin.layout ⟨blanks ++ body, index, line, column⟩ candidate allowed)
        (margin.layout ⟨body, index + blanks.length, line,
          column + blanks.length⟩ candidate allowed) := by
  refine reaches_of_settled ?_
  rw [settled_of_start starts]
  exact skipSpace_token blank starts _

theorem reaches_gap
    {blanks : List Char}
    (blank : ∀ character ∈ blanks, isSpace character = true)
    {body : List Char}
    (starts : IsTokenStart body)
    (margin : Margin)
    (index line column : Nat) :
    Reaches 0 (margin.layout ⟨blanks ++ body, index, line, column⟩ none false)
      (margin.layout ⟨body, index + blanks.length, line,
          column + blanks.length⟩ none false) :=
  have indented : ∀ character ∈ blanks, isIndent false character = true := blank
  reaches_blanks indented starts

/-- A pair of quotes is an empty text. -/
theorem reaches_emptyQuotes
    (inside : margin.indent ≤ column)
    (right : 0 < column) :
    Reaches 1
      (margin.layout ⟨'"' :: '"' :: lineEnd depth next, index, line,
        column⟩ none false)
      ((margin.push [.scalar "" .quoted]).layout ⟨lineEnd depth next, index + 2,
        line, column + 2⟩ none false) := by
  have starts : IsTokenStart ('"' :: '"' :: lineEnd depth next) := rfl
  have free :=
    Cursor.atBorder_of_column ('"' :: '"' :: lineEnd depth next) index
      line right
  have shut :=
    Cursor.atBorder_of_column ('"' :: lineEnd depth next) (index + 1) line
    (Nat.succ_pos column)
  simp only [Cursor.atBorder, Bool.or_eq_false_iff] at free
  have read : QuotedText.read? false ⟨'"' :: '"' :: lineEnd depth next, index,
    line, column⟩ =
      some ([], ⟨lineEnd depth next, index + 2, line, column + 2⟩) := by
    rw [QuotedText.read?, QuotedText.scan?]
    show (if Cursor.atBorder ⟨'"' :: lineEnd depth next, index + 1, line,
        column + 1⟩ || false then
      none else _) = _
    rw [shut]
    rfl
  refine reaches_of_token (settled_of_start starts) rfl rfl ?_
  rw [Margin.close_of_le inside, token?]
  have place :
      (margin.layout ⟨'"' :: '"' :: lineEnd depth next, index, line,
        column⟩ none false).cursor = ⟨'"' :: '"' :: lineEnd depth next, index,
        line, column⟩ := rfl
  rw [place, free.1, free.2]
  simp [quotedScalar?, place, read]
  rfl

theorem reaches_ending
    {ending : Ending}
    {place : Nat}
    (fits : ending.Fits place depth)
    (unbroken : IsLine ending.chars)
    (opened : margin.indent = place)
    (inside : place < column)
    (starts : IsTokenStart next)
    (index line : Nat) :
    Reaches ending.tokens.length
      (margin.layout ⟨ending.chars ++ lineEnd depth next, index, line,
        column⟩ none false)
      ((margin.push ending.tokens).layout
        ⟨next, index + ending.chars.length + 1 + depth, line + 1,
            depth⟩ none true) := by
  cases ending with
  | emptyQuotes =>
      have blank : ∀ character ∈ [' '], isSpace character = true :=
        List.forall_mem_singleton.2 rfl
      have quoted : IsTokenStart ('"' :: '"' :: lineEnd depth next) := rfl
      have nothing : IsLine [] := List.forall_mem_nil _
      have reached := ((reaches_gap blank quoted margin index line column).trans
        (reaches_emptyQuotes (by dsimp only [List.length_singleton]; omega)
          (Nat.succ_pos _))).trans
        (reaches_comment nothing rfl starts depth)
      exact reached
  | plain text =>
      have blank : ∀ character ∈ text.takeWhile isSpace,
          isSpace character = true :=
        List.all_eq_true.1 List.all_takeWhile
      have parts : text.takeWhile isSpace ++ text.dropWhile isSpace = text :=
        List.takeWhile_append_dropWhile
      have total := congrArg List.length parts
      rw [List.length_append] at total
      rcases fits with ⟨value, shallow⟩
      rw [Ending.chars, ← parts] at unbroken
      have later := unbroken.of_append
      rw [PlainText.IsValue] at value
      rw [PlainText.heard] at shallow
      rw [Ending.chars, Ending.tokens, PlainText.heard]
      generalize text.takeWhile isSpace = blanks at *
      generalize text.dropWhile isSpace = body at *
      subst parts
      rw [List.append_assoc, List.length_append, ← Nat.add_assoc index]
      rcases value with silent | ⟨opens, ends⟩
      · have said : PlainText.spoken true body = [] := by
          cases body with
          | nil => rfl
          | cons first rest =>
              have comment : first = '#' := by simpa using silent
              rw [comment]
              rfl
        rw [said]
        exact reaches_lineEnd blank later silent starts depth
      · have said := PlainText.spoken_of_opens opens
        have outside := shallow.resolve_left said
        cases body with
        | nil => exact absurd rfl said
        | cons first rest =>
            have place : 0 < column + blanks.length := by omega
            have free :=
              Cursor.atBorder_of_column (first :: rest ++ lineEnd depth next)
              (index + blanks.length) line place
            have started :=
              isTokenStart_of_opens later opens (lineEnd depth next)
            have reached :=
              (reaches_gap blank started margin index line column).trans
              (reaches_plain later opens starts (by omega) free false ends
                (by omega))
            simp only [List.isEmpty_eq_false_iff.2 said]
            exact reached

/--
After a key nothing starts with a dash before a blank, or with a character of no
use.
-/
theorem token?_of_barred
    {first : Char}
    {rest : List Char}
    (unbroken : IsLine (first :: rest))
    (closed : PlainText.opens (first :: rest) = false)
    (seen : isSpace first = false)
    (other : first ≠ '#')
    (unmarked : PlainText.marks.contains first = false)
    (right : 0 < column) :
    (margin.layout ⟨first :: rest ++ lineEnd depth next, index, line,
      column⟩ none false).token? first = none := by
  have free :=
    Cursor.atBorder_of_column (first :: rest ++ lineEnd depth next) index
      line right
  have inner : (column == 0) = false := beq_false_of_ne (Nat.ne_of_gt right)
  simp only [Cursor.atBorder, Bool.or_eq_false_iff] at free
  simp only [PlainText.opens, seen, Bool.not_false, Bool.true_and,
    Bool.or_eq_false_iff, Bool.not_eq_false', Bool.and_eq_false_iff] at closed
  have marked : PlainText.indicators.all (fun mark => mark == '#' ||
      PlainText.marks.contains mark
          || ['-', '?', ':', '%', '@', '\x60'].contains mark) = true := by
    decide
  have gap : Cursor.atGapOrEnd ⟨first :: rest ++ lineEnd depth next, index,
    line, column⟩ 1 =
      rest.head?.all isSpace := atGapOrEnd_line unbroken
  have place :
      (margin.layout ⟨first :: rest ++ lineEnd depth next, index, line,
        column⟩ none false).cursor = ⟨first :: rest ++ lineEnd depth next,
        index, line, column⟩ := rfl
  have block :
      (margin.layout ⟨first :: rest ++ lineEnd depth next, index, line,
        column⟩ none false).inFlow = false := rfl
  have shut (cursor : Cursor) : blockEntry? (margin.layout cursor none false) =
    none ∧
      key? (margin.layout cursor none false) = none ∧
      value? (margin.layout cursor none false) = none := ⟨rfl, rfl, rfl⟩
  have reached : first ∈ ['-', '?', ':', '%', '@', '\x60'] := by
    have found :=
      List.all_eq_true.1 marked first (List.contains_iff_mem.1 closed.1)
    rw [unmarked, beq_false_of_ne other] at found
    exact List.contains_iff_mem.1 found
  rw [token?, place, block, inner, free.1, free.2, gap, startsPlain, gap]
  simp only [List.mem_cons, List.not_mem_nil, or_false] at reached
  rcases reached with rfl | rfl | rfl | rfl | rfl | rfl
  · simp [closed.2.resolve_left (by decide), shut]
  · simp [closed.2.resolve_left (by decide), shut]
  · simp [closed.2.resolve_left (by decide), shut]
  all_goals simp [isGap, isSpace, isBreak]

/--
After a key what is neither a comment nor plain text without a colon is a fault.
-/
theorem scan?_of_not_isValue
    {text : List Char}
    (fault : ¬ PlainText.IsValue text)
    (unbroken : IsLine text)
    (unmarked : (text.dropWhile isSpace).head?.any PlainText.marks.contains =
      false)
    (starts : IsTokenStart next)
    (inside : margin.indent ≤ column)
    (right : 0 < column)
    (fuel : Nat) :
    scan? (fuel + 2) (margin.layout ⟨text ++ lineEnd depth next, index, line,
      column⟩ none false) =
      none := by
  have blank : ∀ character ∈ text.takeWhile isSpace, isSpace character = true :=
    List.all_eq_true.1 List.all_takeWhile
  have parts : text.takeWhile isSpace ++ text.dropWhile isSpace = text :=
    List.takeWhile_append_dropWhile
  have visible := List.head?_dropWhile_not isSpace text
  rw [← parts] at unbroken
  have later := unbroken.of_append
  rw [PlainText.IsValue, not_or, not_and, ne_eq, Classical.not_not] at fault
  generalize text.takeWhile isSpace = blanks at *
  generalize text.dropWhile isSpace = body at *
  subst parts
  cases body with
  | nil => exact absurd rfl fault.1
  | cons first rest =>
      have seen : isSpace first = false := by simpa using visible
      have other : first ≠ '#' := by simpa using fault.1
      have started : IsTokenStart (first :: rest ++ lineEnd depth next) := by
        simp [IsTokenStart, isGap, seen, later first List.mem_cons_self, other]
      have moved := reaches_gap blank started margin index line column
      have further : margin.indent ≤ ((column + blanks.length : Nat) : Int) :=
        by omega
      have place : 0 < column + blanks.length := by omega
      rw [List.append_assoc, moved (fuel + 1)]
      by_cases opens : PlainText.opens (first :: rest) = true
      · have free :=
          Cursor.atBorder_of_column (first :: rest ++ lineEnd depth next)
          (index + blanks.length) line place
        exact scan?_plain_colon later opens starts further free
          (fault.2 opens) fuel
      · refine scan?_of_fault (settled_of_start started) rfl rfl ?_ (fuel + 2)
        rw [Margin.close_of_le further]
        exact token?_of_barred later (Bool.eq_false_iff.2 opens) seen other
          (by simpa using unmarked) place

end Layout

/-! ## Grounded margins -/

namespace Margin

/-- The outermost column is that outside of all collections. -/
def Grounded (margin : Margin) : Prop :=
  (margin.indent :: margin.outer).getLast? = some (-1)

theorem grounded_start : start.Grounded := rfl

theorem Grounded.push
    {margin : Margin}
    (grounded : margin.Grounded)
    (tokens : List Token) : (margin.push tokens).Grounded := grounded

theorem Grounded.enter
    {margin : Margin}
    (grounded : margin.Grounded)
    (column : Int)
    (token : Token) : (margin.enter column token).Grounded := by
  rw [Margin.enter]
  split
  · exact (List.getLast?_cons_cons).trans grounded
  · exact grounded

/-- Closing leaves no collection right of the column. -/
theorem Grounded.close
    {margin : Margin}
    (grounded : margin.Grounded)
    (column : Nat) :
    (margin.close column).Grounded ∧ (margin.close column).indent ≤ column := by
  obtain ⟨newestFirst, indent, outer⟩ := margin
  rw [Margin.close]
  dsimp only
  induction outer generalizing newestFirst indent with
  | nil =>
      have outside : indent = -1 := by simpa [Grounded] using grounded
      refine ⟨grounded, ?_⟩
      rw [closeFrom, outside]
      show (-1 : Int) ≤ column
      omega
  | cons next more ih =>
      rw [closeFrom]
      split
      · exact ih _ _ ((List.getLast?_cons_cons).symm.trans grounded)
      next inside => exact ⟨grounded, Int.not_lt.1 inside⟩

theorem indent_enter
    {margin : Margin}
    {column : Int}
    (inside : margin.indent ≤ column)
    (token : Token) :
    (margin.enter column token).indent = column := by
  rw [enter]
  split
  · rfl
  next right => exact Int.le_antisymm inside (Int.not_lt.1 right)

end Margin

namespace Layout

variable {margin : Margin} {index line column depth : Nat} {next : List Char}

/-- The collections that end at a token may have ended before. -/
theorem reaches_close
    {candidate : Option Candidate}
    {allowed : Bool}
    {body : List Char}
    (starts : IsTokenStart body)
    (stale : refresh? ⟨body, index, line, column⟩ candidate = some none)
    (closed : (margin.close column).indent ≤ column) :
    Reaches 0 (margin.layout ⟨body, index, line, column⟩ candidate allowed)
      ((margin.close column).layout ⟨body, index, line, column⟩ none
        allowed) := fun fuel => by
  rw [Nat.add_zero, scan?_of_settled (settled_of_start starts) stale,
    scan?_of_settled (settled_of_start starts) rfl, Margin.close_of_le closed]

/-- A dash before an item or a key. -/
theorem reaches_dash
    (inside : margin.indent ≤ column)
    {body : List Char}
    (starts : IsTokenStart body)
    (index line : Nat) :
    Reaches 1
      (margin.layout ⟨'-' :: ' ' :: body, index, line, column⟩ none true)
        (((margin.enter column .blockSequenceStart).push [.blockEntry]).layout
          ⟨body, index + 2, line, column + 2⟩ none true) := by
  have dash : IsTokenStart ('-' :: ' ' :: body) := rfl
  have opened :=
    roll_push margin none true [] .blockSequenceStart ⟨'-' :: ' ' :: body,
      index, line, column⟩ column
  have token :
    (margin.layout ⟨'-' :: ' ' :: body, index, line, column⟩ none true).token?
    '-' =
      some (((margin.enter column .blockSequenceStart).push
        [.blockEntry]).layout ⟨' ' :: body, index + 1, line,
        column + 1⟩ none true) := by
    have marker (mark : Char) :
        Cursor.atMarker ⟨'-' :: ' ' :: body, index, line, column⟩ mark =
            false := by
      by_cases same : mark = '-'
      · simp [Cursor.atMarker, Cursor.holds, Cursor.peek, same]
      · simp [Cursor.atMarker, Cursor.holds, Cursor.peek, Ne.symm same]
    have place :
      (margin.layout ⟨'-' :: ' ' :: body, index, line,
        column⟩ none true).cursor =
      ⟨'-' :: ' ' :: body, index, line, column⟩ := rfl
    have gap : Cursor.atGapOrEnd ⟨'-' :: ' ' :: body, index, line, column⟩ 1 =
      true := rfl
    have entry :
      blockEntry?
      (margin.layout ⟨'-' :: ' ' :: body, index, line, column⟩ none true) =
        ((margin.layout ⟨'-' :: ' ' :: body, index, line,
          column⟩ none true).roll column margin.newestFirst.length
          .blockSequenceStart).dropCandidate?.bind fun layout =>
            some { (layout.push .blockEntry).moveTo (layout.cursor.skip 1) with
              keyAllowed := true } := rfl
    rw [token?, place, marker, marker, gap]
    simp only [Char.reduceBEq, Bool.and_false, Bool.and_true,
      Bool.false_eq_true, if_false, if_true]
    rw [entry]
    exact congrArg (Option.bind · _) (congrArg dropCandidate? opened)
  have blank : ∀ character ∈ [' '], isIndent true character = true :=
    List.forall_mem_singleton.2 rfl
  exact (reaches_of_token (settled_of_start dash) rfl rfl
    (by rw [Margin.close_of_le inside]; exact token)).trans
      (reaches_blanks blank starts)

end Layout

/-! ## Keys -/

/-- Whether a character may stand in a key. -/
def isKeyChar (character : Char) : Bool :=
  isNameChar character || character == '.' || character == '/'

/-- A key is short, and starts with a letter or digit. -/
structure IsKey (key : List Char) : Prop where
  plain : key.all isKeyChar = true
  short : key.length ≤ 1024
  starts : key.head?.any (fun first => isNameChar first && first != '-') = true

instance (key : List Char) : Decidable (IsKey key) :=
  decidable_of_iff
    (key.all isKeyChar = true ∧ key.length ≤ 1024 ∧
      key.head?.any (fun first => isNameChar first && first != '-') = true)
    ⟨fun ⟨plain, short, starts⟩ => ⟨plain, short, starts⟩,
      fun ⟨plain, short, starts⟩ => ⟨plain, short, starts⟩⟩

theorem ne_of_isKeyChar
    {character other : Char}
    (plain : isKeyChar character = true)
    (strange : isKeyChar other = false) : character ≠ other := fun same => by
  rw [same, strange] at plain
  exact Bool.false_ne_true plain

theorem isGap_of_isKeyChar
    {character : Char}
    (plain : isKeyChar character = true) : isGap character = false := by
  have apart {other : Char} (strange : isKeyChar other = false) :
      (character == other) = false :=
    beq_false_of_ne (ne_of_isKeyChar plain strange)
  simp (disch := decide) [isGap, isSpace, isBreak, apart]

namespace PlainText

/-- A key is all of the plain text before its colon. -/
theorem spoken_key
    {key : List Char}
    (plain : key.all isKeyChar = true)
    {rest : List Char}
    (last : rest.head?.all isSpace = true)
    (afterBlank : Bool) :
    spoken afterBlank (key ++ ':' :: rest) = key ∧
      unspoken afterBlank (key ++ ':' :: rest) = ':' :: rest := by
  induction key generalizing afterBlank with
  | nil => simp [spoken, unspoken, stops, last]
  | cons first key ih =>
      rcases Bool.and_eq_true_iff.1 (List.all_cons ▸ plain) with ⟨here, later⟩
      have visible := isGap_of_isKeyChar here
      simp only [isGap, Bool.or_eq_false_iff] at visible
      have goesOn (others : List Char) : stops afterBlank first others =
          false := by
        simp [stops, ne_of_isKeyChar here (by decide : isKeyChar '#' = false),
          ne_of_isKeyChar here (by decide : isKeyChar ':' = false)]
      rcases ih later false with ⟨said, stopped⟩
      rw [List.cons_append, spoken, unspoken, goesOn]
      simp [said, stopped, visible.1]

/-- A key starts plain text. -/
theorem opens_key
    {first : Char}
    {key : List Char}
    (named : IsKey (first :: key))
    (rest : List Char) :
    opens (first :: key ++ rest) = true ∧ first ≠ '-' ∧ first ≠ '.' := by
  have starts : isNameChar first = true ∧ first ≠ '-' := by
    simpa using named.starts
  have here : isKeyChar first = true := by simp [isKeyChar, starts.1]
  have visible := isGap_of_isKeyChar here
  simp only [isGap, Bool.or_eq_false_iff] at visible
  have strange : indicators.all (fun mark => mark == '-' || !isNameChar mark) =
    true := by decide
  have absent : indicators.contains first = false := by
    refine Bool.eq_false_iff.2 fun member => ?_
    have unnamed :=
      List.all_eq_true.1 strange first (List.contains_iff_mem.1 member)
    rw [beq_false_of_ne starts.2, starts.1] at unnamed
    exact absurd unnamed Bool.false_ne_true
  refine ⟨?_, starts.2, fun same => ?_⟩
  · simp only [List.cons_append, opens, visible.1, absent]
    rfl
  · exact Bool.false_ne_true ((same ▸ starts.1 : isNameChar '.' = true) ▸ rfl)

end PlainText

namespace Layout

variable {margin : Margin} {index line column depth : Nat}
  {next rest : List Char}

theorem isLine_key
    {key : List Char}
    (plain : key.all isKeyChar = true)
    (unbroken : IsLine rest) : IsLine (key ++ ':' :: rest) := by
  intro character member
  rcases List.mem_append.1 member with inKey | later
  · have visible :=
      isGap_of_isKeyChar (List.all_eq_true.1 plain character inKey)
    simp only [isGap, Bool.or_eq_false_iff] at visible
    exact visible.2
  · rcases List.mem_cons.1 later with rfl | inRest
    · rfl
    · exact unbroken character inRest

theorem refresh?_candidateAt
    {place cursor : Cursor}
    (sameLine : place.line = cursor.line)
    (near : cursor.index ≤ place.index + 1024) :
    refresh? cursor (some (candidateAt margin place)) =
        some (some (candidateAt margin place)) := by
  have recent :
    (decide (place.line < cursor.line)
      || decide (place.index + 1024 < cursor.index)) =
      false := by simp [sameLine, near]
  exact if_neg (by rw [candidateAt, recent]; exact Bool.false_ne_true)

theorem refresh?_none (cursor : Cursor) : refresh? cursor none = some none :=
  rfl

theorem refresh?_earlier
    {found : Candidate}
    {cursor : Cursor}
    (earlier : found.line < cursor.line)
    (loose : found.required = false) :
    refresh? cursor (some found) = some none := by
  simp [refresh?, earlier, loose]

/-- A key and its colon. -/
theorem reaches_key
    {key : String}
    (named : IsKey key.toList)
    (unbroken : IsLine rest)
    (last : rest.head?.all isSpace = true)
    (starts : IsTokenStart next)
    (inside : margin.indent ≤ column)
    (depth index line : Nat) :
    Reaches 2
      (margin.layout ⟨key.toList ++ ':' :: rest ++ lineEnd depth next, index,
        line, column⟩ none true)
      (((margin.enter column .blockMappingStart).push [.key, .scalar key .plain,
        .value]).layout ⟨rest ++ lineEnd depth next,
          index + key.toList.length + 1, line, column + key.toList.length + 1⟩
          none false) := by
  have whole := isLine_key named.plain unbroken
  rcases PlainText.spoken_key named.plain last true with ⟨said, stopped⟩
  have short := named.short
  have same : String.ofList key.toList = key := String.ofList_toList
  generalize key.toList = characters at *
  cases characters with
  | nil => exact absurd named.starts Bool.false_ne_true
  | cons first others =>
      rcases PlainText.opens_key named (':' :: rest) with ⟨opens, noDash, noDot⟩
      have free : Cursor.atBorder
          ⟨first :: others ++ ':' :: rest ++ lineEnd depth next, index, line,
              column⟩ = false := by
        simp [Cursor.atBorder, Cursor.atMarker, Cursor.holds, Cursor.peek,
          noDash, noDot]
      have content := (isTokenStart_of_opens whole opens []).isContent
      rw [List.append_nil] at content
      have read :=
        PlainText.read?_line starts.isContent whole content
          (List.cons_ne_nil _ _)
        (fun ended => absurd (stopped.symm.trans ended) (List.cons_ne_nil _ _))
          inside free
      simp only [PlainText.LineScanned, List.nil_append, said, stopped] at read
      rcases read.2 (List.cons_ne_nil _ _) with ⟨passed, total, result⟩
      have counted : passed = (first :: others).length := by
        rw [List.length_append] at total
        omega
      subst counted
      have readKey := reaches_of_read whole opens inside free true result
      dsimp only [if_true] at readKey
      rw [same] at readKey
      refine readKey.trans (reaches_of_token (settled_of_start rfl)
        (refresh?_candidateAt rfl (by dsimp only; omega)) rfl ?_)
      have right : (margin.push [.scalar key .plain]).indent ≤
          ((column + (first :: others).length : Nat) : Int) :=
        Int.le_trans inside (Int.ofNat_le.2 (Nat.le_add_right _ _))
      rw [Margin.close_of_le right, token?_colon whole.of_append last]
      exact value?_of_candidate _

end Layout

theorem isTokenStart_key
    {key rest : List Char}
    (named : IsKey key)
    (unbroken : IsLine rest)
    (later : List Char) :
    IsTokenStart (key ++ ':' :: rest ++ later) := by
  cases key with
  | nil => exact absurd named.starts nofun
  | cons first others =>
      exact Layout.isTokenStart_of_opens
        (Layout.isLine_key named.plain unbroken)
        (PlainText.opens_key named _).1 later

end HookKeeper.Yaml
