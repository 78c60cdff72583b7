import HookKeeper.Proofs.PassedText

/-!
# Quotes and block marks on a line

Quotes that a line opens and leaves open are not closed by the lines after it,
if these hold one pair of double quotes and no single ones.  A block mark after
a key stands for the empty text, if the next line lies no further right.
-/

namespace HookKeeper.Yaml

variable {depth : Nat} {next line : List Char} {before after : Cursor}

/-! ## What stays on the line -/

/-- Characters of one line that come first are characters of the first line. -/
theorem append_of_isLine
    {front rest : List Char}
    (unbroken : IsLine front)
    (parts : line ++ lineEnd depth next = front ++ rest) :
    ∃ more, line = front ++ more ∧ rest = more ++ lineEnd depth next := by
  rcases List.append_eq_append_iff.1 parts with
    ⟨more, rfl, left⟩ | ⟨more, rfl, left⟩
  · cases more with
    | nil => exact ⟨[], by simp, left.symm⟩
    | cons first more =>
        have same : '\n' = first := (List.cons.inj left).1
        have visible := unbroken first (by simp)
        rw [← same] at visible
        exact absurd visible (by decide)
  · exact ⟨more, rfl, left⟩

/-- What is passed over on a line is a part of it. -/
theorem Property.Crosses.on_line
    (crosses : Crosses before after)
    (text : before.rest = line ++ lineEnd depth next) :
    ∃ front more,
      line = front ++ more ∧ front ≠ [] ∧
        after.rest = more ++ lineEnd depth next ∧
          after.column = before.column + front.length := by
  rcases crosses with ⟨front, passes, unbroken, given⟩
  rcases append_of_isLine unbroken (text.symm.trans passes.text) with
    ⟨more, whole, rest⟩
  exact ⟨front, more, whole, given, rest, passes.column unbroken⟩

/-! ## Quotes -/

/--
Quotes that a line leaves open are not closed for good by what follows it: there
are no single quotes, and of double quotes one pair.
-/
structure Seals (text : List Char) : Prop where
  single : '\'' ∉ text
  unescaped : (text.takeWhile (· != '"')).getLast? ≠ some '\\'
  pair : (text.dropWhile (· != '"')).take 2 = ['"', '"']
  last : '"' ∉ (text.dropWhile (· != '"')).drop 2

instance (text : List Char) : Decidable (Seals text) :=
  decidable_of_iff
    ('\'' ∉ text ∧ (text.takeWhile (· != '"')).getLast? ≠ some '\\' ∧
      (text.dropWhile (· != '"')).take 2 = ['"', '"'] ∧
        '"' ∉ (text.dropWhile (· != '"')).drop 2)
    ⟨fun ⟨single, unescaped, pair, last⟩ => ⟨single, unescaped, pair, last⟩,
      fun seals => ⟨seals.single, seals.unescaped, seals.pair, seals.last⟩⟩

/-- Double quotes that are left open end at the first quote of the pair. -/
theorem Seals.of_escapesQuotes
    {front rest : List Char}
    (seals : Seals (front ++ '"' :: rest))
    (escapes : EscapesQuotes front) :
    ∃ others, rest = '"' :: others ∧ '"' ∉ others := by
  have parts : (front ++ '"' :: rest).takeWhile (· != '"') ++
      (front ++ '"' :: rest).dropWhile (· != '"') = front ++ '"' :: rest :=
    List.takeWhile_append_dropWhile
  have unquoted : '"' ∉ (front ++ '"' :: rest).takeWhile (· != '"') :=
    fun member => absurd (List.all_eq_true.1 List.all_takeWhile _ member)
      (by decide)
  have unescaped := seals.unescaped
  have pair := seals.pair
  have last := seals.last
  generalize (front ++ '"' :: rest).takeWhile (· != '"') = first at *
  generalize (front ++ '"' :: rest).dropWhile (· != '"') = others at *
  obtain ⟨left, rfl⟩ : ∃ left, others = '"' :: '"' :: left :=
    ⟨others.drop 2, by rw [← List.take_append_drop 2 others, pair]; rfl⟩
  rcases List.append_eq_append_iff.1 parts with
    ⟨more, rfl, same⟩ | ⟨more, rfl, same⟩
  · cases more with
    | nil =>
        cases same
        exact ⟨left, rfl, last⟩
    | cons quote more =>
        have same : '"' = quote := (List.cons.inj same).1
        subst same
        exact absurd (escapes first more rfl) unescaped
  · cases more with
    | nil =>
        cases same
        exact ⟨left, rfl, last⟩
    | cons quote more =>
        have same : '"' = quote := (List.cons.inj same).1
        subst same
        exact absurd (by simp) unquoted

/-- A quoted scalar ends on its line, or its mark comes after the line. -/
theorem QuotedText.read?_line
    {single : Bool}
    {rest text : List Char}
    (starts : before.rest = mark single :: rest ++ lineEnd depth next)
    (unbroken : IsLine rest)
    (found : read? single before = some (text, after)) :
    (∃ front more,
      mark single :: rest = front ++ more ∧ text.length < front.length ∧
        after.rest = more ++ lineEnd depth next ∧
          after.column = before.column + front.length) ∨
      ∃ inner,
        lineEnd depth next = inner ++ mark single :: after.rest ∧
          (single = false → EscapesQuotes inner) := by
  rcases passes_read? starts found with ⟨inner, passes, short, quotes⟩
  have visible : isBreak (mark single) = false := by cases single <;> rfl
  have parts : rest ++ lineEnd depth next =
      inner ++ mark single :: after.rest := by
    have whole := starts.symm.trans passes.text
    rw [List.cons_append, List.cons_append, List.append_assoc] at whole
    exact (List.cons.inj whole).2
  rcases List.append_eq_append_iff.1 parts with
    ⟨more, rfl, left⟩ | ⟨more, rfl, left⟩
  · refine .inr ⟨more, left, fun double front others same => ?_⟩
    cases front with
    | nil =>
        rw [same] at left
        exact absurd (List.cons.inj left).1 (by decide)
    | cons first front =>
        have escaped := quotes double (rest ++ first :: front) others
          (by rw [same, List.append_assoc])
        rw [List.getLast?_append] at escaped
        exact escaped
  · cases more with
    | nil =>
        have same := (List.cons.inj left).1
        rw [same] at visible
        exact absurd visible (by decide)
    | cons first more =>
        rcases List.cons.inj left with ⟨same, left⟩
        have here := unbroken.of_append
        have line : IsLine (mark single :: (inner ++ [mark single])) := by
          refine List.forall_mem_cons.2 ⟨visible, fun character member => ?_⟩
          rcases List.mem_append.1 member with inside | last
          · exact unbroken character (List.mem_append_left _ inside)
          · rw [List.mem_singleton.1 last]
            exact visible
        refine .inl ⟨mark single :: (inner ++ [mark single]), more, ?_, ?_,
          left, passes.column line⟩
        · rw [← same]
          simp
        · rw [List.length_cons, List.length_append]
          exact Nat.lt_succ_of_le (Nat.le_succ_of_le short)

/-! ## Block marks -/

theorem IsTokenStart.holds_tab
    (starts : IsTokenStart next)
    {index number column : Nat} :
    Cursor.holds ⟨next, index, number, column⟩ 0 '\t' = false := by
  cases next with
  | nil => rfl
  | cons first rest =>
      refine beq_false_of_ne fun same => ?_
      have tab : first = '\t' := Option.some.inj same
      rw [tab] at starts
      exact absurd starts (by simp [IsTokenStart, isGap, isSpace])

theorem IsTokenStart.atBreak
    (starts : IsTokenStart next)
    {index number column : Nat} :
    Cursor.atBreak ⟨next, index, number, column⟩ = false := by
  cases next with
  | nil => rfl
  | cons first rest =>
      have visible := starts.isContent.not_isGap
      rw [isGap, Bool.or_eq_false_iff] at visible
      exact visible.2

namespace BlockText

theorem not_isBreak_of_chomping?
    {character : Char}
    {chomping : Chomping}
    (found : chomping? character = some chomping) :
    isBreak character = false :=
  have marked : (chomping? character).isSome = true := by rw [found]; rfl
  not_isBreak_of (fun character => (chomping? character).isSome)
    (by decide) marked

theorem not_isBreak_of_digitValue?
    {character : Char}
    {value : Nat}
    (found : Text.Digits.digitValue? character = some value) :
    isBreak character = false :=
  have digit : (Text.Digits.digitValue? character).isSome = true := by
    rw [found]
    rfl
  not_isBreak_of
    (fun character => (Text.Digits.digitValue? character).isSome)
    (by decide) digit

/-- The header of a block stands on its line, and gives no empty indentation. -/
theorem header?_eq_some
    {characters : List Char}
    {chomping : Chomping}
    {width : Option Nat}
    {length : Nat}
    (found : header? characters = some (chomping, width, length)) :
    (∃ front more,
      characters = front ++ more ∧ front.length = length ∧ IsLine front) ∧
      ∀ given ∈ width, 0 < given := by
  have one {first : Char} {rest : List Char}
      (visible : isBreak first = false) :
      ∃ front more, first :: rest = front ++ more ∧ front.length = 1 ∧
        IsLine front :=
    ⟨[first], rest, rfl, rfl, List.forall_mem_singleton.2 visible⟩
  have two {first second : Char} {rest : List Char}
      (visible : isBreak first = false)
      (seen : isBreak second = false) :
      ∃ front more, first :: second :: rest = front ++ more ∧
        front.length = 2 ∧ IsLine front :=
    ⟨[first, second], rest, rfl, rfl,
      List.forall_mem_cons.2 ⟨visible, List.forall_mem_singleton.2 seen⟩⟩
  have above {value : Nat} (positive : value = 0 → False) :
      ∀ given ∈ some value, 0 < given := fun given same =>
    Option.some.inj same ▸ Nat.pos_of_ne_zero positive
  cases characters with
  | nil =>
      cases found
      exact ⟨⟨[], [], rfl, rfl, nofun⟩, nofun⟩
  | cons first rest =>
      rw [header?] at found
      split at found
      next marked =>
        have visible := not_isBreak_of_chomping? marked
        split at found
        · exact absurd found nofun
        next given positive digit =>
          cases found
          rcases Option.bind_eq_some_iff.1 digit with ⟨second, starts, read⟩
          rcases List.head?_eq_some_iff.1 starts with ⟨others, rfl⟩
          exact ⟨two visible (not_isBreak_of_digitValue? read), above positive⟩
        · cases found
          exact ⟨one visible, nofun⟩
      · split at found
        · exact absurd found nofun
        next given positive digit =>
          have visible := not_isBreak_of_digitValue? digit
          split at found
          next marked =>
            cases found
            rcases Option.bind_eq_some_iff.1 marked with ⟨second, starts, read⟩
            rcases List.head?_eq_some_iff.1 starts with ⟨others, rfl⟩
            exact ⟨two visible (not_isBreak_of_chomping? read), above positive⟩
          · cases found
            exact ⟨one visible, above positive⟩
        · cases found
          exact ⟨⟨[], _, rfl, rfl, nofun⟩, nofun⟩

/-- The next line comes after no empty ones. -/
theorem margin?_lineEnd
    (starts : IsTokenStart next)
    {known : Option Nat}
    (deeper : ∀ indentation ∈ known, depth < indentation)
    (fuel index number : Nat) :
    margin? known (fuel + 1) [] 0
        ⟨List.replicate depth ' ' ++ next, index, number, 0⟩ =
      some ⟨[], depth, ⟨next, index + depth, number, depth⟩⟩ := by
  have spaces : ((List.replicate depth ' ' ++ next).takeWhile
      (· == ' ')).length = depth := by
    rw [List.takeWhile_append_of_pos (by simp)]
    cases next with
    | nil => simp
    | cons first rest =>
        have other : (first == ' ') = false := beq_false_of_ne fun same => by
          rw [same] at starts
          exact absurd starts (by simp [IsTokenStart, isGap, isSpace])
        simp [other]
  have moved : Cursor.skip
      ⟨List.replicate depth ' ' ++ next, index, number, 0⟩ depth =
        ⟨next, index + depth, number, depth⟩ := by
    simp [Cursor.skip]
  cases known with
  | none =>
      simp only [margin?, spaces, moved, Nat.zero_max, starts.holds_tab,
        starts.atBreak, Bool.and_false, Bool.false_eq_true, if_false]
  | some indentation =>
      have taken : min depth (indentation - 0) = depth :=
        Nat.min_eq_left (Nat.le_of_lt (deeper indentation rfl))
      simp only [margin?, spaces, taken, moved, Nat.zero_max,
        starts.holds_tab, starts.atBreak, Bool.and_false, Bool.false_eq_true,
        if_false]

/-- What is passed over before the end of a line is a part of it. -/
theorem advances_skipToLineEnd (cursor : Cursor) :
    Property.Advances cursor cursor.skipToLineEnd := by
  have blanks : Property.Advances cursor (cursor.skipWhile isSpace) :=
    ⟨_, cursor.passes_skipWhile isSpace, fun character member =>
      not_isBreak_of isSpace (by decide)
        (List.all_eq_true.1 List.all_takeWhile character member)⟩
  rw [Cursor.skipToLineEnd]
  split
  · refine blanks.trans ⟨_, Cursor.passes_skipWhile _ _, ?_⟩
    intro character member
    exact not_isBreak_of (fun character => !isBreak character) (by decide)
      (List.all_eq_true.1 List.all_takeWhile character member)
  · exact blanks

theorem lines?_of_column
    {literal : Bool}
    {indentation index number column : Nat}
    (other : column ≠ indentation)
    (fuel : Nat)
    (gathered : Gathered) :
    lines? literal indentation (fuel + 1) gathered
        ⟨next, index, number, column⟩ =
      some (gathered, ⟨next, index, number, column⟩) := by
  rw [lines?, bne_iff_ne.2 other, Bool.true_or]
  rfl

/-- A block mark starts an empty text where the next line is not deeper. -/
theorem read?_line
    {literal : Bool}
    {indent : Int}
    {mark : Char}
    {rest text : List Char}
    (begins : before.rest = mark :: rest ++ lineEnd depth next)
    (unbroken : IsLine rest)
    (starts : IsTokenStart next)
    (shallow : (depth : Int) ≤ indent)
    (found : read? literal indent before = some (text, after)) :
    text = [] ∧ ∃ index number, after = ⟨next, index, number, depth⟩ := by
  rcases Option.bind_eq_some_iff.1 found with
    ⟨⟨chomping, width, length⟩, header, more⟩
  rcases header?_eq_some header with ⟨⟨front, others, parts, rfl, line⟩, wide⟩
  have text : (before.skip 1).rest =
      front ++ (others ++ (before.skip 1).rest.drop 2) := by
    rw [← List.append_assoc, ← parts, List.take_append_drop]
  have passed : (before.skip 1).rest = rest ++ lineEnd depth next := by
    rw [Cursor.skip, begins]
    rfl
  rcases (Property.advances_skip text line).trans (advances_skipToLineEnd _)
    with ⟨front, passes, within⟩
  rcases append_of_isLine within (passed.symm.trans passes.text) with
    ⟨left, rfl, remaining⟩
  dsimp only at more
  generalize ((before.skip 1).skip _).skipToLineEnd = ended at more remaining
  split at more
  · cases more
  next stops =>
    have nothing : left = [] := by
      cases left with
      | nil => rfl
      | cons first left =>
          have visible := unbroken.of_append first List.mem_cons_self
          simp [Cursor.atBreakOrEnd, Cursor.test, Cursor.peek, remaining,
            visible] at stops
    obtain ⟨characters, index, number, column⟩ := ended
    rw [nothing, List.nil_append] at remaining
    obtain rfl : characters = lineEnd depth next := remaining
    have broken : Cursor.skipBreak ⟨lineEnd depth next, index, number, column⟩ =
        ⟨List.replicate depth ' ' ++ next, index + 1, number + 1, 0⟩ := rfl
    have deeper : ∀ indentation ∈ width.map fun width =>
        (if 0 ≤ indent then indent.toNat else 0) + width,
        depth < indentation := by
      intro indentation member
      rcases Option.map_eq_some_iff.1 member with ⟨given, here, rfl⟩
      have positive := wide given here
      rw [if_pos (by omega)]
      omega
    have apart : depth ≠ (width.map fun width =>
        (if 0 ≤ indent then indent.toNat else 0) + width).getD
          (max (max depth (indent + 1).toNat) 1) := by
      cases width with
      | none =>
          show depth ≠ max (max depth (indent + 1).toNat) 1
          omega
      | some given => exact Nat.ne_of_lt (deeper _ rfl)
    rw [broken, margin?_lineEnd starts deeper] at more
    simp only [Option.bind_eq_bind, Option.bind_some,
      lines?_of_column apart] at more
    cases more
    refine ⟨?_, _, _, rfl⟩
    cases chomping <;> rfl

end BlockText

end HookKeeper.Yaml
