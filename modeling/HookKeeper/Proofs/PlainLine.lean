import HookKeeper.Yaml.FlowText

/-!
# Plain text on one line

What a line spells as a plain scalar is defined here character by character: it
ends before a number sign after a blank, and before a colon that a blank or the
end of the line follows, and it has no blanks at its end.  The scanner, which
takes words and the gaps between them, reads the same.
-/

namespace HookKeeper.Yaml

/-- The characters of a line, in which no line breaks are. -/
def IsLine (line : List Char) : Prop := ∀ character ∈ line,
    isBreak character = false

instance (line : List Char) : Decidable (IsLine line) :=
  List.decidableBAll (fun character => isBreak character = false) line

theorem IsLine.tail
    {character : Char}
    {rest : List Char}
    (line : IsLine (character :: rest)) : IsLine rest := fun other member =>
      line other (List.mem_cons_of_mem _ member)

theorem IsLine.of_append
    {front rest : List Char}
    (line : IsLine (front ++ rest)) : IsLine rest :=
  fun other member => line other (List.mem_append_right _ member)

namespace PlainText

/--
Whether plain text stops before a character, given what follows it on its line.
-/
def stops (afterBlank : Bool) (character : Char) (rest : List Char) : Bool :=
  (afterBlank && character == '#')
    || (character == ':' && rest.head?.all isSpace)

/-- The plain text that a line starts with. -/
def spoken (afterBlank : Bool) : List Char → List Char
  | [] => []
  | character :: rest =>
      if stops afterBlank character rest then []
      else
        let later := spoken (isSpace character) rest
        if isSpace character && later.isEmpty then [] else character :: later

theorem length_spoken_le
    (afterBlank : Bool)
    (line : List Char) :
    (spoken afterBlank line).length ≤ line.length := by
  induction line generalizing afterBlank with
  | nil => exact Nat.le_refl 0
  | cons character rest ih =>
      have later := ih (isSpace character)
      rw [spoken]
      split
      · exact Nat.zero_le _
      · dsimp only
        split
        · exact Nat.zero_le _
        · exact Nat.succ_le_succ later

/--
What stops the plain text that a line starts with; nothing where the line ends.
-/
def unspoken (afterBlank : Bool) : List Char → List Char
  | [] => []
  | character :: rest =>
      if stops afterBlank character rest then character :: rest
      else unspoken (isSpace character) rest

/-- The plain text that a line spells after blanks. -/
def heard (line : List Char) : List Char := spoken true (line.dropWhile isSpace)

/-- The characters that start something other than plain text. -/
def indicators : List Char :=
  ['-', '?', ':', ',', '[', ']', '\x7b', '\x7d', '#', '&', '*', '!',
  '|', '>', '\'', '"', '%', '@', '\x60']

/-- Whether a line starts with plain text. -/
def opens : List Char → Bool
  | [] => false
  | first :: rest =>
      (!isSpace first && !indicators.contains first) ||
        (['-', '?', ':'].contains first && !rest.head?.all isSpace)

/-- The characters of a line up to a blank or a colon that ends a word. -/
def lineWord : List Char → List Char
  | [] => []
  | character :: rest =>
      if isSpace character || stops false character rest then []
      else character :: lineWord rest

/-- What follows a word on its line. -/
def afterWord : List Char → List Char
  | [] => []
  | character :: rest =>
      if isSpace character || stops false character rest then character :: rest
      else afterWord rest

/--
Only a comment, or a colon that no text follows, stops plain text within a line.
-/
theorem unspoken_eq
    (afterBlank : Bool)
    (line : List Char) :
    unspoken afterBlank line = [] ∨
      ∃ mark rest, unspoken afterBlank line = mark :: rest ∧
        (∃ front, line = front ++ mark :: rest) ∧
          (mark = '#' ∨ mark = ':' ∧ rest.head?.all isSpace = true) := by
  induction line generalizing afterBlank with
  | nil => exact .inl rfl
  | cons character rest ih =>
      rw [unspoken]
      split
      next halts =>
        refine .inr ⟨character, rest, rfl, ⟨[], rfl⟩, ?_⟩
        rcases Bool.or_eq_true_iff.1 halts with comment | colon
        · exact .inl (beq_iff_eq.1 (Bool.and_eq_true_iff.1 comment).2)
        · rcases Bool.and_eq_true_iff.1 colon with ⟨same, last⟩
          exact .inr ⟨beq_iff_eq.1 same, last⟩
      · rcases ih (isSpace character) with
          ended | ⟨mark, others, same, ⟨front, whole⟩, marks⟩
        · exact .inl ended
        · exact .inr ⟨mark, others, same,
            ⟨character :: front, congrArg _ whole⟩, marks⟩

theorem lineWord_append_afterWord (line : List Char) :
    lineWord line ++ afterWord line = line := by
  induction line with
  | nil => rfl
  | cons character rest ih =>
      rw [lineWord, afterWord]
      split
      · rfl
      · exact congrArg (character :: ·) ih

theorem drop_lineWord (line later : List Char) :
    (line ++ later).drop (lineWord line).length = afterWord line ++ later := by
  have parts : line ++ later = lineWord line ++ (afterWord line ++ later) := by
    rw [← List.append_assoc, lineWord_append_afterWord]
  rw [parts, List.drop_left]

/--
Outside of brackets a word ends at white space and at a colon that white space
follows.
-/
theorem word?_cons
    (character : Char)
    (rest : List Char) :
    word? false (character :: rest) =
      if isGap character || (character == ':' && rest.head?.all isGap) then
        some []
      else (word? false rest).map (character :: ·) := by
  rw [word?.eq_def]
  by_cases gap : isGap character
  · simp [gap]
  · by_cases colon : character = ':'
    · cases rest with
      | nil => simp [colon]
      | cons next others => by_cases blank : isGap next <;> simp [colon, blank]
    · simp [gap, colon]

theorem word?_line
    {line : List Char}
    (unbroken : IsLine line)
    (next : List Char) :
    word? false (line ++ '\n' :: next) = some (lineWord line) := by
  induction line with
  | nil => rfl
  | cons character rest ih =>
      have visible : isGap character = isSpace character := by
        simp [isGap, unbroken character List.mem_cons_self]
      have following : (rest ++ '\n' :: next).head?.all isGap =
          rest.head?.all isSpace := by
        cases rest with
        | nil => rfl
        | cons other others => simp [isGap, unbroken other (by simp)]
      rw [List.cons_append, lineWord, word?_cons, visible, following,
        ih unbroken.tail, stops, Bool.false_and, Bool.false_or]
      split <;> rfl

/-- A word is taken over as it stands. -/
theorem spoken_false (line : List Char) :
    spoken false line = lineWord line ++ spoken false (afterWord line) := by
  induction line with
  | nil => rfl
  | cons character rest ih =>
      rw [lineWord, afterWord]
      split
      · rfl
      next ends =>
        simp only [Bool.or_eq_true, not_or, Bool.not_eq_true] at ends
        rw [spoken, if_neg (by simp [ends.2]), ends.1]
        exact congrArg (character :: ·) ih

theorem unspoken_false (line : List Char) :
    unspoken false line = unspoken false (afterWord line) := by
  induction line with
  | nil => rfl
  | cons character rest ih =>
      rw [afterWord]
      split
      · rfl
      next ends =>
        simp only [Bool.or_eq_true, not_or, Bool.not_eq_true] at ends
        rw [unspoken, if_neg (by simp [ends.2]), ends.1, ih]

theorem stops_of_isSpace
    {character : Char}
    (blank : isSpace character = true)
    (afterBlank : Bool)
    (rest : List Char) : stops afterBlank character rest = false := by
  rcases Bool.or_eq_true_iff.1 blank with same | same
  all_goals
    rw [beq_iff_eq] at same
    subst same
    simp [stops]

theorem spoken_of_isSpace
    {character : Char}
    (blank : isSpace character = true)
    (afterBlank : Bool)
    (rest : List Char) :
    spoken afterBlank (character :: rest) =
      if spoken true rest = [] then [] else character :: spoken true rest := by
  rw [spoken, if_neg (by simp [stops_of_isSpace blank]), blank]
  simp

theorem unspoken_of_isSpace
    {character : Char}
    (blank : isSpace character = true)
    (afterBlank : Bool)
    (rest : List Char) :
    unspoken afterBlank (character :: rest) = unspoken true rest := by
  rw [unspoken, if_neg (by simp [stops_of_isSpace blank]), blank]

/-- Blanks count only when text follows them. -/
theorem spoken_blanks
    {blanks : List Char}
    (blank : ∀ character ∈ blanks, isSpace character = true)
    (rest : List Char) :
    spoken true (blanks ++ rest) =
      if spoken true rest = [] then [] else blanks ++ spoken true rest := by
  induction blanks with
  | nil =>
      rw [List.nil_append, List.nil_append]
      split
      next empty => exact empty
      · rfl
  | cons character blanks ih =>
      rcases List.forall_mem_cons.1 blank with ⟨here, later⟩
      rw [List.cons_append, spoken_of_isSpace here, ih later]
      by_cases empty : spoken true rest = [] <;> simp [empty]

theorem spoken_of_blank
    {blanks : List Char}
    (blank : ∀ character ∈ blanks, isSpace character = true)
    (afterBlank : Bool) : spoken afterBlank blanks = [] := by
  cases blanks with
  | nil => rfl
  | cons first rest =>
      rcases List.forall_mem_cons.1 blank with ⟨here, later⟩
      have silent := spoken_blanks later []
      rw [List.append_nil] at silent
      rw [spoken_of_isSpace here, silent]
      rfl

theorem unspoken_blanks
    {blanks : List Char}
    (blank : ∀ character ∈ blanks, isSpace character = true)
    (rest : List Char) :
    unspoken true (blanks ++ rest) = unspoken true rest := by
  induction blanks with
  | nil => rfl
  | cons character blanks ih =>
      rcases List.forall_mem_cons.1 blank with ⟨here, later⟩
      rw [List.cons_append, unspoken_of_isSpace here, ih later]

theorem unspoken_of_blank
    {blanks : List Char}
    (blank : ∀ character ∈ blanks, isSpace character = true)
    (afterBlank : Bool) : unspoken afterBlank blanks = [] := by
  cases blanks with
  | nil => rfl
  | cons first rest =>
      rcases List.forall_mem_cons.1 blank with ⟨here, later⟩
      have silent := unspoken_blanks later []
      rw [List.append_nil] at silent
      rw [unspoken_of_isSpace here, silent]
      rfl

section

variable {blanks : List Char} (blank : ∀ character ∈ blanks,
  isSpace character = true) (given : blanks ≠ []) (rest : List Char)

include blank given

theorem spoken_false_blanks :
    spoken false (blanks ++ rest) = spoken true (blanks ++ rest) := by
  cases blanks with
  | nil => exact absurd rfl given
  | cons first others =>
      have here := blank first List.mem_cons_self
      rw [List.cons_append, spoken_of_isSpace here, spoken_of_isSpace here]

theorem unspoken_false_blanks :
    unspoken false (blanks ++ rest) = unspoken true rest := by
  cases blanks with
  | nil => exact absurd rfl given
  | cons first others =>
      rcases List.forall_mem_cons.1 blank with ⟨here, later⟩
      rw [List.cons_append, unspoken_of_isSpace here, unspoken_blanks later]

end

end PlainText

/-! ## Gaps before further text and before the next line -/

/-- A text is used up or goes on with something visible. -/
def IsContent (text : List Char) : Prop :=
  text.head?.all (fun character => !isGap character) = true

theorem IsContent.not_isGap
    {first : Char}
    {rest : List Char}
    (content : IsContent (first :: rest)) : isGap first = false := by
  simpa [IsContent] using content

theorem IsContent.append
    {first : Char}
    {rest : List Char}
    (content : IsContent (first :: rest))
    (later : List Char) : IsContent (first :: rest ++ later) := content

/-- No border of a document is anywhere but at the start of a line. -/
theorem Cursor.atBorder_of_column
    (rest : List Char)
    (index line : Nat)
    {column : Nat}
    (inside : 0 < column) :
    Cursor.atBorder ⟨rest, index, line, column⟩ = false := by
  have other : (column == 0) = false := beq_false_of_ne (Nat.ne_of_gt inside)
  simp [atBorder, atMarker, other]

/-- The end of a line and the indentation of the next one. -/
def lineEnd (depth : Nat) (next : List Char) : List Char :=
  '\n' :: (List.replicate depth ' ' ++ next)

namespace Gap

variable {indentation : Int} {rest : List Char}

theorem take?_content
    (content : IsContent rest)
    (fuel : Nat)
    (gap : Gap)
    (index line column : Nat) :
    take? indentation (fuel + 1) gap ⟨rest, index, line, column⟩ =
      some (gap, ⟨rest, index, line, column⟩) := by
  cases rest with
  | nil => rfl
  | cons first others =>
      have visible := content.not_isGap
      simp only [isGap, Bool.or_eq_false_iff] at visible
      simp [take?, visible.1, visible.2]

/-- Blanks before further text on a line. -/
theorem take?_blanks
    {blanks : List Char}
    (blank : ∀ character ∈ blanks, isSpace character = true)
    (rest : List Char)
    (fuel : Nat)
    (spaces : List Char)
    (index line column : Nat) :
    take? indentation (blanks.length + fuel) ⟨spaces, false, [], []⟩
        ⟨blanks ++ rest, index, line, column⟩ =
      take? indentation fuel ⟨spaces ++ blanks, false, [], []⟩
        ⟨rest, index + blanks.length, line, column + blanks.length⟩ := by
  induction blanks generalizing spaces index column with
  | nil => simp
  | cons first blanks ih =>
      rcases List.forall_mem_cons.1 blank with ⟨here, later⟩
      rw [List.length_cons, Nat.add_right_comm, List.cons_append, take?]
      simp only [here, if_true, Bool.false_and, Bool.false_eq_true, if_false,
        addSpace, Cursor.skip, List.drop_succ_cons, List.drop_zero]
      rw [ih later]
      simp [Nat.add_assoc, Nat.add_comm 1]

/-- The spaces that a line starts with leave no trace in the gap. -/
theorem take?_indentation
    (depth : Nat)
    (rest : List Char)
    (fuel : Nat)
    (first more : List Char)
    (index line column : Nat) :
    take? indentation (depth + fuel) ⟨[], true, first, more⟩
        ⟨List.replicate depth ' ' ++ rest, index, line, column⟩ =
      take? indentation fuel ⟨[], true, first, more⟩
        ⟨rest, index + depth, line, column + depth⟩ := by
  induction depth generalizing index column with
  | zero => simp
  | succ depth ih =>
      rw [List.replicate_succ, List.cons_append, Nat.add_right_comm, take?]
      simp only [isSpace, beq_self_eq_true, Bool.true_or, if_true,
        Bool.true_and, addSpace, Cursor.skip, List.drop_succ_cons,
        List.drop_zero]
      rw [if_neg (by simp), ih]
      simp [Nat.add_assoc, Nat.add_comm 1]

/-- The rest of a line without text, and the indentation of the next one. -/
theorem take?_lineEnd
    {blanks : List Char}
    (blank : ∀ character ∈ blanks, isSpace character = true)
    (content : IsContent rest)
    (depth : Nat)
    {fuel : Nat}
    (enough : blanks.length + 1 + depth < fuel)
    (index line column : Nat) :
    take? indentation fuel Gap.empty
        ⟨blanks ++ lineEnd depth rest, index, line, column⟩ =
      some (⟨[], true, ['\n'], []⟩,
        ⟨rest, index + blanks.length + 1 + depth, line + 1, depth⟩) := by
  obtain ⟨fuel, rfl⟩ : ∃ more,
      fuel = blanks.length + (depth + (more + 1) + 1) :=
    ⟨fuel - (blanks.length + 1 + depth) - 1, by omega⟩
  have ended (gap : Gap) (index column : Nat) :
      take? indentation (depth + (fuel + 1) + 1) gap
          ⟨lineEnd depth rest, index, line, column⟩ =
        take? indentation (depth + (fuel + 1)) (gap.addBreak ['\n'])
          ⟨List.replicate depth ' ' ++ rest, index + 1, line + 1, 0⟩ := rfl
  rw [Gap.empty, take?_blanks blank, ended, addBreak, if_neg Bool.false_ne_true,
    take?_indentation, take?_content content, Nat.zero_add]

end Gap

namespace PlainText

theorem afterWord_cases (line : List Char) :
    afterWord line = [] ∨
      (∃ character rest, afterWord line = character :: rest ∧
        isSpace character = true) ∨
      ∃ character rest, afterWord line = character :: rest ∧
        isSpace character = false ∧
        stops false character rest = true := by
  induction line with
  | nil => exact .inl rfl
  | cons character rest ih =>
      rw [afterWord]
      split
      next ends =>
        cases blank : isSpace character with
        | true => exact .inr (.inl ⟨character, rest, rfl, blank⟩)
        | false =>
            exact .inr (.inr ⟨character, rest, rfl, blank,
              by simpa [blank] using ends⟩)
      · exact ih

/--
The characters before a word do not matter but for a number sign at its start.
-/
theorem stops_true
    {character : Char}
    (other : character ≠ '#')
    (rest : List Char) :
    stops true character rest = stops false character rest := by
  simp [stops, other]

/--
After a word come blanks, and then a further word or what stops the text, if
anything.
-/
theorem afterWord_split (line : List Char) :
    (∃ gap, (∀ character ∈ gap, isSpace character = true) ∧
      afterWord line = gap) ∨
      ∃ gap other others, (∀ character ∈ gap, isSpace character = true) ∧
        isSpace other = false ∧ afterWord line = gap ++ other :: others ∧
          (gap = [] → stops false other others = true) := by
  have parts : (afterWord line).takeWhile isSpace ++
    (afterWord line).dropWhile isSpace =
      afterWord line := List.takeWhile_append_dropWhile
  have blank : ∀ character ∈ (afterWord line).takeWhile isSpace,
      isSpace character = true :=
    List.all_eq_true.1 List.all_takeWhile
  cases others : (afterWord line).dropWhile isSpace with
  | nil =>
      exact .inl ⟨_, blank, parts.symm.trans (by rw [others, List.append_nil])⟩
  | cons other rest =>
      have seen : isSpace other = false := by
        have head := List.head?_dropWhile_not isSpace (afterWord line)
        simpa [others] using head
      refine .inr ⟨_, other, rest, blank, seen,
        parts.symm.trans (by rw [others]), fun empty => ?_⟩
      rw [empty, others, List.nil_append] at parts
      rcases afterWord_cases line with
        none | ⟨_, _, same, spaced⟩ | ⟨_, _, same, -, halts⟩
      · simp [none] at parts
      · rw [← parts, List.cons.injEq] at same
        rw [same.1, spaced] at seen
        exact absurd seen nofun
      · rw [← parts, List.cons.injEq] at same
        rw [same.1, same.2]
        exact halts

section

variable {first : Char} {rest : List Char}

/-- A line whose text does not stop at once is a word and what follows it. -/
theorem line_of_not_stops
    (goesOn : stops true first rest = false)
    (visible : isSpace first = false) :
    lineWord (first :: rest) ≠ [] ∧
      spoken true (first :: rest) =
        lineWord (first :: rest) ++ spoken false (afterWord (first :: rest)) ∧
      unspoken true (first :: rest) =
          unspoken false (afterWord (first :: rest)) := by
  have differs : first ≠ '#' := fun same => by simp [same, stops] at goesOn
  refine ⟨?_, ?_, ?_⟩
  · rw [stops_true differs] at goesOn
    simp [lineWord, visible, goesOn]
  · rw [← spoken_false]
    simp only [spoken, stops_true differs]
  · rw [← unspoken_false]
    simp only [unspoken, stops_true differs]

theorem spoken_blanks_of_not_stops
    {blanks : List Char}
    (blank : ∀ character ∈ blanks, isSpace character = true)
    (goesOn : stops true first rest = false)
    (visible : isSpace first = false) :
    spoken true (blanks ++ first :: rest) =
      blanks ++ lineWord (first :: rest) ++ spoken false
          (afterWord (first :: rest)) := by
  rcases line_of_not_stops goesOn visible with ⟨given, said, -⟩
  rw [spoken_blanks blank, said, if_neg, List.append_assoc]
  exact fun empty => given (List.append_eq_nil_iff.1 empty).1

end

/--
Plain text starts with a usual character, or with a dash or the like before its
text.
-/
theorem opens_cases
    {first : Char}
    {rest : List Char}
    (starts : opens (first :: rest) = true) :
    (isSpace first = false ∧ ∀ mark ∈ indicators, (first == mark) = false) ∨
      ((first = '-' ∨ first = '?' ∨ first = ':') ∧
          rest.head?.all isSpace = false) := by
  rcases Bool.or_eq_true_iff.1 starts with usual | dashed
  · simp only [Bool.and_eq_true, Bool.not_eq_true'] at usual
    refine .inl ⟨usual.1, fun mark member => beq_false_of_ne fun same => ?_⟩
    rw [same, List.contains_iff_mem.2 member] at usual
    exact absurd usual.2 nofun
  · right
    simpa using dashed

/-- A line that starts with plain text spells some. -/
theorem spoken_of_opens
    {line : List Char}
    (starts : opens line = true) : spoken true line ≠ [] := by
  cases line with
  | nil => exact absurd starts nofun
  | cons first rest =>
      have goesOn : stops true first rest = false ∧ isSpace first = false := by
        rcases opens_cases starts with ⟨seen, usual⟩ | ⟨dash, follows⟩
        · refine ⟨?_, seen⟩
          rw [stops, usual '#' (by decide), usual ':' (by decide)]
          rfl
        · rcases dash with rfl | rfl | rfl <;> simp [stops, follows, isSpace]
      simp [spoken, goesOn.1, goesOn.2]

/-! ## Scanning the words of a line -/

theorem test_lineEnd
    {gap : List Char}
    (blank : ∀ character ∈ gap, isSpace character = true)
    {depth index number column : Nat}
    {next : List Char} :
    Cursor.test ⟨gap ++ lineEnd depth next, index, number,
        column⟩ 0 false isGap = true := by
  cases gap with
  | nil => rfl
  | cons first rest =>
      have here := blank first List.mem_cons_self
      simp [Cursor.test, Cursor.peek, isGap, here]

section

variable {indentation : Int} {depth : Nat} {next : List Char} {first : Char}
  {rest : List Char} {blanks gap : List Char} {index number column : Nat}

/-- A scalar ends at a comment and at a colon that no further text follows. -/
theorem scan?_of_stops
    (unbroken : IsLine (first :: rest))
    (halts : stops true first rest = true)
    (free : Cursor.atBorder ⟨first :: rest ++ lineEnd depth next, index, number,
      column⟩ = false)
    (fuel : Nat)
    (done : List Char) :
    scan? false indentation (fuel + 1) done ⟨blanks, false, [], []⟩
        ⟨first :: rest ++ lineEnd depth next, index, number, column⟩ =
      some ⟨done, false, ⟨first :: rest ++ lineEnd depth next, index, number,
          column⟩⟩ := by
  rw [scan?, free, Bool.false_or]
  split
  · rfl
  next other =>
    have differs : first ≠ '#' := fun same =>
      other (by simp [same, Cursor.holds, Cursor.peek])
    rw [stops_true differs] at halts
    simp only [lineEnd, word?_line unbroken, lineWord, halts, Bool.or_true,
      if_true]
    rfl

variable (unbroken : IsLine (first :: rest))
  (goesOn : stops true first rest = false) (visible : isSpace first = false)
  (free : Cursor.atBorder ⟨first :: rest ++ lineEnd depth next, index, number,
    column⟩ = false)

include unbroken goesOn visible free

/-- A scalar takes a word, and then the gap after it if there is one. -/
theorem scan?_word
    (fuel : Nat)
    (done : List Char)
    {after : Cursor}
    (reached : after = ⟨afterWord (first :: rest) ++ lineEnd depth next,
        index + (lineWord (first :: rest)).length, number,
        column + (lineWord (first :: rest)).length⟩) :
    scan? false indentation (fuel + 1) done ⟨blanks, false, [], []⟩
        ⟨first :: rest ++ lineEnd depth next, index, number, column⟩ =
      if after.test 0 false isGap then
        (Gap.take? indentation (after.rest.length + 1) Gap.empty after).bind
            fun found =>
          if (found.2.column : Int) < indentation then
            some ⟨done ++ blanks ++ lineWord (first :: rest), found.1.broken,
              found.2⟩
          else
            scan? false indentation fuel
              (done ++ blanks ++ lineWord (first :: rest)) found.1 found.2
      else some ⟨done ++ blanks ++ lineWord (first :: rest), false, after⟩ := by
  have differs : first ≠ '#' := fun same => by simp [same, stops] at goesOn
  have unmarked : Cursor.holds ⟨first :: rest ++ lineEnd depth next, index,
    number, column⟩ 0 '#' =
      false := by simp [Cursor.holds, Cursor.peek, differs]
  have given : (lineWord (first :: rest)).isEmpty = false := by
    rw [stops_true differs] at goesOn
    simp [lineWord, visible, goesOn]
  have moved : Cursor.skip ⟨first :: rest ++ lineEnd depth next, index, number,
      column⟩ (lineWord (first :: rest)).length = after := by
    rw [Cursor.skip, drop_lineWord, reached]
  rw [scan?, free, unmarked]
  simp only [lineEnd, word?_line unbroken] at moved ⊢
  simp only [Option.bind_eq_bind, Option.bind_some, given, moved, Bool.false_or,
    Bool.false_eq_true, if_false, Bool.not_false, Bool.true_and,
      decide_eq_true_eq]
  rfl

/--
The last word of a line ends the scalar where the next line is indented too
little.
-/
theorem scan?_lastWord
    (nextContent : IsContent next)
    (shallow : (depth : Int) < indentation)
    (blank : ∀ character ∈ gap, isSpace character = true)
    (last : afterWord (first :: rest) = gap)
    (fuel : Nat)
    (done : List Char) :
    scan? false indentation (fuel + 1) done ⟨blanks, false, [], []⟩
        ⟨first :: rest ++ lineEnd depth next, index, number, column⟩ =
      some ⟨done ++ blanks ++ lineWord (first :: rest), true,
        ⟨next, index + (first :: rest).length + 1 + depth, number + 1,
            depth⟩⟩ := by
  have total := congrArg List.length (lineWord_append_afterWord (first :: rest))
  rw [List.length_append, last] at total
  rw [scan?_word unbroken goesOn visible free fuel done rfl, last,
    if_pos (test_lineEnd blank),
    Gap.take?_lineEnd blank nextContent depth (by simp [lineEnd]; omega),
    Option.bind_some, if_pos shallow, ← total]
  simp only [Nat.add_assoc]

/-- A word ends the scalar before a colon that no further text follows. -/
theorem scan?_stoppedWord
    {other : Char}
    {others : List Char}
    (seen : isSpace other = false)
    (last : afterWord (first :: rest) = other :: others)
    (fuel : Nat)
    (done : List Char) :
    scan? false indentation (fuel + 1) done ⟨blanks, false, [], []⟩
        ⟨first :: rest ++ lineEnd depth next, index, number, column⟩ =
      some ⟨done ++ blanks ++ lineWord (first :: rest), false,
        ⟨other :: others ++ lineEnd depth next,
          index + (lineWord (first :: rest)).length, number,
          column + (lineWord (first :: rest)).length⟩⟩ := by
  have whole := unbroken
  rw [← lineWord_append_afterWord (first :: rest), last] at whole
  rw [scan?_word unbroken goesOn visible free fuel done rfl, last, if_neg]
  simp [Cursor.test, Cursor.peek, isGap, seen,
    whole.of_append other List.mem_cons_self]

/-- After a word and blanks the scalar goes on. -/
theorem scan?_nextWord
    (inside : indentation ≤ column + 1)
    (blank : ∀ character ∈ gap, isSpace character = true)
    (given : gap ≠ [])
    {others : List Char}
    (content : IsContent (others ++ lineEnd depth next))
    (more : afterWord (first :: rest) = gap ++ others)
    (fuel : Nat)
    (done : List Char) :
    scan? false indentation (fuel + 1) done ⟨blanks, false, [], []⟩
        ⟨first :: rest ++ lineEnd depth next, index, number, column⟩ =
      scan? false indentation fuel (done ++ blanks ++ lineWord (first :: rest))
        ⟨gap, false, [], []⟩
        ⟨others ++ lineEnd depth next,
          index + (lineWord (first :: rest)).length + gap.length, number,
          column + (lineWord (first :: rest)).length + gap.length⟩ := by
  have least := List.length_pos_iff.2 given
  have passed : Gap.take? indentation
      ((gap ++ (others ++ lineEnd depth next)).length + 1) Gap.empty
        ⟨gap ++ (others ++ lineEnd depth next),
          index + (lineWord (first :: rest)).length, number,
          column + (lineWord (first :: rest)).length⟩ =
      some (⟨gap, false, [], []⟩,
        ⟨others ++ lineEnd depth next,
          index + (lineWord (first :: rest)).length + gap.length, number,
          column + (lineWord (first :: rest)).length + gap.length⟩) := by
    rw [List.length_append, Nat.add_assoc, Gap.empty, Gap.take?_blanks blank,
      Gap.take?_content content]
    rfl
  have tested : Cursor.test ⟨gap ++ (others ++ lineEnd depth next),
      index + (lineWord (first :: rest)).length, number,
      column + (lineWord (first :: rest)).length⟩ 0 false isGap = true := by
    cases gap with
    | nil => exact absurd rfl given
    | cons spaced _ => simp [Cursor.test, Cursor.peek, isGap, blank spaced]
  have further :
    ¬ ((column + (lineWord (first :: rest)).length + gap.length : Nat) : Int) <
      indentation := by omega
  rw [scan?_word unbroken goesOn visible free fuel done rfl, more,
    List.append_assoc, if_pos tested, passed, Option.bind_some, if_neg further]

end

/--
What scanning a line as plain text gives: all of its text, and the place where
it stops.
-/
def LineScanned
    (depth : Nat)
    (next done blanks line : List Char)
    (index number column : Nat)
    (result : Option Scanned) : Prop :=
  (unspoken true line = [] →
    result = some ⟨done ++ spoken true (blanks ++ line), true,
      ⟨next, index + line.length + 1 + depth, number + 1, depth⟩⟩) ∧
  (unspoken true line ≠ [] →
    ∃ passed, passed + (unspoken true line).length = line.length ∧
      result = some ⟨done ++ spoken true (blanks ++ line), false,
        ⟨unspoken true line ++ lineEnd depth next, index + passed, number,
          column + passed⟩⟩)

/-- After a word and blanks a line is scanned as what follows them. -/
theorem LineScanned.of_word
    {depth index number column : Nat}
    {next done blanks word gap others line : List Char}
    {result : Option Scanned}
    (scanned : LineScanned depth next (done ++ blanks ++ word) gap others
      (index + word.length + gap.length) number
      (column + word.length + gap.length) result)
    (said : spoken true (blanks ++ line) = blanks ++ word ++ spoken true
      (gap ++ others))
    (same : unspoken true others = unspoken true line)
    (total : word.length + (gap.length + others.length) = line.length) :
    LineScanned depth next done blanks line index number column result := by
  rw [LineScanned, ← same, said]
  refine ⟨fun ended => ?_, fun stopped => ?_⟩
  · have place : index + word.length + gap.length + others.length =
        index + line.length := by
      rw [← total, Nat.add_assoc, Nat.add_assoc]
    rw [scanned.1 ended, place]
    simp only [List.append_assoc]
  · rcases scanned.2 stopped with ⟨passed, sum, found⟩
    refine ⟨word.length + gap.length + passed, by omega, ?_⟩
    rw [found]
    simp only [List.append_assoc, Nat.add_assoc]

theorem scan?_line
    {indentation : Int}
    {depth : Nat}
    {next : List Char}
    (nextContent : IsContent next)
    {fuel : Nat}
    {line : List Char}
    (unbroken : IsLine line)
    (content : IsContent line)
    (given : line ≠ [])
    (shallow : unspoken true line = [] → (depth : Int) < indentation)
    (enough : line.length < fuel)
    {blanks : List Char}
    (blank : ∀ character ∈ blanks, isSpace character = true)
    (done : List Char)
    {index number column : Nat}
    (inside : indentation ≤ column + 1)
    (free : Cursor.atBorder ⟨line ++ lineEnd depth next, index, number,
        column⟩ = false) :
    LineScanned depth next done blanks line index number column
      (scan? false indentation fuel done ⟨blanks, false, [], []⟩
        ⟨line ++ lineEnd depth next, index, number, column⟩) := by
  induction fuel generalizing line blanks done index column with
  | zero => exact absurd enough (Nat.not_lt_zero _)
  | succ fuel ih =>
      cases line with
      | nil => exact absurd rfl given
      | cons first rest =>
          have visible : isSpace first = false := by
            have seen := content.not_isGap
            simp only [isGap, Bool.or_eq_false_iff] at seen
            exact seen.1
          cases halts : stops true first rest with
          | true =>
              have silent : spoken true (blanks ++ first :: rest) = [] := by
                rw [spoken_blanks blank, if_pos]
                rw [spoken, if_pos halts]
              have whole : unspoken true (first :: rest) = first :: rest := by
                rw [unspoken, if_pos halts]
              rw [LineScanned, whole, silent, List.append_nil,
                scan?_of_stops unbroken halts free]
              exact ⟨nofun, fun _ => ⟨0, Nat.zero_add _, rfl⟩⟩
          | false =>
              rcases line_of_not_stops halts visible with ⟨longer, -, unsaid⟩
              have total :=
                congrArg List.length (lineWord_append_afterWord (first :: rest))
              have least := List.length_pos_iff.2 longer
              rw [List.length_append] at total
              rcases afterWord_split (first :: rest) with
                ⟨gap, blankGap, parts⟩ | ⟨gap, other, others, blankGap, seen,
                  parts, ends⟩
              · have ended : unspoken true (first :: rest) = [] := by
                  rw [unsaid, parts, unspoken_of_blank blankGap]
                rw [LineScanned, ended,
                  spoken_blanks_of_not_stops blank halts visible,
                    scan?_lastWord unbroken halts visible free nextContent
                    (shallow ended) blankGap parts, parts,
                    spoken_of_blank blankGap, List.append_nil,
                    List.append_assoc]
                exact ⟨fun _ => rfl, fun stopped => absurd rfl stopped⟩
              · by_cases none : gap = []
                · have stopped := ends none
                  rw [none, List.nil_append] at parts
                  rw [LineScanned, unsaid,
                    spoken_blanks_of_not_stops blank halts visible,
                    scan?_stoppedWord unbroken halts visible free seen parts,
                    parts]
                  rw [parts] at total
                  simp only [spoken, unspoken, stopped, if_true,
                    List.append_nil, List.append_assoc]
                  exact ⟨nofun, fun _ => ⟨_, total, rfl⟩⟩
                · have later : IsLine (gap ++ other :: others) := by
                    have whole := unbroken
                    rw [← lineWord_append_afterWord (first :: rest),
                      parts] at whole
                    exact whole.of_append
                  have shown : IsContent (other :: others) := by
                    simp [IsContent, isGap, seen, later other (by simp)]
                  have further :
                      0 < column + (lineWord (first :: rest)).length +
                      gap.length := by
                    omega
                  have spaces := List.length_pos_iff.2 none
                  rw [parts, List.length_append] at total
                  have same : unspoken true (other :: others) = unspoken true
                      (first :: rest) := by
                    rw [unsaid, parts, unspoken_false_blanks blankGap none]
                  have said : spoken true (blanks ++ first :: rest) =
                      blanks ++ lineWord (first :: rest) ++ spoken true
                          (gap ++ other :: others) := by
                    rw [spoken_blanks_of_not_stops blank halts visible, parts,
                      spoken_false_blanks blankGap none]
                  rw [scan?_nextWord unbroken halts visible free inside
                    blankGap none (shown.append _) parts]
                  refine LineScanned.of_word ?_ said same total
                  exact ih later.of_append shown nofun (same ▸ shallow)
                    (by simp only [List.length_cons] at enough total ⊢; omega)
                      blankGap _ (by omega)
                    (Cursor.atBorder_of_column _ _ number further)

/-- A plain scalar on one line, read at a place. -/
theorem read?_line
    {indent : Int}
    {depth : Nat}
    {next : List Char}
    (nextContent : IsContent next)
    {line : List Char}
    (unbroken : IsLine line)
    (content : IsContent line)
    (given : line ≠ [])
    (shallow : unspoken true line = [] → (depth : Int) ≤ indent)
    {index number column : Nat}
    (inside : indent ≤ column)
    (free : Cursor.atBorder ⟨line ++ lineEnd depth next, index, number,
        column⟩ = false) :
    LineScanned depth next [] [] line index number column
      (read? false indent ⟨line ++ lineEnd depth next, index, number,
          column⟩) :=
  have shorter : line.length < (line ++ lineEnd depth next).length + 1 := by
    rw [List.length_append]
    omega
  scan?_line nextContent unbroken content given
    (fun ended => Int.lt_add_one_iff.2 (shallow ended)) shorter
      (List.forall_mem_nil _) []
    (by omega) free

end PlainText

end HookKeeper.Yaml
