import HookKeeper.Proofs.BlockLines

/-!
# What readers pass over

A reader gets from one place in a text to another, over the characters between
them; on one line it gets as many columns further.  What a quoted scalar, an
anchor or a tag stands for is no longer than what was passed over, and a quoted
scalar ends at its mark: at the first one that is not escaped.
-/

namespace HookKeeper.Yaml

/-- A place is reached from another one over some characters. -/
structure Cursor.Passes
    (before : Cursor)
    (front : List Char)
    (after : Cursor) : Prop where
  text : before.rest = front ++ after.rest
  column : IsLine front → after.column = before.column + front.length

theorem IsLine.append
    {front rest : List Char}
    (first : IsLine front)
    (later : IsLine rest) : IsLine (front ++ rest) := by
  intro character member
  rcases List.mem_append.1 member with here | there
  · exact first character here
  · exact later character there

/-- No character that a test lets pass is a line break. -/
theorem not_isBreak_of
    (condition : Char → Bool)
    (apart : ['\n', '\r', '\x85', '\u2028', '\u2029'].any condition = false)
    {character : Char}
    (holds : condition character = true) : isBreak character = false := by
  refine Bool.eq_false_iff.2 fun breaks => ?_
  simp only [isBreak, Bool.or_eq_true, beq_iff_eq] at breaks
  have member : character ∈ ['\n', '\r', '\x85', '\u2028', '\u2029'] := by
    simpa [or_assoc] using breaks
  rw [List.any_eq_false] at apart
  exact apart character member holds

namespace Cursor

variable {before middle after : Cursor} {front more : List Char}

theorem Passes.refl (cursor : Cursor) : cursor.Passes [] cursor :=
  ⟨rfl, fun _ => rfl⟩

theorem Passes.trans
    (first : before.Passes front middle)
    (second : middle.Passes more after) :
    before.Passes (front ++ more) after := by
  refine ⟨?_, fun line => ?_⟩
  · rw [first.text, second.text, List.append_assoc]
  · have here : IsLine front := fun character member =>
      line character (List.mem_append_left _ member)
    rw [second.column line.of_append, first.column here, List.length_append,
      Nat.add_assoc]

theorem passes_skip
    {rest : List Char}
    (text : before.rest = front ++ rest) :
    before.Passes front (before.skip front.length) := by
  refine ⟨?_, fun _ => rfl⟩
  rw [text, skip, text, List.drop_left]

/-- One character. -/
theorem passes_skip_one
    {first : Char}
    {rest : List Char}
    (text : before.rest = first :: rest) :
    before.Passes [first] (before.skip 1) :=
  have parts : before.rest = [first] ++ rest := text
  passes_skip parts

theorem passes_takeWhile
    (cursor : Cursor)
    (condition : Char → Bool) :
    cursor.Passes (cursor.takeWhile condition).1
      (cursor.takeWhile condition).2 :=
  passes_skip List.takeWhile_append_dropWhile.symm

theorem passes_skipWhile
    (cursor : Cursor)
    (condition : Char → Bool) :
    cursor.Passes (cursor.rest.takeWhile condition)
      (cursor.skipWhile condition) :=
  cursor.passes_takeWhile condition

/-- A line break contributes one character at most. -/
theorem passes_takeBreak
    {first : Char}
    {rest : List Char}
    (text : before.rest = first :: rest)
    (breaks : isBreak first = true) :
    ∃ front,
      before.Passes front before.takeBreak.2 ∧
        (∀ character ∈ front, isBreak character = true) ∧
          before.takeBreak.1.length ≤ front.length := by
  have broken {front rest : List Char} {index : Nat}
      (text : before.rest = front ++ rest)
      (given : front ≠ [])
      (all : ∀ character ∈ front, isBreak character = true) :
      before.Passes front ⟨rest, index, before.line + 1, 0⟩ := by
    refine ⟨text, fun line => ?_⟩
    cases front with
    | nil => exact absurd rfl given
    | cons first more =>
        have ended := all first List.mem_cons_self
        rw [line first List.mem_cons_self] at ended
        exact absurd ended Bool.false_ne_true
  rw [takeBreak, text]
  split
  next others same =>
    cases same
    have all : ∀ character ∈ ['\r', '\n'], isBreak character = true :=
      List.all_eq_true.1 rfl
    exact ⟨['\r', '\n'], broken text nofun all, all, Nat.le_succ 1⟩
  next same =>
    cases same
    have all : ∀ character ∈ [first], isBreak character = true :=
      List.forall_mem_singleton.2 breaks
    rw [if_pos breaks]
    exact ⟨[first], broken text nofun all, all, Nat.le_refl 1⟩
  next same => exact absurd same nofun

theorem passes_skipBreak (breaks : before.atBreak = true) :
    ∃ front,
      before.Passes front before.skipBreak ∧
        ∀ character ∈ front, isBreak character = true := by
  rcases before with ⟨_ | ⟨first, rest⟩, index, line, column⟩
  · exact absurd breaks Bool.false_ne_true
  · have text : Cursor.rest ⟨first :: rest, index, line, column⟩ =
        first :: rest := rfl
    rcases passes_takeBreak text breaks with ⟨front, passes, all, -⟩
    exact ⟨front, passes, all⟩

end Cursor

/-! ## Gaps -/

namespace Gap

/-- The number of characters that a gap may leave in the text. -/
def size (gap : Gap) : Nat :=
  gap.spaces.length + gap.first.length + gap.more.length

theorem length_folded_le (gap : Gap) : gap.folded.length ≤ gap.size := by
  rw [folded, size]
  split
  · split
    next same =>
      have single : gap.first.length = 1 := congrArg List.length same
      split
      · show 1 ≤ _
        omega
      · omega
    · rw [List.length_append]
      omega
  · omega

theorem size_addSpace_le
    (gap : Gap)
    (character : Char) :
    (gap.addSpace character).size ≤ gap.size + 1 := by
  rw [addSpace]
  split
  · exact Nat.le_succ _
  · simp only [size, List.length_append, List.length_singleton]
    omega

theorem size_addBreak_le
    (gap : Gap)
    (contribution : List Char) :
    (gap.addBreak contribution).size ≤ gap.size + contribution.length := by
  rw [addBreak]
  split
  · simp only [size, List.length_append]
    omega
  · simp only [size, List.length_nil]
    omega

/-- Only white space is passed over, and it leaves no more than it is. -/
theorem passes_take?
    {indentation : Int}
    {fuel : Nat}
    {gap found : Gap}
    {before after : Cursor}
    (taken : take? indentation fuel gap before = some (found, after)) :
    ∃ front,
      before.Passes front after ∧
        (∀ character ∈ front, isGap character = true) ∧
          found.size ≤ gap.size + front.length := by
  induction fuel generalizing gap before with
  | zero => cases taken
  | succ fuel ih =>
      rw [take?] at taken
      split at taken
      · cases taken
        exact ⟨[], .refl _, List.forall_mem_nil _, Nat.le_refl _⟩
      next first rest text =>
        split at taken
        next blank =>
          split at taken
          · cases taken
          · rcases ih taken with ⟨front, passes, gaps, short⟩
            have grown := gap.size_addSpace_le first
            refine ⟨first :: front,
              (Cursor.passes_skip_one text).trans passes,
              List.forall_mem_cons.2 ⟨?_, gaps⟩, ?_⟩
            · rw [isGap, blank, Bool.true_or]
            · rw [List.length_cons]
              omega
        · split at taken
          next breaks =>
            rcases Cursor.passes_takeBreak text breaks with
              ⟨broken, passed, all, least⟩
            rcases ih taken with ⟨front, passes, gaps, short⟩
            have here : found.size ≤
                (gap.addBreak before.takeBreak.1).size + front.length := short
            have grown := gap.size_addBreak_le before.takeBreak.1
            refine ⟨broken ++ front, passed.trans passes, ?_, ?_⟩
            · intro character member
              rcases List.mem_append.1 member with here | later
              · rw [isGap, all character here, Bool.or_true]
              · exact gaps character later
            · rw [List.length_append]
              omega
          · cases taken
            exact ⟨[], .refl _, List.forall_mem_nil _, Nat.le_refl _⟩

end Gap

/-! ## Quoted scalars -/

/-- Every double quote stands right after a backslash. -/
def EscapesQuotes (text : List Char) : Prop :=
  ∀ front rest, text = front ++ '"' :: rest → front.getLast? = some '\\'

theorem EscapesQuotes.append
    {first more : List Char}
    (here : EscapesQuotes first)
    (later : EscapesQuotes more) : EscapesQuotes (first ++ more) := by
  intro front rest parts
  rcases List.append_eq_append_iff.1 parts with
    ⟨further, rfl, same⟩ | ⟨further, same, split⟩
  · have last := later further rest same
    rw [List.getLast?_append, last]
    rfl
  · cases further with
    | nil =>
        rw [List.append_nil] at same
        subst same
        have last := later [] rest split.symm
        exact absurd last nofun
    | cons quote others =>
        rw [List.cons_append, List.cons.injEq] at split
        exact here front others (same.trans (by rw [split.1]))

theorem escapesQuotes_of_not_mem
    {text : List Char}
    (absent : '"' ∉ text) : EscapesQuotes text := fun front _ parts =>
  absurd (parts ▸ List.mem_append_right front List.mem_cons_self) absent

/-- A character after a backslash. -/
theorem escapesQuotes_pair (character : Char) :
    EscapesQuotes ['\\', character] := by
  intro front rest parts
  match front, parts with
  | [], parts => exact absurd (List.cons.inj parts).1 (by decide)
  | [slash], parts =>
      rw [← (List.cons.inj parts).1]
      rfl
  | _ :: _ :: _, parts => simp at parts

namespace QuotedText

theorem isSome_of_value?
    {digits : List Char}
    {total code : Nat}
    (found : digits.foldlM (fun total character =>
        (Text.Hex.digitValue? character).map (total * 16 + ·)) total =
        some code) :
    ∀ digit ∈ digits, (Text.Hex.digitValue? digit).isSome = true := by
  induction digits generalizing total with
  | nil => exact nofun
  | cons first digits ih =>
      rw [List.foldlM_cons] at found
      rcases Option.bind_eq_some_iff.1 found with ⟨next, here, later⟩
      rcases Option.map_eq_some_iff.1 here with ⟨value, read, -⟩
      exact List.forall_mem_cons.2 ⟨by rw [read]; rfl, ih later⟩

/-- An escape after its backslash. -/
theorem escapesQuotes_escape?
    {rest : List Char}
    {value : Char}
    {length : Nat}
    (found : escape? rest = some (value, length)) :
    EscapesQuotes ('\\' :: rest.take length) ∧
      length ≤ rest.length ∧ 1 ≤ length := by
  cases rest with
  | nil => exact absurd found nofun
  | cons letter rest =>
      rw [escape?] at found
      split at found
      · cases found
        exact ⟨escapesQuotes_pair letter, Nat.succ_pos _, Nat.le_refl 1⟩
      · rcases Option.bind_eq_some_iff.1 found with ⟨count, -, more⟩
        split at more
        · exact absurd more nofun
        next enough =>
          rcases Option.bind_eq_some_iff.1 more with ⟨code, read, made⟩
          rcases Option.bind_eq_some_iff.1 read with ⟨number, digits, -⟩
          cases made
          refine ⟨?_, Nat.succ_le_succ (Nat.not_lt.1 enough),
            Nat.succ_pos count⟩
          refine (escapesQuotes_pair letter).append
            (escapesQuotes_of_not_mem fun member => ?_)
          have digit := isSome_of_value? digits '"' member
          exact absurd digit (by decide)

/-- The mark at both ends of a quoted scalar. -/
def mark (single : Bool) : Char := if single then '\'' else '"'

variable {single : Bool} {fuel : Nat} {done text : List Char}
  {before after : Cursor}

/-- What a reader of quoted text makes of what it passed over. -/
structure Unquotes
    (single : Bool)
    (before : Cursor)
    (room : Nat)
    (text : List Char)
    (after : Cursor)
    (front : List Char) : Prop where
  passes : before.Passes front after
  short : text.length ≤ room + front.length
  quotes : single = false → EscapesQuotes front

theorem Unquotes.refl
    (single : Bool)
    (cursor : Cursor)
    (text : List Char) :
    Unquotes single cursor text.length text cursor [] :=
  ⟨.refl cursor, Nat.le_refl _, fun _ =>
    escapesQuotes_of_not_mem List.not_mem_nil⟩

/-- A piece that stands for no more than it is, and then further text. -/
theorem Unquotes.of_piece
    {piece front : List Char}
    {middle : Cursor}
    {room more : Nat}
    (passed : before.Passes piece middle)
    (quotes : single = false → EscapesQuotes piece)
    (least : more ≤ room + piece.length)
    (later : Unquotes single middle more text after front) :
    Unquotes single before room text after (piece ++ front) := by
  refine ⟨passed.trans later.passes, ?_, fun double =>
    (quotes double).append (later.quotes double)⟩
  have short := later.short
  rw [List.length_append]
  omega

/-- A piece that stands for a character, and then further text. -/
theorem Unquotes.of_char
    {piece front : List Char}
    {middle : Cursor}
    {character : Char}
    (passed : before.Passes piece middle)
    (given : piece ≠ [])
    (quotes : single = false → EscapesQuotes piece)
    (later : Unquotes single middle (done ++ [character]).length text after
      front) :
    Unquotes single before done.length text after (piece ++ front) := by
  have least := List.length_pos_iff.2 given
  rw [List.length_append, List.length_singleton] at later
  exact .of_piece passed quotes (by omega) later

/-- A line break after a backslash stands for nothing. -/
theorem Unquotes.of_escapedBreak
    {first : Char}
    {rest : List Char}
    (starts : before.rest = first :: rest)
    (other : first ≠ '"')
    (breaks : (before.skip 1).atBreak = true)
    (single : Bool)
    (done : List Char) :
    ∃ front,
      Unquotes single before done.length done (before.skip 1).skipBreak
        front := by
  rcases Cursor.passes_skipBreak breaks with ⟨broken, passes, all⟩
  have unquoted : '"' ∉ first :: broken := fun member => by
    rcases List.mem_cons.1 member with same | later
    · exact other same.symm
    · exact absurd (all '"' later) (by decide)
  exact ⟨first :: broken, (Cursor.passes_skip_one starts).trans passes,
    Nat.le_add_right _ _, fun _ => escapesQuotes_of_not_mem unquoted⟩

/-- An escape is passed as a whole, and no quote in it counts. -/
theorem exists_passes_escape
    {rest : List Char}
    {value : Char}
    {length : Nat}
    (starts : before.rest = '\\' :: rest)
    (escape : escape? rest = some (value, length)) :
    ∃ piece,
      before.Passes piece (before.skip (length + 1)) ∧ piece ≠ [] ∧
        EscapesQuotes piece := by
  rcases escapesQuotes_escape? escape with ⟨quotes, enough, -⟩
  have whole : before.rest =
      '\\' :: rest.take length ++ rest.drop length := by
    rw [starts, List.cons_append, List.take_append_drop]
  have passed := Cursor.passes_skip whole
  rw [List.length_cons, List.length_take, Nat.min_eq_left enough] at passed
  exact ⟨_, passed, List.cons_ne_nil _ _, quotes⟩

theorem unquotes_word?
    {escaped : Bool}
    (found : word? single fuel done before = some (text, escaped, after)) :
    ∃ front, Unquotes single before done.length text after front := by
  induction fuel generalizing done before with
  | zero => exact absurd found nofun
  | succ fuel ih =>
      rw [word?] at found
      split at found
      · cases found
        exact ⟨[], .refl single _ _⟩
      next first rest starts =>
        have goesOn {piece : List Char} {middle : Cursor} {more : Char}
            (passed : before.Passes piece middle)
            (given : piece ≠ [])
            (quotes : single = false → EscapesQuotes piece)
            (later : word? single fuel (done ++ [more]) middle =
              some (text, escaped, after)) :
            ∃ front, Unquotes single before done.length text after front :=
          (ih later).imp' (piece ++ ·) fun _ unquotes =>
            .of_char passed given quotes unquotes
        have one := Cursor.passes_skip_one starts
        split at found
        · cases found
          exact ⟨[], .refl single _ _⟩
        split at found
        next quoted =>
          have never (piece : List Char) :
              single = false → EscapesQuotes piece := fun double =>
            absurd (quoted.symm.trans double) nofun
          split at found
          · split at found
            next doubled =>
              cases rest with
              | nil => exact absurd doubled (by decide)
              | cons second others =>
                  have pair : before.rest = [first, second] ++ others := starts
                  exact goesOn (Cursor.passes_skip pair) nofun (never _) found
            · cases found
              exact ⟨[], .refl single _ _⟩
          · exact goesOn one nofun (never _) found
        · split at found
          · cases found
            exact ⟨[], .refl single _ _⟩
          next quote =>
            have other : first ≠ '"' := fun same => quote (beq_iff_eq.2 same)
            split at found
            next slash =>
              split at found
              next breaks =>
                cases found
                exact Unquotes.of_escapedBreak starts other breaks single _
              · rcases Option.bind_eq_some_iff.1 found with
                  ⟨⟨value, length⟩, escape, later⟩
                rw [beq_iff_eq.1 slash] at starts
                rcases exists_passes_escape starts escape with
                  ⟨piece, passed, given, quotes⟩
                exact goesOn passed given (fun _ => quotes) later
            · have unquoted : '"' ∉ [first] := fun member =>
                other (List.mem_singleton.1 member).symm
              exact goesOn one nofun
                (fun _ => escapesQuotes_of_not_mem unquoted) found

/-- White space holds no quotes. -/
theorem Unquotes.of_gap
    {escaped : Bool}
    {room steps : Nat}
    {gap : Gap}
    (taken : Gap.take? 0 steps (if escaped then Gap.escapedBreak
      else Gap.empty) before = some (gap, after))
    (least : text.length ≤ room) :
    ∃ front,
      Unquotes single before room (text ++ gap.folded) after front := by
  have nothing : (if escaped then Gap.escapedBreak else Gap.empty).size =
      0 := by
    cases escaped <;> rfl
  rcases Gap.passes_take? taken with ⟨front, passes, gaps, short⟩
  have folded := gap.length_folded_le
  have unquoted : '"' ∉ front := fun member =>
    absurd (gaps '"' member) (by decide)
  refine ⟨front, passes, ?_, fun _ => escapesQuotes_of_not_mem unquoted⟩
  rw [List.length_append]
  omega

/-- Words and gaps, and the mark that ends them. -/
theorem unquotes_scan?
    (found : scan? single fuel done before = some (text, after)) :
    ∃ front middle,
      Unquotes single before done.length text middle front ∧
        middle.Passes [mark single] after := by
  induction fuel generalizing done before with
  | zero => cases found
  | succ fuel ih =>
      rw [scan?] at found
      split at found
      · cases found
      rcases Option.bind_eq_some_iff.1 found with
        ⟨⟨word, escaped, middle⟩, taken, more⟩
      rcases unquotes_word? taken with ⟨front, unquotes⟩
      have short := unquotes.short
      rw [List.length_nil] at short
      change (if middle.holds 0 (mark single) then _ else _) = _ at more
      split at more
      next closes =>
        cases more
        have marked : middle.rest.head? = some (mark single) :=
          beq_iff_eq.1 closes
        rcases List.head?_eq_some_iff.1 marked with ⟨rest, starts⟩
        refine ⟨front, middle, ⟨unquotes.passes, ?_, unquotes.quotes⟩,
          Cursor.passes_skip_one starts⟩
        rw [List.length_append]
        omega
      · rcases Option.bind_eq_some_iff.1 more with ⟨⟨gap, next⟩, blank, later⟩
        have spaces : ∃ front, Unquotes single middle (done ++ word).length
            (done ++ word ++ gap.folded) next front :=
          Unquotes.of_gap blank (Nat.le_refl _)
        rcases spaces with ⟨space, spaced⟩
        rcases ih later with ⟨others, last, rest, closed⟩
        have gathered := Unquotes.of_piece spaced.passes spaced.quotes
          spaced.short rest
        refine ⟨front ++ (space ++ others), last,
          .of_piece unquotes.passes unquotes.quotes ?_ gathered, closed⟩
        rw [List.length_append]
        omega

/--
A quoted scalar stands between two marks.  It is no longer than the characters
between them, and the second mark is the first one that is not escaped.
-/
theorem passes_read?
    {rest : List Char}
    (starts : before.rest = mark single :: rest)
    (found : read? single before = some (text, after)) :
    ∃ inner,
      before.Passes (mark single :: (inner ++ [mark single])) after ∧
        text.length ≤ inner.length ∧
          (single = false → EscapesQuotes inner) := by
  rcases unquotes_scan? found with ⟨inner, middle, unquotes, closed⟩
  have short := unquotes.short
  rw [List.length_nil, Nat.zero_add] at short
  exact ⟨inner,
    (Cursor.passes_skip_one starts).trans (unquotes.passes.trans closed),
    short, unquotes.quotes⟩

end QuotedText

/-! ## Anchors, aliases and tags -/

namespace Property

variable {before after : Cursor}

/-- A place is reached from another one over characters of one line. -/
def Advances (before after : Cursor) : Prop :=
  ∃ front, before.Passes front after ∧ IsLine front

variable {middle : Cursor}

theorem Advances.refl (cursor : Cursor) : Advances cursor cursor :=
  ⟨[], .refl cursor, nofun⟩

theorem Advances.trans
    (first : Advances before middle)
    (later : Advances middle after) : Advances before after := by
  rcases first with ⟨front, passed, here⟩
  rcases later with ⟨rest, passes, there⟩
  exact ⟨front ++ rest, passed.trans passes, here.append there⟩

theorem advances_skip
    {front rest : List Char}
    (text : before.rest = front ++ rest)
    (line : IsLine front) :
    Advances before (before.skip front.length) :=
  ⟨front, Cursor.passes_skip text, line⟩

/-- A place is reached over one character of a line at least. -/
def Crosses (before after : Cursor) : Prop :=
  ∃ front, before.Passes front after ∧ IsLine front ∧ front ≠ []

theorem Crosses.advances (crosses : Crosses before after) :
    Advances before after := by
  rcases crosses with ⟨front, passes, line, -⟩
  exact ⟨front, passes, line⟩

theorem Crosses.trans
    (first : Crosses before middle)
    (later : Advances middle after) : Crosses before after := by
  rcases first with ⟨front, passed, here, given⟩
  rcases later with ⟨rest, passes, there⟩
  exact ⟨front ++ rest, passed.trans passes, here.append there,
    List.append_ne_nil_of_left_ne_nil given rest⟩

theorem crosses_skip_one
    {first : Char}
    (starts : before.rest.head? = some first)
    (visible : isBreak first = false) : Crosses before (before.skip 1) := by
  rcases List.head?_eq_some_iff.1 starts with ⟨rest, text⟩
  exact ⟨[first], Cursor.passes_skip_one text,
    List.forall_mem_singleton.2 visible, nofun⟩

theorem advances_nameChars (cursor : Cursor) :
    Advances cursor (cursor.takeWhile isNameChar).2 :=
  ⟨_, cursor.passes_takeWhile isNameChar, fun character member =>
    not_isBreak_of isNameChar (by decide)
      (List.all_eq_true.1 List.all_takeWhile character member)⟩

/-- An anchor or alias stands on one line. -/
theorem crosses_name?
    {first : Char}
    {name : String}
    (starts : before.rest.head? = some first)
    (visible : isBreak first = false)
    (found : name? before = some (name, after)) : Crosses before after := by
  simp only [name?] at found
  split at found
  · exact absurd found nofun
  · cases found
    exact (crosses_skip_one starts visible).trans
      (advances_nameChars (before.skip 1))

/-- An escaped byte takes three characters. -/
theorem escapedByte?_eq_some
    {characters rest : List Char}
    {byte : Nat}
    (found : escapedByte? characters = some (byte, rest)) :
    ∃ front,
      characters = front ++ rest ∧ front.length = 3 ∧ IsLine front := by
  rw [escapedByte?.eq_def] at found
  split at found
  next high low others =>
    rcases Option.map_eq_some_iff.1 found with ⟨value, read, same⟩
    cases same
    have digits := QuotedText.isSome_of_value? read
    refine ⟨['%', high, low], rfl, rfl, ?_⟩
    refine List.forall_mem_cons.2 ⟨by decide, fun digit member => ?_⟩
    exact not_isBreak_of (fun digit => (Text.Hex.digitValue? digit).isSome)
      (by decide) (digits digit member)
  · exact absurd found nofun

theorem continuation?_eq_some
    {count : Nat}
    {characters : List Char}
    {bytes : List UInt8}
    (found : continuation? count characters = some bytes) :
    ∃ front rest,
      characters = front ++ rest ∧ front.length = 3 * bytes.length ∧
        IsLine front := by
  induction count generalizing characters bytes with
  | zero =>
      cases found
      exact ⟨[], characters, rfl, rfl, nofun⟩
  | succ count ih =>
      rcases Option.bind_eq_some_iff.1 found with ⟨⟨byte, left⟩, here, more⟩
      dsimp only at more
      split at more
      · rcases Option.map_eq_some_iff.1 more with ⟨others, later, same⟩
        cases same
        rcases escapedByte?_eq_some here with ⟨first, rfl, three, line⟩
        rcases ih later with ⟨front, rest, rfl, length, unbroken⟩
        refine ⟨first ++ front, rest, (List.append_assoc ..).symm, ?_,
          line.append unbroken⟩
        rw [List.length_append, List.length_cons, three, length]
        omega
      · exact absurd more nofun

theorem escapedChar?_eq_some
    {characters : List Char}
    {bytes : List UInt8}
    (found : escapedChar? characters = some bytes) :
    ∃ front rest,
      characters = front ++ rest ∧ front.length = 3 * bytes.length ∧
        IsLine front := by
  rcases Option.bind_eq_some_iff.1 found with ⟨⟨byte, left⟩, here, more⟩
  rcases Option.bind_eq_some_iff.1 more with ⟨length, -, further⟩
  rcases Option.bind_eq_some_iff.1 further with ⟨others, later, same⟩
  cases same
  rcases escapedByte?_eq_some here with ⟨first, rfl, three, line⟩
  rcases continuation?_eq_some later with ⟨front, rest, rfl, total, unbroken⟩
  refine ⟨first ++ front, rest, (List.append_assoc ..).symm, ?_,
    line.append unbroken⟩
  rw [List.length_append, List.length_cons, three, total]
  omega

theorem advances_tagBytes?
    {verbatim : Bool}
    {fuel : Nat}
    {done bytes : List UInt8}
    (found : tagBytes? verbatim fuel done before = some (bytes, after)) :
    Advances before after := by
  induction fuel generalizing done before with
  | zero => exact absurd found nofun
  | succ fuel ih =>
      rw [tagBytes?] at found
      split at found
      · cases found
        exact .refl _
      next first rest starts =>
        split at found
        next plain =>
          split at found
          · rcases Option.bind_eq_some_iff.1 found with ⟨more, escaped, later⟩
            rcases escapedChar?_eq_some escaped with
              ⟨front, others, text, length, line⟩
            have passed := advances_skip text line
            rw [length] at passed
            exact passed.trans (ih later)
          · have here : before.rest.head? = some first := by
              rw [starts]
              rfl
            have visible : isBreak first = false :=
              not_isBreak_of (isTagChar verbatim) (by cases verbatim <;>
                decide) plain
            exact (crosses_skip_one here
              visible).advances.trans (ih found)
        · cases found
          exact .refl _

theorem advances_tagText?
    {verbatim nonempty : Bool}
    {head text : String}
    (found : tagText? verbatim head nonempty before = some (text, after)) :
    Advances before after := by
  rcases Option.bind_eq_some_iff.1 found with ⟨⟨bytes, next⟩, read, more⟩
  dsimp only at more
  split at more
  · cases more
    exact advances_tagBytes? read
  · exact absurd more nofun

theorem crosses_handle?
    {handle : List Char}
    (found : handle? before = some (handle, after)) : Crosses before after := by
  rw [handle?] at found
  split at found
  next marked =>
    have marked : before.rest.head? = some '!' := beq_iff_eq.1 marked
    have named := (crosses_skip_one marked rfl).trans
      (advances_nameChars (before.skip 1))
    dsimp only at found
    split at found
    next ends =>
      cases found
      exact named.trans
        (crosses_skip_one (beq_iff_eq.1 ends) rfl).advances
    · cases found
      exact named
  · exact absurd found nofun

/-- A tag stands on one line. -/
theorem crosses_tag?
    {inFlow : Bool}
    {handle suffix : String}
    (starts : before.rest.head? = some '!')
    (found : tag? inFlow before = some (handle, suffix, after)) :
    Crosses before after := by
  have ends {name text : String} {next : Cursor}
      (found :
        (if next.atGapOrEnd 0 || inFlow && next.holds 0 ',' then
          some (name, text, next)
        else none) = some (handle, suffix, after)) :
      next = after := by
    split at found
    · cases found
      rfl
    · cases found
  rw [tag?] at found
  split at found
  next angle =>
    rcases List.head?_eq_some_iff.1 starts with ⟨rest, whole⟩
    have second : rest.head? = some '<' := by
      have same := beq_iff_eq.1 angle
      rw [Cursor.peek, whole] at same
      exact same
    rcases List.head?_eq_some_iff.1 second with ⟨others, rfl⟩
    rcases Option.bind_eq_some_iff.1 found with ⟨⟨text, middle⟩, read, more⟩
    have bracket : before.rest = ['!', '<'] ++ others := whole
    have crosses : Crosses before (before.skip 2) :=
      ⟨['!', '<'], Cursor.passes_skip bracket, by decide, List.cons_ne_nil _ _⟩
    have here := crosses.trans (advances_tagText? read)
    dsimp only at more
    split at more
    next close =>
      rw [← ends more]
      exact here.trans
        (crosses_skip_one (beq_iff_eq.1 close) rfl).advances
    · cases more
  · rcases Option.bind_eq_some_iff.1 found with ⟨⟨name, middle⟩, read, more⟩
    have here := crosses_handle? read
    dsimp only at more
    split at more
    · rcases Option.bind_eq_some_iff.1 more with ⟨⟨text, last⟩, later, made⟩
      rw [← ends made]
      exact here.trans (advances_tagText? later)
    · rcases Option.bind_eq_some_iff.1 more with ⟨⟨text, last⟩, later, made⟩
      dsimp only at made
      split at made
      all_goals
        rw [← ends made]
        exact here.trans (advances_tagText? later)

end Property

end HookKeeper.Yaml
