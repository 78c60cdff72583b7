import HookKeeper.Proofs.PlainLine
import HookKeeper.Yaml.Document

/-!
# Tokens of a line

Between two tokens the scanner is told by its margin, the columns of the open
block collections.  A step of a scan passes over the white space before a token,
closes the collections that the token lies left of, and reads it.  Which token
that is depends on the characters of its line only.
-/

namespace HookKeeper.Yaml

/-! ## Margins -/

/-- The tokens so far and the columns of the open block collections. -/
structure Margin where
  newestFirst : List Token
  /-- The column of the innermost collection, `-1` outside of all. -/
  indent : Int
  outer : List Int

namespace Margin

def start : Margin := ⟨[], -1, []⟩

/-- The margin with further tokens. -/
def push (margin : Margin) (tokens : List Token) : Margin :=
  { margin with newestFirst := tokens.reverse ++ margin.newestFirst }

/--
End collections, of which the columns around them are given, that lie right of a
column.
-/
def closeFrom : List Int → Int → Margin → Margin
  | [], _, margin => margin
  | next :: more, column, margin =>
      if column < margin.indent then
        closeFrom more column ⟨.blockEnd :: margin.newestFirst, next, more⟩
      else margin

/-- End the collections that lie right of a column. -/
def close (margin : Margin) (column : Int) : Margin :=
  closeFrom margin.outer column margin

/-- Start a collection at a column, unless it goes on there. -/
def enter (margin : Margin) (column : Int) (token : Token) : Margin :=
  if margin.indent < column then
    ⟨token :: margin.newestFirst, column, margin.indent :: margin.outer⟩
  else margin

/-- The state of a scan outside of brackets. -/
def layout
    (margin : Margin)
    (cursor : Cursor)
    (candidate : Option Candidate)
    (keyAllowed : Bool) : Layout :=
  ⟨cursor, margin.newestFirst, margin.newestFirst.length, margin.indent,
    margin.outer, candidate, [], keyAllowed⟩

theorem unroll_layout
    (margin : Margin)
    (cursor : Cursor)
    (candidate : Option Candidate)
    (keyAllowed : Bool)
    (column : Int) :
    (margin.layout cursor candidate keyAllowed).unroll column =
      (margin.close column).layout cursor candidate keyAllowed := by
  have closing (around : List Int) (margin : Margin) :
      Layout.closeFrom around column
        (margin.layout cursor candidate keyAllowed) =
        (closeFrom around column margin).layout cursor candidate
            keyAllowed := by
    induction around generalizing margin with
    | nil => rfl
    | cons next more ih =>
        rw [Layout.closeFrom, closeFrom]
        by_cases right : column < margin.indent
        · rw [if_pos right]
          exact (if_pos right).trans
            (ih ⟨.blockEnd :: margin.newestFirst, next, more⟩)
        · rw [if_neg right]
          exact if_neg right
  exact closing margin.outer margin

theorem close_of_le
    {margin : Margin}
    {column : Int}
    (inside : margin.indent ≤ column) : margin.close column = margin := by
  rw [close]
  cases margin.outer with
  | nil => rfl
  | cons next more => exact if_neg (Int.not_lt.2 inside)

end Margin

namespace Layout

/-! ## Steps of a scan -/

/-- A scan gets from one state to another in a number of tokens. -/
def Reaches (count : Nat) (layout after : Layout) : Prop :=
  ∀ fuel, scan? (fuel + count + 1) layout = scan? (fuel + 1) after

theorem Reaches.refl (layout : Layout) : Reaches 0 layout layout := fun _ => rfl

theorem Reaches.trans
    {count more : Nat}
    {layout middle after : Layout}
    (first : Reaches count layout middle)
    (second : Reaches more middle after) :
    Reaches (count + more) layout after := fun fuel => by
  rw [← second fuel, ← first (fuel + more)]
  congr 1
  omega

/-- The state before the next token. -/
def settled (layout : Layout) : Layout :=
  skipSpace (layout.cursor.rest.length + 1) layout

/-- White space before a token changes nothing. -/
theorem reaches_of_settled
    {layout after : Layout}
    (same : layout.settled = after.settled) :
    Reaches 0 layout after := fun fuel => by
  rw [settled, settled] at same
  rw [Nat.add_zero, scan?, scan?, same]

variable {margin : Margin} {cursor : Cursor} {candidate kept : Option Candidate}
  {allowed : Bool} {layout : Layout}

theorem scan?_of_settled
    (settles : layout.settled = margin.layout cursor candidate allowed)
    (fresh : refresh? cursor candidate = some kept) (fuel : Nat) :
    scan? (fuel + 1) layout =
      match cursor.rest with
      | [] =>
          (((margin.close cursor.column).layout cursor kept
            allowed).closeAll?).map fun layout => layout.newestFirst.reverse
      | first :: _ =>
          (((margin.close cursor.column).layout cursor kept allowed).token?
            first).bind (scan? fuel) := by
  have refreshed : (margin.layout cursor candidate allowed).refreshCandidates? =
      some (margin.layout cursor kept allowed) := by
    show (refresh? cursor candidate).bind _ = _
    rw [fresh]
    rfl
  rw [settled] at settles
  rw [scan?, settles, refreshed]
  simp only [Option.bind_eq_bind, Option.bind_some]
  rw [show (margin.layout cursor kept allowed).cursor.column =
    cursor.column from rfl, Margin.unroll_layout]
  rfl

/-- One token. -/
theorem reaches_of_token
    {after : Layout}
    {first : Char}
    {rest : List Char}
    (settles : layout.settled = margin.layout cursor candidate allowed)
    (fresh : refresh? cursor candidate = some kept)
    (starts : cursor.rest = first :: rest)
    (token : ((margin.close cursor.column).layout cursor kept allowed).token?
        first = some after) :
    Reaches 1 layout after := fun fuel => by
  rw [scan?_of_settled settles fresh, starts]
  simp only [token, Option.bind_some]

/-- A token that is a fault. -/
theorem scan?_of_fault
    {first : Char}
    {rest : List Char}
    (settles : layout.settled = margin.layout cursor candidate allowed)
    (fresh : refresh? cursor candidate = some kept)
    (starts : cursor.rest = first :: rest)
    (fault : ((margin.close cursor.column).layout cursor kept allowed).token?
      first = none)
    (fuel : Nat) : scan? fuel layout = none := by
  cases fuel with
  | zero => rfl
  | succ fuel =>
      rw [scan?_of_settled settles fresh, starts]
      simp only [fault, Option.bind_none]

/-- The end of the text. -/
theorem scan?_of_end
    (settles : layout.settled = margin.layout cursor candidate allowed)
    (fresh : refresh? cursor candidate = some none)
    (ended : cursor.rest = [])
    (start : cursor.column = 0)
    (fuel : Nat) :
    scan? (fuel + 1) layout =
        some ((margin.close 0).close (-1)).newestFirst.reverse := by
  rw [scan?_of_settled settles fresh, ended, start]
  simp only [closeAll?, Margin.unroll_layout]
  rfl

end Layout

/-! ## White space between tokens -/

/-- A text is used up or goes on with a token. -/
def IsTokenStart (text : List Char) : Prop :=
  text.head?.all (fun character => !isGap character && character != '#') = true

instance (text : List Char) : Decidable (IsTokenStart text) :=
  inferInstanceAs (Decidable (_ = true))

theorem IsTokenStart.isContent
    {text : List Char}
    (starts : IsTokenStart text) : IsContent text := by
  cases text with
  | nil => rfl
  | cons first rest =>
      simp only [IsTokenStart, IsContent, List.head?_cons, Option.all_some,
        Bool.and_eq_true] at *
      exact starts.1

theorem Cursor.skipWhile_append
    {condition : Char → Bool}
    {front rest : List Char}
    (passed : ∀ character ∈ front, condition character = true)
    (stopped : rest.head?.any condition = false)
    (index line column : Nat) :
    skipWhile ⟨front ++ rest, index, line, column⟩ condition =
      ⟨rest, index + front.length, line, column + front.length⟩ := by
  have taken : (front ++ rest).takeWhile condition = front := by
    rw [List.takeWhile_append_of_pos passed]
    cases rest with
    | nil => simp
    | cons first _ =>
        rw [List.takeWhile_cons_of_neg (by simpa using stopped),
          List.append_nil]
  simp [skipWhile, takeWhile, taken, skip]

namespace Layout

variable {margin : Margin} {candidate : Option Candidate} {allowed : Bool}
  {blanks : List Char} {index line column : Nat}

/--
Whether a character may stand before a token: a space, or a tab where no key may
start.
-/
def isIndent (allowed : Bool) (character : Char) : Bool :=
  character == ' ' || (!allowed && character == '\t')

/-- One line of white space and comments. -/
theorem skipSpace_succ (fuel : Nat) (cursor : Cursor) :
    skipSpace (fuel + 1) (margin.layout cursor candidate allowed) =
      let cursor := cursor.skipWhile (isIndent allowed)
      let cursor :=
        if cursor.holds 0 '#' then
          cursor.skipWhile fun character => !isBreak character
        else cursor
      if cursor.atBreak then
        skipSpace fuel (margin.layout cursor.skipBreak candidate true)
      else margin.layout cursor candidate allowed := by
  rw [skipSpace]
  cases allowed <;> rfl

theorem skipSpace_token
    (blank : ∀ character ∈ blanks, isIndent allowed character = true)
    {body : List Char}
    (starts : IsTokenStart body)
    (fuel : Nat) :
    skipSpace (fuel + 1)
      (margin.layout ⟨blanks ++ body, index, line, column⟩ candidate allowed) =
      margin.layout ⟨body, index + blanks.length, line,
        column + blanks.length⟩ candidate
        allowed := by
  cases body with
  | nil =>
      rw [skipSpace_succ, Cursor.skipWhile_append blank rfl]
      rfl
  | cons first rest =>
      have visible := starts.isContent.not_isGap
      simp only [isGap, Bool.or_eq_false_iff] at visible
      have other : first ≠ '#' := fun same => by
        simp [IsTokenStart, same] at starts
      have stopped : isIndent allowed first = false := by
        have spaces := visible.1
        simp only [isSpace, Bool.or_eq_false_iff] at spaces
        simp [isIndent, spaces.1, spaces.2]
      rw [skipSpace_succ,
        Cursor.skipWhile_append blank (by simpa using stopped)]
      simp [Cursor.holds, Cursor.peek, other, Cursor.atBreak, Cursor.test,
        visible.2]

/-- The rest of a line without tokens, and the indentation of the next one. -/
theorem skipSpace_lineEnd
    (blank : ∀ character ∈ blanks, isIndent allowed character = true)
    {comment : List Char}
    (unbroken : IsLine comment)
    (marked : comment.head?.all (· == '#') = true)
    {next : List Char}
    (starts : IsTokenStart next)
    (depth fuel : Nat) :
    skipSpace (fuel + 2)
        (margin.layout ⟨blanks ++ (comment ++ lineEnd depth next), index, line,
          column⟩ candidate allowed) =
      margin.layout
        ⟨next, index + blanks.length + comment.length + 1 + depth, line + 1,
          depth⟩ candidate
        true := by
  have stopped : (comment ++ lineEnd depth next).head?.any (isIndent allowed) =
      false := by
    cases comment with
    | nil => cases allowed <;> rfl
    | cons first _ =>
        have same : first = '#' := by simpa using marked
        cases allowed <;> simp [same, isIndent]
  have spaces : ∀ character ∈ List.replicate depth ' ',
      isIndent true character = true := by
    intro character member
    rw [List.eq_of_mem_replicate member]
    rfl
  have later (index line : Nat) : skipSpace (fuel + 1)
      (margin.layout ⟨List.replicate depth ' ' ++ next, index, line,
        0⟩ candidate true) =
        margin.layout ⟨next, index + depth, line, depth⟩ candidate true := by
    rw [skipSpace_token spaces starts, List.length_replicate, Nat.zero_add]
  rw [skipSpace_succ, Cursor.skipWhile_append blank stopped]
  cases comment with
  | nil => exact later _ _
  | cons first rest =>
      have same : first = '#' := by simpa using marked
      have passed : ∀ character ∈ first :: rest, (!isBreak character) = true :=
        fun character member => by simp [unbroken character member]
      have holds (index column : Nat) : Cursor.holds
          ⟨first :: rest ++ lineEnd depth next, index, line, column⟩ 0 '#' =
              true := by
        simp [Cursor.holds, Cursor.peek, same]
      simp only [holds, if_true]
      rw [Cursor.skipWhile_append passed rfl]
      exact later _ _

/-! ## Tokens of a line -/

section

variable {first : Char} {rest : List Char} (unbroken : IsLine (first :: rest))
  {depth : Nat} {next : List Char}

include unbroken

theorem atGapOrEnd_line :
    Cursor.atGapOrEnd ⟨first :: rest ++ lineEnd depth next, index, line,
      column⟩ 1 =
      rest.head?.all isSpace := by
  cases rest with
  | nil => rfl
  | cons second others =>
      simp [Cursor.atGapOrEnd, Cursor.test, Cursor.peek, isGap,
        unbroken second (by simp)]

theorem startsPlain_line (opens : PlainText.opens (first :: rest) = true) :
    startsPlain false ⟨first :: rest ++ lineEnd depth next, index, line,
        column⟩ first = true := by
  rw [startsPlain, atGapOrEnd_line unbroken]
  rcases PlainText.opens_cases opens with ⟨seen, usual⟩ | ⟨dash, follows⟩
  · have plain : (isGap first || PlainText.indicators.contains first) =
        false := by
      have absent : PlainText.indicators.contains first = false :=
        Bool.eq_false_iff.2 fun member =>
          beq_eq_false_iff_ne.1 (usual first (List.contains_iff_mem.1 member))
            rfl
      rw [isGap, seen, absent, unbroken first List.mem_cons_self]
      rfl
    exact Bool.or_eq_true_iff.2
      (.inl (Bool.or_eq_true_iff.2 (.inl (congrArg not plain))))
  · rcases dash with rfl | rfl | rfl
    · cases rest with
      | nil => exact absurd follows.symm Bool.false_ne_true
      | cons second _ =>
          have visible : isSpace second = false := by simpa using follows
          simp [Cursor.test, Cursor.peek, visible]
    all_goals simp [follows]

theorem token?_plain
    (opens : PlainText.opens (first :: rest) = true)
    (free : Cursor.atBorder ⟨first :: rest ++ lineEnd depth next, index, line,
        column⟩ = false) :
    (margin.layout ⟨first :: rest ++ lineEnd depth next, index, line,
        column⟩ candidate allowed).token? first =
      (margin.layout ⟨first :: rest ++ lineEnd depth next, index, line,
        column⟩ candidate allowed).plainScalar? := by
  simp only [Cursor.atBorder, Bool.or_eq_false_iff] at free
  have block :
      (margin.layout ⟨first :: rest ++ lineEnd depth next, index, line,
        column⟩ candidate allowed).inFlow = false := rfl
  have place :
      (margin.layout ⟨first :: rest ++ lineEnd depth next, index, line,
        column⟩ candidate allowed).cursor =
        ⟨first :: rest ++ lineEnd depth next, index, line, column⟩ := rfl
  rw [token?, block, place, free.1, free.2, atGapOrEnd_line unbroken,
    startsPlain_line unbroken opens]
  rcases PlainText.opens_cases opens with ⟨-, usual⟩ | ⟨dash, follows⟩
  · simp (disch := decide) only [usual, Bool.and_false, Bool.false_and,
      Bool.false_eq_true, if_false, if_true]
  · rcases dash with rfl | rfl | rfl <;> simp [follows]

end

theorem token?_colon
    {others next : List Char}
    {depth : Nat}
    (unbroken : IsLine (':' :: others))
    (last : others.head?.all isSpace = true) :
    (margin.layout ⟨':' :: others ++ lineEnd depth next, index, line,
        column⟩ candidate allowed).token? ':' =
      (margin.layout ⟨':' :: others ++ lineEnd depth next, index, line,
        column⟩ candidate allowed).value? := by
  have marker (mark : Char) (other : mark ≠ ':') :
      Cursor.atMarker ⟨':' :: others ++ lineEnd depth next, index, line,
          column⟩ mark = false := by
    simp [Cursor.atMarker, Cursor.holds, Cursor.peek, Ne.symm other]
  have place :
      (margin.layout ⟨':' :: others ++ lineEnd depth next, index, line,
        column⟩ candidate allowed).cursor =
        ⟨':' :: others ++ lineEnd depth next, index, line, column⟩ := rfl
  rw [token?, place, marker '-' (by decide), marker '.' (by decide),
    atGapOrEnd_line unbroken, last]
  simp

/-- The candidate for a key whose token comes next. -/
def candidateAt (margin : Margin) (cursor : Cursor) : Candidate where
  position := margin.newestFirst.length
  index := cursor.index
  line := cursor.line
  column := cursor.column
  required := margin.indent == (cursor.column : Int)

/--
A plain scalar is a further token, and a candidate for a key where one may
start.
-/
theorem plainScalar?_of_read
    {cursor : Cursor}
    {scanned : PlainText.Scanned}
    (read : PlainText.read? false margin.indent cursor = some scanned) :
    (margin.layout cursor none allowed).plainScalar? =
      some ((margin.push [.scalar (String.ofList scanned.text) .plain]).layout
        scanned.next (if allowed then some (candidateAt margin cursor)
          else none) scanned.broken) := by
  have found : PlainText.read? (margin.layout cursor none allowed).inFlow
      (margin.layout cursor none allowed).indent
        (margin.layout cursor none allowed).cursor =
        some scanned := read
  rw [plainScalar?, found]
  cases allowed <;> rfl

/-- A token that is put in before later ones. -/
theorem insert_push
    (margin : Margin)
    (candidate : Option Candidate)
    (allowed : Bool)
    (later : List Token)
    (token : Token)
    (cursor : Cursor) :
    ((margin.push later).layout cursor candidate allowed).insert
      margin.newestFirst.length token =
      (margin.push (token :: later)).layout cursor candidate allowed := by
  have back : (later.reverse ++ margin.newestFirst).length -
    margin.newestFirst.length =
      later.reverse.length := by simp
  simp only [insert, Margin.layout, Margin.push, back, List.take_left,
    List.drop_left]
  simp [Nat.add_assoc]

theorem roll_push
    (margin : Margin)
    (candidate : Option Candidate)
    (allowed : Bool)
    (later : List Token)
    (token : Token)
    (cursor : Cursor)
    (place : Int) :
    ((margin.push later).layout cursor candidate allowed).roll place
        margin.newestFirst.length token =
      ((margin.enter place token).push later).layout cursor candidate
          allowed := by
  have block : ((margin.push later).layout cursor candidate allowed).inFlow =
    false := rfl
  rw [roll, block, insert_push, Margin.enter]
  by_cases right : margin.indent < place
  · rw [if_pos right]
    refine (if_pos right).trans ?_
    simp [Margin.layout, Margin.push]
  · rw [if_neg right]
    exact if_neg right

/--
The colon after a key puts the tokens of the key, and of a new mapping, before
its text.
-/
theorem value?_of_candidate
    {cursor place : Cursor}
    (name : Token) :
    ((margin.push [name]).layout cursor (some (candidateAt margin place))
      false).value? =
      some (((margin.enter place.column .blockMappingStart).push
        [.key, name, .value]).layout (cursor.skip 1) none false) := by
  have announced :=
    insert_push margin (some (candidateAt margin place)) false
      [name] .key cursor
  have opened :=
    roll_push margin (some (candidateAt margin place)) false [.key, name]
    .blockMappingStart cursor place.column
  have coloned (layout : Layout)
      (found : layout.candidate = some (candidateAt margin place)) :
      layout.value? =
        let layout :=
          (layout.insert margin.newestFirst.length .key).roll place.column
          margin.newestFirst.length .blockMappingStart
        some (({ layout with
          candidate := none, keyAllowed := false }.push .value).moveTo
          (layout.cursor.skip 1)) := by
    rw [value?, found]
    rfl
  rw [coloned _ rfl, announced, opened]
  rfl

/-! ## Plain text up to the end of its line -/

theorem settled_of_start
    {body : List Char}
    (starts : IsTokenStart body) :
    (margin.layout ⟨body, index, line, column⟩ candidate allowed).settled =
      margin.layout ⟨body, index, line, column⟩ candidate allowed :=
  have nothing : ∀ character ∈ ([] : List Char),
      isIndent allowed character = true :=
    List.forall_mem_nil _
  skipSpace_token nothing starts body.length

/-- White space and a comment up to the end of a line. -/
theorem reaches_lineEnd
    {blanks comment : List Char}
    (blank : ∀ character ∈ blanks, isIndent allowed character = true)
    (unbroken : IsLine comment)
    (marked : comment.head?.all (· == '#') = true)
    {next : List Char}
    (starts : IsTokenStart next)
    (depth : Nat) :
    Reaches 0
      (margin.layout ⟨blanks ++ (comment ++ lineEnd depth next), index, line,
        column⟩ candidate allowed)
      (margin.layout
        ⟨next, index + blanks.length + comment.length + 1 + depth, line + 1,
          depth⟩ candidate
        true) := by
  refine reaches_of_settled ?_
  rw [settled_of_start starts]
  refine (congrArg (skipSpace · _) ?_).trans
    (skipSpace_lineEnd blank unbroken marked starts depth
      (blanks ++ (comment ++ List.replicate depth ' ' ++ next)).length)
  simp [Margin.layout, lineEnd]
  omega

theorem reaches_comment
    {comment : List Char}
    (unbroken : IsLine comment)
    (marked : comment.head?.all (· == '#') = true)
    {next : List Char}
    (starts : IsTokenStart next)
    (depth : Nat) :
    Reaches 0
      (margin.layout ⟨comment ++ lineEnd depth next, index, line,
        column⟩ candidate allowed)
      (margin.layout ⟨next, index + comment.length + 1 + depth, line + 1,
        depth⟩ candidate true) :=
  have nothing : ∀ character ∈ ([] : List Char),
      isIndent allowed character = true :=
    List.forall_mem_nil _
  reaches_lineEnd nothing unbroken marked starts depth

theorem isTokenStart_of_opens
    {first : Char}
    {rest : List Char}
    (unbroken : IsLine (first :: rest))
    (opens : PlainText.opens (first :: rest) = true)
    (later : List Char) : IsTokenStart (first :: rest ++ later) := by
  have visible := unbroken first List.mem_cons_self
  rcases PlainText.opens_cases opens with ⟨seen, usual⟩ | ⟨dash, -⟩
  · simp [IsTokenStart, isGap, seen, visible, bne, usual '#' (by decide)]
  · rcases dash with rfl | rfl | rfl <;> exact rfl

section

variable {first : Char} {rest next : List Char} {depth : Nat}
  (unbroken : IsLine (first :: rest))
    (opens : PlainText.opens (first :: rest) = true)
  (starts : IsTokenStart next) (inside : margin.indent ≤ column)
  (free : Cursor.atBorder ⟨first :: rest ++ lineEnd depth next, index, line,
    column⟩ = false)

include unbroken opens inside free

/-- The token of plain text. -/
theorem reaches_of_read
    (allowed : Bool)
    {scanned : PlainText.Scanned}
    (read : PlainText.read? false margin.indent
        ⟨first :: rest ++ lineEnd depth next, index, line, column⟩ =
        some scanned) :
    Reaches 1
      (margin.layout ⟨first :: rest ++ lineEnd depth next, index, line,
        column⟩ none allowed)
      ((margin.push [.scalar (String.ofList scanned.text) .plain]).layout
        scanned.next (if allowed then
          some (candidateAt margin ⟨first :: rest ++ lineEnd depth next, index,
            line, column⟩)
        else none)
        scanned.broken) := by
  refine reaches_of_token
    (settled_of_start (isTokenStart_of_opens unbroken opens _)) rfl rfl ?_
  rw [Margin.close_of_le inside, token?_plain unbroken opens free]
  exact plainScalar?_of_read read

include starts

/-- Plain text is one token, and a comment after it is passed over. -/
theorem reaches_plain
    (allowed : Bool)
    (ends : (PlainText.unspoken true (first :: rest)).head? ≠ some ':')
    (shallow : (depth : Int) ≤ margin.indent) :
    Reaches 1
      (margin.layout ⟨first :: rest ++ lineEnd depth next, index, line,
        column⟩ none allowed)
      ((margin.push
          [.scalar (String.ofList (PlainText.spoken true (first :: rest)))
            .plain]).layout
        ⟨next, index + (first :: rest).length + 1 + depth, line + 1, depth⟩
        (if allowed then
          some (candidateAt margin ⟨first :: rest ++ lineEnd depth next, index,
            line, column⟩)
        else none)
        true) := by
  have content := (isTokenStart_of_opens unbroken opens []).isContent
  rw [List.append_nil] at content
  have read :=
    PlainText.read?_line starts.isContent unbroken content
      nofun (fun _ => shallow)
    inside free
  simp only [PlainText.LineScanned, List.nil_append] at read
  rcases PlainText.unspoken_eq true (first :: rest) with
    ended | ⟨mark, others, stopped, ⟨front, whole⟩, marks⟩
  · have reached :=
      reaches_of_read unbroken opens inside free allowed (read.1 ended)
    dsimp only at reached
    exact reached
  · have comment : mark = '#' :=
      marks.resolve_right fun colon => ends (by rw [stopped, colon.1]; rfl)
    rcases read.2 (by rw [stopped]; nofun) with ⟨passed, total, result⟩
    have later : IsLine (mark :: others) := IsLine.of_append (whole ▸ unbroken)
    have reached :=
      (reaches_of_read unbroken opens inside free allowed result).trans
      (reaches_comment (stopped ▸ later) (by simp [stopped, comment])
        starts depth)
    have place :
      index + passed + (PlainText.unspoken true (first :: rest)).length =
        index + (first :: rest).length := by omega
    rw [place] at reached
    exact reached

/-- A colon after plain text, where no key may start, is a fault. -/
theorem scan?_plain_colon
    (ends : (PlainText.unspoken true (first :: rest)).head? = some ':')
    (fuel : Nat) :
    scan? (fuel + 2)
      (margin.layout ⟨first :: rest ++ lineEnd depth next, index, line,
        column⟩ none false) =
        none := by
  have content := (isTokenStart_of_opens unbroken opens []).isContent
  rw [List.append_nil] at content
  rcases PlainText.unspoken_eq true (first :: rest) with
    ended | ⟨mark, others, stopped, ⟨front, whole⟩, marks⟩
  · rw [ended] at ends
    exact absurd ends nofun
  · have colon : mark = ':' := by simpa [stopped] using ends
    have last : others.head?.all isSpace = true :=
      (marks.resolve_left fun comment =>
        absurd (colon.symm.trans comment) (by decide)).2
    have later : IsLine (mark :: others) := IsLine.of_append (whole ▸ unbroken)
    subst colon
    have said : PlainText.unspoken true (first :: rest) ≠ [] := by
      rw [stopped]; nofun
    have read := PlainText.read?_line starts.isContent unbroken content nofun
      (fun ended => absurd ended said) inside free
    simp only [PlainText.LineScanned, List.nil_append] at read
    rcases read.2 (by rw [stopped]; nofun) with ⟨passed, total, result⟩
    have starts : IsTokenStart (':' :: others ++ lineEnd depth next) := rfl
    rw [reaches_of_read unbroken opens inside free false result fuel, stopped]
    refine scan?_of_fault (settled_of_start starts) rfl rfl ?_ (fuel + 1)
    rw [token?_colon later last]
    rfl

end

end Layout

end HookKeeper.Yaml
