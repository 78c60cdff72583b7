import HookKeeper.Manifest.Placeholder
import Mathlib.Data.List.Infix
import Mathlib.Tactic.Common

/-!
# Filling in templates

A template is filled in by one replacement after another, so the second one
also reads what the first one has put in.  Here a template is read once, from
left to right, as characters and placeholders, and each placeholder stands for
its own value.  Both ways give the same text exactly when the image, with the
text around it, brings no placeholder of the verbosity into the template.
Whatever it brings, no such placeholder is left over, so that filling in again
changes nothing unless one of the image is.
-/

namespace HookKeeper.Manifest

open HookKeeper.Text

/-! ## Occurrences of a pattern -/

/-- The number of places where a pattern starts in a text. -/
def occurrences (pattern : List Char) : List Char → Nat
  | [] => 0
  | character :: rest =>
      (if pattern.isPrefixOf (character :: rest) then 1 else 0) +
        occurrences pattern rest

section

variable {pattern replacement front rest : List Char} {character : Char}

theorem occurrences_cons_of_absent (absent : ¬ pattern <+: character :: rest) :
    occurrences pattern (character :: rest) = occurrences pattern rest := by
  simp [occurrences, absent]

/-- A pattern that starts nowhere in a text does not occur in it. -/
theorem occurrences_eq_zero_iff
    (given : pattern ≠ [])
    {text : List Char} :
    occurrences pattern text = 0 ↔ ¬ pattern <:+: text := by
  induction text with
  | nil => simp [occurrences, given]
  | cons character rest ih =>
      rw [List.infix_cons_iff, not_or, ← ih, occurrences]
      by_cases present : pattern <+: character :: rest <;> simp [present]

theorem le_occurrences_append (front rest : List Char) :
    occurrences pattern rest ≤ occurrences pattern (front ++ rest) := by
  induction front with
  | nil => exact Nat.le_refl _
  | cons character front ih => exact ih.trans (Nat.le_add_left _ _)

/-- A pattern does not reach over a character that it does not contain. -/
theorem prefix_append_cons
    (absent : character ∉ pattern)
    (front rest : List Char) :
    pattern <+: front ++ character :: rest ↔ pattern <+: front := by
  refine ⟨fun present => ?_, fun within =>
    within.trans (List.prefix_append _ _)⟩
  have whole : front <+: front ++ character :: rest := List.prefix_append _ _
  have reached : front ++ [character] <+: front ++ character :: rest :=
    ⟨rest, by simp⟩
  by_cases short : pattern.length ≤ front.length
  · exact List.prefix_of_prefix_length_le present whole short
  · have within :=
      List.prefix_of_prefix_length_le reached present (by simp; omega)
    exact absurd (within.subset (by simp)) absent

theorem occurrences_append_cons
    (absent : character ∉ pattern)
    (front rest : List Char) :
    occurrences pattern (front ++ character :: rest) =
      occurrences pattern front + occurrences pattern (character :: rest) := by
  induction front with
  | nil => exact (Nat.zero_add _).symm
  | cons first front ih =>
      have reaches := prefix_append_cons absent (first :: front) rest
      rw [List.cons_append] at reaches
      simp only [List.cons_append, occurrences, List.isPrefixOf_iff_prefix,
        reaches] at ih ⊢
      rw [ih, Nat.add_assoc]

/-- A pattern does not start in text without its first character. -/
theorem occurrences_append_of_unbegun
    {first : Char}
    {others : List Char}
    (unbegun : first ∉ front) :
    occurrences (first :: others) (front ++ rest) = occurrences
        (first :: others) rest := by
  induction front with
  | nil => rfl
  | cons character front ih =>
      rcases not_or.1 (List.mem_cons.not.1 unbegun) with ⟨differs, later⟩
      refine (occurrences_cons_of_absent fun present => differs ?_).trans
        (ih later)
      exact (List.cons_prefix_cons.1 present).1

/-! ## Replacing a pattern -/

theorem replaceFrom_length (front rest : List Char) :
    replaceFrom pattern replacement front.length (front ++ rest) =
      replaceAll pattern replacement rest := by
  induction front with
  | nil => rfl
  | cons character front ih => exact ih

theorem replaceAll_cons_of_present (present : pattern <+: character :: rest) :
    replaceAll pattern replacement (character :: rest) =
      replacement ++ replaceFrom pattern replacement (pattern.length - 1)
          rest := by
  simp [replaceAll, replaceFrom, present]

theorem replaceAll_cons_of_absent (absent : ¬ pattern <+: character :: rest) :
    replaceAll pattern replacement (character :: rest) =
      character :: replaceAll pattern replacement rest := by
  simp [replaceAll, replaceFrom, absent]

/-- A pattern at the start of a text is replaced as a whole. -/
theorem replaceAll_pattern_append (given : pattern ≠ []) :
    replaceAll pattern replacement (pattern ++ rest) =
      replacement ++ replaceAll pattern replacement rest := by
  cases pattern with
  | nil => exact absurd rfl given
  | cons first others =>
      have present : first :: others <+: first :: (others ++ rest) :=
        List.prefix_append (first :: others) rest
      rw [List.cons_append, replaceAll_cons_of_present present]
      exact congrArg (replacement ++ ·) (replaceFrom_length others rest)

/-- Text in which the pattern does not start is left alone. -/
theorem replaceAll_append_of_unstarted
    (unstarted : occurrences pattern (front ++ rest) =
        occurrences pattern rest) :
    replaceAll pattern replacement (front ++ rest) =
      front ++ replaceAll pattern replacement rest := by
  induction front with
  | nil => rfl
  | cons character front ih =>
      have least : occurrences pattern rest ≤ occurrences pattern
          (front ++ rest) :=
        le_occurrences_append front rest
      by_cases present : pattern <+: character :: (front ++ rest)
      · simp only [List.cons_append, occurrences, List.isPrefixOf_iff_prefix,
          present, if_true] at unstarted
        omega
      · rw [List.cons_append] at unstarted ⊢
        rw [occurrences_cons_of_absent present] at unstarted
        rw [replaceAll_cons_of_absent present, ih unstarted, List.cons_append]

/-- Text without the pattern is left alone. -/
theorem replaceAll_of_absent
    (given : pattern ≠ [])
    {text : List Char}
    (absent : ¬ pattern <:+: text) :
    replaceAll pattern replacement text = text := by
  have unstarted : occurrences pattern (text ++ []) =
      occurrences pattern [] := by
    rw [List.append_nil, (occurrences_eq_zero_iff given).2 absent]
    rfl
  have kept : replaceAll pattern replacement (text ++ []) = text ++ [] :=
    replaceAll_append_of_unstarted unstarted
  rwa [List.append_nil] at kept

/--
What a text starts with after a replacement it started with before, if that
lacks the first character of what was put in.
-/
theorem prefix_of_prefix_replaceAll
    {head : Char}
    {tail part text : List Char}
    (apart : head ∉ part)
    (follows : part <+: replaceAll pattern (head :: tail) text) :
    part <+: text := by
  induction text generalizing part with
  | nil => exact follows
  | cons character rest ih =>
      cases part with
      | nil => exact List.nil_prefix
      | cons first others =>
          rcases not_or.1 (List.mem_cons.not.1 apart) with ⟨differs, later⟩
          by_cases present : pattern <+: character :: rest
          · rw [replaceAll_cons_of_present present] at follows
            exact absurd (List.cons_prefix_cons.1 follows).1.symm differs
          · rw [replaceAll_cons_of_absent present] at follows
            rcases List.cons_prefix_cons.1 follows with ⟨rfl, after⟩
            exact List.cons_prefix_cons.2 ⟨rfl, ih later after⟩

/--
A replacement by other characters leaves no occurrence behind and makes no new
one.
-/
theorem occurrences_replaceFrom
    (given : pattern ≠ [])
    (filled : replacement ≠ [])
    (apart : ∀ character ∈ replacement, character ∉ pattern)
    (skip : Nat)
    (text : List Char) :
    occurrences pattern (replaceFrom pattern replacement skip text) = 0 := by
  induction text generalizing skip with
  | nil => cases skip <;> rfl
  | cons character rest ih =>
      cases skip with
      | succ skip => exact ih skip
      | zero =>
          show occurrences pattern
            (replaceAll pattern replacement (character :: rest)) = 0
          by_cases present : pattern <+: character :: rest
          · rcases List.exists_cons_of_ne_nil given with ⟨first, others, rfl⟩
            have unbegun : first ∉ replacement :=
              fun member => apart first member List.mem_cons_self
            rw [replaceAll_cons_of_present present,
              occurrences_append_of_unbegun unbegun, ih]
          · rcases List.exists_cons_of_ne_nil filled with ⟨head, tail, rfl⟩
            -- A pattern that starts here would have started here before.
            have absent : ¬ pattern <+: replaceAll pattern (head :: tail)
                (character :: rest) :=
              fun starts => present
                (prefix_of_prefix_replaceAll (apart head List.mem_cons_self)
                  starts)
            rw [replaceAll_cons_of_absent present] at absent ⊢
            rw [occurrences_cons_of_absent absent]
            exact ih 0

end

/-! ## Placeholders -/

namespace Placeholder

theorem pattern_ne_nil (placeholder : Placeholder) :
    placeholder.pattern ≠ [] := by
  cases placeholder <;> decide

/--
Placeholders do not overlap: in the text of one, only itself starts, and only
once.
-/
theorem occurrences_pattern_append
    (placeholder other : Placeholder)
    (rest : List Char) :
    occurrences placeholder.pattern (other.pattern ++ rest) =
      (if placeholder = other then 1 else 0) +
          occurrences placeholder.pattern rest := by
  cases placeholder <;> cases other <;> simp [pattern, text, occurrences]

/-- Every placeholder starts with a dollar sign. -/
theorem occurrences_append_of_unmarked
    (placeholder : Placeholder)
    {front : List Char}
    (unmarked : '$' ∉ front)
    (rest : List Char) :
    occurrences placeholder.pattern (front ++ rest) =
        occurrences placeholder.pattern rest := by
  cases placeholder <;> exact occurrences_append_of_unbegun unmarked

theorem replaceAll_pattern_append
    (placeholder other : Placeholder)
    (replacement rest : List Char) :
    replaceAll placeholder.pattern replacement (other.pattern ++ rest) =
      (if placeholder = other then replacement else other.pattern) ++
        replaceAll placeholder.pattern replacement rest := by
  by_cases same : placeholder = other
  · subst same
    rw [if_pos rfl]
    exact Manifest.replaceAll_pattern_append placeholder.pattern_ne_nil
  · rw [if_neg same]
    refine replaceAll_append_of_unstarted ?_
    rw [occurrences_pattern_append, if_neg same, Nat.zero_add]

/--
A text is empty, or starts with a placeholder, or with a character that starts
none.
-/
theorem template_induction
    {motive : List Char → Prop}
    (nil : motive [])
    (place : ∀ (placeholder : Placeholder) (rest : List Char), motive rest →
      motive (placeholder.pattern ++ rest))
    (char : ∀ (character : Char) (rest : List Char),
      (∀ placeholder : Placeholder, ¬ placeholder.pattern <+: character ::
        rest) → motive rest → motive (character :: rest))
    (template : List Char) : motive template := by
  induction size : template.length using
      Nat.strong_induction_on generalizing template with
  | h length ih =>
      subst size
      cases template with
      | nil => exact nil
      | cons character rest =>
          by_cases started : ∃ placeholder : Placeholder,
              placeholder.pattern <+: character :: rest
          · rcases started with ⟨placeholder, others, whole⟩
            have shorter : others.length < (character :: rest).length := by
              have given := List.length_pos_iff.2 placeholder.pattern_ne_nil
              rw [← whole, List.length_append]
              omega
            exact whole ▸ place placeholder others (ih _ shorter others rfl)
          · exact char character rest (not_exists.1 started)
              (ih _ (Nat.lt_succ_self rest.length) rest rfl)

end Placeholder

/-! ## Reading a template once -/

/-- A part of a template. -/
inductive Piece where
  | char (character : Char)
  | place (placeholder : Placeholder)

/-- The placeholder that a text starts with. -/
def Placeholder.start? (text : List Char) : Option Placeholder :=
  if image.pattern.isPrefixOf text then some .image
  else if verbosity.pattern.isPrefixOf text then some .verbosity
  else none

/--
The parts of a template from left to right, passing over the first `skip`
characters.
-/
def piecesFrom : Nat → List Char → List Piece
  | _, [] => []
  | skip + 1, _ :: rest => piecesFrom skip rest
  | 0, character :: rest =>
      match Placeholder.start? (character :: rest) with
      | some placeholder =>
          .place placeholder :: piecesFrom (placeholder.pattern.length - 1) rest
      | none => .char character :: piecesFrom 0 rest

/-- The parts of a template. -/
def pieces (template : List Char) : List Piece := piecesFrom 0 template

/-- The text of a part, given what stands for the placeholders. -/
def Piece.text (value : Placeholder → List Char) : Piece → List Char
  | .char character => [character]
  | .place placeholder => value placeholder

/-- A template with every placeholder replaced at once. -/
def atOnce
    (value : Placeholder → List Char)
    (template : List Char) : List Char :=
  (pieces template).flatMap (Piece.text value)

theorem Placeholder.start?_pattern_append
    (placeholder : Placeholder)
    (rest : List Char) :
    start? (placeholder.pattern ++ rest) = some placeholder := by
  cases placeholder <;> simp [start?, pattern, text]

theorem Placeholder.start?_eq_none
    {text : List Char}
    (absent : ∀ placeholder : Placeholder, ¬ placeholder.pattern <+: text) :
    start? text = none := by
  simp [start?, absent]

theorem piecesFrom_length (front rest : List Char) :
    piecesFrom front.length (front ++ rest) = pieces rest := by
  induction front with
  | nil => rfl
  | cons character front ih => exact ih

theorem pieces_pattern_append
    (placeholder : Placeholder)
    (rest : List Char) :
    pieces (placeholder.pattern ++ rest) = .place placeholder ::
        pieces rest := by
  have start := placeholder.start?_pattern_append rest
  cases spelled : placeholder.pattern with
  | nil => exact absurd spelled placeholder.pattern_ne_nil
  | cons first others =>
      rw [spelled, List.cons_append] at start
      rw [List.cons_append, pieces, piecesFrom, start]
      simp [spelled, piecesFrom_length]

theorem pieces_cons
    {character : Char}
    {rest : List Char}
    (absent : ∀ placeholder : Placeholder, ¬ placeholder.pattern <+:
        character :: rest) :
    pieces (character :: rest) = .char character :: pieces rest := by
  rw [pieces, piecesFrom, Placeholder.start?_eq_none absent]
  rfl

section

variable (value : Placeholder → List Char)

@[simp]
theorem atOnce_nil : atOnce value [] = [] := rfl

@[simp]
theorem atOnce_pattern_append
    (placeholder : Placeholder)
    (rest : List Char) :
    atOnce value (placeholder.pattern ++ rest) = value placeholder ++
        atOnce value rest := by
  simp [atOnce, pieces_pattern_append, Piece.text]

theorem atOnce_cons
    {character : Char}
    {rest : List Char}
    (absent : ∀ placeholder : Placeholder, ¬ placeholder.pattern <+:
        character :: rest) :
    atOnce value (character :: rest) = character :: atOnce value rest := by
  simp [atOnce, pieces_cons absent, Piece.text]

end

/--
Reading a template loses nothing: with placeholders for themselves it is the
template.
-/
theorem atOnce_pattern (template : List Char) :
    atOnce Placeholder.pattern template = template := by
  induction template using Placeholder.template_induction with
  | nil => rfl
  | place placeholder rest ih => rw [atOnce_pattern_append, ih]
  | char character rest absent ih => rw [atOnce_cons _ absent, ih]

/-! ## One replacement after another -/

/-- What stands for the placeholders. -/
def settings (image : List Char) (level : LogLevel) : Placeholder → List Char
  | .image => image
  | .verbosity => Digits.ofNat level.verbosity

/-- A template with the image filled in, and nothing else. -/
def withImage (image template : List Char) : List Char :=
  replaceAll Placeholder.image.pattern image template

/-- How often a text asks for the verbosity. -/
def asks (text : List Char) : Nat :=
  occurrences Placeholder.verbosity.pattern text

section

variable {image template : List Char}

theorem withImage_pattern_append
    (placeholder : Placeholder)
    (rest : List Char) :
    withImage image (placeholder.pattern ++ rest) =
      (if .image = placeholder then image else placeholder.pattern) ++
          withImage image rest :=
  Placeholder.replaceAll_pattern_append .image placeholder image rest

theorem withImage_cons
    {character : Char}
    {rest : List Char}
    (absent : ∀ placeholder : Placeholder, ¬ placeholder.pattern <+:
        character :: rest) :
    withImage image (character :: rest) = character :: withImage image rest :=
  replaceAll_cons_of_absent (absent .image)

theorem asks_pattern_append
    (placeholder : Placeholder)
    (rest : List Char) :
    asks (placeholder.pattern ++ rest) =
      (if .verbosity = placeholder then 1 else 0) + asks rest :=
  Placeholder.occurrences_pattern_append .verbosity placeholder rest

theorem le_asks_append (front rest : List Char) :
    asks rest ≤ asks (front ++ rest) :=
  le_occurrences_append front rest

theorem asks_cons
    {character : Char}
    {rest : List Char}
    (absent : ∀ placeholder : Placeholder, ¬ placeholder.pattern <+:
        character :: rest) :
    asks (character :: rest) = asks rest :=
  occurrences_cons_of_absent (absent .verbosity)

/--
A template goes on asking for the verbosity where it did before the image was
filled in.
-/
theorem asks_le_asks_withImage (image template : List Char) :
    asks template ≤ asks (withImage image template) := by
  induction template using Placeholder.template_induction with
  | nil => exact Nat.le_refl _
  | place placeholder rest ih =>
      cases placeholder with
      | image =>
          rw [asks_pattern_append, withImage_pattern_append, if_pos rfl]
          simpa using ih.trans (le_asks_append image _)
      | verbosity =>
          rw [asks_pattern_append, withImage_pattern_append, if_pos rfl,
            if_neg (by decide), asks_pattern_append, if_pos rfl]
          omega
  | char character rest absent ih =>
      rw [asks_cons absent, withImage_cons absent]
      exact ih.trans (le_asks_append [character] _)

/--
Every place that asks for the verbosity makes the text shorter by the same
number.
-/
theorem length_replaceAll_add (replacement text : List Char) :
    (replaceAll Placeholder.verbosity.pattern replacement text).length +
        asks text * Placeholder.verbosity.pattern.length =
      text.length + asks text * replacement.length := by
  induction text using Placeholder.template_induction with
  | nil => simp [replaceAll, replaceFrom, asks, occurrences]
  | place placeholder rest ih =>
      rw [Placeholder.replaceAll_pattern_append, asks_pattern_append]
      split
      next same =>
        subst same
        simp only [List.length_append, Nat.add_mul, Nat.one_mul]
        omega
      next =>
        simp only [List.length_append, Nat.zero_add]
        omega
  | char character rest absent ih =>
      rw [replaceAll_cons_of_absent (absent .verbosity), asks_cons absent,
        List.length_cons, List.length_cons]
      omega

theorem length_atOnce_add
    (image template : List Char)
    (level : LogLevel) :
    (atOnce (settings image level) template).length +
        asks template * Placeholder.verbosity.pattern.length =
      (withImage image template).length +
        asks template * (Digits.ofNat level.verbosity).length := by
  induction template using Placeholder.template_induction with
  | nil => simp [withImage, replaceAll, replaceFrom, asks, occurrences]
  | place placeholder rest ih =>
      rw [atOnce_pattern_append, asks_pattern_append, withImage_pattern_append]
      cases placeholder with
      | image =>
          simp only [settings, List.length_append, if_true, reduceCtorEq,
            if_false, Nat.zero_add]
          omega
      | verbosity =>
          simp only [settings, List.length_append, if_true, reduceCtorEq,
            if_false, Nat.add_mul, Nat.one_mul]
          omega
  | char character rest absent ih =>
      rw [atOnce_cons _ absent, asks_cons absent, withImage_cons absent,
        List.length_cons, List.length_cons]
      omega

/--
An image that brings no further placeholder is filled in as if at once with the
verbosity.
-/
theorem filled_eq_atOnce
    (level : LogLevel)
    (kept : asks (withImage image template) = asks template) :
    filled template image level = atOnce (settings image level) template := by
  show replaceAll _ _ (withImage image template) = _
  induction template using Placeholder.template_induction with
  | nil => rfl
  | place placeholder rest ih =>
      have least := asks_le_asks_withImage image rest
      rw [withImage_pattern_append, asks_pattern_append] at kept
      rw [withImage_pattern_append, atOnce_pattern_append]
      cases placeholder with
      | image =>
          simp only [if_true, reduceCtorEq, if_false, Nat.zero_add] at kept ⊢
          have more := le_asks_append image (withImage image rest)
          -- Neither the image nor the rest has room for a further placeholder.
          have unstarted : asks (image ++ withImage image rest) =
              asks (withImage image rest) := by
            omega
          rw [replaceAll_append_of_unstarted unstarted, ih (by omega)]
          rfl
      | verbosity =>
          simp only [if_true, reduceCtorEq, if_false] at kept ⊢
          rw [asks_pattern_append, if_pos rfl] at kept
          rw [Placeholder.replaceAll_pattern_append, if_pos rfl, ih (by omega)]
          rfl
  | char character rest absent ih =>
      have least := asks_le_asks_withImage image rest
      have more : asks (withImage image rest) ≤
          asks (character :: withImage image rest) :=
        le_asks_append [character] _
      rw [withImage_cons absent, asks_cons absent] at kept
      have unstarted : asks ([character] ++ withImage image rest) =
          asks (withImage image rest) :=
        show asks (character :: withImage image rest) = _ by omega
      rw [withImage_cons absent, atOnce_cons _ absent, ← List.singleton_append,
        replaceAll_append_of_unstarted unstarted, ih (by omega)]
      rfl

/--
Filling in one setting after the other and at once give the same text in one
case only.
-/
theorem filled_eq_atOnce_iff
    (template image : List Char)
    (level : LogLevel) :
    filled template image level = atOnce (settings image level) template ↔
      asks (withImage image template) = asks template := by
  constructor
  · intro same
    have after :=
      length_replaceAll_add (Digits.ofNat level.verbosity)
        (withImage image template)
    have once := length_atOnce_add image template level
    rw [← same] at once
    have digits : (Digits.ofNat level.verbosity).length = 1 := by
      cases level <;> rfl
    have pattern : Placeholder.verbosity.pattern.length = 12 := rfl
    rw [digits, pattern] at after once
    unfold filled at once
    unfold withImage at after once ⊢
    omega
  · exact filled_eq_atOnce level

/-! ## Images that bring no placeholder -/

/--
An image that has no dollar sign and starts with no character of a placeholder,
as references to images do: they start with a digit or a letter in lower case.
-/
structure IsPlainReference (image : List Char) : Prop where
  unmarked : '$' ∉ image
  apart : ∃ first rest, image = first :: rest ∧
    first ∉ Placeholder.verbosity.pattern

theorem asks_append_of_unmarked
    {front : List Char}
    (unmarked : '$' ∉ front)
    (rest : List Char) : asks (front ++ rest) = asks rest :=
  Placeholder.verbosity.occurrences_append_of_unmarked unmarked rest

/-- A usual reference to an image brings no further placeholder. -/
theorem IsPlainReference.asks_withImage
    (plain : IsPlainReference image)
    (template : List Char) :
    asks (withImage image template) = asks template := by
  induction template using Placeholder.template_induction with
  | nil => rfl
  | place placeholder rest ih =>
      rw [withImage_pattern_append, asks_pattern_append]
      cases placeholder with
      | image =>
          rw [if_pos rfl, asks_append_of_unmarked plain.unmarked, ih]
          simp
      | verbosity => rw [if_neg (by decide), asks_pattern_append, ih]
  | char character rest absent ih =>
      rw [withImage_cons absent, asks_cons absent, ← ih]
      refine occurrences_cons_of_absent fun present => absent .verbosity ?_
      rw [← withImage_cons absent] at present
      rcases plain.apart with ⟨head, tail, rfl, apart⟩
      exact prefix_of_prefix_replaceAll apart present

end

/--
Filling in a template replaces its placeholders at once exactly when, with the
image filled in, the text asks for the verbosity as often as the template does.
It is so for every usual reference to an image.
-/
theorem fillIn_at_once_iff
    (template image : String)
    (logLevel : Option String)
    (level : LogLevel)
    (known : LogLevel.parse logLevel = .ok level) :
    (fillIn template image logLevel =
        .ok (String.ofList
          (atOnce (settings image.toList level) template.toList)) ↔
      asks (withImage image.toList template.toList) = asks template.toList) ∧
    (IsPlainReference image.toList →
      fillIn template image logLevel =
        .ok (String.ofList
            (atOnce (settings image.toList level) template.toList))) := by
  have text : fillIn template image logLevel =
      .ok (String.ofList (filled template.toList image.toList level)) := by
    rw [fillIn, known]
    rfl
  have once := filled_eq_atOnce_iff template.toList image.toList level
  rw [text]
  constructor
  · rw [Except.ok.injEq, String.ofList_inj, once]
  · intro plain
    rw [once.2 (plain.asks_withImage template.toList)]

/-- A usual reference to an image and the verbosity are filled in at once. -/
theorem fillIn_at_once_reference :
    LogLevel.parse (some "Debug") = .ok .debug ∧
      IsPlainReference "quay.io/webhook:1".toList ∧
      fillIn "image: ${WEBHOOK_IMAGE}, args: [--v=${LOG_LEVEL}]"
          "quay.io/webhook:1" (some "Debug") =
        .ok "image: quay.io/webhook:1, args: [--v=4]" := by
  have plain : IsPlainReference "quay.io/webhook:1".toList :=
    ⟨by decide, 'q', _, rfl, by decide⟩
  exact ⟨rfl, plain, (fillIn_at_once_iff _ _ _ .debug rfl).2 plain⟩

/--
The placeholder of the verbosity as an image is not kept but filled in as well.
-/
theorem fillIn_not_at_once :
    fillIn "${WEBHOOK_IMAGE}" "${LOG_LEVEL}" (some "Normal") = .ok "2" ∧
      String.ofList (atOnce (settings "${LOG_LEVEL}".toList .normal)
        "${WEBHOOK_IMAGE}".toList) = "${LOG_LEVEL}" := by
  decide +kernel

/-! ## Filling in again -/

/-- No placeholder of the verbosity is left in a template that was filled in. -/
theorem not_verbosity_infix_filled
    (template image : List Char)
    (level : LogLevel) :
    ¬ Placeholder.verbosity.pattern <:+: filled template image level := by
  have given := Placeholder.verbosity.pattern_ne_nil
  have undigited : Placeholder.verbosity.pattern.any Char.isDigit = false :=
    by decide
  have apart : ∀ character ∈ Digits.ofNat level.verbosity,
      character ∉ Placeholder.verbosity.pattern := by
    intro character member inside
    have digit := Nat.isDigit_of_mem_toDigits (by decide) (by decide) member
    exact List.any_eq_false.1 undigited character inside digit
  exact (occurrences_eq_zero_iff given).1
    (occurrences_replaceFrom given Nat.toDigits_ne_nil apart 0 _)

/-- There is nothing to fill in where no placeholder is left. -/
theorem filled_of_absent
    {text : List Char}
    (absent : ∀ placeholder : Placeholder, ¬ placeholder.pattern <:+: text)
    (image : List Char)
    (level : LogLevel) : filled text image level = text := by
  rw [filled, replaceAll_of_absent (Placeholder.pattern_ne_nil _)
    (absent .image), replaceAll_of_absent (Placeholder.pattern_ne_nil _)
    (absent .verbosity)]

theorem fillIn_eq_filled
    {logLevel : Option String}
    {level : LogLevel}
    (known : LogLevel.parse logLevel = .ok level)
    (template image : String) :
    fillIn template image logLevel =
      .ok (String.ofList (filled template.toList image.toList level)) := by
  rw [fillIn, known]
  rfl

/--
Whatever the template and the image hold, no placeholder of the verbosity is
left when a template is filled in; where none of the image is left either,
filling in again changes nothing, with any image and at any level.
-/
theorem fillIn_leaves_no_verbosity
    (template image : String)
    (logLevel : Option String)
    (level : LogLevel)
    (known : LogLevel.parse logLevel = .ok level) :
    ∃ text, fillIn template image logLevel = .ok text ∧
      ¬ Placeholder.verbosity.pattern <:+: text.toList ∧
      (¬ Placeholder.image.pattern <:+: text.toList →
        ∀ (other : String) (otherLevel : Option String) (reached : LogLevel),
          LogLevel.parse otherLevel = .ok reached →
              fillIn text other otherLevel = .ok text) := by
  have settled := not_verbosity_infix_filled template.toList image.toList level
  refine ⟨_, fillIn_eq_filled known template image, ?_, ?_⟩
  · rwa [String.toList_ofList]
  · intro unasked other otherLevel reached recognised
    rw [String.toList_ofList] at unasked
    have absent : ∀ placeholder : Placeholder,
        ¬ placeholder.pattern <:+: filled template.toList image.toList level
      | .image => unasked
      | .verbosity => settled
    rw [fillIn_eq_filled recognised, String.toList_ofList,
      filled_of_absent absent]

/--
The image completes a placeholder of the verbosity, which is filled in as well.
-/
theorem fillIn_leaves_no_verbosity_completed :
    LogLevel.parse (some "Debug") = .ok .debug ∧
      fillIn "--v=$\x7bLOG_${WEBHOOK_IMAGE}" "LEVEL\x7d" (some "Debug") =
        .ok "--v=4" ∧
      ¬ Placeholder.verbosity.pattern <:+: "--v=4".toList ∧
      fillIn "--v=4" "${LOG_LEVEL}" none = .ok "--v=4" := by
  have completed :
      fillIn "--v=$\x7bLOG_${WEBHOOK_IMAGE}" "LEVEL\x7d" (some "Debug") =
          .ok "--v=4" := by
    decide +kernel
  obtain ⟨text, filled, gone, settled⟩ :=
    fillIn_leaves_no_verbosity "--v=$\x7bLOG_${WEBHOOK_IMAGE}" "LEVEL\x7d"
      (some "Debug") .debug rfl
  rw [completed] at filled
  cases filled
  exact ⟨rfl, completed, gone,
    settled (by decide) "${LOG_LEVEL}" none .normal rfl⟩

end HookKeeper.Manifest
