import HookKeeper.Json.Build
import HookKeeper.Json.Tree
import HookKeeper.Json.Value
import HookKeeper.Text.Base64
import HookKeeper.Text.Utf8
import Mathlib.Tactic.SplitIfs

/-!
# Texts that tell values apart

Digits, escaped texts and compact JSON are read from left to right without
doubt: two spellings that begin the same text spell the same value and leave the
same rest, where a number is not followed by a further digit.  So values whose
numbers are whole have different compact texts, and no two sequences of bytes
have one text in base64 or in hexadecimal digits.
-/

namespace HookKeeper

open HookKeeper.Json
open HookKeeper.Text

/-- Characters of a class that are followed by none of it are where they end. -/
theorem append_inj_of_class
    {isOwn : Char → Bool}
    {first second rest others : List Char}
    (own : ∀ character ∈ first, isOwn character = true)
    (owned : ∀ character ∈ second, isOwn character = true)
    (ends : ∀ character ∈ rest.head?, isOwn character = false)
    (apart : ∀ character ∈ others.head?, isOwn character = false)
    (same : first ++ rest = second ++ others) :
    first = second ∧ rest = others := by
  have none_of {tail : List Char} (stops : ∀ character ∈ tail.head?,
      isOwn character = false) :
      tail.takeWhile isOwn = [] := by
    cases tail with
    | nil => rfl
    | cons head _ => rw [List.takeWhile_cons_of_neg (by simp [stops head rfl])]
  -- Both sides begin with as many characters of the class as the two texts
  -- have.
  have taken := congrArg (List.takeWhile isOwn) same
  rw [List.takeWhile_append_of_pos own, List.takeWhile_append_of_pos owned,
    none_of ends, none_of apart, List.append_nil, List.append_nil] at taken
  subst taken
  exact ⟨rfl, List.append_cancel_left same⟩

/-! ## Numbers -/

namespace Text.Digits

/-- A text does not begin with a digit. -/
def Ends (rest : List Char) : Prop := ∀ character ∈ rest.head?,
    character.isDigit = false

theorem ends_cons
    {head : Char}
    {rest : List Char}
    (other : head.isDigit = false) : Ends (head :: rest) := by
  rintro _ ⟨⟩
  exact other

theorem isDigit_of_mem
    {value : Nat}
    {character : Char}
    (member : character ∈ ofNat value) : character.isDigit = true :=
  Nat.isDigit_of_mem_toDigits (by decide) (by decide) member

/-- The digits of a number begin with one. -/
theorem ofNat_eq_cons (value : Nat) :
    ∃ head rest, ofNat value = head :: rest ∧ head.isDigit = true := by
  cases spelled : ofNat value with
  | nil => exact absurd spelled Nat.toDigits_ne_nil
  | cons head rest =>
      exact ⟨head, rest, rfl, isDigit_of_mem (spelled ▸ List.mem_cons_self)⟩

theorem ofNat_inj
    {first second : Nat}
    (same : ofNat first = ofNat second) : first = second :=
  natText_inj.1 (congrArg String.ofList same)

theorem ofNat_append_inj
    {first second : Nat}
    {rest others : List Char}
    (ends : Ends rest)
    (apart : Ends others)
    (same : ofNat first ++ rest = ofNat second ++ others) :
    first = second ∧ rest = others := by
  rcases append_inj_of_class (fun _ => isDigit_of_mem) (fun _ => isDigit_of_mem)
    ends apart same with ⟨digits, tail⟩
  exact ⟨ofNat_inj digits, tail⟩

/-- The characters of an integer begin with a digit or a minus sign. -/
theorem ofInt_eq_cons (value : Int) :
    ∃ head rest, ofInt value = head :: rest ∧
        (head.isDigit = true ∨ head = '-') := by
  cases value with
  | ofNat value =>
      rcases ofNat_eq_cons value with ⟨head, rest, spelled, digit⟩
      exact ⟨head, rest, spelled, .inl digit⟩
  | negSucc value => exact ⟨'-', _, rfl, .inr rfl⟩

theorem ofInt_append_inj
    {first second : Int}
    {rest others : List Char}
    (ends : Ends rest)
    (apart : Ends others)
    (same : ofInt first ++ rest = ofInt second ++ others) :
    first = second ∧ rest = others := by
  have signed {value : Nat} {rest others : List Char}
      (same : ofNat value ++ rest = '-' :: others) : False := by
    rcases ofNat_eq_cons value with ⟨head, tail, spelled, digit⟩
    rw [spelled] at same
    cases (List.cons.inj same).1
    exact absurd digit (by decide)
  cases first with
  | ofNat first =>
      cases second with
      | ofNat second =>
          rcases ofNat_append_inj ends apart same with ⟨rfl, tail⟩
          exact ⟨rfl, tail⟩
      | negSucc second => exact (signed same).elim
  | negSucc first =>
      cases second with
      | ofNat second => exact (signed same.symm).elim
      | negSucc second =>
          rcases ofNat_append_inj ends apart (List.cons.inj same).2 with
            ⟨equal, tail⟩
          exact ⟨congrArg Int.negSucc (Nat.succ.inj equal), tail⟩

end Text.Digits

open Text.Digits

/-! ## Texts between quotes -/

/--
A character inside a text stands for itself, or has an escape that is read back.
-/
theorem escapedChar_cases (character : Char) :
    (escapedChar character = [character] ∧ character ≠ '"' ∧ character ≠ '\\') ∨
      (∃ letter, escapedChar character = ['\\', letter] ∧ letter ≠ 'u' ∧
        Tree.simpleEscape? letter = some character) ∨
      (escapedChar character = ['\\', 'u', '0', '0',
          Hex.digit (character.toNat / 16), Hex.digit (character.toNat % 16)] ∧
          character.toNat < 32) := by
  unfold escapedChar
  split_ifs with quote backslash back form line carriage tab control
  · exact .inr (.inl ⟨'"', rfl, by decide, by rw [quote]; rfl⟩)
  · exact .inr (.inl ⟨'\\', rfl, by decide, by rw [backslash]; rfl⟩)
  · exact .inr (.inl ⟨'b', rfl, by decide, by rw [back]; rfl⟩)
  · exact .inr (.inl ⟨'f', rfl, by decide, by rw [form]; rfl⟩)
  · exact .inr (.inl ⟨'n', rfl, by decide, by rw [line]; rfl⟩)
  · exact .inr (.inl ⟨'r', rfl, by decide, by rw [carriage]; rfl⟩)
  · exact .inr (.inl ⟨'t', rfl, by decide, by rw [tab]; rfl⟩)
  · exact .inr (.inr ⟨rfl, control⟩)
  · exact .inl ⟨rfl, quote, backslash⟩

theorem Text.Hex.digit_inj :
    ∀ first < 16, ∀ second < 16, digit first = digit second →
    first = second := by
  decide

theorem escapedChar_append_inj
    {first second : Char}
    {rest others : List Char}
    (same : escapedChar first ++ rest = escapedChar second ++ others) :
    first = second ∧ rest = others := by
  rcases escapedChar_cases first with
      ⟨spelled, notQuote, notBackslash⟩ | ⟨letter, spelled, short,
        read⟩ | ⟨spelled, control⟩ <;>
    rcases escapedChar_cases second with
        ⟨other, otherQuote, otherBackslash⟩ | ⟨letter', other, otherShort,
          otherRead⟩ |
        ⟨other, otherControl⟩ <;>
    rw [spelled, other] at same <;>
    simp only [List.cons_append, List.nil_append, List.cons.injEq] at same
  · exact same
  · exact absurd same.1 notBackslash
  · exact absurd same.1 notBackslash
  · exact absurd same.1.symm otherBackslash
  · rcases same with ⟨_, rfl, tail⟩
    exact ⟨Option.some.inj (read.symm.trans otherRead), tail⟩
  · exact absurd same.2.1 short
  · exact absurd same.1.symm otherBackslash
  · exact absurd same.2.1.symm otherShort
  · rcases same with ⟨_, _, _, _, high, low, tail⟩
    have highs := Hex.digit_inj _ (by omega) _ (by omega) high
    have lows := Hex.digit_inj _ (by omega) _ (by omega) low
    exact ⟨Char.toNat_inj.1 (by omega), tail⟩

/-- The spelling of no character begins with a quote. -/
theorem escapedChar_ne_quote
    {character : Char}
    {rest others : List Char}
    (same : '"' :: rest = escapedChar character ++ others) : False := by
  rcases escapedChar_cases character with
      ⟨spelled, notQuote, _⟩ | ⟨letter, spelled, _⟩ | ⟨spelled, _⟩ <;>
    rw [spelled] at same <;>
    simp only [List.cons_append, List.cons.injEq] at same
  · exact notQuote same.1.symm
  · exact absurd same.1 (by decide)
  · exact absurd same.1 (by decide)

theorem textChars_append_inj
    {first second : String}
    {rest others : List Char}
    (same : textChars first ++ rest = textChars second ++ others) :
    first = second ∧ rest = others := by
  have quoted (characters more : List Char)
      (same : characters.flatMap escapedChar ++ '"' :: rest =
        more.flatMap escapedChar ++ '"' :: others) : characters = more ∧
            rest = others := by
    induction characters generalizing more with
    | nil =>
        cases more with
        | nil => exact ⟨rfl, (List.cons.inj same).2⟩
        | cons head tail =>
            rw [List.flatMap_cons, List.append_assoc] at same
            exact (escapedChar_ne_quote same).elim
    | cons head tail ih =>
        cases more with
        | nil =>
            rw [List.flatMap_cons, List.append_assoc] at same
            exact (escapedChar_ne_quote same.symm).elim
        | cons head' tail' =>
            rw [List.flatMap_cons, List.flatMap_cons, List.append_assoc,
              List.append_assoc] at same
            rcases escapedChar_append_inj same with ⟨rfl, left⟩
            rcases ih tail' left with ⟨rfl, tail⟩
            exact ⟨rfl, tail⟩
  simp only [textChars, List.cons_append, List.append_assoc, List.cons.injEq,
    true_and] at same
  rcases quoted _ _ same with ⟨characters, tail⟩
  exact ⟨String.toList_inj.1 characters, tail⟩

/-! ## Values with whole numbers -/

namespace Json.Value

mutual

/-- Whether every number of a value is whole. -/
def isWhole : Value → Bool
  | .number (.real _) => false
  | .array items => itemsWhole items
  | .object members => membersWhole members
  | _ => true

/-- Whether every number of a sequence of values is whole. -/
def itemsWhole : List Value → Bool
  | [] => true
  | item :: rest => isWhole item && itemsWhole rest

/-- Whether every number of a sequence of members is whole. -/
def membersWhole : List (String × Value) → Bool
  | [] => true
  | (_, value) :: rest => isWhole value && membersWhole rest

end

/-- A character for the kind of a value. -/
def sign : Value → Char
  | .null => 'n'
  | .bool _ => 't'
  | .number _ => '0'
  | .text _ => '"'
  | .array _ => '['
  | .object _ => '\x7b'

/-- The sign of the values whose form begins with a character. -/
def signOf (character : Char) : Char :=
  if character.isDigit = true ∨ character = '-' then '0'
  else if character = 'f' then 't'
  else character

theorem chars_eq_cons
    {value : Value}
    (whole : value.isWhole = true) :
    ∃ head rest, chars value = head :: rest ∧ signOf head = sign value := by
  cases value with
  | null => exact ⟨'n', _, rfl, rfl⟩
  | bool truth => cases truth <;> exact ⟨_, _, rfl, rfl⟩
  | number number =>
      cases number with
      | whole number =>
          rcases ofInt_eq_cons number with ⟨head, rest, spelled, first⟩
          exact ⟨head, rest, spelled, if_pos first⟩
      | real number => exact absurd whole (by simp [isWhole])
  | text value => exact ⟨'"', _, rfl, rfl⟩
  | array items => exact ⟨'[', _, rfl, rfl⟩
  | object members => exact ⟨'\x7b', _, rfl, rfl⟩

/-- Values with the same beginning are of one kind. -/
theorem sign_eq
    {first second : Value}
    (whole : first.isWhole = true)
    (other : second.isWhole = true)
    {rest others : List Char}
    (same : chars first ++ rest = chars second ++ others) :
    sign first = sign second := by
  rcases chars_eq_cons whole with ⟨head, tail, spelled, begins⟩
  rcases chars_eq_cons other with ⟨head', tail', spelled', begins'⟩
  rw [spelled, spelled'] at same
  rw [← begins, ← begins', (List.cons.inj same).1]

/-- No value begins as a sequence or an object ends. -/
theorem chars_append_ne
    {value : Value}
    (whole : value.isWhole = true)
    {head : Char}
    {rest others : List Char}
    (closes : head = ']' ∨ head = '\x7d') :
    chars value ++ rest ≠ head :: others := by
  intro same
  rcases chars_eq_cons whole with ⟨first, tail, spelled, begins⟩
  rw [spelled] at same
  rw [(List.cons.inj same).1] at begins
  have opens : sign value ≠ ']' ∧ sign value ≠ '\x7d' := by
    cases value <;> simp [sign]
  rcases closes with rfl | rfl
  · exact opens.1 begins.symm
  · exact opens.2 begins.symm

/-- Further items or members do not begin with a digit. -/
theorem ends_itemsChars
    (items : List Value)
    (rest : List Char) : Ends (itemsChars false items ++ rest) := by
  cases items <;> exact ends_cons (by decide)

theorem ends_membersChars
    (members : List (String × Value))
    (rest : List Char) :
    Ends (membersChars false members ++ rest) := by
  cases members <;> exact ends_cons (by decide)

mutual

/--
Two forms of whole values that begin one text are of one value and leave one
rest.
-/
theorem chars_append_inj
    {first second : Value}
    (whole : first.isWhole = true)
    (other : second.isWhole = true)
    {rest others : List Char}
    (ends : Ends rest)
    (apart : Ends others)
    (same : chars first ++ rest = chars second ++ others) :
    first = second ∧ rest = others := by
  -- The first character tells the kind, so only values of one kind are left to
  -- compare.
  have kinds := sign_eq whole other same
  cases first <;> cases second <;> simp [sign] at kinds
  case null.null => exact ⟨rfl, List.append_cancel_left same⟩
  case bool.bool truth truth' =>
    cases truth <;> cases truth' <;>
      simp only [chars, List.cons_append, List.nil_append,
        List.cons.injEq] at same
    · exact ⟨rfl, same.2.2.2.2.2⟩
    · exact absurd same.1 (by decide)
    · exact absurd same.1 (by decide)
    · exact ⟨rfl, same.2.2.2.2⟩
  case number.number number number' =>
    cases number <;> cases number' <;>
      simp only [isWhole, Bool.false_eq_true] at whole other
    case whole.whole =>
      rcases ofInt_append_inj ends apart same with ⟨rfl, tail⟩
      exact ⟨rfl, tail⟩
  case text.text =>
    rcases textChars_append_inj same with ⟨rfl, tail⟩
    exact ⟨rfl, tail⟩
  case array.array =>
    rcases itemsChars_append_inj whole other (List.cons.inj same).2 with
      ⟨rfl, tail⟩
    exact ⟨rfl, tail⟩
  case object.object =>
    rcases membersChars_append_inj whole other (List.cons.inj same).2 with
      ⟨rfl, tail⟩
    exact ⟨rfl, tail⟩

theorem itemsChars_append_inj
    {start : Bool}
    {first second : List Value}
    (whole : itemsWhole first = true)
    (other : itemsWhole second = true)
    {rest others : List Char}
    (same : itemsChars start first ++ rest = itemsChars start second ++
        others) :
    first = second ∧ rest = others := by
  cases first with
  | nil =>
      cases second with
      | nil => exact ⟨rfl, by simpa [itemsChars] using same⟩
      | cons item items =>
          simp only [itemsWhole, Bool.and_eq_true] at other
          cases start
          · simp [itemsChars] at same
          · simp only [itemsChars, List.append_assoc, List.cons_append,
              List.nil_append] at same
            exact absurd same.symm (chars_append_ne other.1 (.inl rfl))
  | cons item items =>
      simp only [itemsWhole, Bool.and_eq_true] at whole
      cases second with
      | nil =>
          cases start
          · simp [itemsChars] at same
          · simp only [itemsChars, List.append_assoc, List.cons_append,
              List.nil_append] at same
            exact absurd same (chars_append_ne whole.1 (.inl rfl))
      | cons item' items' =>
          simp only [itemsWhole, Bool.and_eq_true] at other
          have spelled : chars item ++ (itemsChars false items ++ rest) =
              chars item' ++ (itemsChars false items' ++ others) := by
            cases start <;> simpa [itemsChars] using same
          rcases chars_append_inj whole.1 other.1 (ends_itemsChars _ _)
            (ends_itemsChars _ _) spelled with ⟨rfl, tails⟩
          rcases itemsChars_append_inj whole.2 other.2 tails with ⟨rfl, tail⟩
          exact ⟨rfl, tail⟩

theorem membersChars_append_inj
    {start : Bool}
    {first second : List (String × Value)}
    (whole : membersWhole first = true)
    (other : membersWhole second = true)
    {rest others : List Char}
    (same : membersChars start first ++ rest = membersChars start second ++
        others) :
    first = second ∧ rest = others := by
  cases first with
  | nil =>
      cases second with
      | nil => exact ⟨rfl, by simpa [membersChars] using same⟩
      | cons entry entries =>
          cases start <;> simp [membersChars, textChars] at same
  | cons entry entries =>
      cases second with
      | nil => cases start <;> simp [membersChars, textChars] at same
      | cons entry' entries' =>
          rcases entry with ⟨key, value⟩
          rcases entry' with ⟨key', value'⟩
          simp only [membersWhole, Bool.and_eq_true] at whole other
          have spelled :
              textChars key ++ ':' ::
                (chars value ++ (membersChars false entries ++ rest)) =
                textChars key' ++
                  ':' ::
                      (chars value' ++
                        (membersChars false entries' ++ others)) := by
            cases start <;> simpa [membersChars] using same
          rcases textChars_append_inj spelled with ⟨rfl, values⟩
          rcases chars_append_inj whole.1 other.1 (ends_membersChars _ _)
            (ends_membersChars _ _) (List.cons.inj values).2 with ⟨rfl, tails⟩
          rcases membersChars_append_inj whole.2 other.2 tails with ⟨rfl, tail⟩
          exact ⟨rfl, tail⟩

end

/-- Values with whole numbers have different compact texts. -/
theorem compact_inj
    {first second : Value}
    (whole : first.isWhole = true)
    (other : second.isWhole = true)
    (same : compact first = compact second) : first = second := by
  have ended : Ends [] := fun _ absent => nomatch absent
  refine (chars_append_inj whole other ended ended ?_).1
  rw [List.append_nil, List.append_nil]
  exact String.ofList_inj.1 same

end Json.Value

/-! ## Bytes -/

namespace Text

theorem Hex.text_inj {first second : List UInt8} :
    text first = text second ↔ first = second := by
  refine ⟨fun same => ?_, congrArg text⟩
  have digits : first.flatMap byte = second.flatMap byte :=
    String.ofList_inj.1 same
  clear same
  induction first generalizing second with
  | nil =>
      cases second with
      | nil => rfl
      | cons other others => simp [byte] at digits
  | cons head tail ih =>
      cases second with
      | nil => simp [byte] at digits
      | cons other others =>
          simp only [List.flatMap_cons, byte, List.cons_append, List.nil_append,
            List.cons.injEq] at digits
          rcases digits with ⟨high, low, later⟩
          have bound := head.toNat_lt
          have bounded := other.toNat_lt
          have highs := digit_inj _ (by omega) _ (by omega) high
          have lows := digit_inj _ (by omega) _ (by omega) low
          rw [UInt8.toNat_inj.1 (by omega : head.toNat = other.toNat), ih later]

theorem Utf8.encode_eq (text : String) :
    encode text = text.toByteArray.data.toList := by
  have read (bytes : ByteArray) (index : Nat) (done : List UInt8) :
      ByteArray.toList.loop bytes index done = done.reverse ++
          bytes.data.toList.drop index := by
    fun_induction ByteArray.toList.loop bytes index done with
    | case1 index done inside ih =>
        have next : bytes.get! index = bytes.data.toList.get ⟨index, inside⟩ :=
          getElem!_pos bytes.data index inside
        rw [ih, List.drop_eq_getElem_cons inside, next, List.reverse_cons,
          List.append_assoc]
        rfl
    | case2 index done outside =>
        rw [List.drop_eq_nil_of_le (Nat.le_of_not_lt outside), List.append_nil]
  exact read text.toByteArray 0 []

theorem Utf8.encode_inj {first second : String} :
    encode first = encode second ↔ first = second := by
  rw [encode_eq, encode_eq, Array.toList_inj]
  exact ⟨fun same => String.toByteArray_inj.1 (ByteArray.ext same),
    fun same => same ▸ rfl⟩

namespace Base64

theorem digitValue?_digit :
    ∀ value < 64, digitValue? (digit value) = some value := by decide

theorem digit_ne_pad : ∀ value < 64, digit value ≠ '=' := by decide

/-- Bytes are read back from their text. -/
theorem decode?_encode (bytes : List UInt8) :
    decode? (encode bytes) = some bytes := by
  rw [decode?, encode, String.toList_ofList]
  fun_induction encodeChars bytes with
  | case1 => rfl
  | case2 first =>
      have bound := first.toNat_lt
      have high : first.toNat / 4 * 4 + first.toNat % 4 * 16 / 16 =
        first.toNat := by omega
      have hidden : first.toNat % 4 * 16 % 16 = 0 := by omega
      rw [decodeChars?, digitValue?_digit _ (by omega),
        digitValue?_digit _ (by omega)]
      simp only [Option.bind_eq_bind, Option.bind_some, hidden, if_true, high,
        UInt8.ofNat_toNat]
  | case3 first second =>
      have bound := first.toNat_lt
      have bounded := second.toNat_lt
      have high :
        first.toNat / 4 * 4 + (first.toNat % 4 * 16 + second.toNat / 16) / 16 =
          first.toNat := by omega
      have low : (first.toNat % 4 * 16 + second.toNat / 16) % 16 * 16 +
        second.toNat % 16 * 4 / 4 =
          second.toNat := by omega
      have hidden : second.toNat % 16 * 4 % 4 = 0 := by omega
      rw [decodeChars?.eq_3 _ _ _ (digit_ne_pad _ (by omega)),
        digitValue?_digit _ (by omega), digitValue?_digit _ (by omega),
        digitValue?_digit _ (by omega)]
      simp only [Option.bind_eq_bind, Option.bind_some, hidden, if_true,
        high, low, UInt8.ofNat_toNat]
  | case4 first second third rest ih =>
      have bound := first.toNat_lt
      have bounded := second.toNat_lt
      have limited := third.toNat_lt
      have high :
        first.toNat / 4 * 4 + (first.toNat % 4 * 16 + second.toNat / 16) / 16 =
          first.toNat := by omega
      have middle : (first.toNat % 4 * 16 + second.toNat / 16) % 16 * 16 +
          (second.toNat % 16 * 4 + third.toNat / 64) / 4 = second.toNat :=
            by omega
      have low : (second.toNat % 16 * 4 + third.toNat / 64) % 4 * 64 +
        third.toNat % 64 =
          third.toNat := by omega
      have last := digit_ne_pad (third.toNat % 64) (by omega)
      rw [decodeChars?.eq_4 _ _ _ _ _ (by simp [last]) (by simp [last]),
        digitValue?_digit _ (by omega), digitValue?_digit _ (by omega),
        digitValue?_digit _ (by omega), digitValue?_digit _ (by omega), ih]
      simp only [Option.bind_eq_bind, Option.bind_some, high, middle, low,
        UInt8.ofNat_toNat]

theorem encode_inj {first second : List UInt8} :
    encode first = encode second ↔ first = second := by
  refine ⟨fun same => Option.some.inj ?_, congrArg encode⟩
  rw [← decode?_encode first, same, decode?_encode]

end Base64

end Text

end HookKeeper
