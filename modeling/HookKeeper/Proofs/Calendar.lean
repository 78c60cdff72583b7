import HookKeeper.Instant
import HookKeeper.Proofs.Spelling

/-!
# Texts of instants

A day is recovered from its year, month and day, and padded numbers from their
digits.  So the text of an instant tells which second it shows: two instants
have one text exactly when they show the same second, where a leap second that
does not end its minute shows as the second after the counted one.
-/

namespace HookKeeper

open HookKeeper.Text
open HookKeeper.Text.Digits

namespace CalendarDay

/--
Where the days of an era lie: its year and the day of that year, from March.
-/
theorem dayOfEra_bounds (dayOfEra : Int) (low : 0 ≤ dayOfEra)
    (high : dayOfEra < 146097) :
    let yearOfEra :=
      (dayOfEra - dayOfEra / 1460 + dayOfEra / 36524 - dayOfEra / 146096) / 365
    let dayOfYear :=
      dayOfEra - (365 * yearOfEra + yearOfEra / 4 - yearOfEra / 100)
    (0 ≤ yearOfEra ∧ yearOfEra < 400) ∧ 0 ≤ dayOfYear ∧ dayOfYear ≤ 366 := by
  intro yearOfEra dayOfYear
  -- a century has at least twenty-five leap days unless it is the last one
  -- begun
  have century : dayOfEra / 36524 - dayOfEra / 146096 ≤ yearOfEra / 100 := by
    rcases Int.lt_or_le (25 * (dayOfEra / 36524)) (dayOfEra / 1460) with
      late | early <;> omega
  exact ⟨⟨by omega, by omega⟩, by omega, by omega⟩

/-- The days before a date that is given by era, year and month from March. -/
theorem toDays_of_march {era yearOfEra monthFromMarch day : Int}
    (year : 0 ≤ yearOfEra ∧ yearOfEra < 400) (month : 0 ≤ monthFromMarch ∧
      monthFromMarch ≤ 11)
    (first : 1 ≤ day) :
    let calendarMonth := if monthFromMarch < 10 then monthFromMarch + 3
      else monthFromMarch - 9
    let calendarYear := yearOfEra + era * 400
    toDays ⟨if calendarMonth ≤ 2 then calendarYear + 1 else calendarYear,
        calendarMonth.toNat, day.toNat⟩ =
      era * 146097 + (yearOfEra * 365 + yearOfEra / 4 - yearOfEra / 100 +
        ((153 * monthFromMarch + 2) / 5 + day - 1)) - 719468 := by
  intro calendarMonth calendarYear
  have era_eq : calendarYear / 400 = era := by omega
  have dayEq : (day.toNat : Int) = day := Int.toNat_of_nonneg (by omega)
  by_cases spring : monthFromMarch < 10
  · have monthEq : calendarMonth = monthFromMarch + 3 := if_pos spring
    have late : ¬ calendarMonth ≤ 2 := by omega
    have later : ¬ calendarMonth.toNat ≤ 2 := by omega
    simp only [toDays, if_neg late, if_neg later, era_eq, dayEq]
    rw [show (calendarMonth.toNat : Int) - 3 = monthFromMarch by omega,
      show calendarYear - era * 400 = yearOfEra by omega]
  · have monthEq : calendarMonth = monthFromMarch - 9 := if_neg spring
    have early : calendarMonth ≤ 2 := by omega
    have earlier : calendarMonth.toNat ≤ 2 := by omega
    simp only [toDays, if_pos early, if_pos earlier, Int.add_sub_cancel,
      era_eq, dayEq]
    rw [show (calendarMonth.toNat : Int) + 9 = monthFromMarch by omega,
      show calendarYear - era * 400 = yearOfEra by omega]

/-- The days before the date of a day are the days before it. -/
theorem toDays_ofDays (days : Int) : (ofDays days).toDays = days := by
  simp only [ofDays]
  generalize eraEq : (days + 719468) / 146097 = era
  generalize dayEq : days + 719468 - era * 146097 = dayOfEra
  rcases dayOfEra_bounds dayOfEra (by omega) (by omega) with ⟨year, low, high⟩
  generalize (dayOfEra - dayOfEra / 1460 + dayOfEra / 36524 -
    dayOfEra / 146096) / 365 =
    yearOfEra at *
  generalize yearEq :
    dayOfEra - (365 * yearOfEra + yearOfEra / 4 - yearOfEra / 100) =
    dayOfYear at *
  rw [toDays_of_march year ⟨by omega, by omega⟩ (by omega)]
  omega

end CalendarDay

namespace Instant

/-! ## Padded numbers -/

theorem ofDigitChars_replicate
    (count : Nat)
    (characters : List Char) :
    Nat.ofDigitChars 10 (List.replicate count '0' ++ characters) 0 =
      Nat.ofDigitChars 10 characters 0 := by
  induction count with
  | zero => rfl
  | succ count ih => simpa [List.replicate_succ, Nat.ofDigitChars_cons] using ih

/-- Zeros before a number, then its digits. -/
def padded (zeros value : Nat) : List Char :=
  List.replicate zeros '0' ++ Digits.ofNat value

theorem twoDigits_eq (value : Nat) :
    twoDigits value = padded (if value < 10 then 1 else 0) value := by
  unfold twoDigits padded
  split <;> rfl

theorem isDigit_of_mem_padded
    {zeros value : Nat}
    {character : Char}
    (member : character ∈ padded zeros value) : character.isDigit = true := by
  rcases List.mem_append.1 member with zero | digit
  · rw [(List.mem_replicate.1 zero).2]
    rfl
  · exact isDigit_of_mem digit

theorem padded_ne_cons
    {zeros value : Nat}
    {head : Char}
    {rest others : List Char}
    (other : head.isDigit = false) :
    padded zeros value ++ rest ≠ head :: others := by
  intro same
  cases spelled : padded zeros value with
  | nil => exact Nat.toDigits_ne_nil (List.append_eq_nil_iff.1 spelled).2
  | cons first tail =>
      rw [spelled] at same
      have digit := isDigit_of_mem_padded (spelled ▸ List.mem_cons_self)
      rw [(List.cons.inj same).1, other] at digit
      exact Bool.false_ne_true digit

theorem padded_append_inj
    {zeros value more other : Nat}
    {rest others : List Char}
    (ends : Ends rest)
    (apart : Ends others)
    (same : padded zeros value ++ rest = padded more other ++ others) :
    value = other ∧ rest = others := by
  rcases append_inj_of_class (fun _ => isDigit_of_mem_padded) (fun _ =>
    isDigit_of_mem_padded) ends apart same with ⟨digits, tail⟩
  have read := congrArg (Nat.ofDigitChars 10 · 0) digits
  simp only [padded, ofDigitChars_replicate, Digits.ofNat] at read
  rw [Nat.ofDigitChars_toDigits (by decide) (by decide),
    Nat.ofDigitChars_toDigits (by decide) (by decide)] at read
  exact ⟨read, tail⟩

theorem twoDigits_append_inj
    {first second : Nat}
    {rest others : List Char}
    (ends : Ends rest)
    (apart : Ends others)
    (same : twoDigits first ++ rest = twoDigits second ++ others) :
    first = second ∧ rest = others := by
  rw [twoDigits_eq, twoDigits_eq] at same
  exact padded_append_inj ends apart same

/-- The three ways to write a year. -/
theorem yearChars_cases (year : Int) :
    (year < 0 ∧ ∃ zeros, yearChars year = '-' :: padded zeros year.natAbs) ∨
      (9999 < year ∧
        ∃ zeros, yearChars year = '+' :: padded zeros year.natAbs) ∨
      (0 ≤ year ∧ ∃ zeros, yearChars year = padded zeros year.natAbs) := by
  unfold yearChars
  split
  next before => exact .inl ⟨before, _, rfl⟩
  next since =>
    split
    next far => exact .inr (.inl ⟨far, 0, rfl⟩)
    next => exact .inr (.inr ⟨Int.not_lt.1 since, _, rfl⟩)

theorem yearChars_append_inj
    {first second : Int}
    {rest others : List Char}
    (ends : Ends rest)
    (apart : Ends others)
    (same : yearChars first ++ rest = yearChars second ++ others) :
    first = second ∧ rest = others := by
  rcases yearChars_cases first with
      ⟨sign, zeros, spelled⟩ | ⟨sign, zeros, spelled⟩ | ⟨sign, zeros,
        spelled⟩ <;>
    rcases yearChars_cases second with
      ⟨other, more, spelled'⟩ | ⟨other, more, spelled'⟩ | ⟨other, more,
        spelled'⟩ <;>
    rw [spelled, spelled'] at same
  · rcases padded_append_inj ends apart (List.cons.inj same).2 with ⟨size, tail⟩
    exact ⟨by omega, tail⟩
  · exact absurd (List.cons.inj same).1 (by decide)
  · exact absurd same.symm (padded_ne_cons (by decide))
  · exact absurd (List.cons.inj same).1 (by decide)
  · rcases padded_append_inj ends apart (List.cons.inj same).2 with ⟨size, tail⟩
    exact ⟨by omega, tail⟩
  · exact absurd same.symm (padded_ne_cons (by decide))
  · exact absurd same (padded_ne_cons (by decide))
  · exact absurd same (padded_ne_cons (by decide))
  · rcases padded_append_inj ends apart same with ⟨size, tail⟩
    exact ⟨by omega, tail⟩

/-! ## Instants -/

/-- The second that the text of an instant shows. -/
def shown (instant : Instant) : Instant :=
  if instant.leap = true ∧ instant.seconds % 60 ≠ 59 then
    ⟨instant.seconds + 1, false⟩ else instant

theorem text_shown (instant : Instant) : instant.shown.text = instant.text := by
  unfold shown
  split
  next late =>
    simp only [text, late.1, if_true, Bool.false_eq_true, if_false,
      Nat.add_zero]
    have day : (instant.seconds + 1) / 86400 = instant.seconds / 86400 :=
      by omega
    rw [day]
    have next : (instant.seconds + 1 - instant.seconds / 86400 * 86400).toNat =
        (instant.seconds - instant.seconds / 86400 * 86400).toNat + 1 :=
          by omega
    rw [next]
    generalize counted :
      (instant.seconds - instant.seconds / 86400 * 86400).toNat = second
    have hour : (second + 1) / 3600 = second / 3600 := by omega
    have minute : (second + 1) / 60 = second / 60 := by omega
    have inside : (second + 1) % 60 = second % 60 + 1 := by omega
    rw [hour, minute, inside]
  next => rfl

/--
Day, hour, minute and the second that is written tell what an instant shows.
-/
theorem shown_eq
    {first second : Instant}
    (day : first.seconds / 86400 = second.seconds / 86400)
    (hour : (first.seconds - first.seconds / 86400 * 86400).toNat / 3600 =
      (second.seconds - second.seconds / 86400 * 86400).toNat / 3600)
    (minute : (first.seconds - first.seconds / 86400 * 86400).toNat / 60 % 60 =
      (second.seconds - second.seconds / 86400 * 86400).toNat / 60 % 60)
    (written :
        ((first.seconds - first.seconds / 86400 * 86400).toNat % 60 +
          if first.leap = true then
          1 else 0) = (second.seconds - second.seconds / 86400 * 86400).toNat %
          60 + if second.leap = true then 1 else 0) :
    first.shown = second.shown := by
  rcases first with ⟨first, leap⟩
  rcases second with ⟨second, leap'⟩
  simp only at day hour minute written
  have minutes : first / 60 = second / 60 := by omega
  have inside : (first - first / 86400 * 86400).toNat % 60 =
    (first % 60).toNat := by omega
  have inside' : (second - second / 86400 * 86400).toNat % 60 =
    (second % 60).toNat := by omega
  rw [inside, inside'] at written
  cases leap <;> cases leap' <;>
    simp only [Bool.false_eq_true, if_true, if_false, Nat.add_zero] at written
  · rw [show first = second by omega]
  · have late : second % 60 ≠ 59 := by omega
    simpa [shown, late] using (by omega : first = second + 1)
  · have late : first % 60 ≠ 59 := by omega
    simpa [shown, late] using (by omega : first + 1 = second)
  · rw [show first = second by omega]

/-- Two instants have one text exactly when they show the same second. -/
theorem text_inj {first second : Instant} :
    first.text = second.text ↔ first.shown = second.shown := by
  refine ⟨fun same => ?_, fun same =>
    by rw [← text_shown first, same, text_shown]⟩
  have spelled := String.ofList_inj.1 same
  simp only [List.append_assoc, List.cons_append] at spelled
  have dash (rest : List Char) : Ends ('-' :: rest) := ends_cons (by decide)
  have colon (rest : List Char) : Ends (':' :: rest) := ends_cons (by decide)
  rcases yearChars_append_inj (dash _) (dash _) spelled with ⟨year, rest⟩
  rcases twoDigits_append_inj (dash _) (dash _) (List.cons.inj rest).2 with
    ⟨month, rest⟩
  rcases twoDigits_append_inj (ends_cons (by decide)) (ends_cons (by decide))
    (List.cons.inj rest).2 with ⟨day, rest⟩
  rcases twoDigits_append_inj (colon _) (colon _) (List.cons.inj rest).2 with
    ⟨hour, rest⟩
  rcases twoDigits_append_inj (colon _) (colon _) (List.cons.inj rest).2 with
    ⟨minute, rest⟩
  rcases twoDigits_append_inj (ends_cons (by decide)) (ends_cons (by decide))
    (List.cons.inj rest).2 with ⟨shown, _⟩
  have date : first.seconds / 86400 = second.seconds / 86400 := by
    rw [← CalendarDay.toDays_ofDays (first.seconds / 86400),
      ← CalendarDay.toDays_ofDays (second.seconds / 86400)]
    simp only [CalendarDay.toDays, year, month, day]
  exact shown_eq date hour minute shown

end Instant

end HookKeeper
