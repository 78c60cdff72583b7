import HookKeeper.Text.Digits

/-!
# Instants in whole seconds

An instant is a second of universal time, counted from the start of 1970, or
the leap second that follows one.  It is written as date, time and `Z`.
Reading accepts any offset from universal time, a fraction, which is cut, and
white space between the parts.  A clock reading is finer than an instant: it
counts nanoseconds.
-/

/-! ## White space -/

namespace HookKeeper.Text

/-- Whether a character is white space. -/
def isBlank (character : Char) : Bool :=
  let code := character.toNat
  (9 ≤ code && code ≤ 13) || code == 0x20 || code == 0x85 || code == 0xA0 ||
    code == 0x1680 || (0x2000 ≤ code && code ≤ 0x200A) || code == 0x2028 ||
    code == 0x2029 || code == 0x202F || code == 0x205F || code == 0x3000

/-- A text without its leading white space. -/
def dropBlanks (characters : List Char) : List Char :=
  characters.dropWhile isBlank

end HookKeeper.Text

/-! ## Instants -/

namespace HookKeeper

open HookKeeper.Text

/-- A second of universal time. -/
structure Instant where
  /-- Seconds since the start of 1970. -/
  seconds : Int
  /-- Whether this is the leap second that follows the counted one. -/
  leap : Bool
  deriving DecidableEq, Repr

/-- A day of the calendar. -/
structure CalendarDay where
  year : Int
  month : Nat
  day : Nat
  deriving DecidableEq, Repr

namespace CalendarDay

/-- The number of days since the start of 1970, years counted from March. -/
def toDays (date : CalendarDay) : Int :=
  let year := if date.month ≤ 2 then date.year - 1 else date.year
  let era := year / 400
  let yearOfEra := year - era * 400
  let monthFromMarch : Int :=
    if date.month ≤ 2 then date.month + 9
    else (date.month : Int) - 3
  let dayOfYear := (153 * monthFromMarch + 2) / 5 + date.day - 1
  let dayOfEra := yearOfEra * 365 + yearOfEra / 4 - yearOfEra / 100 + dayOfYear
  era * 146097 + dayOfEra - 719468

def ofDays (days : Int) : CalendarDay :=
  let shifted := days + 719468
  let era := shifted / 146097
  let dayOfEra := shifted - era * 146097
  let yearOfEra :=
    (dayOfEra - dayOfEra / 1460 + dayOfEra / 36524 - dayOfEra / 146096) / 365
  let dayOfYear :=
    dayOfEra - (365 * yearOfEra + yearOfEra / 4 - yearOfEra / 100)
  let monthFromMarch := (5 * dayOfYear + 2) / 153
  let day := dayOfYear - (153 * monthFromMarch + 2) / 5 + 1
  let month :=
    if monthFromMarch < 10 then monthFromMarch + 3
    else monthFromMarch - 9
  let year := yearOfEra + era * 400
  ⟨if month ≤ 2 then year + 1 else year, month.toNat, day.toNat⟩

def isLeapYear (year : Int) : Bool :=
  year % 4 == 0 && (year % 100 != 0 || year % 400 == 0)

def daysInMonth (year : Int) (month : Nat) : Nat :=
  if month = 2 then if isLeapYear year then 29 else 28
  else if month = 4 ∨ month = 6 ∨ month = 9 ∨ month = 11 then 30
  else 31

/-- Whether a day exists in the supported range of years. -/
def isValid (date : CalendarDay) : Bool :=
  -262143 ≤ date.year && date.year ≤ 262142 && 1 ≤ date.month && date.month ≤ 12
    && 1 ≤ date.day && date.day ≤ daysInMonth date.year date.month

end CalendarDay

namespace Instant

/-- A number with at least two digits. -/
def twoDigits (value : Nat) : List Char :=
  if value < 10 then '0' :: Digits.ofNat value else Digits.ofNat value

/-- A number with at least four digits. -/
def fourDigits (value : Nat) : List Char :=
  let digits := Digits.ofNat value
  List.replicate (4 - digits.length) '0' ++ digits

/-- A year: four digits, with a sign where it lies outside of them. -/
def yearChars (year : Int) : List Char :=
  if year < 0 then '-' :: fourDigits year.natAbs
  else if 9999 < year then '+' :: Digits.ofNat year.natAbs
  else fourDigits year.natAbs

def text (instant : Instant) : String :=
  let days := instant.seconds / 86400
  let second := (instant.seconds - days * 86400).toNat
  let date := CalendarDay.ofDays days
  let shown := second % 60 + if instant.leap then 1 else 0
  String.ofList (
    yearChars date.year ++ '-' :: twoDigits date.month ++
    '-' :: twoDigits date.day ++ 'T' :: twoDigits (second / 3600) ++
    ':' :: twoDigits (second / 60 % 60) ++ ':' :: twoDigits shown ++ ['Z'])

/--
At most `most` leading digits, at least one, after white space; and the rest.
-/
def digits? (most : Nat) (characters : List Char) : Option (Nat × List Char) :=
  let trimmed := dropBlanks characters
  let found := (trimmed.take most).takeWhile Digits.isDigit
  if found.isEmpty then none
  else (Digits.value? found).map (·, trimmed.drop found.length)

/--
A year of four digits, or of any number of digits after a sign; and the rest.
-/
def year? (characters : List Char) : Option (Int × List Char) :=
  match dropBlanks characters with
  | '-' :: rest => (signed rest).map fun (value, rest) => (-(value : Int), rest)
  | '+' :: rest => (signed rest).map fun (value, rest) => ((value : Int), rest)
  | rest => (digits? 4 rest).map fun (value, rest) => ((value : Int), rest)
where
  /-- The digits after a sign. -/
  signed (rest : List Char) : Option (Nat × List Char) :=
    match rest with
    | first :: _ => if Digits.isDigit first then digits? rest.length rest
        else none
    | [] => none

/-- The rest after white space and a separator. -/
def separator?
    (expected : Char)
    (characters : List Char) : Option (List Char) :=
  match dropBlanks characters with
  | first :: rest => if first = expected then some rest else none
  | [] => none

/-- The rest after a fraction, if one follows. -/
def fraction? : List Char → Option (List Char)
  | '.' :: rest =>
      if (rest.takeWhile Digits.isDigit).isEmpty then none
      else some (rest.dropWhile Digits.isDigit)
  | rest => some rest

/-- The offset from universal time in seconds, and the rest. -/
def offset? : List Char → Option (Int × List Char)
  | 'Z' :: rest | 'z' :: rest => some (0, rest)
  | sign :: h :: hh :: rest =>
      if (sign = 'u' ∨ sign = 'U') ∧ (h = 't' ∨ h = 'T') ∧
          (hh = 'c' ∨ hh = 'C') then
        some (0, rest)
      else if sign = '+' ∨ sign = '-' ∨ sign = '\u2212' then do
        let hours ← Digits.value? [h, hh]
        let minutePart := rest.dropWhile fun next => next == ':' || isBlank next
        match minutePart with
        | m :: mm :: rest =>
            let minutes ← Digits.value? [m, mm]
            if minutes < 60 ∧ hours < 24 then
              let size : Int := hours * 3600 + minutes * 60
              some (if sign = '+' then size else -size, rest)
            else none
        | _ => none
      else none
  | _ => none

def read? (text : String) : Option Instant := do
  let (year, rest) ← year? text.toList
  let rest ← separator? '-' rest
  let (month, rest) ← digits? 2 rest
  let rest ← separator? '-' rest
  let (day, rest) ← digits? 2 rest
  let rest ←
    match rest with
    | 'T' :: rest | 't' :: rest | ' ' :: rest => some rest
    | _ => none
  let (hour, rest) ← digits? 2 rest
  let rest ← separator? ':' rest
  let (minute, rest) ← digits? 2 rest
  let rest ← separator? ':' rest
  let (second, rest) ← digits? 2 rest
  let rest ← fraction? rest
  let (offset, rest) ← offset? (dropBlanks rest)
  let date : CalendarDay := ⟨year, month, day⟩
  if date.isValid && hour < 24 && minute < 60 && second < 61
      && (dropBlanks rest).isEmpty then
    let counted := min second 59
    let seconds : Int :=
      date.toDays * 86400 + (hour * 3600 + minute * 60 + counted : Nat) - offset
    if (CalendarDay.ofDays (seconds / 86400)).isValid then
      some ⟨seconds, second == 60⟩
    else none
  else none

end Instant

/-- A clock reading: nanoseconds since the start of 1970. -/
structure Moment where
  nanoseconds : Int
  deriving DecidableEq, Repr

/-- The whole second of a clock reading. -/
def Moment.instant (moment : Moment) : Instant :=
  ⟨moment.nanoseconds / 1000000000, false⟩

end HookKeeper
