import OpticsHub.Script.Text
import Mathlib.Data.Nat.Digits.Lemmas

/-!
# Days and dates

A day is counted from the first one of 1970, and its date is that of the Gregorian calendar. A date
is written with four digits for its year, or with a sign and six for a year that has more or comes
before the year 0. It is read with or without its last parts, which are then the first month and
the first day.
-/
namespace Script

/-! ## Years -/

/-- The first day of a year. -/
def dayFromYear (year : ℤ) : ℤ :=
  365 * (year - 1970) + (year - 1969) / 4 - (year - 1901) / 100 + (year - 1601) / 400

def isLeapYear (year : ℤ) : Bool := year % 4 == 0 && (year % 100 != 0 || year % 400 == 0)

def daysInYear (year : ℤ) : ℕ := if isLeapYear year then 366 else 365

theorem dayFromYear_succ (year : ℤ) :
    dayFromYear (year + 1) = dayFromYear year + daysInYear year := by
  simp only [dayFromYear, daysInYear, isLeapYear, Bool.and_eq_true, Bool.or_eq_true, beq_iff_eq,
    bne_iff_ne]
  split <;> push_cast <;> omega

/-- The year of a day: 400 years have 146097 days, and this share of them misses the year by one
at most. -/
def yearFromDay (day : ℤ) : ℤ :=
  let year := 1970 + day * 400 / 146097
  if day < dayFromYear year then year - 1
  else if dayFromYear (year + 1) ≤ day then year + 1
  else year

theorem dayFromYear_le (day : ℤ) :
    dayFromYear (yearFromDay day) ≤ day ∧ day < dayFromYear (yearFromDay day + 1) := by
  simp only [yearFromDay]
  split_ifs with before after
  · refine ⟨?_, by simpa using before⟩
    simp only [dayFromYear] at before ⊢
    omega
  · refine ⟨after, ?_⟩
    simp only [dayFromYear] at before after ⊢
    omega
  · exact ⟨not_lt.mp before, not_le.mp after⟩

/-! ## Months -/

/-- The first day in a year of a month, which is counted from 0; the year ends where a month after
the last one would begin. -/
def monthStart (leap : Bool) (month : ℕ) : ℕ :=
  [0, 31, 59, 90, 120, 151, 181, 212, 243, 273, 304, 334].getD month 365 +
    if leap && 2 ≤ month then 1 else 0

/-- The month of a day in a year: as many months end before it. -/
def monthFromDay (leap : Bool) (inYear : ℕ) : ℕ :=
  (List.range 11).countP fun month => decide (monthStart leap (month + 1) ≤ inYear)

theorem monthStart_le : ∀ leap, ∀ inYear < monthStart leap 12,
    monthFromDay leap inYear < 12 ∧ monthStart leap (monthFromDay leap inYear) ≤ inYear ∧
      inYear < monthStart leap (monthFromDay leap inYear + 1) := by
  decide +kernel

theorem daysInYear_eq (year : ℤ) : daysInYear year = monthStart (isLeapYear year) 12 := by
  rw [daysInYear]
  cases isLeapYear year <;> rfl

/-! ## Dates -/

/-- A date, with its month and its day counted from 1. -/
structure CivilDate where
  year : ℤ
  month : ℕ
  day : ℕ
  deriving DecidableEq

namespace CivilDate

/-- The month and the day are in the calendar. -/
def isValid (date : CivilDate) : Bool :=
  let start := monthStart (isLeapYear date.year)
  1 ≤ date.month && date.month ≤ 12 && 1 ≤ date.day &&
    date.day ≤ start date.month - start (date.month - 1)

/-- The day of a date. -/
def toDay (date : CivilDate) : ℤ :=
  dayFromYear date.year + monthStart (isLeapYear date.year) (date.month - 1) + date.day - 1

/-- The date of a day. -/
def ofDay (day : ℤ) : CivilDate :=
  let year := yearFromDay day
  let inYear := (day - dayFromYear year).toNat
  let month := monthFromDay (isLeapYear year) inYear
  ⟨year, month + 1, inYear - monthStart (isLeapYear year) month + 1⟩

theorem ofDay_spec (day : ℤ) : (ofDay day).isValid = true ∧ (ofDay day).toDay = day := by
  obtain ⟨after, before⟩ := dayFromYear_le day
  rw [dayFromYear_succ, daysInYear_eq] at before
  obtain ⟨inYear, split⟩ : ∃ inYear : ℕ, day - dayFromYear (yearFromDay day) = inYear :=
    Int.eq_ofNat_of_zero_le (by omega)
  obtain ⟨last, start, stop⟩ := monthStart_le (isLeapYear (yearFromDay day)) inYear (by omega)
  have number : (day - dayFromYear (yearFromDay day)).toNat = inYear := by omega
  simp only [isValid, toDay, ofDay, number, Bool.and_eq_true, decide_eq_true_eq,
    Nat.add_sub_cancel]
  omega

theorem toDay_ofDay (day : ℤ) : (ofDay day).toDay = day := (ofDay_spec day).2

/-- The first day of a month is no later than any other. -/
theorem toDay_first_le (date : CivilDate) (valid : date.isValid = true) :
    ({ date with day := 1 } : CivilDate).toDay ≤ date.toDay := by
  simp only [isValid, Bool.and_eq_true, decide_eq_true_eq] at valid
  simp only [toDay]
  omega

end CivilDate

/-! ## Numbers of a fixed width -/

/-- Digits with zeros in front. -/
def padded (width n : ℕ) : Text :=
  List.replicate (width - (decimalText n).length) CodeUnit.zero ++ decimalText n

/-- A number of as many digits as wanted at the front of a text. -/
def takeNumber (width : ℕ) (text : Text) : Option (ℕ × Text) :=
  if (text.take width).length = width ∧ (text.take width).all CodeUnit.isDigit then
    some (decimalValue (text.take width), text.drop width)
  else none

theorem length_decimalText_le {width n : ℕ} (some : 0 < width) (small : n < 10 ^ width) :
    (decimalText n).length ≤ width := by
  rw [decimalText]
  split
  · exact some
  · rw [List.length_map, List.length_reverse]
    exact (Nat.digits_length_le_iff (by decide) n).mpr small

theorem length_padded {width n : ℕ} (some : 0 < width) (small : n < 10 ^ width) :
    (padded width n).length = width := by
  have digits := length_decimalText_le some small
  rw [padded, List.length_append, List.length_replicate]
  omega

theorem padded_digits (width n : ℕ) : ∀ unit ∈ padded width n, CodeUnit.isDigit unit = true := by
  rw [padded, List.forall_mem_append]
  refine ⟨fun unit inside => ?_, decimalText_digits n⟩
  rw [(List.mem_replicate.mp inside).2]
  decide

theorem decimalValue_padded (width n : ℕ) : decimalValue (padded width n) = n := by
  rw [padded, decimalValue_append, decimalValue_zeros, Nat.zero_mul, Nat.zero_add,
    decimalValue_decimalText]

theorem takeNumber_padded {width n : ℕ} (some : 0 < width) (small : n < 10 ^ width) (rest : Text) :
    takeNumber width (padded width n ++ rest) = Option.some (n, rest) := by
  have length := length_padded some small
  have front : (padded width n ++ rest).take width = padded width n := List.take_left' length
  have back : (padded width n ++ rest).drop width = rest := List.drop_left' length
  rw [takeNumber, front, back, if_pos ⟨length, List.all_eq_true.mpr (padded_digits width n)⟩,
    decimalValue_padded]

/-! ## Texts of dates -/

/-- The year has four digits. -/
def IsShortYear (year : ℤ) : Prop := 0 ≤ year ∧ year ≤ 9999

instance (year : ℤ) : Decidable (IsShortYear year) := inferInstanceAs (Decidable (_ ∧ _))

/-- The year as `toISOString` writes it. -/
def yearText (year : ℤ) : Text :=
  if IsShortYear year then padded 4 year.toNat
  else (if year < 0 then CodeUnit.minus else CodeUnit.plus) :: padded 6 year.natAbs

/-- What `toISOString` writes before the time. -/
def CivilDate.text (date : CivilDate) : Text :=
  yearText date.year ++
    CodeUnit.minus :: (padded 2 date.month ++ CodeUnit.minus :: padded 2 date.day)

def readYear : Text → Option (ℤ × Text)
  | [] => none
  | unit :: rest =>
    if unit = CodeUnit.plus then (takeNumber 6 rest).map fun read => ((read.1 : ℤ), read.2)
    else if unit = CodeUnit.minus then
      -- there is no year 0 with a minus
      ((takeNumber 6 rest).filter fun read => read.1 != 0).map fun read => (-(read.1 : ℤ), read.2)
    else (takeNumber 4 (unit :: rest)).map fun read => ((read.1 : ℤ), read.2)

/-- The month or the day of a date, which may be left out at the end. -/
def readPart : Text → Option (ℕ × Text)
  | [] => some (1, [])
  | unit :: rest => if unit = CodeUnit.minus then takeNumber 2 rest else none

/-- The date that `Date.parse` reads before a time. -/
def readDate (text : Text) : Option CivilDate := do
  let (year, rest) ← readYear text
  let (month, rest) ← readPart rest
  let (day, rest) ← readPart rest
  let date : CivilDate := ⟨year, month, day⟩
  if rest.isEmpty && date.isValid then some date else none

theorem readYear_yearText {year : ℤ} (small : year.natAbs < 10 ^ 6) (rest : Text) :
    readYear (yearText year ++ rest) = some (year, rest) := by
  rw [yearText]
  split_ifs with short before
  · obtain ⟨n, rfl⟩ := Int.eq_ofNat_of_zero_le short.1
    have four : n < 10 ^ 4 := by have := short.2; omega
    have read := takeNumber_padded (by decide) four rest
    have digits := padded_digits 4 n
    rw [Int.toNat_natCast]
    cases written : padded 4 n with
    | nil =>
      have length := length_padded (by decide : 0 < 4) four
      rw [written] at length
      cases length
    | cons unit units =>
      rw [written] at read digits
      have digit := digits unit List.mem_cons_self
      have unsigned (sign : CodeUnit) (foreign : CodeUnit.isDigit sign = false) : unit ≠ sign := by
        rintro rfl
        exact absurd (digit.symm.trans foreign) (by decide)
      rw [List.cons_append, readYear, if_neg (unsigned _ (by decide)),
        if_neg (unsigned _ (by decide)), ← List.cons_append, read]
      rfl
  · rw [List.cons_append, readYear, if_neg (by decide), if_pos rfl,
      takeNumber_padded (by decide) small]
    have nonzero : year.natAbs ≠ 0 := by omega
    simp only [Option.filter_some, bne_iff_ne, ne_eq, nonzero, not_false_eq_true, if_true,
      Option.map_some, Option.some.injEq, Prod.mk.injEq, and_true]
    omega
  · rw [List.cons_append, readYear, if_pos rfl, takeNumber_padded (by decide) small]
    simp only [Option.map_some, Option.some.injEq, Prod.mk.injEq, and_true]
    omega

theorem readPart_padded {n : ℕ} (small : n < 100) (rest : Text) :
    readPart (CodeUnit.minus :: (padded 2 n ++ rest)) = some (n, rest) := by
  rw [readPart, if_pos rfl]
  exact takeNumber_padded (by decide) small rest

namespace CivilDate

variable {date : CivilDate}

theorem small_of_isValid (valid : date.isValid = true) : date.month < 100 ∧ date.day < 100 := by
  have longest : ∀ leap, ∀ month ≤ 12, monthStart leap month - monthStart leap (month - 1) ≤ 31 := by
    decide
  simp only [isValid, Bool.and_eq_true, decide_eq_true_eq] at valid
  have days := longest (isLeapYear date.year) date.month valid.1.1.2
  omega

/-- A date is read as it was written. -/
theorem readDate_text (valid : date.isValid = true) (small : date.year.natAbs < 10 ^ 6) :
    readDate date.text = some date := by
  obtain ⟨month, day⟩ := small_of_isValid valid
  have last := readPart_padded day []
  rw [List.append_nil] at last
  simp [readDate, text, readYear_yearText small, readPart_padded month, last, valid]

/-- Without its day a date is read as the first of the month. -/
theorem readDate_month (valid : date.isValid = true) (small : date.year.natAbs < 10 ^ 6) :
    readDate (yearText date.year ++ CodeUnit.minus :: padded 2 date.month) =
      some { date with day := 1 } := by
  obtain ⟨month, -⟩ := small_of_isValid valid
  have last := readPart_padded month []
  rw [List.append_nil] at last
  have first : ({ date with day := 1 } : CivilDate).isValid = true := by
    simp only [isValid, Bool.and_eq_true, decide_eq_true_eq] at valid ⊢
    omega
  simp only [readDate, readYear_yearText small, Option.bind_eq_bind, Option.bind_some, last]
  simp [readPart, first]

theorem length_yearText (small : date.year.natAbs < 10 ^ 6) :
    (yearText date.year).length = if IsShortYear date.year then 4 else 7 := by
  by_cases short : IsShortYear date.year
  · rw [if_pos short, yearText, if_pos short]
    exact length_padded (by decide) (by have := short.2; omega)
  · rw [if_neg short, yearText, if_neg short, List.length_cons, length_padded (by decide) small]

theorem length_text (valid : date.isValid = true) (small : date.year.natAbs < 10 ^ 6) :
    date.text.length = if IsShortYear date.year then 10 else 13 := by
  obtain ⟨month, day⟩ := small_of_isValid valid
  have lengths : date.text.length = (yearText date.year).length + 6 := by
    simp only [text, List.length_append, List.length_cons, length_padded (by decide : 0 < 2) month,
      length_padded (by decide : 0 < 2) day]
  rw [lengths, length_yearText small]
  split <;> rfl

/-- Ten units are the whole date if the year has four digits, and else they end with the month. -/
theorem take_text (valid : date.isValid = true) (small : date.year.natAbs < 10 ^ 6) :
    date.text.take 10 =
      if IsShortYear date.year then date.text
      else yearText date.year ++ CodeUnit.minus :: padded 2 date.month := by
  obtain ⟨month, -⟩ := small_of_isValid valid
  split_ifs with short
  · refine List.take_of_length_le ?_
    rw [length_text valid small, if_pos short]
  · have length : (yearText date.year ++ CodeUnit.minus :: padded 2 date.month).length = 10 := by
      rw [List.length_append, length_yearText small, if_neg short, List.length_cons,
        length_padded (by decide) month]
    have split : date.text = (yearText date.year ++ CodeUnit.minus :: padded 2 date.month) ++
        CodeUnit.minus :: padded 2 date.day := by
      simp [text]
    rw [split]
    exact List.take_left' length

end CivilDate

/-! ## Times -/

/-- The milliseconds of a day. -/
def msPerDay : ℤ := 86400000

/-- Whether a number of milliseconds is in the range of a date. -/
def isTime (ms : ℤ) : Bool := ms.natAbs ≤ 8640000000000000

/-- The days in the range have years of at most six digits. -/
theorem year_small {day : ℤ} (inRange : isTime (day * msPerDay) = true) :
    (CivilDate.ofDay day).year.natAbs < 10 ^ 6 := by
  obtain ⟨after, before⟩ := dayFromYear_le day
  rw [isTime, decide_eq_true_eq, msPerDay] at inRange
  simp only [CivilDate.ofDay, dayFromYear] at *
  omega

/-- `Date.parse` of a date and the first time of the day. -/
def parseMidnight (date : Text) : Option ℤ :=
  ((readDate date).map fun date => date.toDay * msPerDay).filter isTime

example : (CivilDate.ofDay 20514).text = Text.ofString "2026-03-02" := by decide +kernel

example : parseMidnight "2026-03" = some 1772323200000 := by decide +kernel

end Script
