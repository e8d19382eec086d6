import OpticsHub.Script.Calendar
import OpticsHub.Traffic.TrafficSync

/-!
# The dates of a backfill

A backfill asks for the days before today that lie wholly in the retention window. As many days as
the window has, rounded up, are enough: an older one begins before the window. The days are counted
back as dates, written as texts of ten units, and read again for the comparison with the window.
Years of four digits survive this, others lose the day of the month.
-/
namespace OpticsHub

open Script

namespace TrafficSyncService

/-- The days of a retention window, rounded up, but at most a number. -/
def spanDays (retentionSeconds : ℤ) (maxDays : ℕ) : ℕ :=
  min (max ((retentionSeconds + 86399) / 86400) 0).toNat maxDays

/-- `d.toISOString().slice(0, 10)` for the date of a day, unless the date is out of range. -/
def isoSlice (day : ℤ) : Option Text :=
  if isTime (day * msPerDay) then some ((CivilDate.ofDay day).text.take 10) else none

/-- `trailingDateList`, with the dates as they are written. -/
def trailingDateTexts (nowMs : ℤ) (days : ℕ) : Option (List Text) :=
  (trailingDateList nowMs days).mapM fun day => if isTime nowMs then isoSlice day else none

/-- `backfillDates`, with the dates as they are written. A product beyond the safe integers is
taken exactly here; its double is as far before every year of four digits. -/
def backfillDateTexts (nowMs retentionSeconds : ℤ) (maxDays : ℕ) : Option (List Text) := do
  let earliestAllowedMs := nowMs - retentionSeconds * 1000 + retentionSafetyMs
  let dates ← trailingDateTexts nowMs (spanDays retentionSeconds maxDays)
  return dates.filter fun date =>
    (parseMidnight date).any fun ms => decide (earliestAllowedMs ≤ ms)

/-! ## Days -/

/-- The day is among the last before today and begins in the retention window. -/
structure IsRetained (nowMs : ℤ) (retentionSeconds maxDays : ℕ) (day : ℤ) : Prop where
  recent : dayOf nowMs - maxDays ≤ day
  past : day < dayOf nowMs
  allowed : nowMs - retentionSeconds * 1000 + retentionSafetyMs ≤ day * msPerDay

/-- The days of a backfill are exactly those that are retained. -/
theorem mem_backfillDates_iff {nowMs : ℤ} {retentionSeconds maxDays : ℕ} {day : ℤ} :
    day ∈ backfillDates nowMs retentionSeconds maxDays ↔
      IsRetained nowMs retentionSeconds maxDays day := by
  rw [backfillDates, List.mem_filter, mem_trailingDateList, decide_eq_true_eq]
  constructor
  · rintro ⟨⟨recent, past⟩, allowed⟩
    exact ⟨by omega, past, allowed⟩
  · rintro ⟨recent, past, allowed⟩
    refine ⟨⟨?_, past⟩, allowed⟩
    -- a day that begins in the window is no further back than the window is long
    simp only [dayOf, dayMs, msPerDay, retentionSafetyMs] at *
    omega

theorem sorted_backfillDates (nowMs retentionSeconds : ℤ) (maxDays : ℕ) :
    (backfillDates nowMs retentionSeconds maxDays).Pairwise (· > ·) := by
  refine List.Pairwise.filter _ ?_
  rw [trailingDateList, List.pairwise_map]
  exact List.pairwise_lt_range.imp fun before => by omega

/-! ## Dates as texts -/

theorem mapM_eq_some_iff {α β : Type} {read : α → Option β} {inputs : List α} {outputs : List β} :
    inputs.mapM read = some outputs ↔ inputs.map read = outputs.map some := by
  induction inputs generalizing outputs with
  | nil => cases outputs <;> simp
  | cons input inputs ih =>
    simp only [List.mapM_cons, List.map_cons, Option.bind_eq_bind, Option.bind_eq_some_iff,
      Option.pure_def, Option.some.injEq]
    constructor
    · rintro ⟨output, first, rest, others, rfl⟩
      rw [List.map_cons, first, ih.mp others]
    · intro same
      cases outputs with
      | nil => cases same
      | cons output outputs =>
        obtain ⟨first, others⟩ := List.cons.inj same
        exact ⟨output, first, outputs, ih.mpr others, rfl⟩

/-- The dates of all days that are counted back are in range. -/
def SpanInRange (nowMs : ℤ) (days : ℕ) : Prop :=
  ∀ day, dayOf nowMs - days ≤ day → day < dayOf nowMs →
    isTime nowMs = true ∧ isTime (day * msPerDay) = true

/-- The first ten units of the date of a day. -/
def slicedDate (day : ℤ) : Text := (CivilDate.ofDay day).text.take 10

theorem trailingDateTexts_eq_some_iff {nowMs : ℤ} {days : ℕ} {dates : List Text} :
    trailingDateTexts nowMs days = some dates ↔
      SpanInRange nowMs days ∧ (trailingDateList nowMs days).map slicedDate = dates := by
  rw [trailingDateTexts, mapM_eq_some_iff]
  have read (inRange : SpanInRange nowMs days) :
      (trailingDateList nowMs days).map (fun day => if isTime nowMs then isoSlice day else none) =
        ((trailingDateList nowMs days).map slicedDate).map some := by
    rw [List.map_map]
    refine List.map_congr_left fun day inside => ?_
    obtain ⟨recent, past⟩ := mem_trailingDateList.mp inside
    obtain ⟨now, there⟩ := inRange day recent past
    rw [if_pos now, isoSlice, if_pos there]
    rfl
  constructor
  · intro same
    have inRange : SpanInRange nowMs days := by
      intro day recent past
      have inside := List.mem_map_of_mem (f := fun day => if isTime nowMs then isoSlice day else none)
        (mem_trailingDateList.mpr ⟨recent, past⟩)
      rw [same] at inside
      obtain ⟨date, -, some⟩ := List.mem_map.mp inside
      by_cases now : isTime nowMs = true
      · rw [if_pos now, isoSlice] at some
        split at some
        · rename_i there
          exact ⟨now, there⟩
        · cases some
      · rw [if_neg now] at some
        cases some
    rw [read inRange] at same
    exact ⟨inRange, List.map_injective_iff.mpr (Option.some_injective _) same⟩
  · rintro ⟨inRange, rfl⟩
    exact read inRange

/-! ## Texts read again -/

/-- A date is at least a millisecond bound after it was written and read again. -/
def ReadsFrom (bound day : ℤ) : Prop := (parseMidnight (slicedDate day)).any (bound ≤ ·) = true

/-- A date with a year of four digits is read as it is; no date is read as a later one. -/
theorem readsFrom_iff {bound day : ℤ} (inRange : isTime (day * msPerDay) = true)
    (short : bound ≤ day * msPerDay → IsShortYear (CivilDate.ofDay day).year) :
    ReadsFrom bound day ↔ bound ≤ day * msPerDay := by
  obtain ⟨valid, same⟩ := CivilDate.ofDay_spec day
  have small := year_small inRange
  rw [ReadsFrom, slicedDate, CivilDate.take_text valid small]
  by_cases fits : IsShortYear (CivilDate.ofDay day).year
  · rw [if_pos fits, parseMidnight, CivilDate.readDate_text valid small, Option.map_some, same,
      Option.filter_some, if_pos inRange]
    simp
  · have before : ¬ bound ≤ day * msPerDay := fun allowed => fits (short allowed)
    refine iff_of_false (fun read => ?_) before
    obtain ⟨ms, known, allowed⟩ := Option.any_eq_true _ _ |>.mp read
    rw [if_neg fits, parseMidnight, CivilDate.readDate_month valid small, Option.map_some,
      Option.filter_eq_some_iff] at known
    obtain rfl := Option.some.inj known.1
    have first := CivilDate.toDay_first_le _ valid
    rw [same] at first
    rw [decide_eq_true_eq, msPerDay] at allowed
    rw [msPerDay] at before
    omega

/-! ## The dates of a backfill -/

/-- A backfill asks for the dates of exactly the days that are retained, from the last one back. -/
def CoversRetained (nowMs : ℤ) (retentionSeconds maxDays : ℕ) : Prop :=
  ∃ days : List ℤ, backfillDateTexts nowMs retentionSeconds maxDays =
      some (days.map fun day => (CivilDate.ofDay day).text) ∧
    days.Pairwise (· > ·) ∧ ∀ day, day ∈ days ↔ IsRetained nowMs retentionSeconds maxDays day

/-- The days that are counted back are in the range of dates, and the years of those that are
retained have four digits. -/
structure InCalendar (nowMs : ℤ) (retentionSeconds maxDays : ℕ) : Prop where
  range : SpanInRange nowMs (spanDays retentionSeconds maxDays)
  short : ∀ day, IsRetained nowMs retentionSeconds maxDays day →
    IsShortYear (CivilDate.ofDay day).year

variable {nowMs : ℤ} {retentionSeconds maxDays : ℕ}

theorem backfillDateTexts_eq_some_iff {texts : List Text} :
    backfillDateTexts nowMs retentionSeconds maxDays = some texts ↔
      SpanInRange nowMs (spanDays retentionSeconds maxDays) ∧
        ((trailingDateList nowMs (spanDays retentionSeconds maxDays)).map slicedDate).filter
          (fun date => (parseMidnight date).any fun ms =>
            decide (nowMs - retentionSeconds * 1000 + retentionSafetyMs ≤ ms)) = texts := by
  simp only [backfillDateTexts, Option.bind_eq_bind, Option.bind_eq_some_iff,
    trailingDateTexts_eq_some_iff, Option.pure_def, Option.some.injEq]
  constructor
  · rintro ⟨dates, ⟨inRange, rfl⟩, same⟩
    exact ⟨inRange, same⟩
  · rintro ⟨inRange, same⟩
    exact ⟨_, ⟨inRange, rfl⟩, same⟩

/-- In the calendar the dates are those of the days of a backfill. -/
theorem backfillDateTexts_eq (inCalendar : InCalendar nowMs retentionSeconds maxDays) :
    backfillDateTexts nowMs retentionSeconds maxDays =
      some ((backfillDates nowMs retentionSeconds maxDays).map fun day =>
        (CivilDate.ofDay day).text) := by
  refine backfillDateTexts_eq_some_iff.mpr ⟨inCalendar.range, ?_⟩
  have allowed : ∀ day ∈ trailingDateList nowMs (spanDays retentionSeconds maxDays),
      ((parseMidnight (slicedDate day)).any fun ms =>
        decide (nowMs - retentionSeconds * 1000 + retentionSafetyMs ≤ ms)) =
      decide (nowMs - retentionSeconds * 1000 + retentionSafetyMs ≤ day * dayMs) := by
    intro day inside
    obtain ⟨recent, past⟩ := mem_trailingDateList.mp inside
    rw [Bool.eq_iff_iff, decide_eq_true_eq]
    refine readsFrom_iff (inCalendar.range day recent past).2 fun allowed => ?_
    refine inCalendar.short day (mem_backfillDates_iff.mp ?_)
    exact List.mem_filter.mpr ⟨inside, decide_eq_true allowed⟩
  rw [List.filter_map, backfillDates]
  have kept := List.filter_congr allowed
  refine (congrArg (List.map slicedDate) kept).trans (List.map_congr_left fun day inside => ?_)
  -- the years of the days that are left have four digits
  obtain ⟨recent, past⟩ := mem_trailingDateList.mp (List.mem_filter.mp inside).1
  have short := inCalendar.short day (mem_backfillDates_iff.mp inside)
  obtain ⟨valid, -⟩ := CivilDate.ofDay_spec day
  have small := year_small (inCalendar.range day recent past).2
  rw [slicedDate, CivilDate.take_text valid small, if_pos short]

/-- A backfill covers exactly the days that are retained if and only if they are in the
calendar. -/
theorem coversRetained_iff (nowMs : ℤ) (retentionSeconds maxDays : ℕ) :
    CoversRetained nowMs retentionSeconds maxDays ↔
      InCalendar nowMs retentionSeconds maxDays := by
  constructor
  · rintro ⟨days, made, -, members⟩
    obtain ⟨inRange, same⟩ := backfillDateTexts_eq_some_iff.mp made
    refine ⟨inRange, fun day retained => ?_⟩
    obtain ⟨valid, -⟩ := CivilDate.ofDay_spec day
    have recent := (List.mem_filter.mp (mem_backfillDates_iff.mpr retained)).1
    have small := year_small (inRange day (mem_trailingDateList.mp recent).1 retained.past).2
    have length := CivilDate.length_text valid small
    -- what is written has ten units
    have written := List.mem_map_of_mem (f := fun day => (CivilDate.ofDay day).text)
      ((members day).mpr retained)
    rw [← same] at written
    obtain ⟨other, -, sliced⟩ := List.mem_map.mp (List.mem_filter.mp written).1
    have short := List.length_take_le 10 (CivilDate.ofDay other).text
    rw [slicedDate] at sliced
    rw [sliced, length] at short
    by_contra long
    rw [if_neg long] at short
    omega
  · intro inCalendar
    exact ⟨backfillDates nowMs retentionSeconds maxDays, backfillDateTexts_eq inCalendar,
      sorted_backfillDates _ _ _, fun _ => mem_backfillDates_iff⟩

/-- On the third day of the year 10000, with a retention of eight days, what is written for the day
before is no date. -/
theorem not_coversRetained_long : ¬ CoversRetained 253402516800000 691200 40 := by
  rintro ⟨days, made, -, members⟩
  have retained : IsRetained 253402516800000 691200 40 2932898 :=
    ⟨by decide, by decide, by decide⟩
  have short : (backfillDateTexts 253402516800000 691200 40).all
      (fun texts => texts.all fun text => decide (text.length ≤ 10)) = true := by decide +kernel
  have written : (CivilDate.ofDay 2932898).text ∈ days.map fun day => (CivilDate.ofDay day).text :=
    List.mem_map_of_mem ((members _).mpr retained)
  have made' : backfillDateTexts 253402516800000 691200 40 = _ := made
  rw [made', Option.all_some, List.all_eq_true] at short
  exact absurd (of_decide_eq_true (short _ written)) (by decide +kernel)

end TrafficSyncService

end OpticsHub
