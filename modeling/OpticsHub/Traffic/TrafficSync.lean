import OpticsHub.Machine.Run
import OpticsHub.Workspaces.Validation

/-!
# The traffic of the days

The table keeps one row for a day: what its workspaces sent, as Cloudflare counted it. A run finds
the table empty and asks for every day that lies in the retention window, or it finds rows and asks
for the last three days. A day that fails is left out, and rows past the keep window are removed at
the end. A day is the number of days since the epoch, and times are milliseconds.
-/
namespace OpticsHub

open Script Machine

namespace TrafficSyncService

def reservedWorkspaceSubdomains : List Text := Validation.reservedWorkspaceSubdomains

/-- Whether the traffic of a host is that of a workspace. -/
def isWorkspaceHostname (hostname : Text) : Bool :=
  match hostname.trim.toLowerCase.splitOn CodeUnit.point with
  | [workspace, optics, run] =>
    optics == Text.ofString "optics" && run == Text.ofString "run" &&
      !reservedWorkspaceSubdomains.contains workspace
  | [_, workspace, optics, run] =>
    optics == Text.ofString "optics" && run == Text.ofString "run" &&
      !reservedWorkspaceSubdomains.contains workspace
  | _ => false

def trafficWindowDays : ℕ := 30

def retentionMarginDays : ℕ := 10

def pruneKeepDays : ℕ := trafficWindowDays + retentionMarginDays

def resyncTrailingDays : ℕ := 3

def fallbackBackfillDays : ℤ := 7

def retentionSafetyMs : ℤ := 15 * 60 * 1000

def dayMs : ℤ := 86400000

/-- The day a time lies in. -/
def dayOf (ms : ℤ) : ℤ := ms / dayMs

/-! ## The days a run asks for -/

/-- The days before today, from yesterday back. -/
def trailingDateList (nowMs : ℤ) (days : ℕ) : List ℤ :=
  (List.range days).map fun (i : ℕ) => dayOf nowMs - (i + 1)

/-- The days before today that lie wholly in the retention window. -/
def backfillDates (nowMs retentionSeconds : ℤ) (maxDays : ℕ) : List ℤ :=
  let earliestAllowedMs := nowMs - retentionSeconds * 1000 + retentionSafetyMs
  let spanDays := min (max ((retentionSeconds + 86399) / 86400) 0).toNat maxDays
  (trailingDateList nowMs spanDays).filter fun date => decide (earliestAllowedMs ≤ date * dayMs)

theorem mem_trailingDateList {nowMs : ℤ} {days : ℕ} {date : ℤ} :
    date ∈ trailingDateList nowMs days ↔ dayOf nowMs - days ≤ date ∧ date < dayOf nowMs := by
  simp only [trailingDateList, List.mem_map, List.mem_range]
  constructor
  · rintro ⟨i, before, rfl⟩
    omega
  · rintro ⟨after, before⟩
    exact ⟨(dayOf nowMs - date - 1).toNat, by omega, by omega⟩

/-- The days of a backfill have no gap: with a day it has every later one before today. -/
theorem mem_backfillDates_of_le {nowMs retentionSeconds : ℤ} {maxDays : ℕ} {first date : ℤ}
    (inside : first ∈ backfillDates nowMs retentionSeconds maxDays) (later : first ≤ date)
    (before : date < dayOf nowMs) : date ∈ backfillDates nowMs retentionSeconds maxDays := by
  rw [backfillDates, List.mem_filter, mem_trailingDateList, decide_eq_true_eq] at inside ⊢
  obtain ⟨⟨span, -⟩, allowed⟩ := inside
  exact ⟨⟨span.trans later, before⟩,
    allowed.trans (Int.mul_le_mul_of_nonneg_right later (by decide))⟩

/-! ## The table -/

/-- A row of `traffic_daily`. -/
structure TrafficDay where
  trafficDate : ℤ
  trafficBytes : ℕ
  deriving DecidableEq

/-- The bytes that were sent for a host on a day. -/
structure HostnameBytes where
  hostname : Text
  bytes : ℕ

/-- The bytes of the workspaces. -/
def totalBytes (breakdown : List HostnameBytes) : ℕ :=
  breakdown.foldl (fun total host =>
    if isWorkspaceHostname host.hostname then total + host.bytes else total) 0

/-- The day has a row. -/
def Stored (rows : List TrafficDay) (date : ℤ) : Prop := ∃ row ∈ rows, row.trafficDate = date

instance (rows : List TrafficDay) (date : ℤ) : Decidable (Stored rows date) :=
  inferInstanceAs (Decidable (∃ row ∈ rows, row.trafficDate = date))

/-- Set the bytes of a day, whether it has a row or not. -/
def upsert (date : ℤ) (bytes : ℕ) (rows : List TrafficDay) : List TrafficDay :=
  if rows.any fun row => row.trafficDate == date then
    rows.map fun row => if row.trafficDate = date then { row with trafficBytes := bytes } else row
  else rows ++ [⟨date, bytes⟩]

/-- One day: what Cloudflare answered replaces what was there. Without an answer, nothing
changes. -/
def syncOneDay (date : ℤ) (answer : Option (List HostnameBytes)) (rows : List TrafficDay) :
    List TrafficDay :=
  match answer with
  | none => rows
  | some breakdown => upsert date (totalBytes breakdown) rows

/-- Remove the rows past the keep window. -/
def pruneOldRows (nowMs : ℤ) (rows : List TrafficDay) : List TrafficDay :=
  rows.filter fun row => decide (dayOf nowMs - pruneKeepDays ≤ row.trafficDate)

theorem stored_upsert {rows : List TrafficDay} {date other : ℤ} {bytes : ℕ} :
    Stored (upsert date bytes rows) other ↔ Stored rows other ∨ other = date := by
  unfold upsert Stored
  split
  · rename_i known
    obtain ⟨row, inside, same⟩ := List.any_eq_true.mp known
    rw [beq_iff_eq] at same
    have kept : ∀ row : TrafficDay, (if row.trafficDate = date then
        { row with trafficBytes := bytes } else row).trafficDate = row.trafficDate := by
      intro row
      split <;> rfl
    constructor
    · rintro ⟨_, changed, rfl⟩
      obtain ⟨row', inside', rfl⟩ := List.mem_map.mp changed
      exact .inl ⟨row', inside', (kept row').symm⟩
    · rintro (⟨row', inside', rfl⟩ | rfl)
      · exact ⟨_, List.mem_map_of_mem inside', kept row'⟩
      · exact ⟨_, List.mem_map_of_mem inside, (kept row).trans same⟩
  · constructor
    · rintro ⟨row, inside, rfl⟩
      rcases List.mem_append.mp inside with before | last
      · exact .inl ⟨row, before, rfl⟩
      · exact .inr (by rw [List.mem_singleton.mp last])
    · rintro (⟨row, inside, rfl⟩ | rfl)
      · exact ⟨row, List.mem_append_left _ inside, rfl⟩
      · exact ⟨_, List.mem_append_right _ (List.mem_singleton_self _), rfl⟩

theorem stored_syncOneDay {rows : List TrafficDay} {date other : ℤ}
    {answer : Option (List HostnameBytes)} :
    Stored (syncOneDay date answer rows) other ↔
      Stored rows other ∨ (other = date ∧ answer.isSome) := by
  cases answer with
  | none => simp [syncOneDay]
  | some breakdown => simp [syncOneDay, stored_upsert]

theorem stored_pruneOldRows {rows : List TrafficDay} {nowMs date : ℤ} :
    Stored (pruneOldRows nowMs rows) date ↔
      Stored rows date ∧ dayOf nowMs - pruneKeepDays ≤ date := by
  unfold pruneOldRows Stored
  constructor
  · rintro ⟨row, inside, rfl⟩
    obtain ⟨before, recent⟩ := List.mem_filter.mp inside
    exact ⟨⟨row, before, rfl⟩, of_decide_eq_true recent⟩
  · rintro ⟨⟨row, inside, rfl⟩, recent⟩
    exact ⟨row, List.mem_filter.mpr ⟨inside, decide_eq_true recent⟩, rfl⟩

/-! ## Runs -/

/-- The table, and the time the last run ended. -/
structure Traffic where
  trafficDaily : List TrafficDay := []
  now : ℤ

/-- What a run meets: the pause before it, the time it takes to list its days and then to go
through them, the retention window of the zone in seconds and whether Cloudflare tells it, and the
answer for a day, if there is one. -/
structure SyncRun where
  pause : ℕ
  asking : ℕ
  fetching : ℕ
  retentionSeconds : ℤ
  retentionAnswered : Bool
  answer : ℤ → Option (List HostnameBytes)

namespace SyncRun

variable (run : SyncRun) (traffic : Traffic)

/-- The time at which a run lists its days. -/
def listed : ℤ := traffic.now + run.pause + run.asking

/-- The time at which a run removes old rows. -/
def ended : ℤ := run.listed traffic + run.fetching

/-- `backfillDateList` -/
def backfillDateList : List ℤ :=
  let effectiveSeconds :=
    if run.retentionAnswered then run.retentionSeconds else fallbackBackfillDays * 86400
  backfillDates (run.listed traffic) effectiveSeconds pruneKeepDays

/-- The days a run asks for: all there are when the table is empty, and else the last three. -/
def dates : List ℤ :=
  if traffic.trafficDaily = [] then run.backfillDateList traffic
  else trailingDateList (run.listed traffic) resyncTrailingDays

end SyncRun

/-- A call to Cloudflare for a day, and whether it was answered. -/
abbrev DayCall := ℤ × Bool

/-- A run makes its calls one after another and keeps what is answered. -/
def runSync : Transition Traffic SyncRun (List DayCall) := fun traffic run =>
  let dates := run.dates traffic
  let synced := dates.foldl (fun rows date => syncOneDay date (run.answer date) rows)
    traffic.trafficDaily
  (dates.map fun date => (date, (run.answer date).isSome),
    { trafficDaily := pruneOldRows (run.ended traffic) synced, now := run.ended traffic })

/-! ## No holes -/

/-- Every call of the run is answered. -/
def AllAnswered (traffic : Traffic) (run : SyncRun) : Prop :=
  (traffic.trafficDaily = [] → run.retentionAnswered = true) ∧
    ∀ date ∈ run.dates traffic, (run.answer date).isSome

/-- The day lies wholly in the retention window and in the keep window of the run. -/
def InWindows (traffic : Traffic) (run : SyncRun) (date : ℤ) : Prop :=
  run.listed traffic - run.retentionSeconds * 1000 ≤ date * dayMs ∧
    dayOf (run.ended traffic) - pruneKeepDays ≤ date

instance (traffic : Traffic) (run : SyncRun) (date : ℤ) : Decidable (InWindows traffic run date) :=
  inferInstanceAs (Decidable (_ ∧ _))

/-- After a run in which every call is answered, every day in the windows from the first stored
one up to the yesterday of the run has a row. -/
def NoHoles (traffic : Traffic) (run : SyncRun) : Prop :=
  AllAnswered traffic run → ∀ first date,
    Stored (runSync traffic run).2.trafficDaily first → first ≤ date →
    date < dayOf (run.listed traffic) → InWindows traffic run date →
    Stored (runSync traffic run).2.trafficDaily date

/-- An earlier run called for the day and was answered. -/
def AnsweredBefore (past : List (SyncRun × List DayCall)) (date : ℤ) : Prop :=
  ∃ event ∈ past, (date, true) ∈ event.2

/-- A run in which every call is answered comes before a day is missed: every day in the windows
that is no longer among the last three, from the first row that is kept on, was answered in an
earlier run. -/
def NothingMissed (past : List (SyncRun × List DayCall)) (traffic : Traffic) (run : SyncRun) :
    Prop :=
  AllAnswered traffic run → ∀ first date,
    Stored traffic.trafficDaily first → dayOf (run.ended traffic) - pruneKeepDays ≤ first →
    first ≤ date → date < dayOf (run.listed traffic) - resyncTrailingDays →
    InWindows traffic run date → AnsweredBefore past date

theorem stored_foldl {answer : ℤ → Option (List HostnameBytes)} {dates : List ℤ}
    {rows : List TrafficDay} {date : ℤ} :
    Stored (dates.foldl (fun rows date => syncOneDay date (answer date) rows) rows) date ↔
      Stored rows date ∨ (date ∈ dates ∧ (answer date).isSome) := by
  induction dates generalizing rows with
  | nil => simp
  | cons first rest ih =>
    rw [List.foldl_cons, ih, stored_syncOneDay, List.mem_cons, or_assoc]
    constructor
    · rintro (before | ⟨rfl, answered⟩ | ⟨inside, answered⟩)
      · exact .inl before
      · exact .inr ⟨.inl rfl, answered⟩
      · exact .inr ⟨.inr inside, answered⟩
    · rintro (before | ⟨rfl | inside, answered⟩)
      · exact .inl before
      · exact .inr (.inl ⟨rfl, answered⟩)
      · exact .inr (.inr ⟨inside, answered⟩)

/-- What a run leaves: the days it found and those it was answered, within the keep window. -/
theorem stored_runSync {traffic : Traffic} {run : SyncRun} {date : ℤ} :
    Stored (runSync traffic run).2.trafficDaily date ↔
      (Stored traffic.trafficDaily date ∨
        (date ∈ run.dates traffic ∧ (run.answer date).isSome)) ∧
      dayOf (run.ended traffic) - pruneKeepDays ≤ date := by
  rw [runSync, stored_pruneOldRows, stored_foldl]

theorem mem_calls {traffic : Traffic} {run : SyncRun} {date : ℤ} :
    (date, true) ∈ (runSync traffic run).1 ↔
      date ∈ run.dates traffic ∧ (run.answer date).isSome := by
  simp [runSync]

/-- In the keep window the table has exactly the days that were answered. -/
def Chronicle (past : List (SyncRun × List DayCall)) (traffic : Traffic) : Prop :=
  ∀ date, dayOf traffic.now - pruneKeepDays ≤ date →
    (Stored traffic.trafficDaily date ↔ AnsweredBefore past date)

theorem dayOf_le {first second : ℤ} (before : first ≤ second) : dayOf first ≤ dayOf second :=
  Int.ediv_le_ediv (by decide) before

theorem dayOf_now_le (traffic : Traffic) (run : SyncRun) :
    dayOf traffic.now ≤ dayOf (run.ended traffic) :=
  dayOf_le (by simp only [SyncRun.ended, SyncRun.listed]; omega)

theorem answeredBefore_append {past : List (SyncRun × List DayCall)}
    {event : SyncRun × List DayCall} {date : ℤ} :
    AnsweredBefore (past ++ [event]) date ↔
      AnsweredBefore past date ∨ (date, true) ∈ event.2 := by
  simp [AnsweredBefore, or_and_right, exists_or]

/-- Every run continues the chronicle. -/
theorem Chronicle.runSync {past : List (SyncRun × List DayCall)} {traffic : Traffic}
    (chronicle : Chronicle past traffic) (run : SyncRun) :
    Chronicle (past ++ [(run, (TrafficSyncService.runSync traffic run).1)])
      (TrafficSyncService.runSync traffic run).2 := by
  intro date recent
  have later := dayOf_now_le traffic run
  have recent' : dayOf (run.ended traffic) - pruneKeepDays ≤ date := recent
  rw [stored_runSync, answeredBefore_append, mem_calls, chronicle date (by omega)]
  exact and_iff_left recent'

/-- A run leaves no hole exactly when it comes before a day is missed. -/
theorem noHoles_iff {past : List (SyncRun × List DayCall)} {traffic : Traffic}
    (chronicle : Chronicle past traffic) (run : SyncRun) :
    NoHoles traffic run ↔ NothingMissed past traffic run := by
  have later := dayOf_now_le traffic run
  constructor
  · intro whole answered first date stored kept from' before windows
    have nonempty : traffic.trafficDaily ≠ [] := by
      intro empty
      obtain ⟨row, inside, -⟩ := stored
      rw [empty] at inside
      cases inside
    have after := whole answered first date (stored_runSync.mpr ⟨.inl stored, kept⟩) from'
      (by omega) windows
    rcases (stored_runSync.mp after).1 with old | ⟨listed, -⟩
    · exact (chronicle date (by have := windows.2; omega)).mp old
    · rw [SyncRun.dates, if_neg nonempty, mem_trailingDateList] at listed
      omega
  · intro missed answered first date stored from' before windows
    obtain ⟨origin, kept⟩ := stored_runSync.mp stored
    refine stored_runSync.mpr ⟨?_, windows.2⟩
    by_cases empty : traffic.trafficDaily = []
    · -- a backfill has no gap
      have inside : first ∈ run.dates traffic := by
        rcases origin with ⟨row, old, -⟩ | ⟨listed, -⟩
        · rw [empty] at old
          cases old
        · exact listed
      have listed : date ∈ run.dates traffic := by
        rw [SyncRun.dates, if_pos empty] at inside ⊢
        exact mem_backfillDates_of_le inside from' before
      exact .inr ⟨listed, answered.2 date listed⟩
    · by_cases recent : dayOf (run.listed traffic) - resyncTrailingDays ≤ date
      · have listed : date ∈ run.dates traffic := by
          rw [SyncRun.dates, if_neg empty, mem_trailingDateList]
          exact ⟨recent, before⟩
        exact .inr ⟨listed, answered.2 date listed⟩
      · have old : Stored traffic.trafficDaily first := by
          rcases origin with old | ⟨listed, -⟩
          · exact old
          · rw [SyncRun.dates, if_neg empty, mem_trailingDateList] at listed
            omega
        have answeredBefore := missed answered first date old kept from' (by omega) windows
        exact .inl ((chronicle date (by have := windows.2; omega)).mpr answeredBefore)

/-- The history has no holes after any run of a sequence exactly when every run comes before a
day is missed. -/
theorem no_holes_iff_nothing_missed (start : ℤ) (runs : List SyncRun) :
    Along runSync (fun _ => NoHoles) [] { now := start } runs ↔
      Along runSync NothingMissed [] { now := start } runs := by
  apply along_congr Chronicle
  · exact fun past traffic run chronicle => chronicle.runSync run
  · exact fun past traffic run chronicle => noHoles_iff chronicle run
  · intro date _
    simp [Stored, AnsweredBefore]

/-- A run in which everything is answered, in a zone that keeps eight days. -/
def answeredRun (pause : ℕ) : SyncRun where
  pause := pause
  asking := 0
  fetching := 0
  retentionSeconds := 691200
  retentionAnswered := true
  answer _ := some []

/-- After an outage of five days the next run fetches the last three, and two days in the
retention window are never fetched at all. -/
theorem not_no_holes_outage :
    ¬ Along runSync (fun _ => NoHoles) [] { now := 1756000000000 }
      [answeredRun 0, answeredRun 432000000] := by
  intro whole
  have answered : AllAnswered (runSync { now := 1756000000000 } (answeredRun 0)).2
      (answeredRun 432000000) := ⟨fun _ => rfl, fun _ _ => rfl⟩
  have stored := whole.2.1 answered 20323 20324 (by decide +kernel) (by decide) (by decide +kernel)
    (by decide +kernel)
  exact absurd stored (by decide +kernel)

end TrafficSyncService

end OpticsHub
