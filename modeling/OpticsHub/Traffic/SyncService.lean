import OpticsHub.Async.SharedJob
import OpticsHub.Hub.State
import OpticsHub.Traffic.TrafficSync

/-!
# The synchronisations of the traffic, among each other

A synchronisation is not done at once. It counts the rows, asks Cloudflare for the retention
window if there are none, asks for one day after another and writes each as it comes, and removes
old rows in the end, and the time goes on all the while. It may be asked for at any moment, by the
timer or otherwise. Whoever asks while one is under way waits for that one, so none finds what
another has only half done: the table is at rest what whole runs leave, one after another.
-/
namespace OpticsHub

open Script Async Program Machine

namespace TrafficSyncService

/-- The table and the time. -/
structure TrafficStore where
  trafficDaily : List TrafficDay := []
  now : ℤ

abbrev TrafficProgram := Program TrafficStore Failure

/-- What a synchronisation is answered by Cloudflare: the retention window, if it is told, and the
traffic of a day, if it is. -/
structure SyncCall where
  retentionSeconds : ℤ
  retentionAnswered : Bool
  answer : ℤ → Option (List HostnameBytes)

/-- What a whole run is answered, whenever it takes place. -/
def SyncRun.call (run : SyncRun) : SyncCall where
  retentionSeconds := run.retentionSeconds
  retentionAnswered := run.retentionAnswered
  answer := run.answer

namespace SyncCall

variable (call : SyncCall)

/-- The days that are asked for when the table is empty, or else again. -/
def dateList (existingDays : ℕ) (nowMs : ℤ) : List ℤ :=
  if existingDays = 0 then
    let effectiveSeconds :=
      if call.retentionAnswered then call.retentionSeconds else fallbackBackfillDays * 86400
    backfillDates nowMs effectiveSeconds pruneKeepDays
  else trailingDateList nowMs resyncTrailingDays

/-- A day that is not answered is only logged. -/
def syncOneDay (date : ℤ) : TrafficProgram Unit :=
  match call.answer date with
  | none => pure ()
  | some breakdown => step fun store => ((), { store with
      trafficDaily := upsert date (totalBytes breakdown) store.trafficDaily })

def syncDays : List ℤ → TrafficProgram Unit
  | [] => pure ()
  | date :: rest => do
    call.syncOneDay date
    syncDays rest

/-- The time is read before the rows are removed. -/
def pruneOldRows : TrafficProgram Unit := do
  let nowMs ← look TrafficStore.now
  step fun store => ((), { store with
    trafficDaily := TrafficSyncService.pruneOldRows nowMs store.trafficDaily })

def runSync : TrafficProgram Unit := do
  let existingDays ← look fun store => store.trafficDaily.length
  let nowMs ← look TrafficStore.now
  call.syncDays (call.dateList existingDays nowMs)
  pruneOldRows

/-- One run at a time, whoever asks. -/
def sync : Program (Shared TrafficStore) Failure (Answer Failure Unit) :=
  shared (fun _ => none) (fun _ => ()) fun _ => call.runSync

end SyncCall

/-- The time goes on. -/
def TrafficStore.passes (store : TrafficStore) (ms : ℕ) : Unit × TrafficStore :=
  ((), { store with now := store.now + ms })

/-- Synchronisations that are asked for at any moment. -/
abbrev syncService :
    Transition (Config SyncCall (Shared TrafficStore) Failure (Answer Failure Unit))
      (Move SyncCall ℕ) (Shown Unit (Shared TrafficStore)) :=
  observed SyncCall.sync (aside TrafficStore.passes)

/-! ## One synchronisation -/

/-- The time goes on, and the table stays. -/
def Waits (before after : TrafficStore) : Prop :=
  after.trafficDaily = before.trafficDaily ∧ before.now ≤ after.now

/-- The rows after some days have been synchronised. -/
def syncedRows (answer : ℤ → Option (List HostnameBytes)) (dates : List ℤ)
    (rows : List TrafficDay) : List TrafficDay :=
  dates.foldl (fun rows date => syncOneDay date (answer date) rows) rows

theorem Waits.trans {first second third : TrafficStore} (one : Waits first second)
    (other : Waits second third) : Waits first third :=
  ⟨other.1.trans one.1, one.2.trans other.2⟩

theorem withstands_syncDays (call : SyncCall) (dates : List ℤ) (store : TrafficStore) :
    (call.syncDays dates).Withstands Waits (fun _ _ => True)
      (fun outcome after => outcome = .ok () ∧
        after.trafficDaily = syncedRows call.answer dates store.trafficDaily ∧
        store.now ≤ after.now) store := by
  induction dates generalizing store with
  | nil => exact ⟨rfl, rfl, le_rfl⟩
  | cons date rest ih =>
    rw [SyncCall.syncDays, SyncCall.syncOneDay]
    cases answered : call.answer date with
    | none =>
      have same : syncedRows call.answer (date :: rest) store.trafficDaily =
          syncedRows call.answer rest store.trafficDaily := by
        rw [syncedRows, List.foldl_cons, answered]
        rfl
      rw [same]
      exact ih store
    | some breakdown =>
      intro later waits
      refine ⟨trivial, (ih _).mono (fun _ _ _ => trivial) fun outcome after held => ?_⟩
      obtain ⟨rfl, rows, time⟩ := held
      refine ⟨rfl, rows.trans ?_, waits.2.trans time⟩
      change syncedRows call.answer rest (upsert date (totalBytes breakdown) later.trafficDaily) = _
      rw [waits.1, syncedRows, syncedRows, List.foldl_cons, answered]
      rfl

/-- What the runs leave that have ended. -/
def Leaves (start : TrafficStore) (outcomes : List (SyncCall × Except Failure Unit))
    (store : TrafficStore) : Prop :=
  ∃ runs : List SyncRun, outcomes = runs.map (fun run => (run.call, .ok ())) ∧
    (final runSync ⟨start.trafficDaily, start.now⟩ runs).trafficDaily = store.trafficDaily ∧
    (final runSync ⟨start.trafficDaily, start.now⟩ runs).now ≤ store.now

theorem Leaves.waits {start store store' : TrafficStore}
    {outcomes : List (SyncCall × Except Failure Unit)} (leaves : Leaves start outcomes store)
    (waits : Waits store store') : Leaves start outcomes store' := by
  obtain ⟨runs, same, rows, time⟩ := leaves
  exact ⟨runs, same, rows.trans waits.1.symm, time.trans waits.2⟩

/-- A synchronisation leaves what one more run leaves. -/
theorem withstands_runSync {start store : TrafficStore}
    {outcomes : List (SyncCall × Except Failure Unit)} (leaves : Leaves start outcomes store)
    (call : SyncCall) :
    call.runSync.Withstands Waits (fun _ _ => True)
      (fun outcome => Leaves start (outcomes ++ [(call, outcome)])) store := by
  obtain ⟨runs, same, rows, time⟩ := leaves
  intro counted first
  refine ⟨trivial, fun listed second => ⟨trivial, ?_⟩⟩
  refine (withstands_syncDays call _ listed).bind ?_ fun error after held => by cases held.1
  rintro _ fetched ⟨-, synced, later⟩ reads third
  refine ⟨trivial, fun ended fourth => ⟨trivial, ?_⟩⟩
  -- The run of the atomic model that takes place at the times that were read.
  let before : Traffic := final runSync ⟨start.trafficDaily, start.now⟩ runs
  have found : before.trafficDaily = counted.trafficDaily := rows.trans first.1.symm
  have start' : before.now ≤ listed.now := time.trans (first.2.trans second.2)
  have pause : before.now + ((listed.now - before.now).toNat : ℤ) + ((0 : ℕ) : ℤ) = listed.now := by
    omega
  have fetching : listed.now + ((reads.now - listed.now).toNat : ℤ) = reads.now := by
    have := later.trans third.2
    omega
  let run : SyncRun := {
    pause := (listed.now - before.now).toNat
    asking := 0
    fetching := (reads.now - listed.now).toNat
    retentionSeconds := call.retentionSeconds
    retentionAnswered := call.retentionAnswered
    answer := call.answer }
  have listing : run.listed before = listed.now := pause
  have ending : run.ended before = reads.now := by
    rw [SyncRun.ended, listing]
    exact fetching
  have dates : run.dates before = call.dateList counted.trafficDaily.length listed.now := by
    rw [SyncRun.dates, SyncRun.backfillDateList, listing, found, SyncCall.dateList]
    simp only [List.length_eq_zero_iff]
    rfl
  refine ⟨runs ++ [run], by rw [same, List.map_append]; rfl, ?_, ?_⟩
  · rw [final_append]
    change (runSync before run).2.trafficDaily =
      TrafficSyncService.pruneOldRows reads.now ended.trafficDaily
    rw [runSync]
    dsimp only
    rw [ending, dates, found, fourth.1, third.1, synced, second.1]
    rfl
  · rw [final_append]
    change run.ended before ≤ ended.now
    rw [ending]
    exact fourth.2

/-! ## Whole runs -/

/-- While no synchronisation is under way, the table is what those leave that have ended. -/
theorem leaves_at_rest (start : TrafficStore) (moves : List (Move SyncCall ℕ))
    (rests : (final syncService { state := { inner := start } } moves).state.pending = none) :
    ∃ outcomes,
      (endedJobs (final syncService { state := { inner := start } } moves).threads).Perm outcomes ∧
      Leaves start outcomes
        (final syncService { state := { inner := start } } moves).state.inner := by
  have carries := @carries_of_withstands _ _ _ _ _ _ _ (fun _ : TrafficStore => none)
    (fun _ => ()) (fun (call : SyncCall) _ => call.runSync) TrafficStore.passes Waits
    (fun _ _ => True) (Leaves start) (fun _ _ => True) (fun _ => ⟨rfl, le_rfl⟩)
    (fun one other => one.trans other)
    (fun store ms => ⟨rfl, Int.le_add_of_nonneg_right (Int.natCast_nonneg ms)⟩)
    (fun _ _ _ leaves waits => leaves.waits waits) (fun _ _ _ _ _ => trivial)
    (fun _ _ _ _ => trivial) (fun _ call _ leaves _ => withstands_runSync leaves call)
  have starts : Leaves start [] start := ⟨[], rfl, rfl, le_rfl⟩
  obtain ⟨outcomes, owner, turn, held⟩ := shared_along carries starts moves
  cases owner with
  | some job => exact absurd (turn.pending.symm.trans rests) (by simp)
  | none => exact ⟨outcomes, turn.ended, held⟩

/-- However synchronisations are asked for and overlap, they take place one after another: while
none is under way, the table is what the whole runs leave of those that ran, in some order. -/
theorem refines_runSync (start : TrafficStore) (moves : List (Move SyncCall ℕ))
    (rests : (final syncService { state := { inner := start } } moves).state.pending = none) :
    ∃ runs : List SyncRun,
      (runs.map fun run => (run.call, Except.ok ())).Perm
        (endedJobs (final syncService { state := { inner := start } } moves).threads) ∧
      (final runSync ⟨start.trafficDaily, start.now⟩ runs).trafficDaily =
        (final syncService { state := { inner := start } } moves).state.inner.trafficDaily ∧
      (final runSync ⟨start.trafficDaily, start.now⟩ runs).now ≤
        (final syncService { state := { inner := start } } moves).state.inner.now := by
  obtain ⟨outcomes, ended, runs, same, rows, time⟩ := leaves_at_rest start moves rests
  exact ⟨runs, same ▸ ended.symm, rows, time⟩

/-! ## Two calls at once -/

/-- Cloudflare keeps two days and has counted nothing. -/
def quietCall : SyncCall where
  retentionSeconds := 172800
  retentionAnswered := true
  answer := fun _ => some []

/-- In the morning of the second day. -/
def secondMorning : TrafficStore where
  now := 122400000

/-- A second call comes while the first one is under way, and waits for it. -/
def overlapping : List (Move SyncCall ℕ) :=
  [.start quietCall, .resume 0, .start quietCall, .resume 1, .event 1000] ++
    List.replicate 6 (.resume 0)

/-- One run was enough for the one day that lies wholly in the window. -/
theorem refines_runSync_overlapping : ∃ runs : List SyncRun,
    (final runSync ⟨[], 122400000⟩ runs).trafficDaily = [⟨0, 0⟩] := by
  obtain ⟨runs, -, rows, -⟩ := refines_runSync secondMorning overlapping rfl
  exact ⟨runs, rows.trans rfl⟩

end TrafficSyncService

end OpticsHub
