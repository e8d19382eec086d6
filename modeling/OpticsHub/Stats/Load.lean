import OpticsHub.Stats.StatsService

/-!
# How often the figures are computed

While a computation is under way no other one starts, and after one that has succeeded none starts
for half a minute. So however many ask, the database is asked no more often than that, apart from
the computations that have failed: a failure is not kept, and whoever asks next tries again.
-/
namespace OpticsHub

open Script Async Program Machine

namespace StatsService

/-- A computation with the call that has run it, and how it ended. -/
abbrev Ended := StatsRun × Except Failure PublicStats

def succeeded (outcomes : List Ended) : ℕ := outcomes.countP fun ended => ended.2.isOk

def failed (outcomes : List Ended) : ℕ := outcomes.countP fun ended => !ended.2.isOk

theorem length_eq_succeeded_add_failed (outcomes : List Ended) :
    outcomes.length = succeeded outcomes + failed outcomes := by
  simpa [succeeded, failed] using
    List.length_eq_countP_add_countP (fun ended : Ended => ended.2.isOk) (l := outcomes)

/-- The time goes on, and what is kept stays. -/
def Elapses (before after : Statistics) : Prop :=
  before.now ≤ after.now ∧ after.cache = before.cache

/-- The time does not go back. -/
def Onward (before after : Statistics) : Prop := before.now ≤ after.now

/-- Every computation that has succeeded took its half minute: what was found last is kept until
that much time has passed for each. -/
def Kept (start : ℤ) (outcomes : List Ended) (statistics : Statistics) : Prop :=
  start ≤ statistics.now ∧ (succeeded outcomes = 0 ∨ ∃ cached, statistics.cache = some cached ∧
    start + cacheTtlMs * succeeded outcomes ≤ cached.expiresAt ∧
    cached.expiresAt ≤ statistics.now + cacheTtlMs)

/-- Every computation that has succeeded was half a minute ago or more. -/
def Spaced (start : ℤ) (outcomes : List Ended) (statistics : Statistics) : Prop :=
  start + cacheTtlMs * succeeded outcomes ≤ statistics.now

section Steps

variable {start : ℤ} {outcomes : List Ended} {statistics statistics' : Statistics}

theorem Elapses.trans {third : Statistics} (first : Elapses statistics statistics')
    (second : Elapses statistics' third) : Elapses statistics third :=
  ⟨first.1.trans second.1, second.2.trans first.2⟩

theorem Kept.elapses (kept : Kept start outcomes statistics)
    (elapses : Elapses statistics statistics') : Kept start outcomes statistics' := by
  obtain ⟨later, cache⟩ := elapses
  refine ⟨kept.1.trans later, kept.2.imp_right ?_⟩
  rintro ⟨cached, here, enough, atMost⟩
  exact ⟨cached, cache.trans here, enough, by omega⟩

theorem Spaced.onward (spaced : Spaced start outcomes statistics)
    (onward : Onward statistics statistics') : Spaced start outcomes statistics' :=
  le_trans spaced onward

/-- When nothing is kept any more, the half minutes have passed. -/
theorem Kept.spaced (kept : Kept start outcomes statistics)
    (expired : unexpired statistics = none) : Spaced start outcomes statistics := by
  rcases kept.2 with none | ⟨cached, here, enough, -⟩
  · rw [Spaced, none]
    simpa using kept.1
  · rw [unexpired, here] at expired
    have late : ¬ statistics.now < cached.expiresAt := by
      intro before
      simp [before] at expired
    exact enough.trans (Int.not_lt.mp late)

theorem Kept.failed (kept : Kept start outcomes statistics) (run : StatsRun) (failure : Failure) :
    Kept start (outcomes ++ [(run, .error failure)]) statistics := by
  have same : succeeded (outcomes ++ [(run, .error failure)]) = succeeded outcomes := by
    simp [succeeded, Except.isOk, Except.toBool]
  rw [Kept, same]
  exact kept

/-- What a computation keeps that starts when the half minutes have passed. -/
theorem Spaced.kept (spaced : Spaced start outcomes statistics) (run : StatsRun)
    (data : PublicStats) :
    Kept start (outcomes ++ [(run, .ok data)])
      { statistics with cache := some ⟨data, statistics.now + cacheTtlMs⟩ } := by
  have more : succeeded (outcomes ++ [(run, .ok data)]) = succeeded outcomes + 1 := by
    simp [succeeded, Except.isOk, Except.toBool]
  rw [Spaced] at spaced
  have positive : (0 : ℤ) ≤ cacheTtlMs * succeeded outcomes := by
    exact Int.mul_nonneg (by decide) (Int.natCast_nonneg _)
  refine ⟨by change start ≤ statistics.now; omega, .inr ⟨_, rfl, ?_, le_rfl⟩⟩
  rw [more]
  push_cast
  rw [mul_add, mul_one]
  omega

/-! ## One computation -/

/-- The questions change nothing. -/
theorem always_askAll (windowStart : ℤ) (failing : Option Query) (queries : List Query)
    (figures : Figures) :
    Always Eq (askAll windowStart failing queries figures) := by
  induction queries generalizing figures with
  | nil => exact always_pure _
  | cons query rest ih =>
    rw [askAll]
    split
    · exact always_throw _
    · exact (always_look (fun _ => rfl) _).bind fun figures => ih figures

theorem always_computeStats (version : Option Text) (run : StatsRun) (windowStart : ℤ) :
    Always Eq (computeStats version run windowStart) :=
  (always_askAll _ _ _ _).bind fun _ => always_look (fun _ => rfl) _

/-- What a computation finds holds until it keeps what it has found, whatever happens meanwhile. -/
theorem withstands_computeStats (version : Option Text) (run : StatsRun) (windowStart : ℤ)
    (kept : Kept start outcomes statistics) (spaced : Spaced start outcomes statistics) :
    (computeStats version run windowStart).Withstands Elapses Onward
      (fun _ after => Kept start outcomes after ∧ Spaced start outcomes after) statistics := by
  have quiet := always_computeStats version run windowStart
  generalize computeStats version run windowStart = program at quiet
  induction program generalizing statistics with
  | done result => exact ⟨kept, spaced⟩
  | act effect next ih =>
    intro later elapses
    obtain ⟨same, rest⟩ := quiet.next later
    rw [← same]
    exact ⟨le_rfl, ih later (kept.elapses elapses) (spaced.onward elapses.1) rest⟩

/-- A computation takes its half minute if it succeeds, and changes nothing otherwise. -/
theorem withstands_computeAndKeep (version : Option Text) (run : StatsRun) (windowStart : ℤ)
    (kept : Kept start outcomes statistics) (spaced : Spaced start outcomes statistics) :
    (computeAndKeep version run windowStart).Withstands Elapses Onward
      (fun outcome => Kept start (outcomes ++ [(run, outcome)])) statistics := by
  refine (withstands_computeStats version run windowStart kept spaced).bind ?_ ?_
  · exact fun data found held later elapses =>
      ⟨le_rfl, (held.2.onward elapses.1).kept run data⟩
  · exact fun failure found held => held.1.failed run failure

theorem elapses_happens (statistics : Statistics) (event : StatsEvent) :
    Elapses statistics (event.happens statistics).2 := by
  cases event with
  | passes ms => exact ⟨Int.le_add_of_nonneg_right (Int.natCast_nonneg ms), rfl⟩
  | changes database trafficDaily => exact ⟨le_rfl, rfl⟩

end Steps

/-! ## Whole runs -/

/-- The calls that ran a computation which failed. -/
def failures (config : Config StatsRun (Shared Statistics) Failure
    (Answer Failure PublicStats)) : ℕ :=
  failed (endedJobs config.threads)

/-- In every run, whoever asks and however often: the computations that were started are no more
than those that failed, one, and one for every half minute that has passed. -/
theorem jobs_le_of_elapsed (version : Option Text) (start : Statistics)
    (moves : List (Move StatsRun StatsEvent)) :
    ((final (statsService version) { state := { inner := start } } moves).state.jobs : ℤ) ≤
      failures (final (statsService version) { state := { inner := start } } moves) + 1 +
        ((final (statsService version) { state := { inner := start } } moves).state.inner.now -
          start.now) / cacheTtlMs := by
  have carries := @carries_of_withstands _ _ _ _ _ _ _ unexpired windowStart
    (computeAndKeep version) StatsEvent.happens Elapses Onward (Kept start.now) (Spaced start.now)
    (fun _ => ⟨le_rfl, rfl⟩) (fun first second => first.trans second) elapses_happens
    (fun _ _ _ kept elapses => kept.elapses elapses)
    (fun _ _ _ spaced moved => spaced.onward (moved.elim (fun elapses => elapses.1) id))
    (fun _ _ kept expired => kept.spaced expired)
    (fun _ run state kept expired =>
      withstands_computeAndKeep version run _ kept (kept.spaced expired))
  have starts : Kept start.now [] start := ⟨le_rfl, .inl rfl⟩
  obtain ⟨outcomes, owner, turn, held⟩ := shared_along carries starts moves
  have shares : sharing unexpired windowStart (computeAndKeep version) StatsEvent.happens =
    statsService version := rfl
  rw [shares] at turn held
  generalize final (statsService version) { state := { inner := start } } moves = config
    at turn held ⊢
  have fails : failures config = failed outcomes := turn.ended.countP_eq _
  have jobs := turn.jobs
  rw [length_eq_succeeded_add_failed] at jobs
  rw [fails, jobs]
  have ttl : cacheTtlMs = 30000 := rfl
  cases owner with
  | none =>
    rw [ttl, Option.toList_none, List.length_nil]
    push_cast
    obtain ⟨later, none | ⟨cached, -, enough, atMost⟩⟩ := held
    · rw [none]
      omega
    · rw [ttl] at enough atMost
      omega
  | some job =>
    have spaced : Spaced start.now outcomes config.state.inner := held.1
    rw [Spaced, ttl] at spaced
    rw [ttl, Option.toList_some, List.length_singleton]
    push_cast
    omega

end StatsService

end OpticsHub
