import OpticsHub.Async.Interleaving

/-!
# Calls that come after one another

A call precedes another one if it ends before that starts. Calls that do not precede each other
in either way overlap. The times are numbers of moves, so what is past does not change: a call that
is there keeps the time of its start, gets one of its end when it ends, and a move is later than
all that was before.
-/
namespace Async

open Machine

universe u v w x

variable {κ : Type w} {σ : Type u} {ε α : Type v} {η β ω : Type x}

/-- A call has ended before another one starts. -/
def Thread.Precedes (first second : Thread κ σ ε α) : Prop :=
  ∃ ended ∈ first.ended, ended < second.started

instance (first second : Thread κ σ ε α) : Decidable (first.Precedes second) :=
  inferInstanceAs (Decidable (∃ ended ∈ first.ended, ended < second.started))

/-- A call that has come so far by some number of moves. -/
structure Thread.Timed (thread : Thread κ σ ε α) (moves : ℕ) : Prop where
  started : thread.started < moves
  ended : ∀ ended, thread.ended = some ended → ended < moves
  running : thread.ended = none ↔ thread.result = none

/-- The calls have come so far by the moves that were made. -/
def Config.Timed (config : Config κ σ ε α) : Prop :=
  ∀ thread ∈ config.threads, thread.Timed config.moves

@[simp]
theorem result_continue (call : κ) (program : Program σ ε α) (started moves : ℕ) :
    (Thread.continue call program started moves).result = none ↔ program.finished = false := by
  cases program <;> simp [Thread.continue, Thread.result, Program.finished]

theorem timed_continue (call : κ) (program : Program σ ε α) {started moves : ℕ}
    (before : started ≤ moves) :
    (Thread.continue call program started moves).Timed (moves + 1) where
  started := Nat.lt_succ_of_le before
  ended time same := by
    rw [Thread.continue, Option.ite_none_right_eq_some] at same
    exact Nat.lt_succ_of_le (Nat.le_of_eq (Option.some.inj same.2).symm)
  running := by
    rw [result_continue, Thread.continue]
    cases program.finished <;> simp

section Moves

variable {program : κ → Program σ ε α} {react : σ → η → β × σ} {watch : σ → σ → ω}
  {config : Config κ σ ε α} {input : Move κ η}

/-- What a move has done to a call that was there. -/
inductive Changed (config : Config κ σ ε α) (input : Move κ η) (index : ℕ)
    (before after : Thread κ σ ε α) : Prop where
  | kept (same : after = before)
  | resumed (resumes : input = .resume index) (running : before.result = none)
      (next : after = Thread.continue before.call (before.program.next config.state)
        before.started config.moves)

/-- A call that is there after a move was there before it, or the move has started it. -/
theorem exists_changed {index : ℕ} {after : Thread κ σ ε α}
    (found : (move program react watch config input).2.threads[index]? = some after) :
    (∃ before, config.threads[index]? = some before ∧ Changed config input index before after) ∨
    ∃ call, input = .start call ∧
      after = Thread.continue call (program call) config.moves config.moves := by
  cases input with
  | start call =>
    change (config.threads ++ [_])[index]? = some after at found
    rw [List.getElem?_append] at found
    split at found
    · exact .inl ⟨after, found, .kept rfl⟩
    · exact .inr ⟨call, rfl, List.mem_singleton.mp (List.mem_of_getElem? found)⟩
  | event event => exact .inl ⟨after, found, .kept rfl⟩
  | resume moved =>
    refine .inl ?_
    by_cases open' : ∃ before, config.threads[moved]? = some before ∧ before.result = none
    · obtain ⟨before, here, running⟩ := open'
      rw [(move_resume here running).2] at found
      by_cases same : moved = index
      · subst same
        rw [List.getElem?_set_self (List.getElem?_eq_some_iff.mp here).1] at found
        exact ⟨before, here, .resumed rfl running (Option.some.inj found).symm⟩
      · rw [List.getElem?_set_ne same] at found
        exact ⟨after, found, .kept rfl⟩
    · have idle (before : Thread κ σ ε α) (here : config.threads[moved]? = some before) :
          before.result ≠ none := fun running => open' ⟨before, here, running⟩
      rw [(move_idle idle).2] at found
      exact ⟨after, found, .kept rfl⟩

/-- A call that was there is there after a move. -/
theorem exists_after {index : ℕ} {before : Thread κ σ ε α}
    (found : config.threads[index]? = some before) :
    ∃ after, (move program react watch config input).2.threads[index]? = some after ∧
      Changed config input index before after := by
  obtain ⟨after, there, -⟩ := @move_thread _ _ _ _ _ _ _ program react watch config _ _ found input
  rcases exists_changed there with ⟨before', found', changed⟩ | ⟨call, rfl, -⟩
  · obtain rfl := Option.some.inj (found.symm.trans found')
    exact ⟨after, there, changed⟩
  · refine ⟨after, there, .kept ?_⟩
    change (config.threads ++ [_])[index]? = some after at there
    rw [List.getElem?_append_left (List.getElem?_eq_some_iff.mp found).1, found] at there
    exact (Option.some.inj there).symm

variable {index : ℕ} {before after : Thread κ σ ε α}

theorem Changed.call (changed : Changed config input index before after) :
    after.call = before.call := by
  cases changed with
  | kept same => rw [same]
  | resumed _ _ next => rw [next, Thread.continue]

theorem Changed.started (changed : Changed config input index before after) :
    after.started = before.started := by
  cases changed with
  | kept same => rw [same]
  | resumed _ _ next => rw [next, Thread.continue]

/-- A call that has ended is kept. -/
theorem Changed.ended (changed : Changed config input index before after)
    (ended : before.result ≠ none) : after = before := by
  cases changed with
  | kept same => exact same
  | resumed _ running _ => exact absurd running ended

/-- Of two calls that were there, the first precedes the second after a move exactly if it did. -/
theorem Changed.precedes_iff {index' : ℕ} {before' after' : Thread κ σ ε α}
    (changed : Changed config input index before after)
    (changed' : Changed config input index' before' after') (timed : before.Timed config.moves)
    (timed' : before'.Timed config.moves) : after.Precedes after' ↔ before.Precedes before' := by
  rw [Thread.Precedes, Thread.Precedes, changed'.started]
  cases changed with
  | kept same => rw [same]
  | resumed _ running next =>
    have open' : before.ended = none := timed.running.mpr running
    have early := timed'.started
    rw [next, Thread.continue, open']
    constructor
    · rintro ⟨ended, same, less⟩
      rw [Option.mem_def, Option.ite_none_right_eq_some] at same
      obtain rfl := Option.some.inj same.2
      exact absurd less (Nat.not_lt.mpr (Nat.le_of_lt early))
    · rintro ⟨_, ⟨⟩, _⟩

/-- A call that precedes one that was there has ended before the move. -/
theorem Changed.preceding (changed : Changed config input index before after)
    (timed : before.Timed config.moves) {first : Thread κ σ ε α}
    (inside : first ∈ (move program react watch config input).2.threads)
    (precedes : first.Precedes after) : first ∈ config.threads ∧ first.Precedes before := by
  have late (call : κ) (rest : Program σ ε α) (started : ℕ) :
      ¬ (Thread.continue call rest started config.moves).Precedes after := by
    rintro ⟨ended, same, less⟩
    rw [Thread.continue, Option.mem_def, Option.ite_none_right_eq_some] at same
    rw [changed.started] at less
    obtain rfl := Option.some.inj same.2
    exact Nat.lt_asymm less timed.started
  obtain ⟨place, found⟩ := List.mem_iff_getElem?.mp inside
  rcases exists_changed found with ⟨first', here, changed'⟩ | ⟨call, -, rfl⟩
  · cases changed' with
    | kept same =>
      subst same
      refine ⟨List.mem_of_getElem? here, ?_⟩
      rwa [Thread.Precedes, changed.started] at precedes
    | resumed _ _ next =>
      rw [next] at precedes
      exact absurd precedes (late _ _ _)
  · exact absurd precedes (late _ _ _)

theorem Config.Timed.move (timed : config.Timed) :
    (Async.move program react watch config input).2.Timed := by
  intro after inside
  obtain ⟨index, found⟩ := List.mem_iff_getElem?.mp inside
  rw [move_moves]
  rcases exists_changed found with ⟨before, here, changed⟩ | ⟨call, -, rfl⟩
  · have known := timed before (List.mem_of_getElem? here)
    cases changed with
    | kept same =>
      subst same
      exact ⟨Nat.lt_succ_of_lt known.started,
        fun ended same => Nat.lt_succ_of_lt (known.ended ended same), known.running⟩
    | resumed _ _ next =>
      rw [next]
      exact timed_continue _ _ (Nat.le_of_lt known.started)
  · exact timed_continue _ _ (Nat.le_refl _)

end Moves

end Async
