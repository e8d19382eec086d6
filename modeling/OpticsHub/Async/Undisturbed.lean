import OpticsHub.Async.History

/-!
# What no call disturbs

When the calls that are under way, those that are started and the events all take steps of a
preorder, a whole run is such a step, however they interleave. What the steps keep then holds
until the end of the run, and every call that is started meanwhile can rely on it. Often it is
the last action of a call that has established it.
-/
namespace Async

open Machine Program

universe u v w x

variable {κ : Type w} {σ η γ : Type u} {ε α : Type v} {steps : σ → σ → Prop}
  {program : κ → Program σ ε α} {react : σ → η → γ × σ} {config : Config κ σ ε α}

namespace Program

variable {β : Type v} {property : σ → Prop}

/-- If a program returns a value, the action with which it returns establishes a property. -/
def Establishes (property : σ → Prop) : Program σ ε α → Prop
  | done (.ok _) => False
  | done (.error _) => True
  | act effect next => ∀ state, (∃ value, next state = done (.ok value)) ∧ property (effect state) ∨
      (next state).Establishes property

theorem establishes_atomically {action : σ → Except ε α × σ}
    (held : ∀ state value, (action state).1 = .ok value → property (action state).2) :
    Establishes property (atomically action) := by
  intro state
  cases outcome : (action state).1 with
  | ok value => exact .inl ⟨⟨value, congrArg done outcome⟩, held state value outcome⟩
  | error error =>
    refine .inr ?_
    change Establishes property (done (action state).1)
    rw [outcome]
    trivial

/-- The last part of a program establishes what the whole does. -/
theorem establishes_bind {program : Program σ ε β} {rest : β → Program σ ε α}
    (later : ∀ value, Establishes property (rest value)) :
    Establishes property (program >>= rest) := by
  induction program with
  | done result =>
    cases result with
    | ok value => exact later value
    | error error => trivial
  | act effect next ih => exact fun state => .inr (ih state)

/-- What is made of the value does not matter. -/
theorem Establishes.map {program : Program σ ε α} (establishes : Establishes property program)
    (change : α → β) : Establishes property (program >>= fun value => pure (change value)) := by
  induction program with
  | done result =>
    cases result with
    | ok value => exact establishes
    | error error => trivial
  | act effect next ih =>
    intro state
    rcases establishes state with ⟨⟨value, last⟩, held⟩ | later
    · refine .inl ⟨⟨change value, ?_⟩, held⟩
      change next state >>= _ = _
      rw [last]
      rfl
    · exact .inr (ih state later)

/-- What is left of such a program, while it has not ended, is one too. -/
theorem Establishes.after {program : Program σ ε α} (establishes : Establishes property program)
    (seen : List σ) (running : (program.after seen).finished = false) :
    Establishes property (program.after seen) := by
  induction seen generalizing program with
  | nil => exact establishes
  | cons state seen ih =>
    rw [after_cons] at running ⊢
    cases program with
    | done result =>
      rw [Program.next, after_done] at running
      cases running
    | act effect next =>
      rcases establishes state with ⟨⟨value, last⟩, -⟩ | later
      · rw [Program.next, last, after_done] at running
        cases running
      · exact ih later running

/-- The action with which such a program returns has established the property. -/
theorem Establishes.returns {program : Program σ ε α} (establishes : Establishes property program)
    (running : program.finished = false) {state : σ} {value : α}
    (last : program.next state = done (.ok value)) : property (program.effect state) := by
  cases program with
  | done result => cases running
  | act effect next =>
    rcases establishes state with ⟨-, held⟩ | later
    · exact held
    · rw [Program.next] at last
      rw [last] at later
      exact later.elim

end Program

/-- A call has a result when its program is at its end. -/
theorem Thread.result_eq_some {thread : Thread κ σ ε α} {result : Except ε α} :
    thread.result = some result ↔ thread.program = .done result := by
  obtain ⟨call, program, started, ended⟩ := thread
  cases program with
  | done outcome => simp [Thread.result]
  | act effect next => simp [Thread.result]

theorem Thread.finished_of_running {thread : Thread κ σ ε α} (running : thread.result = none) :
    thread.program.finished = false := by
  obtain ⟨call, program, started, ended⟩ := thread
  cases program with
  | done outcome => cases running
  | act effect next => rfl

/-- Whatever is left of the calls takes steps of a relation only. -/
def Undisturbed (steps : σ → σ → Prop) (config : Config κ σ ε α) : Prop :=
  ∀ thread ∈ config.threads, Always steps thread.program

/-- Of any program it can be said that its actions do something. -/
theorem always_any (program : Program σ ε α) : Always (fun _ _ => True) program := by
  induction program with
  | done result => exact fun _ => trivial
  | act effect next ih => exact fun _ state _ => ⟨trivial, ih state (effect state)⟩

/-- A move starts a call of such steps, if it starts one. -/
def StartsOnly (may : κ → Prop) (input : Move κ η) : Prop := ∀ call, input = .start call → may call

/-- Calls of which nothing is left, and calls of such steps, disturb nothing. -/
theorem undisturbed_of_following {past : List (Move κ η × Shown γ σ)}
    (following : Following program past config)
    (may : ∀ thread ∈ config.threads, thread.result = none → Always steps (program thread.call)) :
    Undisturbed steps config := by
  intro thread inside
  obtain ⟨index, found⟩ := List.mem_iff_getElem?.mp inside
  cases running : thread.result with
  | none =>
    rw [(following.2 index thread found).2]
    exact (may thread inside running).after _
  | some result =>
    rw [Thread.result_eq_some.mp running]
    exact fun _ => trivial

/-- Every call is where the states that it has met have brought it, in every state of a run. -/
theorem following_along (start : σ) (moves : List (Move κ η)) :
    Following program (trace (observed program react) { state := start } moves)
      (final (observed program react) { state := start } moves) := by
  have given : Along (observed program react) (fun _ _ _ => True) [] { state := start } moves :=
    along_trivial _ _ _
  exact given.invariant (Following program) (fun _ _ input following _ => following.move input)
    ⟨rfl, fun index thread found => by simp at found⟩

/-- Every call that is there after a run has started at one of its moves. -/
theorem started_along (start : σ) (moves : List (Move κ η)) :
    ∀ thread ∈ (final (observed program react) { state := start } moves).threads,
      thread.started < (final (observed program react) { state := start } moves).moves := by
  have given : Along (observed program react) (fun _ _ _ => True) [] { state := start } moves :=
    along_trivial _ _ _
  apply given.invariant fun _ config => ∀ thread ∈ config.threads, thread.started < config.moves
  · intro past config input before _ thread inside
    rw [move_moves]
    obtain ⟨index, found⟩ := List.mem_iff_getElem?.mp inside
    rcases thread_cases found with ⟨earlier, here, -, started, -⟩ | ⟨-, call, -, rfl⟩
    · exact started ▸ Nat.lt_succ_of_lt (before earlier (List.mem_of_getElem? here))
    · exact Nat.lt_succ_self config.moves
  · exact fun thread inside => by simp at inside

/-- The move with which a call returns establishes what its last action does. -/
theorem established_of_returns {property : σ → Prop} {call : κ}
    (establishes : (program call).Establishes property) {past : List (Move κ η × Shown γ σ)}
    (following : Following program past config) {index : ℕ} {thread thread' : Thread κ σ ε α}
    (found : config.threads[index]? = some thread) (named : thread.call = call)
    (running : thread.result = none)
    (found' : (observed program react config (.resume index)).2.threads[index]? = some thread')
    {value : α} (ended : thread'.result = some (.ok value)) :
    property (observed program react config (.resume index)).2.state := by
  have rest := (following.2 index thread found).2
  obtain ⟨state, threads⟩ := @move_resume _ _ _ _ _ _ _ program react (fun before _ => before)
    config index thread found running
  rw [threads, List.getElem?_set_self (List.getElem?_eq_some_iff.mp found).1] at found'
  obtain rfl := Option.some.inj found'
  have last : thread.program.next config.state = .done (.ok value) := Thread.result_eq_some.mp ended
  have open' := Thread.finished_of_running running
  subst named
  rw [state]
  exact Establishes.returns (rest ▸ establishes.after _ (rest ▸ open')) open' last

section Steps

variable (reflexive : ∀ state, steps state state)
  (aside : ∀ state event, steps state (react state event).2)

include reflexive aside

/-- A move is a step, and nothing is disturbed after it. -/
theorem Undisturbed.move (undisturbed : Undisturbed steps config) {input : Move κ η}
    (starts : StartsOnly (fun call => Always steps (program call)) input) :
    steps config.state (observed program react config input).2.state ∧
      Undisturbed steps (observed program react config input).2 := by
  rcases move_cases program react (fun before _ => before) config input with
    ⟨call, rfl, state, threads⟩ | ⟨index, call, effect, next, started, ended, rfl, found, state,
      threads⟩ | ⟨_, rfl, state, threads⟩ | ⟨event, rfl, state, threads⟩
  · refine ⟨state ▸ reflexive _, fun thread inside => ?_⟩
    rw [threads, List.mem_append, List.mem_singleton] at inside
    rcases inside with before | rfl
    · exact undisturbed thread before
    · exact starts call rfl
  · have always := undisturbed _ (List.mem_of_getElem? found)
    refine ⟨state ▸ (always.next config.state).1, fun thread inside => ?_⟩
    rw [threads] at inside
    rcases List.mem_or_eq_of_mem_set inside with before | rfl
    · exact undisturbed thread before
    · exact (always.next config.state).2
  · exact ⟨state ▸ reflexive _, fun thread inside => undisturbed thread (threads ▸ inside)⟩
  · exact ⟨state ▸ aside _ event, fun thread inside => undisturbed thread (threads ▸ inside)⟩

/-- A run is a step, and nothing is disturbed after it. -/
theorem Undisturbed.along
    (transitive : ∀ {first second third}, steps first second → steps second third →
      steps first third)
    (undisturbed : Undisturbed steps config) (moves : List (Move κ η))
    (starts : ∀ input ∈ moves, StartsOnly (fun call => Always steps (program call)) input) :
    steps config.state (final (observed program react) config moves).state ∧
      Undisturbed steps (final (observed program react) config moves) := by
  induction moves generalizing config with
  | nil => exact ⟨reflexive _, undisturbed⟩
  | cons input rest ih =>
    obtain ⟨first, kept⟩ := undisturbed.move reflexive aside (starts input List.mem_cons_self)
    obtain ⟨later, last⟩ := ih kept fun input inside => starts input (List.mem_cons_of_mem _ inside)
    exact ⟨transitive first later, last⟩

/-- What the steps keep can be relied on by every call that is started while nothing is disturbed:
if it has ended, it has answered accordingly. -/
theorem Undisturbed.answers {property : σ → Prop} {answer : κ → Except ε α → Prop}
    (transitive : ∀ {first second third}, steps first second → steps second third →
      steps first third)
    (kept : ∀ before after, steps before after → property before → property after)
    (relies : ∀ call state, property state →
      (program call).Withstands steps (fun _ _ => True) (fun result _ => answer call result) state)
    (undisturbed : Undisturbed steps config) (holds : property config.state)
    (earlier : ∀ thread ∈ config.threads, thread.started < config.moves)
    (moves : List (Move κ η))
    (starts : ∀ input ∈ moves, StartsOnly (fun call => Always steps (program call)) input) :
    ∀ thread ∈ (final (observed program react) config moves).threads,
      config.moves ≤ thread.started → ∀ result, thread.result = some result →
        answer thread.call result := by
  -- of the calls that have started before, nothing is said
  have among : Among steps (fun _ _ => True)
      (fun call started result _ => config.moves ≤ started → answer call result) config := by
    intro thread inside
    refine ((undisturbed thread inside).withstands fun _ _ _ => trivial).mono
      (fun _ _ held => held) fun _ _ _ late => ?_
    exact absurd late (Nat.not_le_of_lt (earlier thread inside))
  clear earlier
  generalize config.moves = since at among ⊢
  induction moves generalizing config with
  | nil =>
    intro thread inside late result ended
    have held := among thread inside
    rw [Thread.result_eq_some.mp ended] at held
    exact held late
  | cons input rest ih =>
    have first := starts input List.mem_cons_self
    obtain ⟨moved, still⟩ := undisturbed.move reflexive aside first
    refine ih still (kept _ _ moved holds)
      (fun input inside => starts input (List.mem_cons_of_mem _ inside)) ?_
    refine among.move reflexive transitive (fun _ _ _ _ _ held _ => held) (fun call => ?_) input moved
    exact (relies call config.state holds).mono (fun _ _ held => held) fun _ _ held _ => held

end Steps

end Async
