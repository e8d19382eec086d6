import OpticsHub.Async.Program
import OpticsHub.Machine.Run

/-!
# Programs that interleave

Calls arrive in any order and start programs on one shared state. A move lets one
program that is under way take its next action, starts a new call, or brings an
event from outside that changes the state at once. A configuration remembers of
every call when it started and when and how it ended, counting moves, so that
statements about calls that precede or overlap one another are statements about
the configuration reached.
-/
namespace Async

open Machine

universe u v w x

/-- A call, its program as far as it is not taken yet, and when it started and ended. -/
structure Thread (κ : Type w) (σ : Type u) (ε : Type v) (α : Type v) where
  call : κ
  program : Program σ ε α
  started : ℕ
  ended : Option ℕ := none

/-- The state, the calls made so far, and the number of moves. -/
structure Config (κ : Type w) (σ : Type u) (ε : Type v) (α : Type v) where
  state : σ
  threads : List (Thread κ σ ε α) := []
  moves : ℕ := 0

inductive Move (κ : Type w) (η : Type x) where
  | start (call : κ)
  | resume (thread : ℕ)
  | event (event : η)

/-- What a move shows: the reply to an event, and what a watcher of the state sees. -/
structure Shown (β : Type w) (ω : Type x) where
  reply : Option β := none
  watched : ω

variable {κ : Type w} {σ : Type u} {ε α : Type v} {η β ω : Type x}

/-- Whether a program is at its end. -/
def Program.finished : Program σ ε α → Bool
  | .done _ => true
  | .act _ _ => false

/-- What the next action does to the state. -/
def Program.effect : Program σ ε α → σ → σ
  | .done _, state => state
  | .act effect _, state => effect state

/-- What follows the next action. -/
def Program.next : Program σ ε α → σ → Program σ ε α
  | .done result, _ => .done result
  | .act _ next, state => next state

theorem Program.next_step_bind {β : Type v} (action : σ → β × σ) (rest : β → Program σ ε α)
    (state : σ) : (Program.step action >>= rest).next state = rest (action state).1 :=
  rfl

theorem Program.run_next (program : Program σ ε α) (state : σ) :
    (program.next state).run (program.effect state) = program.run state := by
  cases program <;> rfl

/-- What a program withstands, its rest withstands after an action. -/
theorem Program.Withstands.next {rely guarantee : σ → σ → Prop}
    {ends : Except ε α → σ → Prop} {program : Program σ ε α} {state : σ}
    (held : program.Withstands rely guarantee ends state) (reflexive : rely state state) :
    (program.next state).Withstands rely guarantee ends (program.effect state) := by
  cases program with
  | done result => exact held
  | act effect next => exact (held state reflexive).2

/-- An action whose outcome is known, at the start of a program. -/
theorem Program.next_atomically {β : Type v} {action : σ → Except ε α × σ} {state after : σ}
    {result : Except ε α} (outcome : action state = (result, after)) (rest : α → Program σ ε β) :
    (Program.atomically action >>= rest).effect state = after ∧
      (Program.atomically action >>= rest).next state = Program.done result >>= rest :=
  ⟨congrArg Prod.snd outcome,
    congrArg (fun outcome : Except ε α × σ => Program.done outcome.1 >>= rest) outcome⟩

/-- Whether a move lets a call take an action. -/
def Move.resumes : Move κ η → ℕ → Bool
  | .resume thread, index => thread == index
  | _, _ => false

/-- The result of a call that has ended. -/
def Thread.result (thread : Thread κ σ ε α) : Option (Except ε α) :=
  match thread.program with
  | .done result => some result
  | .act _ _ => none

/-- A call that has ended does nothing. -/
theorem Thread.effect_of_ended {thread : Thread κ σ ε α} (ended : thread.result ≠ none)
    (state : σ) : thread.program.effect state = state := by
  obtain ⟨call, program, started, at'⟩ := thread
  cases program with
  | done result => rfl
  | act effect next => exact absurd rfl ended

/-- A program as the rest of a call, ended if there is no more of it. -/
def Thread.continue (call : κ) (program : Program σ ε α) (started moves : ℕ) :
    Thread κ σ ε α where
  call := call
  program := program
  started := started
  ended := if program.finished then some moves else none

section Step

variable (program : κ → Program σ ε α) (react : σ → η → β × σ) (watch : σ → σ → ω)

/-- One move. A call that has ended does not move any more. -/
def move : Transition (Config κ σ ε α) (Move κ η) (Shown β ω) := fun config move =>
  match move with
  | .start call =>
    ({ watched := watch config.state config.state },
      { state := config.state
        threads := config.threads ++
          [Thread.continue call (program call) config.moves config.moves]
        moves := config.moves + 1 })
  | .resume index =>
    match config.threads[index]? with
    | some { call := call, program := .act effect next, started := started, .. } =>
      ({ watched := watch config.state (effect config.state) },
        { state := effect config.state
          threads := config.threads.set index
            (Thread.continue call (next config.state) started config.moves)
          moves := config.moves + 1 })
    | _ =>
      ({ watched := watch config.state config.state },
        { config with moves := config.moves + 1 })
  | .event event =>
    ({ reply := some (react config.state event).1
       watched := watch config.state (react config.state event).2 },
      { config with
        state := (react config.state event).2
        moves := config.moves + 1 })

variable (config : Config κ σ ε α)

/-- What a move does to the state and to the calls. -/
theorem move_cases (input : Move κ η) :
    (∃ call, input = .start call ∧
      (move program react watch config input).2.state = config.state ∧
      (move program react watch config input).2.threads = config.threads ++
        [Thread.continue call (program call) config.moves config.moves]) ∨
    (∃ index call effect next started ended,
      input = .resume index ∧
      config.threads[index]? = some ⟨call, .act effect next, started, ended⟩ ∧
      (move program react watch config input).2.state = effect config.state ∧
      (move program react watch config input).2.threads = config.threads.set index
        (Thread.continue call (next config.state) started config.moves)) ∨
    (∃ index, input = .resume index ∧
      (move program react watch config input).2.state = config.state ∧
      (move program react watch config input).2.threads = config.threads) ∨
    (∃ event, input = .event event ∧
      (move program react watch config input).2.state = (react config.state event).2 ∧
      (move program react watch config input).2.threads = config.threads) := by
  cases input with
  | start call => exact .inl ⟨call, rfl, rfl, rfl⟩
  | event event => exact .inr (.inr (.inr ⟨event, rfl, rfl, rfl⟩))
  | resume index =>
    refine .inr ?_
    rw [move]
    split
    · rename_i call effect next started ended found
      exact .inl ⟨index, call, effect, next, started, ended, rfl, found, rfl, rfl⟩
    · exact .inr (.inl ⟨index, rfl, rfl, rfl⟩)

variable {program react watch config}

@[simp]
theorem move_moves (input : Move κ η) :
    (move program react watch config input).2.moves = config.moves + 1 := by
  cases input with
  | start call => rfl
  | event event => rfl
  | resume index =>
    rw [move]
    split <;> rfl

@[simp]
theorem move_watched (input : Move κ η) :
    (move program react watch config input).1.watched =
      watch config.state (move program react watch config input).2.state := by
  cases input with
  | start call => rfl
  | event event => rfl
  | resume index =>
    rw [move]
    split <;> rfl

/-! ## One call at a time -/

/-- A call that has not ended takes its next action. -/
theorem move_resume {index : ℕ} {thread : Thread κ σ ε α}
    (found : config.threads[index]? = some thread) (running : thread.result = none) :
    (move program react watch config (.resume index)).2.state =
        thread.program.effect config.state ∧
      (move program react watch config (.resume index)).2.threads = config.threads.set index
        (Thread.continue thread.call (thread.program.next config.state) thread.started
          config.moves) := by
  obtain ⟨call, rest, started, ended⟩ := thread
  cases rest with
  | done result => cases running
  | act effect next => simp only [move, found, Program.effect, Program.next, and_self]

/-- The state after the next action of a call, or of none. -/
theorem move_effect {index : ℕ} {thread : Thread κ σ ε α}
    (found : config.threads[index]? = some thread) :
    (move program react watch config (.resume index)).2.state =
      thread.program.effect config.state := by
  obtain ⟨call, rest, started, ended⟩ := thread
  cases rest <;> simp only [move, found, Program.effect]

/-- A call that has ended, or is not there, does nothing. -/
theorem move_idle {index : ℕ}
    (idle : ∀ thread, config.threads[index]? = some thread → thread.result ≠ none) :
    (move program react watch config (.resume index)).2.state = config.state ∧
      (move program react watch config (.resume index)).2.threads = config.threads := by
  rw [move]
  split
  · rename_i found
    exact absurd rfl (idle _ found)
  · exact ⟨rfl, rfl⟩

/-- A call that is there after a move was there before it, and has taken its next action or
nothing, or the move has started it. -/
theorem thread_cases {input : Move κ η} {index : ℕ} {thread : Thread κ σ ε α}
    (found : (move program react watch config input).2.threads[index]? = some thread) :
    (∃ before, config.threads[index]? = some before ∧ thread.call = before.call ∧
      thread.started = before.started ∧ thread.program =
        if input.resumes index then before.program.next config.state else before.program) ∨
    (index = config.threads.length ∧ ∃ call, input = .start call ∧
      thread = Thread.continue call (program call) config.moves config.moves) := by
  cases input with
  | start call =>
    change (config.threads ++ [_])[index]? = some thread at found
    rw [List.getElem?_append] at found
    split at found
    · exact .inl ⟨thread, found, rfl, rfl, rfl⟩
    · rename_i outside
      have inside := (List.getElem?_eq_some_iff.mp found).1
      rw [List.length_singleton] at inside
      refine .inr ⟨by omega, call, rfl, ?_⟩
      exact List.mem_singleton.mp (List.mem_of_getElem? found)
  | event event => exact .inl ⟨thread, found, rfl, rfl, rfl⟩
  | resume moved =>
    refine .inl ?_
    by_cases open' : ∃ before, config.threads[moved]? = some before ∧ before.result = none
    · obtain ⟨before, here, running⟩ := open'
      rw [(move_resume here running).2] at found
      by_cases same : moved = index
      · subst same
        rw [List.getElem?_set_self (List.getElem?_eq_some_iff.mp here).1] at found
        obtain rfl := Option.some.inj found
        exact ⟨before, here, rfl, rfl, (if_pos (beq_self_eq_true moved)).symm⟩
      · rw [List.getElem?_set_ne same] at found
        exact ⟨thread, found, rfl, rfl, (if_neg (by simpa [Move.resumes] using same)).symm⟩
    · have idle (before : Thread κ σ ε α) (here : config.threads[moved]? = some before) :
          before.result ≠ none := fun running => open' ⟨before, here, running⟩
      rw [(move_idle idle).2] at found
      refine ⟨thread, found, rfl, rfl, ?_⟩
      split
      · rename_i resumed
        obtain rfl : moved = index := by simpa [Move.resumes] using resumed
        have ended := idle thread found
        obtain ⟨call, rest, started, ending⟩ := thread
        cases rest with
        | done result => rfl
        | act effect next => exact absurd rfl ended
      · rfl

/-- A call stays there. -/
theorem move_thread {index : ℕ} {thread : Thread κ σ ε α}
    (found : config.threads[index]? = some thread) (input : Move κ η) :
    ∃ after, (move program react watch config input).2.threads[index]? = some after ∧
      after.call = thread.call ∧ after.started = thread.started ∧ after.program =
        if input.resumes index then thread.program.next config.state else thread.program := by
  have before := (List.getElem?_eq_some_iff.mp found).1
  have longer : config.threads.length ≤
      (move program react watch config input).2.threads.length := by
    rcases move_cases program react watch config input with
      ⟨call, -, -, threads⟩ | ⟨index, call, effect, next, started, ended, -, -, -, threads⟩ |
        ⟨index, -, -, threads⟩ | ⟨event, -, -, threads⟩
    · rw [threads, List.length_append]
      exact Nat.le_add_right _ _
    · exact Nat.le_of_eq (by rw [threads, List.length_set])
    · exact Nat.le_of_eq (by rw [threads])
    · exact Nat.le_of_eq (by rw [threads])
  have inside := Nat.lt_of_lt_of_le before longer
  refine ⟨_, List.getElem?_eq_getElem inside, ?_⟩
  rcases thread_cases (List.getElem?_eq_getElem inside) with
    ⟨same, here, call, started, rest⟩ | ⟨last, -⟩
  · obtain rfl := Option.some.inj (found.symm.trans here)
    exact ⟨call, started, rest⟩
  · exact absurd last (Nat.ne_of_lt before)

/-- How many actions a call has taken that has started at a move. -/
def actionsTaken (past : List (Move κ η × β)) (index started : ℕ) : ℕ :=
  (past.drop started).countP fun event => event.1.resumes index

theorem actionsTaken_append {past : List (Move κ η × β)} {event : Move κ η × β}
    {index started : ℕ} (before : started ≤ past.length) :
    actionsTaken (past ++ [event]) index started =
      actionsTaken past index started + if event.1.resumes index then 1 else 0 := by
  rw [actionsTaken, List.drop_append_of_le_length before, List.countP_append,
    List.countP_singleton, actionsTaken]

/-! ## Programs that withstand each other -/

section Among

variable {rely guarantee : σ → σ → Prop} {ends : κ → ℕ → Except ε α → σ → Prop}

/-- Every call withstands the others. What must hold at its end may depend on the call
and on when it started. -/
def Among (rely guarantee : σ → σ → Prop) (ends : κ → ℕ → Except ε α → σ → Prop)
    (config : Config κ σ ε α) : Prop :=
  ∀ thread ∈ config.threads,
    (thread.program.Withstands rely guarantee (ends thread.call thread.started)) config.state

variable (program react watch) in
/-- Calls that withstand each other take guaranteed steps. -/
theorem Among.guarantees (among : Among rely guarantee ends config)
    (reflexive : ∀ state, rely state state) (input : Move κ η) :
    (move program react watch config input).2.state = config.state ∨
    guarantee config.state (move program react watch config input).2.state ∨
    ∃ event, input = .event event ∧
      (move program react watch config input).2.state = (react config.state event).2 := by
  rcases move_cases program react watch config input
    with ⟨_, -, same, -⟩ | ⟨index, call, effect, next, started, ended, -, found, moved, -⟩ |
      ⟨_, -, same, -⟩ | ⟨event, rfl, moved, -⟩
  · exact .inl same
  · have held := among _ (List.mem_of_getElem? found)
    rw [moved]
    exact .inr (.inl (held config.state (reflexive _)).1)
  · exact .inl same
  · exact .inr (.inr ⟨event, rfl, moved⟩)

/-- After a move that all can rely on, the calls still withstand each other. -/
theorem Among.move (among : Among rely guarantee ends config)
    (reflexive : ∀ state, rely state state)
    (transitive : ∀ {first second third}, rely first second → rely second third →
      rely first third)
    (stable : ∀ call started result state state', ends call started result state →
      rely state state' → ends call started result state')
    (starts : ∀ call, (program call).Withstands rely guarantee (ends call config.moves)
      config.state)
    (input : Move κ η)
    (moved : rely config.state (Async.move program react watch config input).2.state) :
    Among rely guarantee ends (Async.move program react watch config input).2 := by
  have others : ∀ thread ∈ config.threads, thread.program.Withstands rely guarantee
      (ends thread.call thread.started) (Async.move program react watch config input).2.state :=
    fun thread inside => (among thread inside).rest transitive (stable _ _) moved
  intro thread inside
  rcases move_cases program react watch config input
    with ⟨call, rfl, same, threads⟩ |
      ⟨index, call, effect, next, started, ended, rfl, found, after, threads⟩ |
      ⟨_, rfl, -, threads⟩ | ⟨event, rfl, -, threads⟩
  · rw [threads, List.mem_append, List.mem_singleton] at inside
    rcases inside with before | rfl
    · exact others thread before
    · rw [same]
      exact starts call
  · rw [threads] at inside
    rcases List.mem_or_eq_of_mem_set inside with before | rfl
    · exact others thread before
    · rw [after]
      exact (among _ (List.mem_of_getElem? found) config.state (reflexive _)).2
  · exact others thread (threads ▸ inside)
  · exact others thread (threads ▸ inside)

end Among

end Step

end Async
