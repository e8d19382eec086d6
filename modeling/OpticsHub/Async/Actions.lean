import OpticsHub.Async.Undisturbed

/-!
# The actions a program consists of

Some writes of a program may be harmful and all the others harmless. Then a statement about the
states before and after does not tell them apart: what matters is which write it is. So here a
program is described by what its actions do, as functions on the state. Whatever is left of a
program consists of actions of the program, so what a run does is known from the programs of the
calls that are made.
-/
namespace Async

open Machine Program

universe u v w x

variable {κ : Type w} {σ η γ : Type u} {ε α β : Type v} {allowed : (σ → σ) → Prop}

namespace Program

/-- What every action does is allowed. -/
def Consists (allowed : (σ → σ) → Prop) : Program σ ε α → Prop
  | done _ => True
  | act effect next => allowed effect ∧ ∀ state, (next state).Consists allowed

theorem consists_pure (value : α) : Consists allowed (pure value : Program σ ε α) := trivial

theorem consists_throw (error : ε) : Consists allowed (throw error : Program σ ε α) := trivial

theorem consists_step {action : σ → α × σ} (held : allowed fun state => (action state).2) :
    Consists allowed (step action : Program σ ε α) :=
  ⟨held, fun _ => trivial⟩

theorem consists_atomically {action : σ → Except ε α × σ}
    (held : allowed fun state => (action state).2) : Consists allowed (atomically action) :=
  ⟨held, fun _ => trivial⟩

theorem consists_require (condition : Prop) [Decidable condition] (error : ε) :
    Consists allowed (require condition error : Program σ ε PUnit) := by
  rw [require]
  split
  · exact consists_pure _
  · exact consists_throw _

theorem consists_orThrow (value : Option α) (error : ε) :
    Consists allowed (orThrow value error : Program σ ε α) := by
  cases value with
  | none => exact consists_throw _
  | some value => exact consists_pure _

theorem Consists.bind {program : Program σ ε α} {rest : α → Program σ ε β}
    (first : Consists allowed program) (later : ∀ value, Consists allowed (rest value)) :
    Consists allowed (program >>= rest) := by
  induction program with
  | done result =>
    cases result with
    | ok value => exact later value
    | error error => trivial
  | act effect next ih => exact ⟨first.1, fun state => ih state (first.2 state)⟩

theorem Consists.tryCatch {program : Program σ ε α} {handler : ε → Program σ ε α}
    (first : Consists allowed program) (handled : ∀ error, Consists allowed (handler error)) :
    Consists allowed (tryCatch program handler) := by
  change Consists allowed (program.tryCatch handler)
  induction program with
  | done result =>
    cases result with
    | ok value => exact consists_pure value
    | error error => exact handled error
  | act effect next ih => exact ⟨first.1, fun state => ih state (first.2 state)⟩

/-- Actions that are steps wherever they are taken are allowed, if all such are. -/
theorem Always.consists {steps : σ → σ → Prop} {program : Program σ ε α}
    (always : Always steps program)
    (harmless : ∀ effect : σ → σ, (∀ state, steps state (effect state)) → allowed effect) :
    Consists allowed program := by
  induction program with
  | done result => trivial
  | act effect next ih =>
    exact ⟨harmless effect fun state => (always.next state).1,
      fun state => ih state (always.next state).2⟩

/-- If all that is allowed are steps, every action is one wherever it is taken. -/
theorem Consists.always {steps : σ → σ → Prop} {program : Program σ ε α}
    (consists : Consists (fun effect => ∀ state, steps state (effect state)) program) :
    Always steps program := by
  induction program with
  | done result => exact fun _ => trivial
  | act effect next ih =>
    exact fun _ state _ => ⟨consists.1 state, ih state (consists.2 state) _⟩

/-- On a part of a state the actions do to the part what they do. -/
theorem Consists.zoom {τ : Type w} {get : τ → σ} {put : σ → τ → τ} {allowed' : (τ → τ) → Prop}
    {program : Program σ ε α} (consists : Consists allowed program)
    (lifted : ∀ effect, allowed effect → allowed' fun whole => put (effect (get whole)) whole) :
    Consists allowed' (program.zoom get put) := by
  induction program with
  | done result => trivial
  | act effect next ih =>
    exact ⟨lifted effect consists.1, fun whole => ih (get whole) (consists.2 (get whole))⟩

/-- What is left of a program consists of some of its actions. -/
theorem Consists.after {program : Program σ ε α} (consists : Consists allowed program)
    (seen : List σ) : Consists allowed (program.after seen) := by
  induction seen generalizing program with
  | nil => exact consists
  | cons state seen ih =>
    cases program with
    | done result => exact ih consists
    | act effect next => exact ih (consists.2 state)

/-- The next action of such a program. -/
theorem Consists.effect {program : Program σ ε α} (consists : Consists allowed program)
    (running : program.finished = false) : allowed program.effect := by
  cases program with
  | done result => cases running
  | act effect next => exact consists.1

/-! ## What a program has established once it returns -/

/-- On every way to a value there is an action that establishes a property. -/
def Secures (property : σ → Prop) : Program σ ε α → Prop
  | done (.ok _) => False
  | done (.error _) => True
  | act effect next => ∀ state, property (effect state) ∨ (next state).Secures property

variable {property : σ → Prop}

theorem secures_atomically {action : σ → Except ε α × σ}
    (held : ∀ state value, (action state).1 = .ok value → property (action state).2) :
    Secures property (atomically action) := by
  intro state
  cases outcome : (action state).1 with
  | ok value => exact .inl (held state value outcome)
  | error error =>
    refine .inr ?_
    change Secures property (done (action state).1)
    rw [outcome]
    trivial

/-- A first part that does so is enough, whatever follows. -/
theorem Secures.bind {program : Program σ ε α} (secures : Secures property program)
    (rest : α → Program σ ε β) : Secures property (program >>= rest) := by
  induction program with
  | done result =>
    cases result with
    | ok value => exact secures.elim
    | error error => trivial
  | act effect next ih => exact fun state => (secures state).imp_right (ih state)

/-- A last part that does so is enough, if the first one always comes to it. -/
theorem secures_bind {may : α → Prop} {program : Program σ ε α} {rest : α → Program σ ε β}
    (returns : Heeds (fun _ _ => True) (fun _ _ _ => True) (fun value _ => may value) [] program)
    (later : ∀ value, may value → Secures property (rest value)) :
    Secures property (program >>= rest) := by
  generalize ([] : List σ) = seen at returns
  induction program generalizing seen with
  | done result =>
    cases result with
    | ok value => exact later value returns
    | error error => trivial
  | act effect next ih => exact fun state => .inr (ih state _ (returns state trivial).2)

theorem secures_after {program : Program σ ε α} {rest : α → Program σ ε β}
    (later : ∀ value, Secures property (rest value)) : Secures property (program >>= rest) :=
  secures_bind (heeds_anything (fun _ _ _ => trivial) program) fun value _ => later value

/-- On a part of a state, what is established of the part. -/
theorem Secures.zoom {τ : Type w} {get : τ → σ} {put : σ → τ → τ} {property' : τ → Prop}
    {program : Program σ ε α} (secures : Secures property program)
    (lifted : ∀ part whole, property part → property' (put part whole)) :
    Secures property' (program.zoom get put) := by
  induction program with
  | done result => cases result <;> exact secures
  | act effect next ih =>
    exact fun whole => (secures (get whole)).imp (lifted _ whole) (ih (get whole))

end Program

/-! ## Runs -/

variable {program : κ → Program σ ε α} {react : σ → η → γ × σ}

/-- In every state of a run the next action of every call is one of those of its program. -/
theorem consists_along {allowed : κ → (σ → σ) → Prop}
    (consists : ∀ call, (program call).Consists (allowed call)) {config : Config κ σ ε α}
    {past : List (Move κ η × Shown γ σ)} (following : Following program past config) {index : ℕ}
    {thread : Thread κ σ ε α} (found : config.threads[index]? = some thread)
    (running : thread.result = none) : allowed thread.call thread.program.effect := by
  have unfinished := Thread.finished_of_running running
  have here := (following.2 index thread found).2
  have rest := (consists thread.call).after (statesMet past index thread.started)
  rw [← here] at rest
  exact rest.effect unfinished

/-- The move of a run at which a call that has returned established what its program secures. -/
theorem secured_along {property : σ → Prop} {start : σ} {moves : List (Move κ η)} {index : ℕ}
    {thread : Thread κ σ ε α}
    (found : (final (observed program react) { state := start } moves).threads[index]? =
      some thread) (secures : (program thread.call).Secures property) :
    thread.program.Secures property ∨
    ∃ earlier later before, moves = earlier ++ .resume index :: later ∧
      (final (observed program react) { state := start } earlier).threads[index]? = some before ∧
      before.call = thread.call ∧ before.result = none ∧
      property (final (observed program react) { state := start }
        (earlier ++ [.resume index])).state := by
  induction moves using List.reverseRecOn generalizing thread with
  | nil => simp [final] at found
  | append_singleton moves input ih =>
    rw [final_append] at found
    rcases thread_cases found with ⟨before, here, call, -, rest⟩ | ⟨-, call, -, rfl⟩
    · rw [call] at secures ⊢
      rcases ih here secures with held | ⟨earlier, later, first, rfl, there, same, running, held⟩
      · by_cases resumed : input.resumes index = true
        · obtain rfl : input = .resume index := by
            cases input with
            | resume moved => exact congrArg Move.resume (beq_iff_eq.mp resumed)
            | start call => cases resumed
            | event event => cases resumed
          rw [if_pos resumed] at rest
          rw [rest]
          cases left : before.program with
          | done result =>
            rw [left] at held
            exact .inl held
          | act effect next =>
            have running : before.result = none := by rw [Thread.result, left]
            rw [left] at held
            rcases held (final (observed program react) { state := start } moves).state with
              established | later
            · refine .inr ⟨moves, [], before, rfl, here, rfl, running, ?_⟩
              rw [final_append]
              change property (observed program react _ (.resume index)).2.state
              rw [move_effect here, left]
              exact established
            · exact .inl later
        · rw [if_neg resumed] at rest
          rw [rest]
          exact .inl held
      · refine .inr ⟨earlier, later ++ [input], first, ?_, there, same, running, held⟩
        rw [List.append_assoc, List.cons_append]
    · exact .inl secures

end Async
