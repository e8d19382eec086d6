import OpticsHub.Async.Interleaving

/-!
# Programs with a ghost

What a program returns may come from what another one has left in the state long before. To say
where it comes from, the state is taken together with a ghost, which remembers what the state
forgets, and what is returned is returned together with what the ghost knows of it. Nothing else
may depend on the ghost. So a program with a ghost follows one without, action by action, whatever
the ghost is, and an interleaving of such programs follows an interleaving of the others.
-/
namespace Async

open Machine

universe u v w x

variable {σ γ : Type u} {ε α α' β β' : Type v}

namespace Program

/-! ## One program -/

/-- A program does to the state what another one does, and a view of what it returns is what that
one returns. -/
inductive Follows (view : α' → α) : Program (σ × γ) ε α' → Program σ ε α → Prop where
  | done (result : Except ε α') : Follows view (.done result) (.done (result.map view))
  | act {effect : σ × γ → σ × γ} {next : σ × γ → Program (σ × γ) ε α'} {effect' : σ → σ}
      {next' : σ → Program σ ε α} (same : ∀ state, (effect state).1 = effect' state.1)
      (later : ∀ state, Follows view (next state) (next' state.1)) :
      Follows view (.act effect next) (.act effect' next')

variable {view : α' → α} {view' : β' → β}

theorem follows_pure (value : α') :
    Follows view (pure value : Program (σ × γ) ε α') (pure (view value) : Program σ ε α) :=
  .done (.ok value)

theorem follows_throw (error : ε) :
    Follows view (throw error : Program (σ × γ) ε α') (throw error : Program σ ε α) :=
  .done (.error error)

theorem Follows.bind {program : Program (σ × γ) ε α'} {program' : Program σ ε α}
    (first : Follows view program program') {rest : α' → Program (σ × γ) ε β'}
    {rest' : α → Program σ ε β} (later : ∀ value, Follows view' (rest value) (rest' (view value))) :
    Follows view' (program >>= rest) (program' >>= rest') := by
  induction first with
  | done result =>
    cases result with
    | ok value => exact later value
    | error error => exact .done (.error error)
  | act same _ ih => exact .act same ih

theorem follows_atomically {action : σ × γ → Except ε α' × (σ × γ)}
    {action' : σ → Except ε α × σ} (same : ∀ state, (action state).2.1 = (action' state.1).2)
    (results : ∀ state, (action state).1.map view = (action' state.1).1) :
    Follows view (atomically action) (atomically action') := by
  refine .act same fun state => ?_
  rw [← results state]
  exact .done _

theorem follows_look {read : σ × γ → α'} {read' : σ → α}
    (same : ∀ state, view (read state) = read' state.1) :
    Follows view (look read : Program (σ × γ) ε α') (look read') :=
  follows_atomically (fun _ => rfl) fun state => congrArg Except.ok (same state)

/-- A program that knows nothing of the ghost. -/
def beside : Program σ ε α → Program (σ × γ) ε α
  | done result => done result
  | act effect next =>
    act (fun state => (effect state.1, state.2)) fun state => (next state.1).beside

theorem follows_beside (program : Program σ ε α) :
    Follows id (program.beside : Program (σ × γ) ε α) program := by
  induction program with
  | done result => cases result <;> exact .done _
  | act effect next ih => exact .act (fun _ => rfl) fun state : σ × γ => ih state.1

end Program

/-! ## Many programs -/

variable {κ : Type w} {η ρ ω ω' : Type x}

/-- A call goes on as another one. -/
structure Thread.Follows (view : α' → α) (thread : Thread κ (σ × γ) ε α')
    (thread' : Thread κ σ ε α) : Prop where
  call : thread.call = thread'.call
  started : thread.started = thread'.started
  ended : thread.ended = thread'.ended
  program : thread.program.Follows view thread'.program

/-- The calls go on as others do, and the state is the same but for the ghost. -/
structure Config.Follows (view : α' → α) (config : Config κ (σ × γ) ε α')
    (config' : Config κ σ ε α) : Prop where
  state : config.state.1 = config'.state
  moves : config.moves = config'.moves
  threads : List.Forall₂ (Thread.Follows view) config.threads config'.threads

section Runs

variable {view : α' → α}

theorem Thread.Follows.result {thread : Thread κ (σ × γ) ε α'} {thread' : Thread κ σ ε α}
    (follows : thread.Follows view thread') :
    thread'.result = thread.result.map (Except.map view) := by
  obtain ⟨call, program, started, ended⟩ := thread
  obtain ⟨call', program', started', ended'⟩ := thread'
  cases follows.program <;> rfl

theorem Program.Follows.finished {program : Program (σ × γ) ε α'} {program' : Program σ ε α}
    (follows : program.Follows view program') : program.finished = program'.finished := by
  cases follows <;> rfl

theorem follows_continue {program : Program (σ × γ) ε α'} {program' : Program σ ε α}
    (follows : program.Follows view program') (call : κ) (started moves : ℕ) :
    (Thread.continue call program started moves).Follows view
      (Thread.continue call program' started moves) where
  call := rfl
  started := rfl
  ended := by rw [Thread.continue, Thread.continue, follows.finished]
  program := follows

/-- What is returned is the same but for what the ghost knows. -/
theorem Config.Follows.results {config : Config κ (σ × γ) ε α'} {config' : Config κ σ ε α}
    (follows : config.Follows view config') :
    config'.threads.map Thread.result =
      config.threads.map fun thread => thread.result.map (Except.map view) := by
  obtain ⟨state, threads, moves⟩ := config
  obtain ⟨state', threads', moves'⟩ := config'
  have alike : List.Forall₂ (Thread.Follows view) threads threads' := follows.threads
  clear follows
  dsimp only
  induction alike with
  | nil => rfl
  | cons first _ ih => exact List.cons_eq_cons.mpr ⟨first.result, ih⟩

variable {program : κ → Program (σ × γ) ε α'} {program' : κ → Program σ ε α}
  {react : σ × γ → η → ρ × (σ × γ)} {react' : σ → η → ρ × σ} {watch : σ × γ → σ × γ → ω}
  {watch' : σ → σ → ω'}

theorem exists_of_forall₂ {ι ι' : Type w} {related : ι → ι' → Prop} {items : List ι}
    {items' : List ι'} (alike : List.Forall₂ related items items') (index : ℕ) :
    items[index]? = none ∧ items'[index]? = none ∨
      ∃ item item', items[index]? = some item ∧ items'[index]? = some item' ∧
        related item item' := by
  induction alike generalizing index with
  | nil => exact .inl ⟨rfl, rfl⟩
  | @cons item item' _ _ first _ ih =>
    cases index with
    | zero => exact .inr ⟨item, item', rfl, rfl, first⟩
    | succ index => exact ih index

theorem forall₂_set {ι ι' : Type w} {related : ι → ι' → Prop} {items : List ι}
    {items' : List ι'} (alike : List.Forall₂ related items items') {item : ι} {item' : ι'}
    (placed : related item item') (index : ℕ) :
    List.Forall₂ related (items.set index item) (items'.set index item') := by
  induction alike generalizing index with
  | nil => exact .nil
  | cons first rest ih =>
    cases index with
    | zero => exact .cons placed rest
    | succ index => exact .cons first (ih index)

/-- Calls that follow others still do after a move. -/
theorem Config.Follows.move {config : Config κ (σ × γ) ε α'} {config' : Config κ σ ε α}
    (follows : config.Follows view config')
    (programs : ∀ call, (program call).Follows view (program' call))
    (reacts : ∀ state event, (react state event).2.1 = (react' state.1 event).2)
    (input : Move κ η) :
    (Async.move program react watch config input).2.Follows view
      (Async.move program' react' watch' config' input).2 := by
  obtain ⟨state, threads, moves⟩ := config
  obtain ⟨state', threads', moves'⟩ := config'
  obtain ⟨rfl, rfl, alike⟩ := follows
  cases input with
  | start call =>
    refine ⟨rfl, rfl, ?_⟩
    exact List.rel_append alike
      (.cons (follows_continue (programs call) call moves moves) .nil)
  | event event => exact ⟨reacts state event, rfl, alike⟩
  | resume index =>
    rcases exists_of_forall₂ alike index with
      ⟨missing, missing'⟩ | ⟨thread, thread', found, found', follows⟩
    · simp only [Async.move, missing, missing']
      exact ⟨rfl, rfl, alike⟩
    · obtain ⟨call, rest, started, ended⟩ := thread
      obtain ⟨call', rest', started', ended'⟩ := thread'
      obtain ⟨rfl, rfl, rfl, same⟩ := follows
      simp only [Async.move, found, found']
      cases same with
      | done result => exact ⟨rfl, rfl, alike⟩
      | act same later =>
        exact ⟨same state, rfl, forall₂_set alike (follows_continue (later state) _ _ _) index⟩

/-- Runs of calls that follow others follow each other. -/
theorem Config.Follows.final {config : Config κ (σ × γ) ε α'} {config' : Config κ σ ε α}
    (follows : config.Follows view config')
    (programs : ∀ call, (program call).Follows view (program' call))
    (reacts : ∀ state event, (react state event).2.1 = (react' state.1 event).2)
    (inputs : List (Move κ η)) :
    (Machine.final (Async.move program react watch) config inputs).Follows view
      (Machine.final (Async.move program' react' watch') config' inputs) := by
  induction inputs generalizing config config' with
  | nil => exact follows
  | cons input rest ih => exact ih (follows.move programs reacts input)

end Runs

end Async
