import OpticsHub.Async.Interleaving

/-!
# Actions that another one has made ready

Some actions of a program are right only in a state that is ready for them, and the action before
them in the same program has left it so. Between the two any other program may run. What the
program sees to is that each such action comes right after one that leaves the state ready; what
has to be known of everything else is that it spares what is ready for an action that some call is
about to take. Then all such actions find the state ready, in every interleaving.
-/
namespace Async

open Machine

universe u v w x

namespace Program

variable {σ : Type u} {ε α β : Type v} {ι : Type x}

/-- Every action is a plain one, wherever it is taken, or one for an item that the state is ready
for in which the action before it leaves it. A program ends in a state as required. -/
def Sequenced (plain : σ → σ → Prop) (special : ι → σ → σ → Prop) (ready : ι → σ → Prop)
    (post : α → σ → Prop) : σ → Program σ ε α → Prop
  | left, done (.ok value) => post value left
  | _, done (.error _) => True
  | left, act effect next =>
    ((∀ state, plain state (effect state)) ∨
        ∃ item, ready item left ∧ ∀ state, special item state (effect state)) ∧
      ∀ state, (next state).Sequenced plain special ready post (effect state)

variable {plain : σ → σ → Prop} {special : ι → σ → σ → Prop} {ready : ι → σ → Prop}
  {post : α → σ → Prop} {left : σ}

theorem sequenced_atomically {action : σ → Except ε α × σ}
    (harmless : ∀ state, plain state (action state).2)
    (held : ∀ state value, (action state).1 = .ok value → post value (action state).2) :
    Sequenced plain special ready post left (atomically action) := by
  refine ⟨.inl harmless, fun state => ?_⟩
  change Sequenced plain special ready post _ (done (action state).1)
  cases outcome : (action state).1 with
  | ok value => exact held state value outcome
  | error error => exact trivial

/-- An action that the state is ready for. -/
theorem sequenced_special {action : σ → α × σ} {item : ι} (here : ready item left)
    (does : ∀ state, special item state (action state).2)
    (held : ∀ state, post (action state).1 (action state).2) :
    Sequenced plain special ready post left (step action : Program σ ε α) :=
  ⟨.inr ⟨item, here, does⟩, held⟩

/-- The rest of a program goes on from the state in which the first part leaves it. -/
theorem Sequenced.bind {program : Program σ ε α} {rest : α → Program σ ε β}
    {post : β → σ → Prop}
    (first : Sequenced plain special ready
      (fun value left => Sequenced plain special ready post left (rest value)) left program) :
    Sequenced plain special ready post left (program >>= rest) := by
  induction program generalizing left with
  | done result =>
    cases result with
    | ok value => exact first
    | error error => exact trivial
  | act effect next ih => exact ⟨first.1, fun state => ih state (first.2 state)⟩

theorem Sequenced.mono {post' : α → σ → Prop} {program : Program σ ε α}
    (held : Sequenced plain special ready post left program)
    (weaker : ∀ value left, post value left → post' value left) :
    Sequenced plain special ready post' left program := by
  induction program generalizing left with
  | done result =>
    cases result with
    | ok value => exact weaker value left held
    | error error => exact trivial
  | act effect next ih => exact ⟨held.1, fun state => ih state (held.2 state)⟩

/-- Plain actions need no preparation. -/
theorem Always.sequenced {program : Program σ ε α} (always : Always plain program) :
    Sequenced plain special ready (fun _ _ => True) left program := by
  induction program generalizing left with
  | done result => cases result <;> exact trivial
  | act effect next ih =>
    exact ⟨.inl fun state => (always.next state).1, fun state => ih state (always.next state).2⟩

/-- Plain actions may come first, if the rest starts with one. -/
theorem Always.sequenced_bind {program : Program σ ε α} {rest : α → Program σ ε β}
    {post : β → σ → Prop} (always : Always plain program)
    (later : ∀ value left, Sequenced plain special ready post left (rest value)) :
    Sequenced plain special ready post left (program >>= rest) :=
  (always.sequenced.mono fun value left _ => later value left).bind

/-- Where the state stays ready for the next action, the program may go on from another state. -/
theorem Sequenced.rest {program : Program σ ε α} {now : σ}
    (held : Sequenced plain special ready (fun _ _ => True) left program)
    (stays : ∀ item, (∀ state, special item state (program.effect state)) →
      ready item left → ready item now) :
    Sequenced plain special ready (fun _ _ => True) now program := by
  cases program with
  | done result => cases result <;> exact trivial
  | act effect next =>
    refine ⟨held.1.imp_right ?_, held.2⟩
    rintro ⟨item, here, does⟩
    exact ⟨item, stays item does here, does⟩

end Program

/-! ## Runs -/

section Runs

variable {κ : Type w} {σ η γ : Type u} {ω : Type u} {ε α : Type v} {ι : Type x}
  {plain : σ → σ → Prop} {special : κ → ι → σ → σ → Prop} {ready : κ → ι → σ → Prop}
  {program : κ → Program σ ε α} {react : σ → η → γ × σ} {watch : σ → σ → ω}
  {config : Config κ σ ε α}

/-- The state is ready for the next action of every call. -/
def InSequence (plain : σ → σ → Prop) (special : κ → ι → σ → σ → Prop)
    (ready : κ → ι → σ → Prop) (config : Config κ σ ε α) : Prop :=
  ∀ thread ∈ config.threads, thread.program.Sequenced plain (special thread.call)
    (ready thread.call) (fun _ _ => True) config.state

/-- It stays so, if a move spares what is ready for the next action of another call. -/
theorem InSequence.move (held : InSequence plain special ready config)
    (starts : ∀ call state, (program call).Sequenced plain (special call) (ready call)
      (fun _ _ => True) state)
    (input : Move κ η)
    (spares : ∀ (index : ℕ) (thread : Thread κ σ ε α), config.threads[index]? = some thread →
      input.resumes index = false → ∀ item,
        (∀ state, special thread.call item state (thread.program.effect state)) →
          ready thread.call item config.state →
            ready thread.call item (Async.move program react watch config input).2.state) :
    InSequence plain special ready (Async.move program react watch config input).2 := by
  intro thread inside
  obtain ⟨index, here, found⟩ := List.mem_iff_getElem.mp inside
  have found' := List.getElem?_eq_some_iff.mpr ⟨here, found⟩
  rcases thread_cases found' with ⟨before, there, call, -, rest⟩ | ⟨-, call, rfl, rfl⟩
  · have sequenced := held before (List.mem_of_getElem? there)
    rw [call]
    cases resumed : input.resumes index with
    | false =>
      rw [rest, resumed]
      exact sequenced.rest (spares index before there resumed)
    | true =>
      rw [rest, resumed]
      cases input with
      | resume moved =>
        obtain rfl : moved = index := beq_iff_eq.mp resumed
        rw [move_effect there]
        obtain ⟨call, program, started, ended⟩ := before
        cases program with
        | done result => cases result <;> exact trivial
        | act effect next => exact sequenced.2 config.state
      | start call => cases resumed
      | event event => cases resumed
  · exact starts call config.state

/-- The next action of a call is a plain one, or the state is ready for it. -/
theorem InSequence.takes (held : InSequence plain special ready config) {index : ℕ}
    {thread : Thread κ σ ε α} (found : config.threads[index]? = some thread)
    (running : thread.result = none) :
    (∀ state, plain state (thread.program.effect state)) ∨
      ∃ item, ready thread.call item config.state ∧
        ∀ state, special thread.call item state (thread.program.effect state) := by
  have sequenced := held thread (List.mem_of_getElem? found)
  obtain ⟨call, program, started, ended⟩ := thread
  cases program with
  | done result => cases running
  | act effect next => exact sequenced.1

end Runs

end Async
