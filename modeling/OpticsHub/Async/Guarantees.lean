import OpticsHub.Async.History
import OpticsHub.Machine.Since

/-!
# What each call guarantees of its own actions

Programs that keep an invariant, and only ever add to what they find, can rely on it of each
other: what one of them has seen, or has left, is still there when its next action is taken. So
each can be checked alone, and for each call there is a relation of its own that all its actions
satisfy. What is found at the end of a run then goes back to an action of a known call.
-/
namespace Async

open Machine Program

universe u v w

variable {κ : Type w} {σ η γ : Type u} {ε α : Type v} {program : κ → Program σ ε α}
  {react : σ → η → γ × σ} {rely : σ → σ → Prop} {guarantee : κ → σ → σ → Prop}
  {ends : κ → Except ε α → σ → Prop} {sound : σ → Prop} {config : Config κ σ ε α}

/-- Every call withstands the others and guarantees of its actions what it must. -/
def Vouches (rely : σ → σ → Prop) (guarantee : κ → σ → σ → Prop)
    (ends : κ → Except ε α → σ → Prop) (config : Config κ σ ε α) : Prop :=
  ∀ thread ∈ config.threads,
    thread.program.Withstands rely (guarantee thread.call) (ends thread.call) config.state

/-- A move that resumes a call is an action of one that has not ended, or changes nothing. -/
theorem resume_cases (program : κ → Program σ ε α) (react : σ → η → γ × σ)
    (config : Config κ σ ε α) (index : ℕ) :
    (∃ thread, config.threads[index]? = some thread ∧ thread.result = none) ∨
      (∀ thread, config.threads[index]? = some thread → thread.result ≠ none) ∧
        (observed program react config (.resume index)).2.state = config.state := by
  by_cases running : ∃ thread, config.threads[index]? = some thread ∧ thread.result = none
  · exact .inl running
  · have idle (thread : Thread κ σ ε α) (found : config.threads[index]? = some thread) :
        thread.result ≠ none := fun unfinished => running ⟨thread, found, unfinished⟩
    exact .inr ⟨idle, (move_idle idle).1⟩

/-- After a move that all can rely on, the calls still vouch. -/
theorem Vouches.move (vouches : Vouches rely guarantee ends config)
    (reflexive : ∀ state, rely state state)
    (transitive : ∀ {first second third}, rely first second → rely second third →
      rely first third)
    (stable : ∀ call result state state', ends call result state → rely state state' →
      ends call result state')
    (starts : ∀ call, (program call).Withstands rely (guarantee call) (ends call) config.state)
    (input : Move κ η) (moved : rely config.state (observed program react config input).2.state) :
    Vouches rely guarantee ends (observed program react config input).2 := by
  intro thread inside
  obtain ⟨index, here, found⟩ := List.mem_iff_getElem.mp inside
  rcases thread_cases (List.getElem?_eq_some_iff.mpr ⟨here, found⟩) with
    ⟨before, there, call, -, rest⟩ | ⟨-, call, rfl, rfl⟩
  · have held := vouches before (List.mem_of_getElem? there)
    rw [call]
    cases resumed : input.resumes index with
    | false =>
      rw [rest, resumed]
      exact held.rest transitive (stable before.call) moved
    | true =>
      rw [rest, resumed]
      cases input with
      | resume other =>
        obtain rfl : other = index := beq_iff_eq.mp resumed
        rw [move_effect there]
        obtain ⟨call, program, started, ended⟩ := before
        cases program with
        | done result => exact held
        | act effect next => exact (held config.state (reflexive _)).2
      | start call => cases resumed
      | event event => cases resumed
  · exact starts call

end Async
