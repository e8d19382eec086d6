import OpticsHub.Async.History

/-!
# Programs that mend what they spoil

A program may leave a state that is not well for a moment: it has undone one thing and not
yet done the next. Others see that state, and they may take their actions before it goes
on. What can be said is that the rest of the program comes to an action that leaves the
state well, whatever it meets until then. So a state that is not well is always one in
which a call is running that mends it, and when no call is running the state is well.
-/
namespace Async

open Machine

universe u v w

namespace Program

variable {σ : Type u} {ε α β : Type v}

/-- As long as the states that it meets are sound, the program comes to an action that leaves
the state well. -/
def Mends (sound well : σ → Prop) : Program σ ε α → Prop
  | done _ => False
  | act effect next => ∀ state, sound state →
      well (effect state) ∨ (next state).Mends sound well

/-- Every action that meets a fine state and spoils it is of a program that may, and leaves a
rest that mends it. -/
def Tidies (may : Prop) (fine : List σ → σ → Prop) (sound well : σ → Prop) :
    List σ → Program σ ε α → Prop
  | _, done _ => True
  | seen, act effect next => ∀ state, fine seen state →
      (well state → well (effect state) ∨ may ∧ (next state).Mends sound well) ∧
        (next state).Tidies may fine sound well (seen ++ [state])

variable {may : Prop} {fine : List σ → σ → Prop} {sound well : σ → Prop} {seen : List σ}

/-- An action that leaves the state well mends it, whatever follows. -/
theorem mends_step {action : σ → β × σ} (held : ∀ state, sound state → well (action state).2)
    (rest : β → Program σ ε α) : Mends sound well (step action >>= rest) :=
  fun state met => .inl (held state met)

/-- A look at a state that is well, or that tells the rest to mend it. -/
theorem mends_look {view : σ → β} {rest : β → Program σ ε α}
    (held : ∀ state, sound state → well state ∨ Mends sound well (rest (view state))) :
    Mends sound well (look view >>= rest) :=
  held

theorem mends_last {action : σ → α × σ} (held : ∀ state, sound state → well (action state).2) :
    Mends sound well (step action : Program σ ε α) :=
  fun state met => .inl (held state met)

/-- What a program does first may be anything, if the rest mends the state after it. -/
theorem mends_after {action : σ → β × σ} {rest : β → Program σ ε α}
    (held : ∀ state, Mends sound well (rest (action state).1)) :
    Mends sound well (step action >>= rest) :=
  fun state _ => .inr (held state)

theorem Mends.bind {program : Program σ ε α} (mends : Mends sound well program)
    (rest : α → Program σ ε β) : Mends sound well (program >>= rest) := by
  induction program with
  | done result => exact absurd mends id
  | act effect next ih => exact fun state met => (mends state met).imp_right (ih state)

theorem tidies_pure (value : α) :
    Tidies may fine sound well seen (pure value : Program σ ε α) := trivial

theorem tidies_throw (error : ε) :
    Tidies may fine sound well seen (throw error : Program σ ε α) := trivial

/-- A look spoils nothing. -/
theorem tidies_look {view : σ → β} {rest : β → Program σ ε α}
    (held : ∀ state, fine seen state →
      Tidies may fine sound well (seen ++ [state]) (rest (view state))) :
    Tidies may fine sound well seen (look view >>= rest) :=
  fun state met => ⟨.inl, held state met⟩

theorem tidies_step {action : σ → β × σ} {rest : β → Program σ ε α}
    (held : ∀ state, fine seen state → well state →
      well (action state).2 ∨ may ∧ Mends sound well (rest (action state).1))
    (later : ∀ state, fine seen state →
      Tidies may fine sound well (seen ++ [state]) (rest (action state).1)) :
    Tidies may fine sound well seen (step action >>= rest) :=
  fun state met => ⟨held state met, later state met⟩

/-- An action that may fail spoils nothing then. -/
theorem tidies_atomically {action : σ → Except ε β × σ} {rest : β → Program σ ε α}
    (held : ∀ state, fine seen state → well state → well (action state).2 ∨
      may ∧ ∃ value, (action state).1 = .ok value ∧ Mends sound well (rest value))
    (later : ∀ state value, fine seen state → (action state).1 = .ok value →
      Tidies may fine sound well (seen ++ [state]) (rest value)) :
    Tidies may fine sound well seen (atomically action >>= rest) := by
  intro state met
  refine ⟨fun before => (held state met before).imp_right ?_, ?_⟩
  · rintro ⟨own, value, returned, mends⟩
    refine ⟨own, ?_⟩
    change Mends sound well (done (action state).1 >>= rest)
    rw [returned]
    exact mends
  · change Tidies may fine sound well _ (done (action state).1 >>= rest)
    cases outcome : (action state).1 with
    | ok value => exact later state value met outcome
    | error error => exact trivial

theorem tidies_orThrow {value : Option β} {error : ε} {rest : β → Program σ ε α}
    (held : ∀ found, value = some found → Tidies may fine sound well seen (rest found)) :
    Tidies may fine sound well seen (orThrow value error >>= rest) := by
  cases value with
  | none => exact trivial
  | some value => exact held value rfl

theorem tidies_require {condition : Prop} [Decidable condition] {error : ε}
    {rest : PUnit → Program σ ε α}
    (held : condition → Tidies may fine sound well seen (rest ⟨⟩)) :
    Tidies may fine sound well seen (require condition error >>= rest) := by
  rw [require]
  split
  · rename_i met
    exact held met
  · exact trivial

theorem tidies_fromExcept {result : Except ε β} {rest : β → Program σ ε α}
    (held : ∀ value, result = .ok value → Tidies may fine sound well seen (rest value)) :
    Tidies may fine sound well seen (fromExcept result >>= rest) := by
  cases result with
  | ok value => exact held value rfl
  | error error => exact trivial

/-- A program in two parts that tidy up. -/
theorem Tidies.bind {program : Program σ ε β} {rest : β → Program σ ε α}
    (first : Tidies may fine sound well seen program)
    (later : ∀ value seen, Tidies may fine sound well seen (rest value)) :
    Tidies may fine sound well seen (program >>= rest) := by
  induction program generalizing seen with
  | done result =>
    cases result with
    | ok value => exact later value seen
    | error error => exact trivial
  | act effect next ih =>
    intro state met
    obtain ⟨held, tidies⟩ := first state met
    refine ⟨fun before => (held before).imp_right ?_, ih state tidies⟩
    exact fun owed => ⟨owed.1, owed.2.bind rest⟩

/-- Actions that spoil nothing, wherever they are taken. -/
theorem Always.tidies {steps : σ → σ → Prop} {program : Program σ ε α}
    (always : Always steps program)
    (kept : ∀ before after, steps before after → well before → well after) :
    Tidies may fine sound well seen program := by
  induction program generalizing seen with
  | done result => exact trivial
  | act effect next ih =>
    exact fun state _ => ⟨fun held => .inl (kept _ _ (always.next state).1 held),
      ih state (always.next state).2⟩

/-- Such actions may come first. -/
theorem Always.tidies_bind {steps : σ → σ → Prop} {program : Program σ ε β}
    {rest : β → Program σ ε α} (always : Always steps program)
    (kept : ∀ before after, steps before after → well before → well after)
    (later : ∀ value seen, Tidies may fine sound well seen (rest value)) :
    Tidies may fine sound well seen (program >>= rest) := by
  induction program generalizing seen with
  | done result =>
    cases result with
    | ok value => exact later value seen
    | error error => exact trivial
  | act effect next ih =>
    exact fun state _ => ⟨fun held => .inl (kept _ _ (always.next state).1 held),
      ih state (always.next state).2⟩

end Program

/-! ## Runs -/

section Runs

variable {κ : Type w} {σ η γ : Type u} {ε α : Type v} {program : κ → Program σ ε α}
  {react : σ → η → γ × σ} {may : κ → Prop} {fine : κ → List σ → σ → Prop}
  {sound well : σ → Prop}

/-- The state is well, or a call that may have spoiled it is running and mends it. -/
def Mended (may : κ → Prop) (sound well : σ → Prop) (config : Config κ σ ε α) : Prop :=
  well config.state ∨
    ∃ (index : ℕ) (thread : Thread κ σ ε α), config.threads[index]? = some thread ∧
      may thread.call ∧ thread.program.Mends sound well

variable {past : List (Move κ η × Shown γ σ)} {config : Config κ σ ε α}

/-- When no call is running that may have spoiled the state, it is well. -/
theorem Mended.well_of_ended (mended : Mended may sound well config)
    (ended : ∀ thread ∈ config.threads, may thread.call → thread.result ≠ none) :
    well config.state := by
  rcases mended with held | ⟨index, thread, found, own, mends⟩
  · exact held
  · have ending := ended thread (List.mem_of_getElem? found) own
    obtain ⟨call, rest, started, at'⟩ := thread
    cases rest with
    | done result => exact absurd mends id
    | act effect next => exact absurd rfl ending

/-- A move in a sound state, if the programs tidy up and the events spoil nothing. -/
theorem Mended.move (mended : Mended may sound well config)
    (attending : Attending (fun call seen program =>
      program.Tidies (may call) (fine call) sound well seen) past config)
    (here : sound config.state) (input : Move κ η) (met : Met fine past config input)
    (events : ∀ event, input = .event event → well config.state →
      well (react config.state event).2) :
    Mended may sound well (observed program react config input).2 := by
  cases input with
  | start call =>
    refine mended.imp_right ?_
    rintro ⟨index, thread, found, own, mends⟩
    refine ⟨index, thread, ?_, own, mends⟩
    exact (List.getElem?_append_left (List.getElem?_eq_some_iff.mp found).1).trans found
  | event event => exact mended.imp (events event rfl) id
  | resume index =>
    by_cases running : ∃ thread, config.threads[index]? = some thread ∧ thread.result = none
    · obtain ⟨thread, found, running⟩ := running
      have fineHere := met thread found running
      obtain ⟨-, tidies⟩ := attending.2 index thread found running
      obtain ⟨state, threads⟩ := @move_resume _ _ _ _ _ _ _ program react
        (fun before _ => before) config index thread found running
      have inside := (List.getElem?_eq_some_iff.mp found).1
      obtain ⟨call, rest, started, ended⟩ := thread
      cases rest with
      | done result => cases running
      | act effect next =>
        rw [Mended, state, threads]
        rcases mended with held | ⟨other, thread, found', own, mends⟩
        · refine ((tidies config.state fineHere).1 held).imp_right ?_
          rintro ⟨own, mends⟩
          exact ⟨index, _, List.getElem?_set_self inside, own, mends⟩
        · by_cases same : other = index
          · subst same
            obtain rfl := Option.some.inj (found.symm.trans found')
            refine (mends config.state here).imp_right fun later => ?_
            exact ⟨other, _, List.getElem?_set_self inside, own, later⟩
          · refine .inr ⟨other, thread, ?_, own, mends⟩
            rw [List.getElem?_set_ne fun equal => same equal.symm, found']
    · have idle (thread : Thread κ σ ε α) (found : config.threads[index]? = some thread) :
          thread.result ≠ none := fun none => running ⟨thread, found, none⟩
      obtain ⟨same, threads⟩ := @move_idle _ _ _ _ _ _ _ program react
        (fun before _ => before) config index idle
      rw [Mended, same, threads]
      exact mended

end Runs

end Async
