import OpticsHub.Async.Undisturbed

/-!
# Programs whose actions are known beforehand

What some programs do does not depend on what their actions meet: they perform a list of actions,
one after the other. When two of them interleave, the state at the end is that after a shuffle of
the two lists. A last writer is the same in a shuffle as when one of the lists follows the other.
-/
namespace Async

open Machine Program

universe u v w x

/-! ## Shuffles -/

/-- A list that consists of two others, each in its order. -/
inductive Shuffle {τ : Type u} : List τ → List τ → List τ → Prop where
  | nil : Shuffle [] [] []
  | left {first second whole : List τ} (item : τ) (rest : Shuffle first second whole) :
      Shuffle (item :: first) second (item :: whole)
  | right {first second whole : List τ} (item : τ) (rest : Shuffle first second whole) :
      Shuffle first (item :: second) (item :: whole)

namespace Shuffle

variable {τ : Type u} {ρ : Type v} {first second whole : List τ}

theorem swap (shuffle : Shuffle first second whole) : Shuffle second first whole := by
  induction shuffle with
  | nil => exact nil
  | left item _ ih => exact ih.right item
  | right item _ ih => exact ih.left item

theorem of_nil (shuffle : Shuffle [] second whole) : whole = second := by
  generalize empty : ([] : List τ) = first at shuffle
  induction shuffle with
  | nil => rfl
  | left item _ _ => cases empty
  | right item _ ih => exact congrArg (List.cons item) (ih empty)

theorem mem (shuffle : Shuffle first second whole) {item : τ} (inside : item ∈ whole) :
    item ∈ first ∨ item ∈ second := by
  induction shuffle with
  | nil => cases inside
  | left other _ ih =>
    rcases List.mem_cons.mp inside with rfl | later
    · exact .inl List.mem_cons_self
    · exact (ih later).imp_left (List.mem_cons_of_mem _)
  | right other _ ih =>
    rcases List.mem_cons.mp inside with rfl | later
    · exact .inr List.mem_cons_self
    · exact (ih later).imp_right (List.mem_cons_of_mem _)

/-- What is picked from a shuffle is a shuffle of what is picked from the two lists. -/
theorem filterMap (pick : τ → Option ρ) (shuffle : Shuffle first second whole) :
    Shuffle (first.filterMap pick) (second.filterMap pick) (whole.filterMap pick) := by
  induction shuffle with
  | nil => exact nil
  | left item _ ih =>
    cases picked : pick item with
    | none => simpa only [List.filterMap_cons_none picked] using ih
    | some value => simpa only [List.filterMap_cons_some picked] using ih.left value
  | right item _ ih =>
    cases picked : pick item with
    | none => simpa only [List.filterMap_cons_none picked] using ih
    | some value => simpa only [List.filterMap_cons_some picked] using ih.right value

/-- A shuffle of what is made of two lists is made of a shuffle of them. -/
theorem of_map {make : ρ → τ} {first second : List ρ} {whole : List τ}
    (shuffle : Shuffle (first.map make) (second.map make) whole) :
    ∃ origin, Shuffle first second origin ∧ whole = origin.map make := by
  generalize left : first.map make = made at shuffle
  generalize right : second.map make = made' at shuffle
  induction shuffle generalizing first second with
  | nil =>
    obtain rfl := List.map_eq_nil_iff.mp left
    obtain rfl := List.map_eq_nil_iff.mp right
    exact ⟨[], nil, rfl⟩
  | left item _ ih =>
    obtain ⟨value, rest, rfl, rfl, same⟩ := List.map_eq_cons_iff.mp left
    obtain ⟨origin, shuffled, rfl⟩ := ih same right
    exact ⟨value :: origin, shuffled.left value, rfl⟩
  | right item _ ih =>
    obtain ⟨value, rest, rfl, rfl, same⟩ := List.map_eq_cons_iff.mp right
    obtain ⟨origin, shuffled, rfl⟩ := ih left same
    exact ⟨value :: origin, shuffled.right value, rfl⟩

/-- A single item stands somewhere among the others. -/
theorem of_singleton {item : τ} (shuffle : Shuffle first [item] whole) :
    ∃ before after, first = before ++ after ∧ whole = before ++ item :: after := by
  generalize alone : [item] = second at shuffle
  induction shuffle with
  | nil => cases alone
  | left other _ ih =>
    obtain ⟨before, after, rfl, rfl⟩ := ih alone
    exact ⟨other :: before, after, rfl, rfl⟩
  | right other rest _ =>
    obtain ⟨rfl, rfl⟩ := List.cons.inj alone
    exact ⟨[], _, rfl, congrArg (List.cons item) (of_nil rest.swap)⟩

/-- What comes last when an item comes first. -/
theorem last_cons {first second whole : Option τ} (item : τ)
    (last : whole = second.or first ∨ whole = first.or second) :
    some (whole.getD item) = second.or (some (first.getD item)) ∨
      some (whole.getD item) = (some (first.getD item)).or second := by
  cases first <;> cases second <;> rcases last with rfl | rfl <;> simp

/-- The last item is the last one of two lists that follow each other. -/
theorem getLast? (shuffle : Shuffle first second whole) :
    whole.getLast? = (first ++ second).getLast? ∨ whole.getLast? = (second ++ first).getLast? := by
  simp only [List.getLast?_append]
  induction shuffle with
  | nil => exact .inl rfl
  | left item _ ih =>
    simp only [List.getLast?_cons]
    exact last_cons item ih
  | right item _ ih =>
    simp only [List.getLast?_cons]
    exact (last_cons item ih.symm).symm

end Shuffle

/-! ## What a program performs -/

/-- One after the other, some actions change a state. -/
def applyAll {σ : Type u} (effects : List (σ → σ)) (state : σ) : σ :=
  effects.foldl (fun state effect => effect state) state

namespace Program

variable {σ : Type u} {ε α β : Type v} {fine : σ → Prop}

/-- As long as its actions meet fine states, a program takes the actions of a list and ends in a
way that is known. -/
def Performs (fine : σ → Prop) : Program σ ε α → List (σ → σ) → Except ε α → Prop
  | done result, [], ending => result = ending
  | act effect next, first :: rest, ending =>
    effect = first ∧ ∀ state, fine state → (next state).Performs fine rest ending
  | _, _, _ => False

theorem performs_pure (value : α) :
    Performs fine (pure value : Program σ ε α) [] (.ok value) := rfl

theorem performs_throw (error : ε) :
    Performs fine (throw error : Program σ ε α) [] (.error error) := rfl

/-- An action that returns the same in all fine states. -/
theorem performs_step {action : σ → α × σ} {value : α}
    (returns : ∀ state, fine state → (action state).1 = value) :
    Performs fine (step action : Program σ ε α) [(step action : Program σ ε α).effect]
      (.ok value) :=
  ⟨rfl, fun state met => congrArg Except.ok (returns state met)⟩

theorem Performs.bind {program : Program σ ε α} {rest : α → Program σ ε β} {value : α}
    {effects later : List (σ → σ)} {ending : Except ε β}
    (first : Performs fine program effects (.ok value))
    (second : Performs fine (rest value) later ending) :
    Performs fine (program >>= rest) (effects ++ later) ending := by
  induction program generalizing effects with
  | done result =>
    cases effects with
    | nil =>
      obtain rfl : result = .ok value := first
      exact second
    | cons effect effects => exact first.elim
  | act effect next ih =>
    cases effects with
    | nil => exact first.elim
    | cons action actions => exact ⟨first.1, fun state met => ih state (first.2 state met)⟩

/-- What comes after a failure is not performed. -/
theorem Performs.fails {program : Program σ ε α} {error : ε} {effects : List (σ → σ)}
    (first : Performs fine program effects (.error error)) (rest : α → Program σ ε β) :
    Performs fine (program >>= rest) effects (.error error) := by
  induction program generalizing effects with
  | done result =>
    cases effects with
    | nil =>
      obtain rfl : result = .error error := first
      exact performs_throw error
    | cons effect effects => exact first.elim
  | act effect next ih =>
    cases effects with
    | nil => exact first.elim
    | cons action actions => exact ⟨first.1, fun state met => ih state (first.2 state met)⟩

/-- A program that performs nothing is at its end. -/
theorem Performs.done_of_nil {program : Program σ ε α} {ending : Except ε α}
    (performs : Performs fine program [] ending) : program = done ending := by
  cases program with
  | done result => exact congrArg done performs
  | act effect next => exact performs.elim

/-- A program that performs something takes the first action and performs the rest. -/
theorem Performs.cons {program : Program σ ε α} {first : σ → σ} {rest : List (σ → σ)}
    {ending : Except ε α} (performs : Performs fine program (first :: rest) ending) {state : σ}
    (met : fine state) : program.finished = false ∧ program.effect state = first state ∧
      Performs fine (program.next state) rest ending := by
  cases program with
  | done result => exact performs.elim
  | act effect next => exact ⟨rfl, congrFun performs.1 state, performs.2 state met⟩

/-- Alone, a program does what it performs. -/
theorem Performs.run {program : Program σ ε α} {effects : List (σ → σ)} {ending : Except ε α}
    (performs : Performs fine program effects ending)
    (keeps : ∀ effect ∈ effects, ∀ state, fine state → fine (effect state)) {state : σ}
    (met : fine state) : (program.run state).2 = applyAll effects state := by
  induction effects generalizing program state with
  | nil =>
    rw [performs.done_of_nil]
    rfl
  | cons first rest ih =>
    obtain ⟨-, here, later⟩ := performs.cons met
    have still := keeps first List.mem_cons_self state met
    have kept := fun effect inside => keeps effect (List.mem_cons_of_mem first inside)
    rw [← run_next, here, ih later kept still]
    rfl

end Program

/-! ## Two programs -/

section Runs

variable {κ : Type w} {σ : Type u} {ε α : Type v} {η γ : Type u} {program : κ → Program σ ε α}
  {react : σ → η → γ × σ} {fine : σ → Prop}

/-- A call that performs something has not ended. -/
theorem running_of_performs {thread : Thread κ σ ε α} {first : σ → σ} {rest : List (σ → σ)}
    {ending : Except ε α} (performs : thread.program.Performs fine (first :: rest) ending) :
    thread.result = none := by
  obtain ⟨call, left, started, ended⟩ := thread
  cases left with
  | done result => exact performs.elim
  | act effect next => rfl

theorem nil_of_ended {thread : Thread κ σ ε α} {effects : List (σ → σ)} {ending : Except ε α}
    (performs : thread.program.Performs fine effects ending) (ended : thread.result ≠ none) :
    effects = [] := by
  cases effects with
  | nil => rfl
  | cons first rest => exact absurd (running_of_performs performs) ended

/-- The next action of a call is the first of those that it performs. -/
theorem move_performs {config : Config κ σ ε α} {index : ℕ} {thread : Thread κ σ ε α}
    (found : config.threads[index]? = some thread) {first : σ → σ} {rest : List (σ → σ)}
    {ending : Except ε α} (performs : thread.program.Performs fine (first :: rest) ending)
    (met : fine config.state) :
    (observed program react config (.resume index)).2.state = first config.state ∧
      ∃ thread' : Thread κ σ ε α, thread'.program.Performs fine rest ending ∧
        (observed program react config (.resume index)).2.threads =
          config.threads.set index thread' := by
  obtain ⟨-, effect, later⟩ := performs.cons met
  obtain ⟨state, threads⟩ := @move_resume _ _ _ _ _ _ _ program react (fun before _ => before)
    config index thread found (running_of_performs performs)
  exact ⟨state.trans effect, _, later, threads⟩

theorem move_performed {config : Config κ σ ε α} {index : ℕ} {thread : Thread κ σ ε α}
    (found : config.threads[index]? = some thread) {ending : Except ε α}
    (performs : thread.program.Performs fine [] ending) :
    (observed program react config (.resume index)).2.state = config.state ∧
      (observed program react config (.resume index)).2.threads = config.threads := by
  apply move_idle
  intro thread' found' running
  obtain rfl := Option.some.inj (found.symm.trans found')
  have ended : thread.result = some ending := Thread.result_eq_some.mpr performs.done_of_nil
  rw [running] at ended
  cases ended

/-- Two calls that interleave, and nothing besides, leave a state that a shuffle of their actions
leads to. -/
theorem shuffled_along {config : Config κ σ ε α} {first second : Thread κ σ ε α}
    {firstEffects secondEffects : List (σ → σ)} {firstEnding secondEnding : Except ε α}
    (threads : config.threads = [first, second])
    (performs : first.program.Performs fine firstEffects firstEnding)
    (performs' : second.program.Performs fine secondEffects secondEnding)
    (keeps : ∀ effect ∈ firstEffects, ∀ state, fine state → fine (effect state))
    (keeps' : ∀ effect ∈ secondEffects, ∀ state, fine state → fine (effect state))
    (met : fine config.state) (schedule : List ℕ)
    (ended : ∀ thread ∈ (final (observed program react) config
      (schedule.map .resume)).threads, thread.result ≠ none) :
    ∃ whole, Shuffle firstEffects secondEffects whole ∧
      (final (observed program react) config (schedule.map .resume)).state =
        applyAll whole config.state := by
  induction schedule generalizing config first second firstEffects secondEffects with
  | nil =>
    change ∀ thread ∈ config.threads, thread.result ≠ none at ended
    rw [threads] at ended
    obtain rfl := nil_of_ended performs (ended first List.mem_cons_self)
    obtain rfl := nil_of_ended performs' (ended second (by simp))
    exact ⟨[], .nil, rfl⟩
  | cons index schedule ih =>
    rw [List.map_cons, final] at ended ⊢
    -- the move is one of the first call, of the second one, or of none
    rcases index with _ | _ | index
    · have found : config.threads[0]? = some first := by rw [threads]; rfl
      cases firstEffects with
      | nil =>
        obtain ⟨state, same⟩ := @move_performed _ _ _ _ _ _ program react _ _ _ _ found _ performs
        rw [← state] at met ⊢
        exact ih (same.trans threads) performs performs' keeps keeps' met ended
      | cons effect rest =>
        obtain ⟨state, later, still, moved⟩ := @move_performs _ _ _ _ _ _ program react _ _ _ _
          found _ _ _ performs met
        rw [threads] at moved
        obtain ⟨whole, shuffle, last⟩ := ih moved still performs'
          (fun effect inside => keeps effect (List.mem_cons_of_mem _ inside)) keeps'
          (state ▸ keeps effect List.mem_cons_self _ met) ended
        refine ⟨effect :: whole, shuffle.left effect, ?_⟩
        rw [last, state]
        rfl
    · have found : config.threads[1]? = some second := by rw [threads]; rfl
      cases secondEffects with
      | nil =>
        obtain ⟨state, same⟩ := @move_performed _ _ _ _ _ _ program react _ _ _ _ found _ performs'
        rw [← state] at met ⊢
        exact ih (same.trans threads) performs performs' keeps keeps' met ended
      | cons effect rest =>
        obtain ⟨state, later, still, moved⟩ := @move_performs _ _ _ _ _ _ program react _ _ _ _
          found _ _ _ performs' met
        rw [threads] at moved
        obtain ⟨whole, shuffle, last⟩ := ih moved performs still keeps
          (fun effect inside => keeps' effect (List.mem_cons_of_mem _ inside))
          (state ▸ keeps' effect List.mem_cons_self _ met) ended
        refine ⟨effect :: whole, shuffle.right effect, ?_⟩
        rw [last, state]
        rfl
    · have idle (thread : Thread κ σ ε α) (found : config.threads[index + 1 + 1]? = some thread) :
          thread.result ≠ none := by
        rw [threads] at found
        cases found
      obtain ⟨state, same⟩ := @move_idle _ _ _ _ _ _ _ program react (fun before _ => before)
        config _ idle
      rw [← state] at met ⊢
      exact ih (same.trans threads) performs performs' keeps keeps' met ended

end Runs

end Async
