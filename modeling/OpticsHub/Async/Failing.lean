import OpticsHub.Async.Program

/-!
# Programs with an action that fails

An action of a program that calls something outside may throw instead of having its effect. The
programs here have one action that fails so, given by its number, and no handler around it. Their
weakest precondition counts down: what follows a part of a program is told how many actions are
left before the one that fails, and an action that comes when none is left ends the program in
the state it has found.
-/
namespace Async.Program

universe u v

variable {σ : Type u} {ε α β : Type v}

/-- The action with a number, counted from zero, throws and has no effect. -/
def failing (error : ε) : ℕ → Program σ ε α → Program σ ε α
  | _, done result => done result
  | 0, act _ _ => throw error
  | left + 1, act effect next => act effect fun state => failing error left (next state)

/-- The weakest precondition with an action that fails after a number of others; what is required
of a value depends on the number that is left. -/
def wpFailing (error : ε) :
    ℕ → Program σ ε α → (ℕ → α → σ → Prop) → (ε → σ → Prop) → σ → Prop
  | left, done (.ok value), post, _, state => post left value state
  | _, done (.error thrown), _, fail, state => fail thrown state
  | 0, act _ _, _, fail, state => fail error state
  | left + 1, act effect next, post, fail, state =>
    wpFailing error left (next state) post fail (effect state)

variable {error : ε} {left : ℕ} {post : ℕ → α → σ → Prop} {fail : ε → σ → Prop} {state : σ}

/-- It is the weakest precondition of the program with the failing action. -/
theorem wp_failing (program : Program σ ε α) {post : α → σ → Prop} :
    wp (failing error left program) post fail state ↔
      wpFailing error left program (fun _ => post) fail state := by
  induction program generalizing left state with
  | done result => cases result <;> cases left <;> rfl
  | act effect next ih =>
    cases left with
    | zero => rfl
    | succ left => exact ih state

theorem wpFailing_pure (value : α) :
    wpFailing error left (pure value : Program σ ε α) post fail state ↔ post left value state := by
  cases left <;> rfl

theorem wpFailing_throw (thrown : ε) :
    wpFailing error left (throw thrown : Program σ ε α) post fail state ↔ fail thrown state := by
  cases left <;> rfl

theorem wpFailing_bind (program : Program σ ε α) (rest : α → Program σ ε β)
    {post : ℕ → β → σ → Prop} :
    wpFailing error left (program >>= rest) post fail state ↔
      wpFailing error left program
        (fun left value => wpFailing error left (rest value) post fail) fail state := by
  induction program generalizing left state with
  | done result => cases result <;> cases left <;> rfl
  | act effect next ih =>
    cases left with
    | zero => rfl
    | succ left => exact ih state

/-- An action fails if none is left before it, and is taken otherwise. -/
theorem wpFailing_step (action : σ → α × σ) :
    wpFailing error left (step action : Program σ ε α) post fail state ↔
      (left = 0 → fail error state) ∧
        ∀ fewer, left = fewer + 1 → post fewer (action state).1 (action state).2 := by
  cases left with
  | zero => simp [step, atomically, wpFailing]
  | succ left =>
    simp only [step, atomically, wpFailing, Nat.add_right_cancel_iff, forall_eq', Nat.add_eq_zero_iff,
      Nat.one_ne_zero, and_false, false_imp_iff, true_and]

theorem wpFailing_look (view : σ → α) :
    wpFailing error left (look view : Program σ ε α) post fail state ↔
      (left = 0 → fail error state) ∧ ∀ fewer, left = fewer + 1 → post fewer (view state) state :=
  wpFailing_step _

theorem wpFailing_atomically (action : σ → Except ε α × σ) :
    wpFailing error left (atomically action) post fail state ↔
      (left = 0 → fail error state) ∧ ∀ fewer, left = fewer + 1 →
        (∀ value, (action state).1 = .ok value → post fewer value (action state).2) ∧
        (∀ thrown, (action state).1 = .error thrown → fail thrown (action state).2) := by
  cases left with
  | zero => simp [atomically, wpFailing]
  | succ left =>
    simp only [atomically, wpFailing, Nat.add_right_cancel_iff, forall_eq', Nat.add_eq_zero_iff,
      Nat.one_ne_zero, and_false, false_imp_iff, true_and]
    cases (action state).1 <;> cases left <;> simp [wpFailing]

theorem wpFailing_require (condition : Prop) [Decidable condition] (thrown : ε)
    {post : ℕ → PUnit → σ → Prop} :
    wpFailing error left (require condition thrown : Program σ ε PUnit) post fail state ↔
      (condition → post left ⟨⟩ state) ∧ (¬ condition → fail thrown state) := by
  rw [require]
  split
  · rename_i held
    rw [wpFailing_pure]
    simp [held]
  · rename_i refused
    rw [wpFailing_throw]
    simp [refused]

theorem wpFailing_orThrow (value : Option α) (thrown : ε) :
    wpFailing error left (orThrow value thrown : Program σ ε α) post fail state ↔
      (∀ found, value = some found → post left found state) ∧
        (value = none → fail thrown state) := by
  cases value with
  | none =>
    rw [orThrow, wpFailing_throw]
    simp
  | some value =>
    rw [orThrow, wpFailing_pure]
    simp

theorem wpFailing_fromExcept (result : Except ε α) :
    wpFailing error left (fromExcept result : Program σ ε α) post fail state ↔
      (∀ value, result = .ok value → post left value state) ∧
      (∀ thrown, result = .error thrown → fail thrown state) := by
  cases result <;> cases left <;> simp [fromExcept, wpFailing]

end Async.Program
