import OpticsHub.Machine.Run

/-!
# What has begun and has not ended

Much of the state of a system is there because something has begun: a request waits, a lock is
held, a connection is open. Such a part of the state is a short account of the history, and the
account is right if each step makes it so: it holds after a step exactly if the step begins it, or
it held before and the step does not end it. Then it holds at the end of a run exactly if it has
begun at some step and no step since has ended it.
-/
namespace Machine

universe u v w

variable {σ : Type u} {α : Type v} {β : Type w}

/-- Something has begun at a step of a run, and no step since has ended it. -/
def Since (step : Transition σ α β) (begins ends : List (α × β) → σ → α → Prop)
    (past : List (α × β)) (state : σ) (inputs : List α) : Prop :=
  ∃ before input after, inputs = before ++ input :: after ∧
    begins (past ++ trace step state before) (final step state before) input ∧
    Along step (fun past state input => ¬ ends past state input)
      (past ++ trace step state (before ++ [input])) (final step state (before ++ [input])) after

variable {step : Transition σ α β} {begins ends : List (α × β) → σ → α → Prop}
  {condition : List (α × β) → σ → α → Prop} {past : List (α × β)} {state : σ}
  {inputs : List α}

theorem not_since_nil : ¬ Since step begins ends past state [] := by
  rintro ⟨before, input, after, split, -⟩
  simp at split

/-- After one more step something has begun since, if the step begins it, or if it has begun before
and the step does not end it. -/
theorem since_append_singleton (inputs : List α) (input : α) :
    Since step begins ends past state (inputs ++ [input]) ↔
      begins (past ++ trace step state inputs) (final step state inputs) input ∨
        Since step begins ends past state inputs ∧
          ¬ ends (past ++ trace step state inputs) (final step state inputs) input := by
  constructor
  · rintro ⟨before, first, after, split, begun, lasts⟩
    rcases List.eq_nil_or_concat after with rfl | ⟨between, last, rfl⟩
    · obtain ⟨rfl, same⟩ := List.append_inj' split rfl
      obtain rfl := List.singleton_inj.mp same
      exact .inl begun
    · rw [List.concat_eq_append, ← List.cons_append, ← List.append_assoc] at split
      obtain ⟨rfl, same⟩ := List.append_inj' split rfl
      obtain rfl := List.singleton_inj.mp same
      rw [List.concat_eq_append, along_append] at lasts
      obtain ⟨lasts, open', -⟩ := lasts
      refine .inr ⟨⟨before, first, between, rfl, begun, lasts⟩, ?_⟩
      rwa [← final_append, List.append_assoc past, ← trace_append, List.append_assoc,
        List.singleton_append] at open'
  · rintro (begun | ⟨⟨before, first, between, rfl, begun, lasts⟩, open'⟩)
    · exact ⟨inputs, input, [], rfl, begun, trivial⟩
    · refine ⟨before, first, between ++ [input], by simp, begun, ?_⟩
      rw [along_append]
      refine ⟨lasts, ?_, trivial⟩
      rwa [← final_append, List.append_assoc past, ← trace_append, List.append_assoc,
        List.singleton_append]

/-- What holds after a step exactly if the step begins it, or it held before and the step does not
end it, holds at the end of a run exactly if it has begun and has not ended since. -/
theorem Along.since_iff (property : σ → Prop) (held : Along step condition past state inputs)
    (starts : ¬ property state)
    (exact : ∀ past state input, condition past state input →
      (property (step state input).2 ↔
        begins past state input ∨ property state ∧ ¬ ends past state input)) :
    property (final step state inputs) ↔ Since step begins ends past state inputs := by
  induction inputs using List.reverseRecOn with
  | nil => exact iff_of_false starts not_since_nil
  | append_singleton inputs input ih =>
    obtain ⟨before, last, -⟩ := (along_append inputs [input]).mp held
    rw [since_append_singleton, ← ih before, final_append]
    exact exact _ _ _ last

end Machine
