import Mathlib.Data.List.Basic
import Mathlib.Data.List.Induction

/-!
# Runs of a machine with inputs and outputs

A machine is its step: from a state and an input to an output and the next state.
A run feeds it a list of inputs, and its trace keeps every input with the output
it had. Safety properties of a run speak about the past, so the invariants here
relate the state reached to the trace that led to it. One rule carries a history
invariant along a run whose steps all meet a condition, and a second concludes
that any two events of the trace stand in a relation that each step establishes
between the events before it and its own.
-/
namespace Machine

universe u v w

variable {σ : Type u} {α : Type v} {β : Type w}

/-- One step: the output and the next state. -/
abbrev Transition (σ : Type u) (α : Type v) (β : Type w) := σ → α → β × σ

variable (step : Transition σ α β)

/-- Every input of a run with its output, in order. -/
def trace (state : σ) : List α → List (α × β)
  | [] => []
  | input :: rest => (input, (step state input).1) :: trace (step state input).2 rest

/-- The state a run ends in. -/
def final (state : σ) : List α → σ
  | [] => state
  | input :: rest => final (step state input).2 rest

/-- Every step of a run meets a condition on the events before it, the state it
starts from and its input. -/
def Along (condition : List (α × β) → σ → α → Prop) (past : List (α × β)) (state : σ) :
    List α → Prop
  | [] => True
  | input :: rest =>
    condition past state input ∧
      Along condition (past ++ [(input, (step state input).1)]) (step state input).2 rest

/-- Every step of a run meets a condition on the state and the input. -/
abbrev Each (condition : σ → α → Prop) (state : σ) (inputs : List α) : Prop :=
  Along step (fun _ => condition) [] state inputs

@[simp]
theorem trace_length (state : σ) (inputs : List α) :
    (trace step state inputs).length = inputs.length := by
  induction inputs generalizing state with
  | nil => rfl
  | cons input rest ih => rw [trace, List.length_cons, ih, List.length_cons]

@[simp]
theorem map_fst_trace (state : σ) (inputs : List α) :
    (trace step state inputs).map Prod.fst = inputs := by
  induction inputs generalizing state with
  | nil => rfl
  | cons input rest ih => rw [trace, List.map_cons, ih]

theorem trace_append (state : σ) (first second : List α) :
    trace step state (first ++ second) =
      trace step state first ++ trace step (final step state first) second := by
  induction first generalizing state with
  | nil => rfl
  | cons input rest ih => rw [List.cons_append, trace, trace, final, ih, List.cons_append]

theorem final_append (state : σ) (first second : List α) :
    final step state (first ++ second) = final step (final step state first) second := by
  induction first generalizing state with
  | nil => rfl
  | cons input rest ih => rw [List.cons_append, final, final, ih]

variable {step} {condition condition' : List (α × β) → σ → α → Prop}
  {past : List (α × β)} {state : σ} {inputs : List α}

theorem along_append (first second : List α) :
    Along step condition past state (first ++ second) ↔
      Along step condition past state first ∧
        Along step condition (past ++ trace step state first) (final step state first) second := by
  induction first generalizing past state with
  | nil => simp [Along, trace, final]
  | cons input rest ih =>
    rw [List.cons_append, Along, ih, Along, trace, final, and_assoc, List.append_assoc,
      List.singleton_append]

instance Along.decidable [∀ past state input, Decidable (condition past state input)] :
    (past : List (α × β)) → (state : σ) → (inputs : List α) →
      Decidable (Along step condition past state inputs)
  | _, _, [] => isTrue trivial
  | past, state, input :: rest =>
    have := Along.decidable (past ++ [(input, (step state input).1)]) (step state input).2 rest
    inferInstanceAs (Decidable (condition past state input ∧ _))

theorem along_trivial (past : List (α × β)) (state : σ) (inputs : List α) :
    Along step (fun _ _ _ => True) past state inputs := by
  induction inputs generalizing past state with
  | nil => exact trivial
  | cons input rest ih => exact ⟨trivial, ih _ _⟩

theorem Along.and (held : Along step condition past state inputs)
    (held' : Along step condition' past state inputs) :
    Along step (fun past state input => condition past state input ∧
      condition' past state input) past state inputs := by
  induction inputs generalizing past state with
  | nil => exact trivial
  | cons input rest ih => exact ⟨⟨held.1, held'.1⟩, ih held.2 held'.2⟩

theorem Along.mono (held : Along step condition past state inputs)
    (weaker : ∀ past state input, condition past state input → condition' past state input) :
    Along step condition' past state inputs := by
  induction inputs generalizing past state with
  | nil => exact trivial
  | cons input rest ih => exact ⟨weaker _ _ _ held.1, ih held.2⟩

/-- A relation between any two inputs, earlier to later, as a condition on steps. -/
theorem Along.of_pairwise (step : Transition σ α β) (past : List (α × β)) (state : σ)
    (related : α → α → Prop)
    (ordered : (past.map Prod.fst ++ inputs).Pairwise related) :
    Along step (fun past _ input => ∀ event ∈ past, related event.1 input)
      past state inputs := by
  induction inputs generalizing past state with
  | nil => exact trivial
  | cons input rest ih =>
    refine ⟨fun event inside => ?_, ih _ _ ?_⟩
    · exact (List.pairwise_append.mp ordered).2.2 _ (List.mem_map_of_mem inside) _
        List.mem_cons_self
    · simpa using ordered

/-- An invariant of history and state that every step keeps holds at the end. -/
theorem Along.invariant (invariant : List (α × β) → σ → Prop)
    (keeps : ∀ past state input, invariant past state → condition past state input →
      invariant (past ++ [(input, (step state input).1)]) (step state input).2)
    (held : Along step condition past state inputs) (starts : invariant past state) :
    invariant (past ++ trace step state inputs) (final step state inputs) := by
  induction inputs generalizing past state with
  | nil => simpa [trace, final] using starts
  | cons input rest ih =>
    have next := ih held.2 (keeps past state input starts held.1)
    rwa [List.append_assoc, List.singleton_append] at next

/-- What an invariant makes of the condition on each step holds along the run. -/
theorem Along.safe (invariant : List (α × β) → σ → Prop)
    (keeps : ∀ past state input, invariant past state → condition past state input →
      invariant (past ++ [(input, (step state input).1)]) (step state input).2)
    (safe : ∀ past state input, invariant past state → condition past state input →
      condition' past state input)
    (held : Along step condition past state inputs) (starts : invariant past state) :
    Along step condition' past state inputs := by
  induction inputs generalizing past state with
  | nil => exact trivial
  | cons input rest ih =>
    exact ⟨safe past state input starts held.1,
      ih held.2 (keeps past state input starts held.1)⟩

/-- A condition on events that every step meets is a condition on every event of the
trace, given the events before it. -/
theorem along_events_iff (step : Transition σ α β) (rule : List (α × β) → α × β → Prop)
    (past : List (α × β)) (state : σ) (inputs : List α) :
    Along step (fun past state input => rule past (input, (step state input).1)) past state
        inputs ↔
      ∀ before event after, trace step state inputs = before ++ event :: after →
        rule (past ++ before) event := by
  induction inputs generalizing past state with
  | nil => simp [Along, trace]
  | cons input rest ih =>
    rw [Along, trace, ih]
    constructor
    · rintro ⟨first, later⟩ before event after split
      cases before with
      | nil =>
        obtain ⟨rfl, -⟩ := List.cons.inj split
        rwa [List.append_nil]
      | cons head before =>
        obtain ⟨rfl, tail⟩ := List.cons.inj split
        have held := later before event after tail
        rwa [List.append_assoc, List.singleton_append] at held
    · intro held
      refine ⟨?_, fun before event after split => ?_⟩
      · have first := held [] _ _ rfl
        rwa [List.append_nil] at first
      · have next := held (_ :: before) event after (congrArg (List.cons _) split)
        rwa [List.append_assoc, List.singleton_append]

/-- Conditions that agree while an invariant holds agree along runs, if a step that meets them
keeps the invariant. The steps may be known to meet another condition. -/
theorem along_agree_given {premise : List (α × β) → σ → α → Prop}
    (invariant : List (α × β) → σ → Prop)
    (keeps : ∀ past state input, invariant past state → premise past state input →
      condition past state input →
        invariant (past ++ [(input, (step state input).1)]) (step state input).2)
    (agree : ∀ past state input, invariant past state → premise past state input →
      (condition past state input ↔ condition' past state input))
    (held : Along step premise past state inputs) (starts : invariant past state) :
    Along step condition past state inputs ↔ Along step condition' past state inputs := by
  induction inputs generalizing past state with
  | nil => rfl
  | cons input rest ih =>
    rw [Along, Along, ← agree past state input starts held.1]
    exact and_congr_right fun met => ih held.2 (keeps past state input starts held.1 met)

/-- Conditions that agree while an invariant holds agree along runs, if a step that meets them
keeps the invariant. -/
theorem along_agree (invariant : List (α × β) → σ → Prop)
    (keeps : ∀ past state input, invariant past state → condition past state input →
      invariant (past ++ [(input, (step state input).1)]) (step state input).2)
    (agree : ∀ past state input, invariant past state →
      (condition past state input ↔ condition' past state input))
    (starts : invariant past state) :
    Along step condition past state inputs ↔ Along step condition' past state inputs :=
  along_agree_given invariant (fun past state input held _ => keeps past state input held)
    (fun past state input held _ => agree past state input held) (along_trivial _ _ _) starts

/-- Conditions that agree under an invariant that every step keeps agree along runs. -/
theorem along_congr (invariant : List (α × β) → σ → Prop)
    (keeps : ∀ past state input, invariant past state →
      invariant (past ++ [(input, (step state input).1)]) (step state input).2)
    (agree : ∀ past state input, invariant past state →
      (condition past state input ↔ condition' past state input))
    (starts : invariant past state) :
    Along step condition past state inputs ↔ Along step condition' past state inputs :=
  along_agree invariant (fun past state input held _ => keeps past state input held) agree starts

/-- An invariant that a step keeps exactly under a condition holds in every state of a run exactly
if each step meets the condition. The steps may be known to meet another condition, and the
invariant may come with more that is only known while it holds. -/
theorem along_kept_iff {premise : List (α × β) → σ → α → Prop} (invariant : σ → Prop)
    (besides : List (α × β) → σ → Prop)
    (remains : ∀ past state input, premise past state input → besides past state →
      invariant state → besides (past ++ [(input, (step state input).1)]) (step state input).2)
    (exact : ∀ past state input, premise past state input → besides past state →
      invariant state → (invariant (step state input).2 ↔ condition past state input))
    (held : Along step premise past state inputs) (given : besides past state)
    (starts : invariant state) :
    Along step (fun _ state input => invariant (step state input).2) past state inputs ↔
      Along step condition past state inputs := by
  induction inputs generalizing past state with
  | nil => exact Iff.rfl
  | cons input rest ih =>
    rw [Along, Along, exact past state input held.1 given starts]
    refine and_congr_right fun met => ih held.2 (remains past state input held.1 given starts) ?_
    exact (exact past state input held.1 given starts).mpr met

/-- An invariant that a step keeps exactly under a condition holds in every state of a run
exactly if each step meets the condition. -/
theorem each_kept_iff {condition : σ → α → Prop} (invariant : σ → Prop)
    (exact : ∀ state input, invariant state →
      (invariant (step state input).2 ↔ condition state input))
    (starts : invariant state) :
    Each step (fun state input => invariant (step state input).2) state inputs ↔
      Each step condition state inputs :=
  along_kept_iff invariant (fun _ _ => True) (fun _ _ _ _ _ _ => trivial)
    (fun _ state input _ _ => exact state input) (along_trivial _ _ _) trivial starts

/-- When each step relates every event of the past to its own, the trace is related
pairwise. -/
theorem Along.pairwise_trace (invariant : List (α × β) → σ → Prop)
    {related : α × β → α × β → Prop}
    (keeps : ∀ past state input, invariant past state → condition past state input →
      invariant (past ++ [(input, (step state input).1)]) (step state input).2)
    (relates : ∀ past state input, invariant past state → condition past state input →
      ∀ event ∈ past, related event (input, (step state input).1))
    (held : Along step condition [] state inputs) (starts : invariant [] state) :
    (trace step state inputs).Pairwise related := by
  have whole := Along.invariant
    (fun past state => invariant past state ∧ past.Pairwise related)
    (fun past state input inv met => ⟨keeps past state input inv.1 met,
      List.pairwise_append.mpr ⟨inv.2, List.pairwise_singleton _ _, fun event inside last same => by
        rw [List.mem_singleton.mp same]
        exact relates past state input inv.1 met event inside⟩⟩)
    held ⟨starts, List.Pairwise.nil⟩
  simpa using whole.2

end Machine
