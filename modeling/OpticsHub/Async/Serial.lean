import Mathlib.Data.List.Perm.Basic
import OpticsHub.Async.Interleaving

/-!
# Interleavings that a serial order explains

Calls that overlap are serialisable if running them one after another, in some order,
gives every call the result it had and leads to the same state. States count as the
same up to what no program reads. A call is explained by a place in the serial order:
until it takes that place its actions change nothing, and from then until its end it
is alone, so that the rest of its program does in the present state what the whole of
it would have done. At most one call is in this second part at any time, and the
serial state is the one before it.
-/
namespace Async

open Machine

universe u v w x

variable {κ : Type w} {σ : Type u} {ε α β : Type v}

/-! ## States that count as the same -/

/-- Two outcomes with the same result and states that count as the same. -/
def SameOutcome (same : σ → σ → Prop) (outcome outcome' : Except ε α × σ) : Prop :=
  outcome.1 = outcome'.1 ∧ same outcome.2 outcome'.2

/-- A program that does the same in states that count as the same. -/
def Respects (same : σ → σ → Prop) (program : Program σ ε α) : Prop :=
  ∀ state state', same state state' → SameOutcome same (program.run state) (program.run state')

section Respects

variable {same : σ → σ → Prop}

theorem SameOutcome.trans (equivalence : Equivalence same)
    {first second third : Except ε α × σ} (one : SameOutcome same first second)
    (other : SameOutcome same second third) : SameOutcome same first third :=
  ⟨one.1.trans other.1, equivalence.trans one.2 other.2⟩

theorem SameOutcome.symm (equivalence : Equivalence same) {first second : Except ε α × σ}
    (one : SameOutcome same first second) : SameOutcome same second first :=
  ⟨one.1.symm, equivalence.symm one.2⟩

theorem SameOutcome.of_eq (equivalence : Equivalence same) {first second : Except ε α × σ}
    (equal : first = second) : SameOutcome same first second :=
  ⟨congrArg Prod.fst equal, equal ▸ equivalence.refl _⟩

theorem respects_done (result : Except ε α) : Respects same (Program.done (σ := σ) result) :=
  fun _ _ related => ⟨rfl, related⟩

theorem Respects.bind {program : Program σ ε α} {rest : α → Program σ ε β}
    (first : Respects same program) (later : ∀ value, Respects same (rest value)) :
    Respects same (program >>= rest) := by
  intro state state' related
  rw [Program.run_bind, Program.run_bind]
  obtain ⟨results, states⟩ := first state state' related
  cases outcome : program.run state with
  | mk result after =>
    cases outcome' : program.run state' with
    | mk result' after' =>
      rw [outcome, outcome'] at results states
      cases results
      cases result with
      | ok value => exact later value after after' states
      | error error => exact ⟨rfl, states⟩

theorem respects_atomically {action : σ → Except ε α × σ}
    (held : ∀ state state', same state state' → SameOutcome same (action state) (action state')) :
    Respects same (Program.atomically action) :=
  held

theorem respects_step {action : σ → α × σ}
    (held : ∀ state state', same state state' →
      (action state).1 = (action state').1 ∧ same (action state).2 (action state').2) :
    Respects same (Program.step action : Program σ ε α) :=
  fun state state' related =>
    ⟨congrArg Except.ok (held state state' related).1, (held state state' related).2⟩

theorem respects_look {view : σ → α}
    (held : ∀ state state', same state state' → view state = view state') :
    Respects same (Program.look view : Program σ ε α) :=
  respects_step fun state state' related => ⟨held state state' related, related⟩

theorem respects_require (condition : Prop) [Decidable condition] (error : ε) :
    Respects same (Program.require condition error : Program σ ε PUnit) := by
  rw [Program.require]
  split
  · exact respects_done _
  · exact respects_done _

theorem respects_orThrow (value : Option α) (error : ε) :
    Respects same (Program.orThrow value error : Program σ ε α) := by
  cases value with
  | none => exact respects_done _
  | some value => exact respects_done _

end Respects

/-! ## Serial runs -/

section Serial

variable (program : κ → Program σ ε α)

/-- Calls one after another: each with its result, and the state in the end. -/
def serial (state : σ) : List κ → List (κ × Except ε α) × σ
  | [] => ([], state)
  | call :: rest =>
    let outcome := (program call).run state
    let later := serial outcome.2 rest
    ((call, outcome.1) :: later.1, later.2)

theorem serial_append (state : σ) (first second : List κ) :
    serial program state (first ++ second) =
      ((serial program state first).1 ++ (serial program (serial program state first).2 second).1,
        (serial program (serial program state first).2 second).2) := by
  induction first generalizing state with
  | nil => rfl
  | cons call rest ih => simp only [List.cons_append, serial, ih]

theorem map_fst_serial (state : σ) (calls : List κ) :
    (serial program state calls).1.map Prod.fst = calls := by
  induction calls generalizing state with
  | nil => rfl
  | cons call rest ih => simp only [serial, List.map_cons, ih]

/-- A serial run of the calls of a configuration, in some order, has the same results and
ends in the same state. -/
def Serialisable (same : σ → σ → Prop) (start : σ) (config : Config κ σ ε α) : Prop :=
  ∃ order, (config.threads.map fun thread => (thread.call, thread.result)).Perm
      ((serial program start order).1.map fun entry => (entry.1, some entry.2)) ∧
    same config.state (serial program start order).2

end Serial

/-- The calls that have ended, with their results. -/
def endedCalls (threads : List (Thread κ σ ε α)) : List (κ × Except ε α) :=
  threads.filterMap fun thread => thread.result.map (Prod.mk thread.call)

section Ended

variable {threads : List (Thread κ σ ε α)}

theorem endedCalls_append (more : List (Thread κ σ ε α)) :
    endedCalls (threads ++ more) = endedCalls threads ++ endedCalls more :=
  List.filterMap_append

/-- A call that goes on without an end changes nothing for the calls that have ended. -/
theorem endedCalls_set {index : ℕ} {thread thread' : Thread κ σ ε α}
    (found : threads[index]? = some thread) (open' : thread.result = none) :
    (endedCalls (threads.set index thread')).Perm
      ((thread'.result.map (Prod.mk thread'.call)).toList ++ endedCalls threads) := by
  induction threads generalizing index with
  | nil => simp at found
  | cons head tail ih =>
    cases index with
    | zero =>
      obtain rfl : head = thread := by simpa using found
      cases ended : thread'.result <;> simp [endedCalls, open', ended]
    | succ index =>
      have rest := @ih index (by simpa using found)
      cases ended : head.result with
      | none => simpa [endedCalls, List.filterMap_cons, ended] using rest
      | some result =>
        simp only [endedCalls, List.set_cons_succ, List.filterMap_cons, ended, Option.map_some]
        refine (rest.cons (head.call, result)).trans ?_
        exact List.perm_middle.symm

end Ended

/-! ## The serial order of a configuration -/

section Explained

variable (program : κ → Program σ ε α) (same : σ → σ → Prop)

/-- The present state in terms of the serial one: the same, or on the way of the one call
that has taken its place and not ended. -/
def Present (config : Config κ σ ε α) (base : σ) : Option ℕ → Prop
  | none => same config.state base
  | some index => ∃ thread, config.threads[index]? = some thread ∧ thread.result = none ∧
      SameOutcome same (thread.program.run config.state) ((program thread.call).run base)

/-- The calls that have ended are explained by a serial order, apart from the one that has
taken its place in it and not ended. -/
structure Explained (start : σ) (config : Config κ σ ε α) (order : List κ)
    (owner : Option ℕ) : Prop where
  results : (endedCalls config.threads).Perm (serial program start order).1
  present : Present program same config (serial program start order).2 owner

/-- The order after an action that may have been the last one of its call. -/
def orderAfter (order : List κ) (call : κ) : Program σ ε α → List κ
  | .done _ => order ++ [call]
  | .act _ _ => order

/-- The call on its way after an action of it. -/
def ownerAfter (index : ℕ) : Program σ ε α → Option ℕ
  | .done _ => none
  | .act _ _ => some index

variable {program same} {start : σ} {config config' : Config κ σ ε α} {order : List κ}
  {owner : Option ℕ} {index : ℕ} {thread : Thread κ σ ε α}

/-- The results when one more call ends, or goes on. -/
theorem Explained.results_after (explained : Explained program same start config order owner)
    (found : config.threads[index]? = some thread) (running : thread.result = none)
    (rest : Program σ ε α) (moves : ℕ)
    (ends : ∀ result, rest = .done result →
      ((program thread.call).run (serial program start order).2).1 = result) :
    (endedCalls (config.threads.set index
        (Thread.continue thread.call rest thread.started moves))).Perm
      (serial program start (orderAfter order thread.call rest)).1 := by
  refine (endedCalls_set found running).trans ?_
  cases rest with
  | done result =>
    rw [orderAfter, serial_append]
    simp only [serial, ends result rfl]
    exact (explained.results.cons (thread.call, result)).trans
      (List.perm_append_singleton _ _).symm
  | act effect next => exact explained.results

/-- What is on its way does not notice a serial state that counts as the same. -/
theorem Present.congr (equivalence : Equivalence same)
    (respects : ∀ call, Respects same (program call)) {base base' : σ}
    (present : Present program same config base owner) (related : same base base') :
    Present program same config base' owner := by
  cases owner with
  | none => exact equivalence.trans present related
  | some index =>
    obtain ⟨thread, found, running, outcome⟩ := present
    exact ⟨thread, found, running,
      outcome.trans equivalence (respects thread.call base base' related)⟩

/-- An action that changes nothing, of a call that is not on its way. If the call ends with
it, then so it would in the serial state, and changes nothing there either. -/
theorem Explained.aside (equivalence : Equivalence same)
    (respects : ∀ call, Respects same (program call))
    (explained : Explained program same start config order owner)
    (found : config.threads[index]? = some thread) (running : thread.result = none)
    (other : owner ≠ some index) {rest : Program σ ε α} {moves : ℕ}
    (states : config'.state = config.state)
    (threads : config'.threads = config.threads.set index
      (Thread.continue thread.call rest thread.started moves))
    (ends : ∀ result, rest = .done result →
      SameOutcome same ((program thread.call).run (serial program start order).2)
        (result, (serial program start order).2)) :
    Explained program same start config' (orderAfter order thread.call rest) owner := by
  constructor
  · rw [threads]
    exact explained.results_after found running rest moves fun result done => (ends result done).1
  · have kept : Present program same config' (serial program start order).2 owner := by
      have before := explained.present
      cases owner with
      | none => rwa [Present, states]
      | some owner =>
        obtain ⟨thread', found', running', outcome⟩ := before
        have differs : index ≠ owner := fun equal => other (congrArg some equal.symm)
        refine ⟨thread', ?_, running', by rwa [states]⟩
        rw [threads, List.getElem?_set_ne differs, found']
    refine kept.congr equivalence respects ?_
    cases rest with
    | done result =>
      rw [orderAfter, serial_append]
      exact equivalence.symm (ends result rfl).2
    | act effect next => exact equivalence.refl _

/-- An action of a call that is on its way, or that takes its place with it: what is left of
its program does what the whole of it would do in the serial state. -/
theorem Explained.take (explained : Explained program same start config order owner)
    (found : config.threads[index]? = some thread) (running : thread.result = none)
    {rest : Program σ ε α} {moves : ℕ}
    (threads : config'.threads = config.threads.set index
      (Thread.continue thread.call rest thread.started moves))
    (outcome : SameOutcome same (rest.run config'.state)
      ((program thread.call).run (serial program start order).2)) :
    Explained program same start config' (orderAfter order thread.call rest)
      (ownerAfter index rest) := by
  constructor
  · rw [threads]
    apply explained.results_after found running rest moves
    rintro result rfl
    exact outcome.1.symm
  · cases rest with
    | done result =>
      rw [orderAfter, serial_append]
      exact outcome.2
    | act effect next =>
      refine ⟨Thread.continue thread.call (.act effect next) thread.started moves, ?_, rfl, outcome⟩
      rw [threads]
      exact List.getElem?_set_self (List.getElem?_eq_some_iff.mp found).1

/-- A call that starts has not ended. -/
theorem Explained.call_starts (explained : Explained program same start config order owner)
    {call : κ} {rest : Program σ ε α} {moves : ℕ} (running : rest.finished = false)
    (states : config'.state = config.state)
    (threads : config'.threads = config.threads ++ [Thread.continue call rest moves moves]) :
    Explained program same start config' order owner := by
  constructor
  · cases rest with
    | done result => cases running
    | act effect next =>
      rw [threads, endedCalls_append]
      simpa [endedCalls, Thread.continue, Thread.result] using explained.results
  · have before := explained.present
    cases owner with
    | none => rwa [Present, states]
    | some owner =>
      obtain ⟨thread', found', running', outcome⟩ := before
      refine ⟨thread', ?_, running', by rwa [states]⟩
      rw [threads, List.getElem?_append_left (List.getElem?_eq_some_iff.mp found').1, found']

/-- A configuration that is explained and in which all calls have ended is serialisable. -/
theorem Explained.serialisable (explained : Explained program same start config order owner)
    (ended : ∀ thread ∈ config.threads, thread.result.isSome = true) :
    Serialisable program same start config := by
  refine ⟨order, ?_, ?_⟩
  · have all : (config.threads.map fun thread => (thread.call, thread.result)) =
        (endedCalls config.threads).map fun entry => (entry.1, some entry.2) := by
      rw [endedCalls, List.map_filterMap, ← List.filterMap_eq_map]
      refine List.filterMap_congr fun thread inside => ?_
      obtain ⟨result, done⟩ := Option.isSome_iff_exists.mp (ended thread inside)
      simp [done]
    rw [all]
    exact explained.results.map _
  · have before := explained.present
    cases owner with
    | none => exact before
    | some owner =>
      obtain ⟨thread, found, running, -⟩ := before
      have done := ended thread (List.mem_of_getElem? found)
      rw [running] at done
      cases done

end Explained

end Async
