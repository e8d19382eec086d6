import OpticsHub.Async.Interleaving

/-!
# What a program does, by the states it has met

A program that checks something and acts on it later acts on what an earlier state
told it. While other programs run in between, the present state need not agree with
that one any more. So what an action may do is stated by the states that the earlier
actions of the same program met, and by the one that it meets itself, and nothing is
assumed about how one state comes from another. Such a statement is about a program
alone, and holds of every call in every interleaving with anything.
-/
namespace Async

open Machine

universe u v w

namespace Program

variable {σ : Type u} {ε α β : Type v}

/-- Whatever states its actions meet, as long as each is fine after those before it, every
action does what is allowed after them, and a value is returned as required. -/
def Heeds (fine : List σ → σ → Prop) (allowed : List σ → σ → σ → Prop)
    (post : α → List σ → Prop) : List σ → Program σ ε α → Prop
  | seen, done (.ok value) => post value seen
  | _, done (.error _) => True
  | seen, act effect next => ∀ state, fine seen state →
      allowed seen state (effect state) ∧
        (next state).Heeds fine allowed post (seen ++ [state])

variable {fine : List σ → σ → Prop} {allowed : List σ → σ → σ → Prop} {post : α → List σ → Prop}
  {seen : List σ}

theorem heeds_pure {value : α} (held : post value seen) :
    Heeds fine allowed post seen (pure value : Program σ ε α) :=
  held

theorem heeds_step {action : σ → α × σ}
    (held : ∀ state, fine seen state → allowed seen state (action state).2 ∧
      post (action state).1 (seen ++ [state])) :
    Heeds fine allowed post seen (step action : Program σ ε α) :=
  held

theorem heeds_look {view : σ → α} (silent : ∀ state, allowed seen state state)
    (held : ∀ state, fine seen state → post (view state) (seen ++ [state])) :
    Heeds fine allowed post seen (look view : Program σ ε α) :=
  fun state met => ⟨silent state, held state met⟩

theorem heeds_atomically {action : σ → Except ε α × σ}
    (held : ∀ state, fine seen state → allowed seen state (action state).2 ∧
      ∀ value, (action state).1 = .ok value → post value (seen ++ [state])) :
    Heeds fine allowed post seen (atomically action) := by
  intro state met
  obtain ⟨permitted, returned⟩ := held state met
  refine ⟨permitted, ?_⟩
  change Heeds fine allowed post _ (done (action state).1)
  cases outcome : (action state).1 with
  | ok value => exact returned value outcome
  | error error => exact trivial

theorem heeds_require {condition : Prop} [Decidable condition] {error : ε}
    {post : PUnit → List σ → Prop} (held : condition → post ⟨⟩ seen) :
    Heeds fine allowed post seen (require condition error : Program σ ε PUnit) := by
  rw [require]
  split
  · rename_i met
    exact held met
  · exact trivial

theorem heeds_orThrow {value : Option α} {error : ε}
    (held : ∀ found, value = some found → post found seen) :
    Heeds fine allowed post seen (orThrow value error : Program σ ε α) := by
  cases value with
  | none => exact trivial
  | some value => exact held value rfl

theorem heeds_fromExcept {result : Except ε α}
    (held : ∀ value, result = .ok value → post value seen) :
    Heeds fine allowed post seen (fromExcept result : Program σ ε α) := by
  cases result with
  | ok value => exact held value rfl
  | error error => exact trivial

/-- What the first part of a program returns, and the states it met, are known to the rest. -/
theorem Heeds.bind {program : Program σ ε α} {rest : α → Program σ ε β}
    {post : β → List σ → Prop}
    (first : Heeds fine allowed (fun value seen => Heeds fine allowed post seen (rest value)) seen
      program) :
    Heeds fine allowed post seen (program >>= rest) := by
  induction program generalizing seen with
  | done result =>
    cases result with
    | ok value => exact first
    | error error => exact trivial
  | act effect next ih => exact fun state met => ⟨(first state met).1, ih state (first state met).2⟩

theorem Heeds.mono {post' : α → List σ → Prop} {program : Program σ ε α}
    (held : Heeds fine allowed post seen program)
    (weaker : ∀ value later, seen <+: later → post value later → post' value later) :
    Heeds fine allowed post' seen program := by
  induction program generalizing seen with
  | done result =>
    cases result with
    | ok value => exact weaker value seen (List.prefix_refl seen) held
    | error error => exact trivial
  | act effect next ih =>
    intro state met
    obtain ⟨permitted, later⟩ := held state met
    refine ⟨permitted, ih state later fun value states longer => weaker value states ?_⟩
    exact (List.prefix_append seen [state]).trans longer

/-- A handler of exceptions goes on after the states that were met. -/
theorem Heeds.tryCatch {program : Program σ ε α} {handler : ε → Program σ ε α}
    (held : Heeds fine allowed post seen program)
    (handled : ∀ error later, Heeds fine allowed post later (handler error)) :
    Heeds fine allowed post seen (program.tryCatch handler) := by
  induction program generalizing seen with
  | done result =>
    cases result with
    | ok value => exact held
    | error error => exact handled error seen
  | act effect next ih => exact fun state met => ⟨(held state met).1, ih state (held state met).2⟩

/-- Actions that are allowed whenever they are taken are allowed after any states that follow
those that were met before. -/
theorem Always.heeds_from {steps : σ → σ → Prop} {program : Program σ ε α}
    (always : Always steps program)
    (permitted : ∀ later before after, seen <+: later → steps before after →
      allowed later before after) :
    Heeds fine allowed (fun _ later => seen <+: later) seen program := by
  suffices along : ∀ later, seen <+: later →
      Heeds fine allowed (fun _ later => seen <+: later) later program from
    along seen (List.prefix_refl seen)
  induction program with
  | done result =>
    intro later longer
    cases result with
    | ok value => exact longer
    | error error => exact trivial
  | act effect next ih =>
    intro later longer state _
    refine ⟨permitted later _ _ longer (always.next state).1, ih state (always.next state).2 _ ?_⟩
    exact longer.trans (List.prefix_append later [state])

/-- Actions that are allowed whenever they are taken are allowed after any states. -/
theorem Always.heeds {steps : σ → σ → Prop} {program : Program σ ε α}
    (always : Always steps program)
    (permitted : ∀ seen before after, steps before after → allowed seen before after) :
    Heeds fine allowed (fun _ _ => True) seen program :=
  (always.heeds_from fun later before after _ => permitted later before after).mono
    fun _ _ _ _ => trivial

/-- Where everything is allowed, a program does what is allowed. -/
theorem heeds_anything (any : ∀ seen before after, allowed seen before after)
    (program : Program σ ε α) : Heeds fine allowed (fun _ _ => True) seen program := by
  induction program generalizing seen with
  | done result => cases result <;> exact trivial
  | act effect next ih => exact fun state _ => ⟨any seen _ _, ih state⟩

/-! ## What is left of a program -/

/-- What is left of a program when its first actions have met some states. -/
def after (program : Program σ ε α) (seen : List σ) : Program σ ε α := seen.foldl next program

@[simp]
theorem after_nil (program : Program σ ε α) : program.after [] = program := rfl

@[simp]
theorem after_cons (program : Program σ ε α) (state : σ) (seen : List σ) :
    program.after (state :: seen) = (program.next state).after seen := rfl

theorem after_append (program : Program σ ε α) (seen later : List σ) :
    program.after (seen ++ later) = (program.after seen).after later :=
  List.foldl_append

@[simp]
theorem after_done (result : Except ε α) (seen : List σ) :
    (done result : Program σ ε α).after seen = done result := by
  induction seen with
  | nil => rfl
  | cons state seen ih => exact ih

/-- The next action of a program, if there is one, is allowed. -/
theorem Always.effect {steps : σ → σ → Prop} {program : Program σ ε α}
    (always : Always steps program) (reflexive : ∀ state, steps state state) (state : σ) :
    steps state (program.effect state) := by
  cases program with
  | done result => exact reflexive state
  | act effect next => exact (always.next state).1

/-- What is left takes allowed actions, if the whole does. -/
theorem Always.after {steps : σ → σ → Prop} {program : Program σ ε α}
    (always : Always steps program) (seen : List σ) : Always steps (program.after seen) := by
  induction seen generalizing program with
  | nil => exact always
  | cons state seen ih =>
    cases program with
    | done result => exact ih always
    | act effect next => exact ih (always.next state).2

/-- Where the states that a program has met have brought it, its next action is allowed. -/
theorem Heeds.effect_after {program : Program σ ε α}
    (heeds : Heeds (fun _ _ => True) allowed post seen program) (later : List σ) (state : σ)
    (running : (program.after later).finished = false) :
    allowed (seen ++ later) state ((program.after later).effect state) := by
  induction later generalizing seen program with
  | nil =>
    cases program with
    | done result => cases running
    | act effect next =>
      rw [List.append_nil]
      exact (heeds state trivial).1
  | cons first later ih =>
    cases program with
    | done result =>
      rw [after_done] at running
      cases running
    | act effect next =>
      have held := ih (heeds first trivial).2 running
      rwa [List.append_assoc, List.singleton_append] at held

end Program

/-! ## Runs -/

section Runs

variable {κ : Type w} {σ η γ : Type u} {ε α : Type v}

/-- The states that the actions of a call have met that has started at a move, when a run
shows the state before each of its moves. -/
def statesMet (past : List (Move κ η × Shown γ σ)) (index started : ℕ) : List σ :=
  ((past.drop started).filter fun event => event.1.resumes index).map fun event => event.2.watched

theorem statesMet_append {past : List (Move κ η × Shown γ σ)} {event : Move κ η × Shown γ σ}
    {index started : ℕ} (before : started ≤ past.length) :
    statesMet (past ++ [event]) index started =
      statesMet past index started ++ if event.1.resumes index then [event.2.watched] else [] := by
  rw [statesMet, List.drop_append_of_le_length before, List.filter_append, List.map_append,
    statesMet, List.filter_singleton]
  cases event.1.resumes index <;> rfl

/-- What a call has met is part of the run. -/
theorem statesMet_subset {past : List (Move κ η × Shown γ σ)} (index started : ℕ) :
    statesMet past index started ⊆ past.map fun event => event.2.watched := by
  intro state met
  obtain ⟨event, inside, rfl⟩ := List.mem_map.mp met
  exact List.mem_map_of_mem (List.mem_of_mem_drop (List.mem_filter.mp inside).1)

variable {program : κ → Program σ ε α} {react : σ → η → γ × σ}

/-- A machine of programs that interleave with each other and with events, and that shows
the state before each move. -/
abbrev observed (program : κ → Program σ ε α) (react : σ → η → γ × σ) :
    Transition (Config κ σ ε α) (Move κ η) (Shown γ σ) :=
  move program react fun before _ => before

/-- The state that an action of a call meets is fine after those that its earlier actions met. -/
def Met (fine : κ → List σ → σ → Prop) (past : List (Move κ η × Shown γ σ))
    (config : Config κ σ ε α) : Move κ η → Prop
  | .resume index => ∀ thread, config.threads[index]? = some thread → thread.result = none →
      fine thread.call (statesMet past index thread.started) config.state
  | _ => True

instance {fine : κ → List σ → σ → Prop} [∀ call seen state, Decidable (fine call seen state)]
    (past : List (Move κ η × Shown γ σ)) (config : Config κ σ ε α) :
    (input : Move κ η) → Decidable (Met fine past config input)
  | .resume index =>
    decidable_of_iff ((config.threads[index]?).all (fun thread => thread.result.isSome ||
        decide (fine thread.call (statesMet past index thread.started) config.state)) = true) (by
      rw [Option.all_eq_true]
      refine forall_congr' fun thread => imp_congr_right fun _ => ?_
      rw [Bool.or_eq_true, decide_eq_true_eq, Option.isSome_iff_ne_none, or_iff_not_imp_left,
        not_not])
  | .start _ => isTrue trivial
  | .event _ => isTrue trivial

theorem Met.mono {fine fine' : κ → List σ → σ → Prop} {past : List (Move κ η × Shown γ σ)}
    {config : Config κ σ ε α} {input : Move κ η} (met : Met fine past config input)
    (weaker : ∀ call seen state, fine call seen state → fine' call seen state) :
    Met fine' past config input := by
  cases input with
  | resume index => exact fun thread found running => weaker _ _ _ (met thread found running)
  | start call => exact trivial
  | event event => exact trivial

/-- An action of a call does what is allowed after the states that its earlier actions met. -/
def Permitted (program : κ → Program σ ε α) (react : σ → η → γ × σ)
    (allowed : κ → List σ → σ → σ → Prop) (past : List (Move κ η × Shown γ σ))
    (config : Config κ σ ε α) : Move κ η → Prop
  | .resume index => ∀ thread, config.threads[index]? = some thread → thread.result = none →
      allowed thread.call (statesMet past index thread.started) config.state
        (observed program react config (.resume index)).2.state
  | _ => True

/-- Every call that has not ended is at a rest of its program that has a property, by the states
it has met. -/
def Attending (property : κ → List σ → Program σ ε α → Prop)
    (past : List (Move κ η × Shown γ σ)) (config : Config κ σ ε α) : Prop :=
  config.moves = past.length ∧
    ∀ (index : ℕ) (thread : Thread κ σ ε α), config.threads[index]? = some thread →
      thread.result = none → thread.started ≤ past.length ∧
        property thread.call (statesMet past index thread.started) thread.program

/-- Every call is where the states that it has met have brought it. -/
def Following (program : κ → Program σ ε α) (past : List (Move κ η × Shown γ σ))
    (config : Config κ σ ε α) : Prop :=
  config.moves = past.length ∧
    ∀ (index : ℕ) (thread : Thread κ σ ε α), config.threads[index]? = some thread →
      thread.started ≤ past.length ∧
        thread.program = (program thread.call).after (statesMet past index thread.started)

/-- Every call that has not ended heeds the states it has met. -/
def Heeding (fine : κ → List σ → σ → Prop) (allowed : κ → List σ → σ → σ → Prop)
    (past : List (Move κ η × Shown γ σ)) (config : Config κ σ ε α) : Prop :=
  config.moves = past.length ∧
    ∀ (index : ℕ) (thread : Thread κ σ ε α), config.threads[index]? = some thread →
      thread.result = none → thread.started ≤ past.length ∧
        thread.program.Heeds (fine thread.call) (allowed thread.call) (fun _ _ => True)
          (statesMet past index thread.started)

variable {fine : κ → List σ → σ → Prop} {allowed : κ → List σ → σ → σ → Prop}
  {past : List (Move κ η × Shown γ σ)} {config : Config κ σ ε α}

/-- A move adds the state before it to those that the call has met that it resumes. -/
theorem statesMet_move (input : Move κ η) {index started : ℕ} (before : started ≤ past.length) :
    statesMet (past ++ [(input, (observed program react config input).1)]) index started =
      statesMet past index started ++ if input.resumes index then [config.state] else [] := by
  rw [statesMet_append before, move_watched]

/-- A call that a move starts has met no state. -/
theorem statesMet_started (event : Move κ η × Shown γ σ) (index : ℕ) (call : κ)
    (started : event.1 = .start call) : statesMet (past ++ [event]) index past.length = [] := by
  rw [statesMet_append (Nat.le_refl _), statesMet, List.drop_length, started]
  rfl

/-- A property that every program has, and that passes to its rest with every fine state that
it meets. -/
theorem Attending.move {property : κ → List σ → Program σ ε α → Prop}
    (starts : ∀ call, property call [] (program call))
    (passes : ∀ call seen effect next state, property call seen (.act effect next) →
      fine call seen state → property call (seen ++ [state]) (next state))
    (attending : Attending property past config) (input : Move κ η)
    (met : Met fine past config input) :
    Attending property (past ++ [(input, (observed program react config input).1)])
      (observed program react config input).2 := by
  obtain ⟨moves, held⟩ := attending
  have length : (past ++ [(input, (observed program react config input).1)]).length =
      past.length + 1 := by
    rw [List.length_append, List.length_singleton]
  refine ⟨by rw [move_moves, moves, length], fun index thread found running => ?_⟩
  rcases thread_cases found with ⟨before, here, call, started, rest⟩ | ⟨rfl, call, rfl, rfl⟩
  · have open' : before.result = none := by
      obtain ⟨_, program, _, _⟩ := before
      cases program with
      | done result =>
        have ended : thread.program = .done result := rest.trans (ite_self (Program.done result))
        rw [Thread.result, ended] at running
        cases running
      | act effect next => rfl
    obtain ⟨inTime, has⟩ := held index before here open'
    rw [started, call, rest, statesMet_move input inTime]
    refine ⟨by omega, ?_⟩
    cases resumed : input.resumes index with
    | false => simpa using has
    | true =>
      cases input with
      | resume moved =>
        obtain rfl : moved = index := beq_iff_eq.mp resumed
        have fineHere := met before here open'
        obtain ⟨_, program, _, _⟩ := before
        cases program with
        | done result => cases open'
        | act effect next => exact passes _ _ _ _ _ has fineHere
      | start call => cases resumed
      | event event => cases resumed
  · refine ⟨by rw [length]; exact Nat.le_succ_of_le (Nat.le_of_eq moves), ?_⟩
    change property call (statesMet _ _ config.moves) (program call)
    rw [moves, statesMet_started _ _ call rfl]
    exact starts call

theorem Following.move (following : Following program past config) (input : Move κ η) :
    Following program (past ++ [(input, (observed program react config input).1)])
      (observed program react config input).2 := by
  obtain ⟨moves, held⟩ := following
  have length : (past ++ [(input, (observed program react config input).1)]).length =
      past.length + 1 := by
    rw [List.length_append, List.length_singleton]
  refine ⟨by rw [move_moves, moves, length], fun index thread found => ?_⟩
  rcases thread_cases found with ⟨before, here, call, started, rest⟩ | ⟨rfl, call, rfl, rfl⟩
  · obtain ⟨inTime, brought⟩ := held index before here
    rw [started, call, rest, statesMet_move input inTime]
    refine ⟨by omega, ?_⟩
    split
    · rw [Program.after_append, ← brought]
      rfl
    · rw [List.append_nil]
      exact brought
  · refine ⟨by rw [length]; exact Nat.le_succ_of_le (Nat.le_of_eq moves), ?_⟩
    change program call = (program call).after (statesMet _ _ config.moves)
    rw [moves, statesMet_started _ _ call rfl]
    rfl

theorem Heeding.permitted (heeding : Heeding fine allowed past config) (input : Move κ η)
    (met : Met fine past config input) : Permitted program react allowed past config input := by
  cases input with
  | start call => exact trivial
  | event event => exact trivial
  | resume index =>
    intro thread found running
    obtain ⟨-, held⟩ := heeding.2 index thread found running
    rw [(move_resume found running).1]
    obtain ⟨call, rest, started, ended⟩ := thread
    cases rest with
    | done result => cases running
    | act effect next => exact (held config.state (met _ found running)).1

/-- A move of a program that heeds the states it has met. -/
theorem Heeding.move (starts : ∀ call,
      (program call).Heeds (fine call) (allowed call) (fun _ _ => True) [])
    (heeding : Heeding fine allowed past config) (input : Move κ η)
    (met : Met fine past config input) :
    Heeding fine allowed (past ++ [(input, (observed program react config input).1)])
      (observed program react config input).2 :=
  Attending.move starts (fun _ _ _ _ state heeds fineHere => (heeds state fineHere).2) heeding
    input met

/-- Programs that heed the states they meet do what is allowed, in every run in which
these are fine. -/
theorem permitted_along (starts : ∀ call,
      (program call).Heeds (fine call) (allowed call) (fun _ _ => True) [])
    (start : σ) (moves : List (Move κ η))
    (met : Along (observed program react) (Met fine) [] { state := start } moves) :
    Along (observed program react) (Permitted program react allowed) [] { state := start }
      moves := by
  apply met.safe (Heeding fine allowed)
  · exact fun past config input heeding met => heeding.move starts input met
  · exact fun past config input heeding met => heeding.permitted input met
  · exact ⟨rfl, fun index thread found => by simp at found⟩

/-- A property that an action keeps exactly when it meets a state that is fine after those that
its call has met, and that events keep, holds in every state of a run exactly if all states are
fine that the actions meet. -/
theorem met_iff_kept (starts : ∀ call,
      (program call).Heeds (fun _ _ => True) (allowed call) (fun _ _ => True) [])
    (property : σ → Prop)
    (exact : ∀ call seen before after, allowed call seen before after → property before →
      (property after ↔ fine call seen before))
    (aside : ∀ state event, property state → property (react state event).2)
    {start : σ} (given : property start) (moves : List (Move κ η)) :
    Along (observed program react)
        (fun _ config input => property (observed program react config input).2.state) []
        { state := start } moves ↔
      Along (observed program react) (Met fine) [] { state := start } moves := by
  apply along_kept_iff (fun config => property config.state) (Heeding (fun _ _ _ => True) allowed)
  case held => exact along_trivial _ _ _
  case given => exact ⟨rfl, fun index thread found => by simp at found⟩
  case starts => exact given
  · intro past config input _ heeding _
    exact heeding.move starts input (by cases input <;> simp [Met])
  · intro past config input _ heeding held
    have permitted : Permitted program react allowed past config input :=
      heeding.permitted input (by cases input <;> simp [Met])
    cases input with
    | start call => exact iff_of_true held trivial
    | event event => exact iff_of_true (aside _ _ held) trivial
    | resume index =>
      by_cases open' : ∃ thread, config.threads[index]? = some thread ∧ thread.result = none
      · obtain ⟨thread, found, running⟩ := open'
        rw [exact _ _ _ _ (permitted thread found running) held]
        constructor
        · intro here other found' _
          obtain rfl := Option.some.inj (found.symm.trans found')
          exact here
        · exact fun met => met thread found running
      · have idle (thread : Thread κ σ ε α) (found : config.threads[index]? = some thread) :
            thread.result ≠ none := fun running => open' ⟨thread, found, running⟩
        refine iff_of_true ?_ fun thread found running => absurd running (idle thread found)
        change property (Async.move program react _ config (.resume index)).2.state
        rw [(move_idle idle).1]
        exact held

end Runs

end Async
