import Mathlib.Data.List.Perm.Basic
import OpticsHub.Async.Undisturbed

/-!
# A job that all who ask share

Something is computed or fetched for whoever asks. A call that finds the answer known already is
answered with it. A call that finds a job under way joins it, and is answered when that job ends.
Any other call starts a job, runs it, and forgets it at the end, however it ended. So at most one
job is under way in any interleaving, and the jobs come one after another: between the start of a
job and its end nothing but events from outside comes between its actions. What every job
restores, and every event keeps, holds whenever no job is under way.

The jobs are numbered in the order in which they start.
-/
namespace Async

open Machine Program

universe u v w x

/-- A state, the job that is under way, and how many have been started. -/
structure Shared (σ : Type u) where
  inner : σ
  pending : Option ℕ := none
  jobs : ℕ := 0

/-- How a call is answered: with what was known, by the job that was under way, or by a job of its
own. -/
inductive Answer (ε α : Type v) where
  | known (value : α)
  | joined (job : ℕ)
  | own (job : ℕ) (outcome : Except ε α)

/-- What a call finds when it comes. -/
inductive Entry (α ρ : Type v) where
  | known (value : α)
  | joined (job : ℕ)
  | begins (job : ℕ) (reading : ρ)

variable {κ : Type w} {σ : Type u} {ε α ρ : Type v} {η : Type u} {γ : Type u}

namespace Program

/-- A call comes. Where it starts a job it reads something at the same moment. -/
def enter (known : σ → Option α) (reads : σ → ρ) (state : Shared σ) : Entry α ρ × Shared σ :=
  match known state.inner, state.pending with
  | some value, _ => (.known value, state)
  | none, some job => (.joined job, state)
  | none, none => (.begins state.jobs (reads state.inner),
      { state with pending := some state.jobs, jobs := state.jobs + 1 })

/-- What is left of a job with a number. The job is forgotten when it has ended. -/
def running (job : ℕ) : Program σ ε α → Program (Shared σ) ε (Answer ε α)
  | done outcome =>
    act (fun state => { state with pending := none }) fun _ => done (.ok (.own job outcome))
  | act effect next =>
    act (fun state => { state with inner := effect state.inner }) fun state =>
      running job (next state.inner)

/-- A call after it has come. -/
def entered (work : ρ → Program σ ε α) : Entry α ρ → Program (Shared σ) ε (Answer ε α)
  | .known value => pure (.known value)
  | .joined job => pure (.joined job)
  | .begins job reading => running job (work reading)

/-- A call that asks for what all share. -/
def shared (known : σ → Option α) (reads : σ → ρ) (work : ρ → Program σ ε α) :
    Program (Shared σ) ε (Answer ε α) :=
  step (enter known reads) >>= entered work

end Program

/-- An event from outside concerns the state only. -/
def aside (react : σ → η → γ × σ) (state : Shared σ) (event : η) : γ × Shared σ :=
  ((react state.inner event).1, { state with inner := (react state.inner event).2 })

/-- A call that has run a job, and how the job ended. -/
def Thread.outcome (thread : Thread κ (Shared σ) ε (Answer ε α)) : Option (κ × Except ε α) :=
  match thread.result with
  | some (.ok (.own _ outcome)) => some (thread.call, outcome)
  | _ => none

/-- The jobs that have ended. -/
def endedJobs (threads : List (Thread κ (Shared σ) ε (Answer ε α))) : List (κ × Except ε α) :=
  threads.filterMap Thread.outcome

section Runs

variable (known : σ → Option α) (reads : σ → ρ) (work : κ → ρ → Program σ ε α)

/-- A call that runs no job at present: it has not come yet, or it has been answered. -/
def Waits (thread : Thread κ (Shared σ) ε (Answer ε α)) : Prop :=
  thread.program = shared known reads (work thread.call) ∨
    ∃ answer, thread.program = done (.ok answer)

/-- A job that is under way: the call that runs it, and what is left of it. -/
structure Job (κ : Type w) (σ : Type u) (ε α : Type v) where
  thread : ℕ
  call : κ
  rest : Program σ ε α

/-- The jobs that have ended in order, and the one that is under way. -/
structure Turn (config : Config κ (Shared σ) ε (Answer ε α)) (outcomes : List (κ × Except ε α))
    (owner : Option (Job κ σ ε α)) : Prop where
  pending : config.state.pending = owner.map fun _ => outcomes.length
  jobs : config.state.jobs = outcomes.length + owner.toList.length
  owns : ∀ job, owner = some job → ∃ thread, config.threads[job.thread]? = some thread ∧
    thread.call = job.call ∧ thread.program = running outcomes.length job.rest
  others : ∀ index thread, config.threads[index]? = some thread →
    (∀ job, owner = some job → job.thread ≠ index) →
      Waits known reads work thread
  ended : (endedJobs config.threads).Perm outcomes

/-- What a move does to the state, to the jobs that have ended and to the one that is under way. -/
inductive JobMove (react : σ → η → γ × σ) : Move κ η → σ → List (κ × Except ε α) →
    Option (Job κ σ ε α) → σ → List (κ × Except ε α) → Option (Job κ σ ε α) → Prop where
  | apart (input : Move κ η) (state : σ) (outcomes : List (κ × Except ε α))
      (owner : Option (Job κ σ ε α)) :
      JobMove react input state outcomes owner state outcomes owner
  | event (event : η) (state : σ) (outcomes : List (κ × Except ε α))
      (owner : Option (Job κ σ ε α)) :
      JobMove react (.event event) state outcomes owner (react state event).2 outcomes owner
  | begins (thread : ℕ) (call : κ) (state : σ) (outcomes : List (κ × Except ε α))
      (unknown : known state = none) :
      JobMove react (.resume thread) state outcomes none state outcomes
        (some ⟨thread, call, work call (reads state)⟩)
  | acts (thread : ℕ) (call : κ) (effect : σ → σ) (next : σ → Program σ ε α) (state : σ)
      (outcomes : List (κ × Except ε α)) :
      JobMove react (.resume thread) state outcomes (some ⟨thread, call, .act effect next⟩)
        (effect state) outcomes (some ⟨thread, call, next state⟩)
  | ends (thread : ℕ) (call : κ) (outcome : Except ε α) (state : σ)
      (outcomes : List (κ × Except ε α)) :
      JobMove react (.resume thread) state outcomes (some ⟨thread, call, .done outcome⟩)
        state (outcomes ++ [(call, outcome)]) none

/-- Calls that ask for what all share, among events from outside. -/
abbrev sharing (react : σ → η → γ × σ) :
    Transition (Config κ (Shared σ) ε (Answer ε α)) (Move κ η) (Shown γ (Shared σ)) :=
  observed (fun call => shared known reads (work call)) (aside react)

end Runs

section Runs

variable {known : σ → Option α} {reads : σ → ρ} {work : κ → ρ → Program σ ε α}
  {react : σ → η → γ × σ} {config : Config κ (Shared σ) ε (Answer ε α)}
  {outcomes : List (κ × Except ε α)} {owner : Option (Job κ σ ε α)}
  {thread : Thread κ (Shared σ) ε (Answer ε α)} {index : ℕ}

/-! ## The jobs that have ended -/

theorem endedJobs_append (threads more : List (Thread κ (Shared σ) ε (Answer ε α))) :
    endedJobs (threads ++ more) = endedJobs threads ++ endedJobs more :=
  List.filterMap_append

/-- A call that has run no job to its end may end one. -/
theorem endedJobs_set {threads : List (Thread κ (Shared σ) ε (Answer ε α))}
    (found : threads[index]? = some thread) (open' : thread.outcome = none)
    (after : Thread κ (Shared σ) ε (Answer ε α)) :
    (endedJobs (threads.set index after)).Perm (endedJobs threads ++ after.outcome.toList) := by
  induction threads generalizing index with
  | nil => simp at found
  | cons head tail ih =>
    cases index with
    | zero =>
      obtain rfl : head = thread := by simpa using found
      have here : endedJobs (head :: tail) = endedJobs tail := List.filterMap_cons_none open'
      rw [here, List.set_cons_zero]
      cases ended : after.outcome with
      | none => simp [endedJobs, ended]
      | some outcome =>
        rw [endedJobs, List.filterMap_cons_some ended]
        exact (List.perm_append_singleton _ _).symm
    | succ index =>
      have rest := @ih index (by simpa using found)
      cases ended : head.outcome with
      | none => simpa [endedJobs, List.filterMap_cons, ended] using rest
      | some outcome => simpa [endedJobs, List.filterMap_cons, ended] using rest.cons outcome

/-! ## One move -/

theorem set_cases {threads : List (Thread κ (Shared σ) ε (Answer ε α))} {other : ℕ}
    {after : Thread κ (Shared σ) ε (Answer ε α)}
    (found : (threads.set index after)[other]? = some thread) :
    (other = index ∧ thread = after) ∨ (other ≠ index ∧ threads[other]? = some thread) := by
  by_cases same : other = index
  · subst same
    rw [List.getElem?_set] at found
    simp only [if_true] at found
    split at found
    · exact .inl ⟨rfl, (Option.some.inj found).symm⟩
    · cases found
  · rw [List.getElem?_set_ne (Ne.symm same)] at found
    exact .inr ⟨same, found⟩

theorem resumed {τ : Type u} {β : Type v} {program : κ → Program τ ε β} {react : τ → η → γ × τ}
    {config : Config κ τ ε β} {thread : Thread κ τ ε β}
    (found : config.threads[index]? = some thread) (running : thread.result = none) :
    (observed program react config (.resume index)).2 =
      { state := thread.program.effect config.state
        threads := config.threads.set index (Thread.continue thread.call
          (thread.program.next config.state) thread.started config.moves)
        moves := config.moves + 1 } := by
  obtain ⟨call, rest, started, ended⟩ := thread
  cases rest with
  | done result => cases running
  | act effect next => simp only [observed, move, found, Program.effect, Program.next]

/-- A call that has not come yet, of those that run no job. -/
theorem Waits.whole (waits : Waits known reads work thread) (running : thread.result = none) :
    thread.program = shared known reads (work thread.call) := by
  rcases waits with whole | ⟨answer, ended⟩
  · exact whole
  · rw [Thread.result, ended] at running
    cases running

/-- A call is answered that runs no job. -/
theorem Turn.answered (turn : Turn known reads work config outcomes owner)
    (found : config.threads[index]? = some thread) (running : thread.result = none)
    (apart : ∀ job, owner = some job → job.thread ≠ index) (answer : Answer ε α)
    (quiet : ∀ after : Thread κ (Shared σ) ε (Answer ε α), after.program = done (.ok answer) →
      after.outcome = none) (moves later : ℕ) :
    Turn known reads work { config with
      threads := config.threads.set index
        (Thread.continue thread.call (done (.ok answer)) thread.started moves)
      moves := later } outcomes owner := by
  have none : thread.outcome = none := by rw [Thread.outcome, running]
  refine ⟨turn.pending, turn.jobs, fun job same => ?_, fun other after there different => ?_, ?_⟩
  · obtain ⟨owning, there, held⟩ := turn.owns job same
    exact ⟨owning, by rwa [List.getElem?_set_ne (Ne.symm (apart job same))], held⟩
  · rcases set_cases there with ⟨rfl, rfl⟩ | ⟨-, there⟩
    · exact .inr ⟨answer, rfl⟩
    · exact turn.others other after there different
  · refine (endedJobs_set found none _).trans ?_
    rw [quiet _ rfl, Option.toList_none, List.append_nil]
    exact turn.ended

/-- The call that runs the job goes on with it. -/
theorem Turn.continued {job : Job κ σ ε α} (turn : Turn known reads work config outcomes (some job))
    (found : config.threads[job.thread]? = some thread) (running : thread.result = none)
    (rest : Program σ ε α) (state : σ) (moves later : ℕ) :
    Turn known reads work
      { state := { config.state with inner := state }
        threads := config.threads.set job.thread (Thread.continue job.call
          (Program.running outcomes.length rest) thread.started moves)
        moves := later } outcomes (some { job with rest := rest }) := by
  have inside := (List.getElem?_eq_some_iff.mp found).1
  have none : thread.outcome = none := by rw [Thread.outcome, running]
  refine ⟨turn.pending, turn.jobs, fun job' same => ?_, fun other after there different => ?_, ?_⟩
  · obtain rfl := Option.some.inj same
    exact ⟨_, List.getElem?_set_self inside, rfl, rfl⟩
  · rcases set_cases there with ⟨rfl, -⟩ | ⟨-, there⟩
    · exact absurd rfl (different { job with rest := rest } rfl)
    · refine turn.others other after there fun job' same => ?_
      obtain rfl := Option.some.inj same
      exact different { job with rest := rest } rfl
  · refine (endedJobs_set found none _).trans ?_
    have quiet : (Thread.continue job.call (Program.running outcomes.length rest) thread.started
        moves : Thread κ (Shared σ) ε (Answer ε α)).outcome = Option.none := by
      cases rest <;> rfl
    rw [quiet, Option.toList_none, List.append_nil]
    exact turn.ended

/-- The call that runs the job comes to its end. -/
theorem Turn.ends {job : Job κ σ ε α} (turn : Turn known reads work config outcomes (some job))
    (found : config.threads[job.thread]? = some thread) (running : thread.result = none)
    (outcome : Except ε α) (moves later : ℕ) :
    Turn known reads work
      { state := { config.state with pending := none }
        threads := config.threads.set job.thread (Thread.continue job.call
          (done (.ok (.own outcomes.length outcome))) thread.started moves)
        moves := later } (outcomes ++ [(job.call, outcome)]) none := by
  have none : thread.outcome = none := by rw [Thread.outcome, running]
  have jobs := turn.jobs
  refine ⟨rfl, ?_, fun job' same => (by cases same), fun other after there different => ?_, ?_⟩
  · rw [List.length_append, Option.toList_none]
    exact jobs
  · rcases set_cases there with ⟨rfl, rfl⟩ | ⟨apart, there⟩
    · exact .inr ⟨_, rfl⟩
    · refine turn.others other after there fun job' same => ?_
      obtain rfl := Option.some.inj same
      exact Ne.symm apart
  · exact (endedJobs_set found none _).trans (turn.ended.append_right _)

/-- A call starts a job. -/
theorem Turn.begins (turn : Turn known reads work config outcomes none)
    (found : config.threads[index]? = some thread) (running : thread.result = none)
    (rest : Program σ ε α) (moves later : ℕ) :
    Turn known reads work
      { state := { config.state with
          pending := some config.state.jobs, jobs := config.state.jobs + 1 }
        threads := config.threads.set index (Thread.continue thread.call
          (Program.running config.state.jobs rest) thread.started moves)
        moves := later } outcomes (some ⟨index, thread.call, rest⟩) := by
  have inside := (List.getElem?_eq_some_iff.mp found).1
  have none : thread.outcome = none := by rw [Thread.outcome, running]
  have jobs : config.state.jobs = outcomes.length := turn.jobs
  refine ⟨?_, ?_, fun job same => ?_, fun other after there different => ?_, ?_⟩
  · rw [jobs]
    rfl
  · rw [jobs]
    rfl
  · obtain rfl := Option.some.inj same
    exact ⟨_, List.getElem?_set_self inside, rfl, by rw [jobs]; rfl⟩
  · rcases set_cases there with ⟨rfl, -⟩ | ⟨-, there⟩
    · exact absurd rfl (different _ rfl)
    · exact turn.others other after there fun job same => by cases same
  · refine (endedJobs_set found none _).trans ?_
    have quiet : (Thread.continue thread.call (Program.running config.state.jobs rest)
        thread.started moves : Thread κ (Shared σ) ε (Answer ε α)).outcome = Option.none := by
      cases rest <;> rfl
    rw [quiet, Option.toList_none, List.append_nil]
    exact turn.ended

/-- The next action of the call that runs the job. -/
theorem Turn.job_move {job : Job κ σ ε α}
    (turn : Turn known reads work config outcomes (some job)) :
    ∃ outcomes' owner',
      Turn known reads work
        (sharing known reads work react config (.resume job.thread)).2 outcomes' owner' ∧
      JobMove known reads work react (.resume job.thread) config.state.inner outcomes (some job)
        (sharing known reads work react config (.resume job.thread)).2.state.inner outcomes'
        owner' := by
  obtain ⟨thread, found, call, held⟩ := turn.owns job rfl
  obtain ⟨index, call', rest⟩ := job
  obtain ⟨call'', program, started, ended⟩ := thread
  dsimp only at found call held
  subst call held
  cases rest with
  | done outcome =>
    have after := turn.ends found rfl outcome config.moves (config.moves + 1)
    simp only [sharing, observed, move, found, Program.running]
    exact ⟨_, _, after, .ends index call'' outcome _ _⟩
  | act effect next =>
    have after := turn.continued found rfl (next config.state.inner) (effect config.state.inner)
      config.moves (config.moves + 1)
    simp only [sharing, observed, move, found, Program.running]
    exact ⟨_, _, after, .acts index call'' effect next _ _⟩

/-- The first action of a call. -/
theorem Turn.enter_move (turn : Turn known reads work config outcomes owner)
    (found : config.threads[index]? = some thread) (running : thread.result = none)
    (apart : ∀ job, owner = some job → job.thread ≠ index) :
    ∃ outcomes' owner',
      Turn known reads work (sharing known reads work react config (.resume index)).2 outcomes'
        owner' ∧
      JobMove known reads work react (.resume index) config.state.inner outcomes owner
        (sharing known reads work react config (.resume index)).2.state.inner outcomes'
        owner' := by
  have whole := (turn.others index thread found apart).whole running
  have after : (sharing known reads work react config (.resume index)).2 =
      { state := (enter known reads config.state).2
        threads := config.threads.set index (Thread.continue thread.call
          (entered (work thread.call) (enter known reads config.state).1) thread.started
          config.moves)
        moves := config.moves + 1 } := by
    have moved : (sharing known reads work react config (.resume index)).2 = _ :=
      resumed found running
    rw [whole] at moved
    exact moved
  rw [after]
  cases here : known config.state.inner with
  | some value =>
    simp only [enter, here, entered]
    refine ⟨_, _, turn.answered found running apart (.known value) (fun after ended => ?_) _ _,
      .apart _ _ _ _⟩
    rw [Thread.outcome, Thread.result, ended]
  | none =>
    cases owner with
    | some job =>
      have pending : config.state.pending = some outcomes.length := turn.pending
      simp only [enter, here, pending, entered]
      refine ⟨_, _, turn.answered found running apart (.joined outcomes.length)
        (fun after ended => ?_) _ _, .apart _ _ _ _⟩
      rw [Thread.outcome, Thread.result, ended]
    | none =>
      have pending : config.state.pending = none := turn.pending
      simp only [enter, here, pending, entered]
      exact ⟨_, _, turn.begins found running _ _ _, .begins index thread.call _ _ here⟩

/-- What a move does: at most one job is under way, and it goes on alone. -/
theorem Turn.move (turn : Turn known reads work config outcomes owner) (input : Move κ η) :
    ∃ outcomes' owner',
      Turn known reads work (sharing known reads work react config input).2 outcomes' owner' ∧
      JobMove known reads work react input config.state.inner outcomes owner
        (sharing known reads work react config input).2.state.inner outcomes' owner' := by
  cases input with
  | start call =>
    refine ⟨outcomes, owner, ⟨turn.pending, turn.jobs, fun job same => ?_,
      fun index thread found apart => ?_, ?_⟩, .apart _ _ _ _⟩
    · obtain ⟨thread, found, held⟩ := turn.owns job same
      exact ⟨thread, List.getElem?_append_left (List.getElem?_eq_some_iff.mp found).1 ▸ found, held⟩
    · change (config.threads ++ [_])[index]? = some thread at found
      rw [List.getElem?_append] at found
      split at found
      · exact turn.others index thread found apart
      · rw [List.mem_singleton.mp (List.mem_of_getElem? found)]
        exact .inl rfl
    · change (endedJobs (config.threads ++ [_])).Perm outcomes
      rw [endedJobs_append]
      exact (List.append_nil _).symm ▸ turn.ended
  | event event => exact ⟨outcomes, owner, ⟨turn.pending, turn.jobs, turn.owns, turn.others,
      turn.ended⟩, .event event _ _ _⟩
  | resume index =>
    by_cases open' : ∃ thread, config.threads[index]? = some thread ∧ thread.result = none
    · obtain ⟨thread, found, running⟩ := open'
      by_cases owns : ∃ job, owner = some job ∧ job.thread = index
      · obtain ⟨job, rfl, rfl⟩ := owns
        exact turn.job_move
      · exact turn.enter_move found running fun job same here => owns ⟨job, same, here⟩
    · have idle (thread : Thread κ (Shared σ) ε (Answer ε α))
          (found : config.threads[index]? = some thread) : thread.result ≠ none :=
        fun running => open' ⟨thread, found, running⟩
      obtain ⟨state, threads⟩ := @move_idle _ _ _ _ _ _ _
        (fun call => shared known reads (work call)) (aside react) (fun before _ => before) config
        index idle
      refine ⟨outcomes, owner, ⟨?_, ?_, ?_, ?_, ?_⟩, ?_⟩
      · rw [state]
        exact turn.pending
      · rw [state]
        exact turn.jobs
      · rw [threads]
        exact turn.owns
      · rw [threads]
        exact turn.others
      · rw [threads]
        exact turn.ended
      · rw [state]
        exact .apart _ _ _ _

/-! ## Whole runs -/

/-- What holds while no job is under way, and what holds while one is: a job that starts finds the
first, its actions keep the second, and its end restores the first. Events keep both. -/
structure Carries (known : σ → Option α) (reads : σ → ρ) (work : κ → ρ → Program σ ε α)
    (react : σ → η → γ × σ) (idle : List (κ × Except ε α) → σ → Prop)
    (busy : List (κ × Except ε α) → κ → Program σ ε α → σ → Prop) : Prop where
  begins : ∀ outcomes call state, idle outcomes state → known state = none →
    busy outcomes call (work call (reads state)) state
  acts : ∀ outcomes call effect next state, busy outcomes call (.act effect next) state →
    busy outcomes call (next state) (effect state)
  ends : ∀ outcomes call outcome state, busy outcomes call (.done outcome) state →
    idle (outcomes ++ [(call, outcome)]) state
  aside : ∀ outcomes state event, idle outcomes state → idle outcomes (react state event).2
  besides : ∀ outcomes call rest state event, busy outcomes call rest state →
    busy outcomes call rest (react state event).2

/-- A job that withstands the events, and restores at its end what it has found, carries it. What
holds when it starts and is kept by its actions and by the events holds while it is under way. -/
theorem carries_of_withstands {rely guarantee : σ → σ → Prop}
    {idle during : List (κ × Except ε α) → σ → Prop}
    (reflexive : ∀ state, rely state state)
    (transitive : ∀ {first second third}, rely first second → rely second third →
      rely first third)
    (events : ∀ state event, rely state (react state event).2)
    (stable : ∀ outcomes state state', idle outcomes state → rely state state' →
      idle outcomes state')
    (lasts : ∀ outcomes state state', during outcomes state →
      rely state state' ∨ guarantee state state' → during outcomes state')
    (starts : ∀ outcomes state, idle outcomes state → known state = none → during outcomes state)
    (restores : ∀ outcomes call state, idle outcomes state → known state = none →
      (work call (reads state)).Withstands rely guarantee
        (fun outcome => idle (outcomes ++ [(call, outcome)])) state) :
    Carries known reads work react idle fun outcomes call rest state =>
      during outcomes state ∧ rest.Withstands rely guarantee
        (fun outcome => idle (outcomes ++ [(call, outcome)])) state where
  begins outcomes call state held unknown :=
    ⟨starts outcomes state held unknown, restores outcomes call state held unknown⟩
  acts outcomes _ _ _ state held :=
    ⟨lasts outcomes state _ held.1 (.inr (held.2 state (reflexive state)).1),
      (held.2 state (reflexive state)).2⟩
  ends _ _ _ _ held := held.2
  aside outcomes state event held := stable outcomes state _ held (events state event)
  besides outcomes call _ state event held :=
    ⟨lasts outcomes state _ held.1 (.inl (events state event)),
      held.2.rest transitive (fun outcome => stable (outcomes ++ [(call, outcome)]))
        (events state event)⟩

/-- What holds by whether a job is under way. -/
def Holds (idle : List (κ × Except ε α) → σ → Prop)
    (busy : List (κ × Except ε α) → κ → Program σ ε α → σ → Prop)
    (outcomes : List (κ × Except ε α)) (state : σ) : Option (Job κ σ ε α) → Prop
  | none => idle outcomes state
  | some job => busy outcomes job.call job.rest state

theorem Carries.holds {idle : List (κ × Except ε α) → σ → Prop}
    {busy : List (κ × Except ε α) → κ → Program σ ε α → σ → Prop}
    (carries : Carries known reads work react idle busy) {input : Move κ η} {state state' : σ}
    {outcomes outcomes' : List (κ × Except ε α)} {owner owner' : Option (Job κ σ ε α)}
    (moved : JobMove known reads work react input state outcomes owner state' outcomes' owner')
    (held : Holds idle busy outcomes state owner) : Holds idle busy outcomes' state' owner' := by
  cases moved with
  | apart => exact held
  | event event =>
    cases owner with
    | none => exact carries.aside _ _ event held
    | some job => exact carries.besides _ _ _ _ event held
  | begins thread call _ _ unknown => exact carries.begins _ call _ held unknown
  | acts thread call effect next => exact carries.acts _ call effect next _ held
  | ends thread call outcome => exact carries.ends _ call outcome _ held

/-- In every run at most one job is under way, and what is carried holds. -/
theorem shared_along {idle : List (κ × Except ε α) → σ → Prop}
    {busy : List (κ × Except ε α) → κ → Program σ ε α → σ → Prop}
    (carries : Carries known reads work react idle busy) {start : σ} (starts : idle [] start)
    (moves : List (Move κ η)) :
    ∃ outcomes owner,
      Turn known reads work
        (final (sharing known reads work react) { state := { inner := start } } moves) outcomes
        owner ∧
      Holds idle busy outcomes
        (final (sharing known reads work react) { state := { inner := start } } moves).state.inner
        owner := by
  induction moves using List.reverseRecOn with
  | nil =>
    refine ⟨[], none, ⟨rfl, rfl, fun job same => (by cases same), fun index thread found _ => ?_,
      .nil⟩, starts⟩
    simp [final] at found
  | append_singleton moves input ih =>
    obtain ⟨outcomes, owner, turn, held⟩ := ih
    rw [final_append]
    obtain ⟨outcomes', owner', turn', moved⟩ := turn.move input
    exact ⟨outcomes', owner', turn', carries.holds moved held⟩

end Runs

end Async
