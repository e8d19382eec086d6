import OpticsHub.Async.History

/-!
# What no two calls both claim

A call that ends may claim something by its result: a code that it has accepted, or a token
that it has used up. A program claims with care when the last state that it meets has not
used what it claims, and the state that it ends in has. As long as nothing that is used
becomes unused, an earlier claim is used in every later state, so that no other call can
claim the same again. Whether this last condition holds is a matter of what the calls have
met, since they look for a use first and record their own later.
-/
namespace Async

open Machine Program

universe u v w x

section Once

variable {κ : Type w} {σ η γ : Type u} {ε α : Type v} {τ : Type x} (used : τ → σ → Prop)
  (claims : κ → α → Option τ)

/-- What is used stays used. -/
def StaysUsed (before after : σ) : Prop := ∀ item, used item before → used item after

/-- What is claimed was not used in the last state that was met. -/
def Fresh (call : κ) (value : α) (seen : List σ) : Prop :=
  ∀ item, claims call value = some item →
    ∃ earlier last, seen = earlier ++ [last] ∧ ¬ used item last

/-- What is claimed is used from now on. -/
def Spent (call : κ) (result : Except ε α) (state : σ) : Prop :=
  ∀ value item, result = .ok value → claims call value = some item → used item state

/-- A call that has ended claims something. -/
def Claims (item : τ) (thread : Thread κ σ ε α) : Prop :=
  ∃ value, thread.result = some (.ok value) ∧ claims thread.call value = some item

/-- No two calls claim the same. -/
def ClaimedOnce (config : Config κ σ ε α) : Prop :=
  ∀ (first second : ℕ) (thread thread' : Thread κ σ ε α) (item : τ),
    config.threads[first]? = some thread → config.threads[second]? = some thread' →
      Claims claims item thread → Claims claims item thread' → first = second

variable {used claims} {fine : κ → List σ → σ → Prop} {program : κ → Program σ ε α}
  {react : σ → η → γ × σ} {past : List (Move κ η × Shown γ σ)} {config : Config κ σ ε α}

/-- What is left of a call claims with care. -/
abbrev Careful (used : τ → σ → Prop) (claims : κ → α → Option τ)
    (fine : κ → List σ → σ → Prop) (call : κ) (seen : List σ) (program : Program σ ε α) : Prop :=
  program.Heeds (fine call) (fun _ => StaysUsed used) (Fresh used claims call) seen

/-- Only the last part of a program has to see to it that what is claimed is used. -/
theorem spends_bind {β : Type v} {rely : σ → σ → Prop} {call : κ} {first : Program σ ε β}
    {rest : β → Program σ ε α} {state : σ}
    (later : ∀ value state,
      (rest value).Withstands rely (fun _ _ => True) (Spent used claims call) state) :
    (first >>= rest).Withstands rely (fun _ _ => True) (Spent used claims call) state := by
  induction first generalizing state with
  | done result =>
    cases result with
    | ok value => exact later value state
    | error error => exact fun value item ended => by cases ended
  | act effect next ih => exact fun state' _ => ⟨trivial, ih state'⟩

section Returns

variable {allowed : κ → List σ → σ → σ → Prop} {post : κ → α → List σ → Prop}

/-- A call that has returned a value after a move had returned it before, or is the one that
moves and returns it as promised, or has returned it at once. -/
theorem returned_cases
    (starts : ∀ call, (program call).Heeds (fine call) (allowed call) (post call) [])
    (attending : Attending (fun call seen program =>
      program.Heeds (fine call) (allowed call) (post call) seen) past config)
    {input : Move κ η} (met : Met fine past config input) {index : ℕ} {thread : Thread κ σ ε α}
    (found : (observed program react config input).2.threads[index]? = some thread) {value : α}
    (returned : thread.result = some (.ok value)) :
    (∃ before, config.threads[index]? = some before ∧ before.call = thread.call ∧
        before.result = some (.ok value)) ∨
      (input = .resume index ∧ ∃ seen,
        allowed thread.call seen config.state (observed program react config input).2.state ∧
          post thread.call value (seen ++ [config.state])) ∨
      post thread.call value [] := by
  rcases thread_cases found with ⟨before, here, call, -, rest⟩ | ⟨-, call, -, rfl⟩
  · cases running : before.result with
    | some ended =>
      refine .inl ⟨before, here, call.symm, ?_⟩
      obtain ⟨_, program, _, _⟩ := before
      cases program with
      | done outcome =>
        have same : thread.program = .done outcome := rest.trans (ite_self (Program.done outcome))
        rw [Thread.result, same] at returned
        exact returned
      | act effect next => cases running
    | none =>
      have heeds := (attending.2 index before here running).2
      have moved := @move_resume _ _ _ _ _ _ _ program react (fun before _ => before) config index
        before here running
      obtain ⟨called, program, started, ending⟩ := before
      cases program with
      | done outcome => cases running
      | act effect next =>
        cases resumed : input.resumes index with
        | false =>
          have same : thread.program = .act effect next := by simpa [resumed] using rest
          rw [Thread.result, same] at returned
          cases returned
        | true =>
          cases input with
          | start call => cases resumed
          | event event => cases resumed
          | resume other =>
            obtain rfl : other = index := beq_iff_eq.mp resumed
            have after : thread.program = next config.state := rest.trans (if_pos resumed)
            obtain ⟨permitted, careful⟩ := heeds config.state (met _ here rfl)
            rw [Thread.result, after] at returned
            refine .inr (.inl ⟨rfl, statesMet past other started, ?_, ?_⟩)
            · rw [call, moved.1]
              exact permitted
            · cases left : next config.state with
              | act effect' next' =>
                rw [left] at returned
                cases returned
              | done outcome =>
                rw [left] at returned careful
                obtain rfl : outcome = .ok value := Option.some.inj returned
                rw [call]
                exact careful
  · have careful := starts call
    change (Thread.continue call (program call) _ _).result = some (.ok value) at returned
    rw [Thread.result] at returned
    cases left : program call with
    | act effect next => simp [Thread.continue, left] at returned
    | done outcome =>
      simp only [Thread.continue, left, Option.some.injEq] at returned
      subst returned
      rw [left] at careful
      exact .inr (.inr careful)

/-- A move keeps used what is used. -/
theorem staysUsed_move
    (attending : Attending (fun call seen program =>
      program.Heeds (fine call) (allowed call) (post call) seen) past config)
    (keeps : ∀ call seen before after, allowed call seen before after → StaysUsed used before after)
    (aside : ∀ state event, StaysUsed used state (react state event).2) {input : Move κ η}
    (met : Met fine past config input) :
    StaysUsed used config.state (observed program react config input).2.state := by
  rcases move_cases program react (fun before _ => before) config input with
    ⟨_, -, same, -⟩ | ⟨index, call, effect, next, started, ended, rfl, found, moved, -⟩ |
      ⟨_, -, same, -⟩ | ⟨event, rfl, moved, -⟩
  · rw [same]
    exact fun _ held => held
  · rw [moved]
    exact keeps _ _ _ _ ((attending.2 index _ found rfl).2 config.state (met _ found rfl)).1
  · rw [same]
    exact fun _ held => held
  · rw [moved]
    exact aside config.state event

end Returns

/-- A claim after a move was made before it, or by a call that has found it unused. -/
theorem claims_cases
    (starts : ∀ call, Careful used claims fine call [] (program call))
    (attending : Attending (Careful used claims fine) past config) {input : Move κ η}
    (met : Met fine past config input) {index : ℕ} {thread : Thread κ σ ε α} {item : τ}
    (found : (observed program react config input).2.threads[index]? = some thread)
    (claimed : Claims claims item thread) :
    (∃ before, config.threads[index]? = some before ∧ Claims claims item before) ∨
      input = .resume index ∧ ¬ used item config.state := by
  obtain ⟨value, result, claim⟩ := claimed
  rcases returned_cases starts attending met found result with
    ⟨before, here, call, ended⟩ | ⟨resumed, seen, -, careful⟩ | careful
  · exact .inl ⟨before, here, value, ended, by rwa [call]⟩
  · obtain ⟨earlier, last, split, unused⟩ := careful item claim
    obtain ⟨-, rfl⟩ := List.append_inj' split rfl |>.imp_right List.singleton_inj.mp
    exact .inr ⟨resumed, unused⟩
  · obtain ⟨earlier, last, split, -⟩ := careful item claim
    simp at split

/-- As long as what is claimed is used, whoever finds an item unused is the first to claim it. -/
theorem ClaimedOnce.move {input : Move κ η} (once : ClaimedOnce claims config)
    (spent : ∀ (index : ℕ) (thread : Thread κ σ ε α) (item : τ),
      config.threads[index]? = some thread → Claims claims item thread → used item config.state)
    (cases : ∀ (index : ℕ) (thread : Thread κ σ ε α) (item : τ),
      (observed program react config input).2.threads[index]? = some thread →
        Claims claims item thread →
          (∃ before, config.threads[index]? = some before ∧ Claims claims item before) ∨
            input = .resume index ∧ ¬ used item config.state) :
    ClaimedOnce claims (observed program react config input).2 := by
  intro first second thread thread' item found found' claimed claimed'
  rcases cases first thread item found claimed with
    ⟨before, here, earlier⟩ | ⟨resumed, unused⟩ <;>
  rcases cases second thread' item found' claimed' with
    ⟨before', here', earlier'⟩ | ⟨resumed', unused'⟩
  · exact once first second before before' item here here' earlier earlier'
  · exact absurd (spent first before item here earlier) unused'
  · exact absurd (spent second before' item here' earlier') unused
  · exact Move.resume.inj (resumed.symm.trans resumed')

/-- Calls that claim with care claim nothing twice, in every run in which the states that they
meet are fine. -/
theorem claimed_once_along
    (starts : ∀ call, Careful used claims fine call [] (program call))
    (spends : ∀ call state, (program call).Withstands (StaysUsed used) (fun _ _ => True)
      (Spent used claims call) state)
    (aside : ∀ state event, StaysUsed used state (react state event).2)
    (start : σ) (moves : List (Move κ η))
    (met : Along (observed program react) (Met fine) [] { state := start } moves) :
    ClaimedOnce claims (final (observed program react) { state := start } moves) := by
  have whole := met.invariant (fun past config =>
    Attending (Careful used claims fine) past config ∧
      Among (StaysUsed used) (fun _ _ => True) (fun call _ => Spent used claims call) config ∧
      ClaimedOnce claims config) ?_ ?_
  · exact whole.2.2
  · rintro past config input ⟨attending, among, once⟩ fineHere
    have stays : StaysUsed used config.state (observed program react config input).2.state :=
      staysUsed_move attending (fun _ _ _ _ stays => stays) aside fineHere
    refine ⟨attending.move starts (fun _ _ _ _ state heeds met => (heeds state met).2) input
      fineHere, ?_, ?_⟩
    · exact among.move (fun _ _ held => held) (fun first second item held =>
        second item (first item held)) (fun _ _ _ _ _ spent moved value item ended claim =>
          moved item (spent value item ended claim)) (fun call => spends call _) input stays
    · refine once.move (fun index thread item found claimed => ?_)
        fun index thread item => claims_cases starts attending fineHere
      obtain ⟨value, result, claim⟩ := claimed
      have spent := among thread (List.mem_of_getElem? found)
      obtain ⟨call, program, started, ended⟩ := thread
      cases program with
      | act effect next => cases result
      | done outcome => exact spent value item (Option.some.inj result) claim
  · exact ⟨⟨rfl, fun index thread found => by simp at found⟩, fun thread inside => by simp at inside,
      fun first second thread thread' item found => by simp at found⟩

/-! ## Programs that say which action uses what they claim -/

section Spending

variable {spends : κ → List σ → σ → τ → Prop}

/-- Used is what is used stays used, and what the action of a call uses. -/
def Uses (used : τ → σ → Prop) (spends : κ → List σ → σ → τ → Prop) (call : κ) (seen : List σ)
    (before after : σ) : Prop :=
  StaysUsed used before after ∧ ∀ item, spends call seen before item → used item after

/-- What is claimed was not used in the last state that was met, and the action there uses it. -/
def FreshlySpent (used : τ → σ → Prop) (claims : κ → α → Option τ)
    (spends : κ → List σ → σ → τ → Prop) (call : κ) (value : α) (seen : List σ) : Prop :=
  ∀ item, claims call value = some item →
    ∃ earlier last, seen = earlier ++ [last] ∧ ¬ used item last ∧ spends call earlier last item

/-- Calls whose last action uses what they claim, and finds it unused, claim nothing twice, in
every run in which the states that they meet are fine. -/
theorem claimed_once_of_spending
    (starts : ∀ call, (program call).Heeds (fine call) (Uses used spends call)
      (FreshlySpent used claims spends call) [])
    (aside : ∀ state event, StaysUsed used state (react state event).2)
    (start : σ) (moves : List (Move κ η))
    (met : Along (observed program react) (Met fine) [] { state := start } moves) :
    ClaimedOnce claims (final (observed program react) { state := start } moves) := by
  have whole := met.invariant (fun past config =>
    Attending (fun call seen program => program.Heeds (fine call) (Uses used spends call)
      (FreshlySpent used claims spends call) seen) past config ∧
      (∀ (index : ℕ) (thread : Thread κ σ ε α) (item : τ), config.threads[index]? = some thread →
        Claims claims item thread → used item config.state) ∧
      ClaimedOnce claims config) ?_ ?_
  · exact whole.2.2
  · rintro past config input ⟨attending, spent, once⟩ fineHere
    have stays : StaysUsed used config.state (observed program react config input).2.state :=
      staysUsed_move attending (fun _ _ _ _ uses => uses.1) aside fineHere
    have cases : ∀ (index : ℕ) (thread : Thread κ σ ε α) (item : τ),
        (observed program react config input).2.threads[index]? = some thread →
          Claims claims item thread →
            (∃ before, config.threads[index]? = some before ∧ Claims claims item before) ∨
              input = .resume index ∧ ¬ used item config.state ∧
                used item (observed program react config input).2.state := by
      rintro index thread item found ⟨value, result, claim⟩
      rcases returned_cases starts attending fineHere found result with
        ⟨before, here, call, ended⟩ | ⟨resumed, seen, uses, careful⟩ | careful
      · exact .inl ⟨before, here, value, ended, by rwa [call]⟩
      · obtain ⟨earlier, last, split, unused, spending⟩ := careful item claim
        obtain ⟨rfl, rfl⟩ := List.append_inj' split rfl |>.imp_right List.singleton_inj.mp
        exact .inr ⟨resumed, unused, uses.2 item spending⟩
      · obtain ⟨earlier, last, split, -⟩ := careful item claim
        simp at split
    refine ⟨attending.move starts (fun _ _ _ _ state heeds met => (heeds state met).2) input
      fineHere, fun index thread item found claimed => ?_, ?_⟩
    · rcases cases index thread item found claimed with ⟨before, here, earlier⟩ | ⟨-, -, now⟩
      · exact stays item (spent index before item here earlier)
      · exact now
    · refine once.move spent fun index thread item found claimed => ?_
      exact (cases index thread item found claimed).imp_right fun here => ⟨here.1, here.2.1⟩
  · exact ⟨⟨rfl, fun index thread found => by simp at found⟩,
      fun index thread item found => by simp at found,
      fun first second thread thread' item found => by simp at found⟩

end Spending

end Once

end Async
