import OpticsHub.Gateway.Rendezvous

/-!
# Who arrives first

Two sockets of a tunnel meet only if the client is registered before the other presents the
token, and only if nothing else happens under the token in between: the registry is keyed by
the token alone, so that a second registration takes the place of the first, a second socket
that presents the token takes what waits, and a timer deletes what it finds. A socket that comes
before its client waits until its timer fires, which may then delete the entry of the client.
-/
namespace OpticsHub

open Script Net Machine

namespace Gateway

/-! ## Where a socket comes from -/

section Origins

variable {identifiers : Identifiers} {free : ℕ → Bool} {past : List (Event × List Observation)}
  {wiring next : Wiring} {event : Event} {shown : List Observation}

theorem asking_move (move : Move identifiers free wiring event shown next) {client : ℕ}
    (awaited : next.awaiting client = .lookup ∨ next.awaiting client = .routing) :
    (wiring.awaiting client = .lookup ∨ wiring.awaiting client = .routing) ∨
      wiring.listeners (.client client) = .onData ∧
        ∃ count, event = .deliver (.client client) count := by
  have elsewhere (before : Wiring) {other : ℕ} {onward : Awaiting}
      (after : (before.await other onward).awaiting client = .lookup ∨
        (before.await other onward).awaiting client = .routing)
      (here : other = client → (onward = .lookup ∨ onward = .routing) →
        before.awaiting client = .lookup ∨ before.awaiting client = .routing) :
      before.awaiting client = .lookup ∨ before.awaiting client = .routing := by
    by_cases self : client = other
    · subst self
      exact here rfl (by simpa [Wiring.await] using after)
    · simpa [Wiring.await, self] using after
  cases move with
  | looksUp other count heard route =>
    by_cases self : client = other
    · subst self
      exact .inr ⟨heard, count, rfl⟩
    · exact .inl (by simpa [Wiring.await, Wiring.listen, self] using awaited)
  | looked other status lookup onward differs =>
    exact .inl (elsewhere _ awaited fun same _ => same ▸ .inl lookup)
  | fellBack other status fallback onward differs =>
    refine .inl (elsewhere _ awaited fun same asks => ?_)
    rcases differs with rfl | ⟨status, rfl⟩ <;> simp at asks
  | fails other body status refusal => exact .inl (elsewhere _ awaited (by simp))
  | serves other body routing agentUuid control left port claimed named =>
    exact .inl (elsewhere _ awaited (by simp))
  | registers other body routing rest route => exact .inl (elsewhere _ awaited (by simp))
  | misses other body routing agentUuid left claimed rest route =>
    exact .inl (elsewhere _ awaited (by simp))
  | drops other body routing agentUuid control left claimed unnamed rest route detached same =>
    exact .inl (elsewhere _ awaited (by simp))
  | _ => exact .inl awaited

theorem verdict_move (move : Move identifiers free wiring event shown next) {control : ℕ}
    {agentUuid : Text} (awaited : next.verifying control = some agentUuid) :
    wiring.verifying control = some agentUuid ∨ wiring.listeners (.control control) = .onData := by
  have cleared {other : ℕ} (after : (wiring.verify other none).verifying control = some agentUuid) :
      wiring.verifying control = some agentUuid := by
    by_cases self : control = other
    · simp [Wiring.verify, self] at after
    · simpa [Wiring.verify, self] using after
  cases move with
  | verifies other count heard body =>
    by_cases self : control = other
    · exact .inr (self ▸ heard)
    · exact .inl (by simpa [Wiring.verify, Wiring.detach, Wiring.listen, self] using awaited)
  | refuses other reply agentUuid' awaited' refused => exact .inl (cleared awaited)
  | accepts other reply agentUuid' awaited' ok room => exact .inl (cleared awaited)
  | _ => exact .inl awaited

theorem serves_move (move : Move identifiers free wiring event shown next) {control client : ℕ}
    (served : next.serves control = some client) :
    wiring.serves control = some client ∨
      ∃ agentUuid left, wiring.pools.claim free agentUuid = (some control, left) := by
  cases move with
  | serves other body routing agentUuid control' left port claimed named =>
    by_cases self : control = control'
    · exact .inr ⟨agentUuid, left, self ▸ claimed⟩
    · exact .inl (by simpa [Wiring.serve, self] using served)
  | _ => exact .inl served

/-- Only a client that the Hub was asked about is registered. -/
theorem registers_move (move : Move identifiers free wiring event shown next) {client : ℕ}
    {token : Text} (here : .registers (.client client) token ∈ shown) :
    wiring.awaiting client = .routing := by
  cases move with
  | registers other body routing rest route =>
    obtain ⟨rfl, -⟩ : client = other ∧ token = identifiers.token other := by simpa using here
    exact routing
  | misses other body routing agentUuid left claimed rest route =>
    obtain ⟨rfl, -⟩ : client = other ∧ token = identifiers.token other := by simpa using here
    exact routing
  | drops other body routing agentUuid control left claimed unnamed rest route detached same =>
    obtain ⟨rfl, -⟩ : client = other ∧ token = identifiers.token other := by simpa using here
    exact routing
  | _ => simp at here

/-- A client is registered when the body of the lookup has come. -/
theorem registers_body (move : Move identifiers free wiring event shown next) {client : ℕ}
    {token : Text} (here : .registers (.client client) token ∈ shown) :
    ∃ body, event = .body client body ∧ token = identifiers.token client := by
  cases move with
  | registers other body routing rest route =>
    obtain ⟨rfl, rfl⟩ : client = other ∧ token = identifiers.token other := by simpa using here
    exact ⟨body, rfl, rfl⟩
  | misses other body routing agentUuid left claimed rest route =>
    obtain ⟨rfl, rfl⟩ : client = other ∧ token = identifiers.token other := by simpa using here
    exact ⟨body, rfl, rfl⟩
  | drops other body routing agentUuid control left claimed unnamed rest route detached same =>
    obtain ⟨rfl, rfl⟩ : client = other ∧ token = identifiers.token other := by simpa using here
    exact ⟨body, rfl, rfl⟩
  | _ => simp at here

theorem mem_timers_claim {registry : Registry} {token : Text} {timer : Timer}
    (here : timer ∈ (registry.claim token).timers) : timer ∈ registry.timers := by
  rw [Registry.claim] at here
  split at here
  · exact here
  · exact (List.mem_filter.mp here).1

theorem mem_timers_release {registry : Registry} {token : Text} {socket : SocketId}
    {timer : Timer} (here : timer ∈ (registry.release token socket).timers) :
    timer ∈ registry.timers := by
  rw [Registry.release] at here
  split at here
  · exact here
  · split at here
    · exact mem_timers_claim here
    · exact here

theorem mem_timers_fire {registry : Registry} {fired timer : Timer}
    (here : timer ∈ (registry.fire fired).timers) : timer ∈ registry.timers :=
  (List.mem_filter.mp here).1

theorem mem_timers_register {registry : Registry} {token : Text} {socket : SocketId}
    {rest : Bytes} {now : ℤ} {timer : Timer}
    (here : timer ∈ (registry.register token socket rest now).timers) :
    timer ∈ registry.timers ∨
      timer.socket = socket ∧ timer.token = token ∧ timer.due = now + Registry.timeout := by
  rcases List.mem_append.mp here with before | new
  · exact .inl before
  · rw [List.mem_singleton.mp new]
    exact .inr ⟨rfl, rfl, rfl⟩

/-- A timer that runs after a step ran before, or is that of a registration. -/
theorem timers_move (move : Move identifiers free wiring event shown next) {timer : Timer}
    (here : timer ∈ next.registry.timers) :
    timer ∈ wiring.registry.timers ∨
      .registers timer.socket timer.token ∈ shown ∧
        timer.due = wiring.now + Registry.timeout := by
  have registered {token : Text} {socket : SocketId} {rest : Bytes}
      (here : timer ∈ (wiring.registry.register token socket rest wiring.now).timers)
      (told : .registers socket token ∈ shown) :
      timer ∈ wiring.registry.timers ∨
        .registers timer.socket timer.token ∈ shown ∧
          timer.due = wiring.now + Registry.timeout := by
    rcases mem_timers_register here with before | ⟨rfl, rfl, due⟩
    · exact .inl before
    · exact .inr ⟨told, due⟩
  cases move with
  | pairs control count heard token exist found => exact .inl (mem_timers_claim here)
  | hibernates control count heard token rest absent => exact registered here (by simp)
  | registers client body awaited rest route => exact registered here (by simp)
  | misses client body awaited agentUuid left claimed rest route => exact registered here (by simp)
  | drops client body awaited agentUuid control left claimed unnamed rest route detached same =>
    exact registered here (by simp)
  | fires number fired due =>
    left
    cases socket : fired.socket with
    | client client =>
      simp only [socket] at here
      exact mem_timers_fire here
    | control control =>
      simp only [socket] at here
      exact mem_timers_fire (mem_timers_release here)
  | closesControl control =>
    left
    simp only [Wiring.unpipe] at here
    split at here
    · exact mem_timers_release here
    · exact here
  | closesClient client => exact .inl (mem_timers_release here)
  | _ => exact .inl here

theorem now_move (move : Move identifiers free wiring event shown next) :
    wiring.now ≤ next.now := by
  cases move with
  | elapses milliseconds => exact le_add_of_nonneg_right (Int.natCast_nonneg milliseconds)
  | _ => exact le_rfl

end Origins

/-- What is not done again: a socket that has presented a token presents no other, and enters no
pool; a client that was registered is not registered again; and only what was registered is
timed. -/
structure Arrived (past : List (Event × List Observation)) (wiring : Wiring) : Prop where
  presented : ∀ {control token}, Shown past (.presents control token) →
    wiring.listeners (.control control) ≠ .onData ∧ wiring.verifying control = none ∧
      (∀ agentUuid, control ∉ wiring.pools.waiting agentUuid) ∧ wiring.serves control = none
  sole : ∀ {control token token'}, Shown past (.presents control token) →
    Shown past (.presents control token') → token = token'
  registered : ∀ {client token}, Shown past (.registers (.client client) token) →
    wiring.listeners (.client client) ≠ .onData ∧ wiring.awaiting client ≠ .lookup ∧
      wiring.awaiting client ≠ .routing
  timed : ∀ timer ∈ wiring.registry.timers, Shown past (.registers timer.socket timer.token)

section Arrived

variable {identifiers : Identifiers} {free : ℕ → Bool} {past : List (Event × List Observation)}
  {wiring next : Wiring} {event : Event} {shown : List Observation}

/-- A token that is presented is the only one that is presented at the step. -/
theorem presents_sole (move : Move identifiers free wiring event shown next) {control : ℕ}
    {token token' : Text} (here : .presents control token ∈ shown)
    (there : .presents control token' ∈ shown) : token = token' := by
  cases move with
  | pairs other count heard token'' exist found =>
    obtain ⟨-, rfl⟩ : control = other ∧ token = token'' := by simpa using here
    obtain ⟨-, rfl⟩ : control = other ∧ token' = token := by simpa using there
    rfl
  | hibernates other count heard token'' rest absent =>
    obtain ⟨-, rfl⟩ : control = other ∧ token = token'' := by simpa using here
    obtain ⟨-, rfl⟩ : control = other ∧ token' = token := by simpa using there
    rfl
  | _ => simp at here

/-- A step at which a socket presents a token leaves it listening to nobody else. -/
theorem presents_hushes (move : Move identifiers free wiring event shown next) {control : ℕ}
    {token : Text} (here : .presents control token ∈ shown) :
    next.listeners (.control control) ≠ .onData ∧ next.verifying = wiring.verifying ∧
      next.pools = wiring.pools ∧ next.serves = wiring.serves := by
  cases move with
  | pairs other count heard token' exist found =>
    obtain ⟨rfl, -⟩ : control = other ∧ token = token' := by simpa using here
    refine ⟨?_, rfl, rfl, rfl⟩
    by_cases self : SocketId.control control = exist.socket
    · simp [Wiring.join, Wiring.listen, self]
    · simp [Wiring.join, Wiring.listen, self]
  | hibernates other count heard token' rest absent =>
    obtain ⟨rfl, -⟩ : control = other ∧ token = token' := by simpa using here
    exact ⟨by simp [Wiring.present, Wiring.listen], rfl, rfl, rfl⟩
  | _ => simp at here

/-- A registered client waits for the second answer of the Hub. -/
theorem registers_awaits (move : Move identifiers free wiring event shown next) {client : ℕ}
    {token : Text} (here : .registers (.client client) token ∈ shown) :
    next.awaiting client = .fallback ∧
      next.listeners (.client client) = wiring.listeners (.client client) := by
  cases move with
  | registers other body routing rest route =>
    obtain ⟨rfl, -⟩ : client = other ∧ token = identifiers.token other := by simpa using here
    exact ⟨by simp [Wiring.await], rfl⟩
  | misses other body routing agentUuid left claimed rest route =>
    obtain ⟨rfl, -⟩ : client = other ∧ token = identifiers.token other := by simpa using here
    exact ⟨by simp [Wiring.await], rfl⟩
  | drops other body routing agentUuid control left claimed unnamed rest route detached same =>
    obtain ⟨rfl, -⟩ : client = other ∧ token = identifiers.token other := by simpa using here
    exact ⟨by simp [Wiring.await], by simp [Wiring.await, Wiring.listen]⟩
  | _ => simp at here

theorem Arrived.move (arrived : Arrived past wiring) (pooling : Pooling past wiring)
    (stationed : Stationed identifiers past wiring)
    (move : Move identifiers free wiring event shown next) :
    Arrived (past ++ [(event, shown)]) next where
  presented {control token} here := by
    rcases shown_append.mp here with before | now
    · obtain ⟨heard, unasked, nowhere, unserved⟩ := arrived.presented before
      refine ⟨fun after => heard (onData_move move after), ?_, fun agentUuid waits => ?_, ?_⟩
      · cases awaited : next.verifying control with
        | none => rfl
        | some agentUuid =>
          rcases verdict_move move awaited with already | opened
          · rw [unasked] at already
            cases already
          · exact absurd opened heard
      · rcases pooling.waiting_move move waits with already | ⟨reply, -, -, asked, -⟩
        · exact nowhere agentUuid already
        · rw [unasked] at asked
          cases asked
      · cases served : next.serves control with
        | none => rfl
        | some client =>
          rcases serves_move move served with already | ⟨agentUuid, left, claimed⟩
          · rw [unserved] at already
            cases already
          · exact absurd (pooling.sound.taken claimed).1 (nowhere agentUuid)
    · obtain ⟨count, -, heard⟩ := presents_move move now
      obtain ⟨hushed, verifying, pools, serves⟩ := presents_hushes move now
      have opened : At past wiring (.control control) .opened := .opened heard
      refine ⟨hushed, ?_, fun agentUuid waits => ?_, ?_⟩
      · rw [verifying]
        cases awaited : wiring.verifying control with
        | none => rfl
        | some agentUuid => cases stationed.once opened (.verdict awaited)
      · cases stationed.once opened (.pooled (pools ▸ waits))
      · rw [serves]
        cases served : wiring.serves control with
        | none => rfl
        | some client => cases stationed.once opened (.serving served)
  sole {control token token'} here there := by
    have never {token : Text} {token' : Text} (before : Shown past (.presents control token))
        (now : .presents control token' ∈ shown) : False := by
      obtain ⟨count, -, heard⟩ := presents_move move now
      exact (arrived.presented before).1 heard
    rcases shown_append.mp here with before | now
    · rcases shown_append.mp there with before' | now'
      · exact arrived.sole before before'
      · exact (never before now').elim
    · rcases shown_append.mp there with before' | now'
      · exact (never before' now).elim
      · exact presents_sole move now now'
  registered {client token} here := by
    rcases shown_append.mp here with before | now
    · obtain ⟨heard, notLookup, notRouting⟩ := arrived.registered before
      have unasked : ¬ (next.awaiting client = .lookup ∨ next.awaiting client = .routing) := by
        intro asks
        rcases asking_move move asks with (lookup | routing) | ⟨opened, -⟩
        · exact notLookup lookup
        · exact notRouting routing
        · exact heard opened
      exact ⟨fun after => heard (onData_move move after), not_or.mp unasked⟩
    · have asking : At past wiring (.client client) .asking :=
        .asking (.inr (registers_move move now))
      obtain ⟨awaits, same⟩ := registers_awaits move now
      have none : wiring.listeners (.client client) = .none := stationed.hears asking
      rw [same, none, awaits]
      simp
  timed timer here := by
    rcases timers_move move here with before | ⟨now, -⟩
    · exact (arrived.timed timer before).append _
    · exact shown_append.mpr (.inr now)

theorem arrived_started : Arrived [] (State.wiring {}) where
  presented here := by
    obtain ⟨_, inside, -⟩ := here
    cases inside
  sole here := by
    obtain ⟨_, inside, -⟩ := here
    cases inside
  registered here := by
    obtain ⟨_, inside, -⟩ := here
    cases inside
  timed timer here := by cases here

end Arrived

/-! ## Waiting under a token -/

/-- A client waits under a token. -/
def Waits (client : ℕ) (token : Text) (registry : Registry) : Prop :=
  ∃ entry, registry.get token = some entry ∧ entry.socket = .client client

/-- What happens under the token of a client: a socket presents it, another client is registered
under it, or a timer fires that is not that of the client. -/
def Disturbs (client : ℕ) (token : Text) (shown : List Observation) : Prop :=
  (∃ control, .presents control token ∈ shown) ∨
    (∃ other, other ≠ client ∧ .registers (.client other) token ∈ shown) ∨
    ∃ timer deleted, .expires timer deleted ∈ shown ∧ timer.token = token ∧
      timer.socket ≠ .client client

section Waits

variable {identifiers : Identifiers} {free : ℕ → Bool} {past : List (Event × List Observation)}
  {wiring next : Wiring} {event : Event} {shown : List Observation} {client : ℕ} {token : Text}

/-- A release by another socket leaves a client where it waits. -/
theorem Waits.release {registry : Registry} (waits : Waits client token registry) {key : Text}
    {socket : SocketId} (differs : socket ≠ .client client) :
    Waits client token (registry.release key socket) := by
  obtain ⟨entry, found, own⟩ := waits
  refine ⟨entry, ?_, own⟩
  rw [Registry.get_release, if_neg, found]
  rintro ⟨rfl, other⟩
  rw [found] at other
  have same : entry.socket = socket := by simpa using other
  exact differs (same.symm.trans own)

theorem Waits.register {registry : Registry} (waits : Waits client token registry) {key : Text}
    {socket : SocketId} {rest : Bytes} {now : ℤ} (differs : socket = .client client ∨ key ≠ token) :
    Waits client token (registry.register key socket rest now) := by
  by_cases same : token = key
  · refine ⟨⟨socket, rest, registry.drawn⟩, ?_, ?_⟩
    · rw [Registry.get_register, if_pos same]
    · exact differs.resolve_right fun differs => differs same.symm
  · obtain ⟨entry, found, own⟩ := waits
    exact ⟨entry, by rw [Registry.get_register, if_neg same, found], own⟩

/-- A client waits on until it closes, its own timer fires, or it is disturbed. -/
theorem waits_move (move : Move identifiers free wiring event shown next)
    (waits : Waits client token wiring.registry) (undisturbed : ¬ Disturbs client token shown)
    (remains : event ≠ .close (.client client))
    (early : ∀ timer ∈ wiring.registry.timers, timer.socket = .client client →
      wiring.now < timer.due) :
    Waits client token next.registry := by
  have registers {other : ℕ} {key : Text} {rest : Bytes}
      (told : .registers (.client other) key ∈ shown) :
      Waits client token (wiring.registry.register key (.client other) rest wiring.now) := by
    apply waits.register
    by_cases self : other = client
    · exact .inl (self ▸ rfl)
    · exact .inr fun same => undisturbed (.inr (.inl ⟨other, self, same ▸ told⟩))
  cases move with
  | pairs control count heard token' exist found =>
    have differs : token ≠ token' := fun same =>
      undisturbed (.inl ⟨control, by simp [same]⟩)
    obtain ⟨entry, here, own⟩ := waits
    refine ⟨entry, ?_, own⟩
    change (wiring.registry.claim token').get token = some entry
    rw [Registry.get_claim, if_neg differs, here]
  | hibernates control count heard token' rest absent =>
    exact waits.register (.inr fun same => undisturbed (.inl ⟨control, by simp [same]⟩))
  | registers other body awaited rest route => exact registers (by simp)
  | misses other body awaited agentUuid left claimed rest route => exact registers (by simp)
  | drops other body awaited agentUuid control left claimed unnamed rest route detached same =>
    exact registers (by simp)
  | fires number timer due =>
    have inside : timer ∈ wiring.registry.timers := List.mem_of_find?_eq_some due
    have now : timer.due ≤ wiring.now := by
      have met := List.find?_some due
      simp only [Bool.and_eq_true, decide_eq_true_eq] at met
      exact met.2
    have foreign : timer.socket ≠ .client client := fun own =>
      absurd now (not_le.mpr (early timer inside own))
    have differs : token ≠ timer.token := fun same =>
      undisturbed (.inr (.inr ⟨timer, wiring.registry.get timer.token, by simp, same.symm, foreign⟩))
    have fired : Waits client token (wiring.registry.fire timer) := by
      obtain ⟨entry, here, own⟩ := waits
      exact ⟨entry, by rw [Registry.get_fire, if_neg differs, here], own⟩
    cases socket : timer.socket with
    | client other => simpa only [socket] using fired
    | control control =>
      exact fired.release (by simp)
  | closesControl control =>
    simp only [Wiring.unpipe]
    split
    · exact waits.release (by simp)
    · exact waits
  | closesClient other =>
    have differs : other ≠ client := fun same => remains (same ▸ rfl)
    exact waits.release (by simpa using differs)
  | _ => exact waits

/-- A client that is registered waits. -/
theorem waits_of_registered (move : Move identifiers free wiring event shown next)
    (here : .registers (.client client) token ∈ shown) : Waits client token next.registry := by
  have enters (other : ℕ) (rest : Bytes) :
      Waits other (identifiers.token other) (wiring.registry.register (identifiers.token other)
        (.client other) rest wiring.now) :=
    ⟨_, by rw [Registry.get_register, if_pos rfl], rfl⟩
  cases move with
  | registers other body awaited rest route =>
    obtain ⟨rfl, rfl⟩ : client = other ∧ token = identifiers.token other := by simpa using here
    exact enters client rest
  | misses other body awaited agentUuid left claimed rest route =>
    obtain ⟨rfl, rfl⟩ : client = other ∧ token = identifiers.token other := by simpa using here
    exact enters client rest
  | drops other body awaited agentUuid control left claimed unnamed rest route detached same =>
    obtain ⟨rfl, rfl⟩ : client = other ∧ token = identifiers.token other := by simpa using here
    exact enters client rest
  | _ => simp at here

/-- What disturbs a client takes it out of the registry. -/
theorem gone_of_disturbs (move : Move identifiers free wiring event shown next)
    (disturbs : Disturbs client token shown) : ¬ Waits client token next.registry := by
  rintro ⟨entry, found, own⟩
  have registers {other : ℕ} {key : Text} {rest : Bytes} (differs : other ≠ client)
      (same : token = key) (found : (wiring.registry.register key (.client other) rest
        wiring.now).get token = some entry) : False := by
    rw [Registry.get_register, if_pos same] at found
    obtain rfl := Option.some.inj found
    exact differs (by simpa using own)
  cases move with
  | pairs control count heard token' exist there =>
    have same : token = token' := by simpa [Disturbs] using disturbs
    change (wiring.registry.claim token').get token = some entry at found
    rw [Registry.get_claim, if_pos same] at found
    cases found
  | hibernates control count heard token' rest absent =>
    have same : token = token' := by simpa [Disturbs] using disturbs
    change (wiring.registry.register token' _ rest wiring.now).get token = some entry at found
    rw [Registry.get_register, if_pos same] at found
    obtain rfl := Option.some.inj found
    cases own
  | registers other body awaited rest route =>
    have same : other ≠ client ∧ token = identifiers.token other := by
      simpa [Disturbs] using disturbs
    exact registers same.1 same.2 found
  | misses other body awaited agentUuid left claimed rest route =>
    have same : other ≠ client ∧ token = identifiers.token other := by
      simpa [Disturbs] using disturbs
    exact registers same.1 same.2 found
  | drops other body awaited agentUuid control left claimed unnamed rest route detached _ =>
    have same : other ≠ client ∧ token = identifiers.token other := by
      simpa [Disturbs] using disturbs
    exact registers same.1 same.2 found
  | fires number timer due =>
    have same : timer.token = token := by
      have both : timer.token = token ∧ timer.socket ≠ .client client := by
        simpa [Disturbs] using disturbs
      exact both.1
    have fired : (wiring.registry.fire timer).get token = some entry := by
      cases socket : timer.socket with
      | client other => simpa only [socket] using found
      | control control =>
        simp only [socket] at found
        exact get_of_get_release found
    rw [Registry.get_fire, if_pos same.symm] at fired
    cases fired
  | _ => simp [Disturbs] at disturbs

/-- An entry is found after a step if it was before, or if its socket is registered. -/
theorem entered_move (move : Move identifiers free wiring event shown next)
    {entry : RegistryEntry} (found : next.registry.get token = some entry) :
    wiring.registry.get token = some entry ∨ .registers entry.socket token ∈ shown := by
  have registers {key : Text} {socket : SocketId} {rest : Bytes}
      (told : .registers socket key ∈ shown)
      (found : (wiring.registry.register key socket rest wiring.now).get token = some entry) :
      wiring.registry.get token = some entry ∨ .registers entry.socket token ∈ shown := by
    rw [Registry.get_register] at found
    split at found
    · rename_i same
      obtain rfl := Option.some.inj found
      exact .inr (same ▸ told)
    · exact .inl found
  cases move with
  | pairs control count heard token' exist there =>
    change (wiring.registry.claim token').get token = some entry at found
    rw [Registry.get_claim] at found
    split at found
    · cases found
    · exact .inl found
  | hibernates control count heard token' rest absent => exact registers (by simp) found
  | registers client body awaited rest route => exact registers (by simp) found
  | misses client body awaited agentUuid left claimed rest route => exact registers (by simp) found
  | drops client body awaited agentUuid control left claimed unnamed rest route detached same =>
    exact registers (by simp) found
  | fires number timer due =>
    left
    cases socket : timer.socket with
    | client client =>
      simp only [socket] at found
      exact get_of_get_fire found
    | control control =>
      simp only [socket] at found
      exact get_of_get_fire (get_of_get_release found)
  | closesControl control =>
    left
    simp only [Wiring.unpipe] at found
    split at found
    · exact get_of_get_release found
    · exact found
  | closesClient client => exact .inl (get_of_get_release found)
  | _ => exact .inl found

/-- A client that is gone from the registry does not come back. -/
theorem gone_move (move : Move identifiers free wiring event shown next)
    (arrived : Arrived past wiring) (registered : Shown past (.registers (.client client) token))
    (gone : ¬ Waits client token wiring.registry) : ¬ Waits client token next.registry := by
  rintro ⟨entry, found, own⟩
  rcases entered_move move found with before | now
  · exact gone ⟨entry, before, own⟩
  · exact (arrived.registered registered).2.2 (registers_move move (own ▸ now))

end Waits

/-! ## Meeting -/

/-- Two sockets are piped to each other. -/
def State.Piped (state : State) (first second : SocketId) : Prop :=
  (∃ ends, state.listeners first = .pipe second ends) ∧
    ∃ ends, state.listeners second = .pipe first ends

/-- The state that a run leads to. -/
def reach (identifiers : Identifiers) (events : List Event) : State :=
  final (step identifiers) {} events

/-- What the event after a run shows. -/
def shows (identifiers : Identifiers) (events : List Event) (event : Event) : List Observation :=
  (step identifiers (reach identifiers events) event).1

/-- A socket presents a token, and the proxy registers a client under it, in either order, in less
than ten seconds, and neither closes in the meantime. -/
structure Arrival (identifiers : Identifiers) (before : List Event) (first : Event)
    (between : List Event) (second : Event) (control client : ℕ) (token : Text)
    (earlier later : SocketId) : Prop where
  order :
    earlier = .client client ∧ later = .control control ∧
        .registers (.client client) token ∈ shows identifiers before first ∧
        .presents control token ∈ shows identifiers (before ++ first :: between) second ∨
      earlier = .control control ∧ later = .client client ∧
        .presents control token ∈ shows identifiers before first ∧
        .registers (.client client) token ∈
          shows identifiers (before ++ first :: between) second
  soon : (reach identifiers (before ++ first :: between)).now - (reach identifiers before).now <
    Registry.timeout
  opens : ∀ id, id = .client client ∨ id = .control control →
    ((reach identifiers (before ++ first :: between)).sockets id).closed = false

/-- Whoever has arrived is piped to the other, and the timer of the earlier never deletes the entry
of the later. -/
def Meets (identifiers : Identifiers) (events : List Event) (token : Text)
    (earlier later : SocketId) : Prop :=
  (reach identifiers events).Piped earlier later ∧
    ∀ after event timer deleted,
      .expires timer (some deleted) ∈ shows identifiers (events ++ after) event →
      timer.socket = earlier → timer.token = token → deleted.socket ≠ later

/-- The client is the earlier, and nothing else happens under its token before the other comes. -/
def ClientFirst (identifiers : Identifiers) (before : List Event) (first : Event)
    (between : List Event) (client : ℕ) (token : Text) (earlier : SocketId) : Prop :=
  earlier = .client client ∧
    ∀ event ∈ trace (step identifiers) (reach identifiers (before ++ [first])) between,
      ¬ Disturbs client token event.2

section Meeting

variable {identifiers : Identifiers} {past : List (Event × List Observation)} {state : State}
  {event : Event} {control client : ℕ} {token : Text}

/-- What is known of the sockets of a run, and of who has arrived. -/
structure Traced (identifiers : Identifiers) (past : List (Event × List Observation))
    (state : State) : Prop extends Standing identifiers past state where
  arrived : Arrived past state.wiring

theorem traced_started (identifiers : Identifiers) : Traced identifiers [] {} :=
  ⟨standing_started identifiers, arrived_started⟩

theorem Traced.onward (traced : Traced identifiers past state) (event : Event) :
    Traced identifiers (past ++ [(event, (step identifiers state event).1)])
      (step identifiers state event).2 :=
  ⟨traced.toStanding.onward event,
    traced.arrived.move traced.pooling traced.stationed (step_moves identifiers state event)⟩

/-- What is known after the events of a run. -/
theorem Traced.along (traced : Traced identifiers past state) (events : List Event) :
    Traced identifiers (past ++ trace (step identifiers) state events)
      (final (step identifiers) state events) :=
  (along_trivial past state events).invariant (Traced identifiers)
    (fun _ _ event held _ => held.onward event) traced

theorem shown_along {events : List Event} {shown : Observation} (here : Shown past shown) :
    Shown (past ++ trace (step identifiers) state events) shown := by
  obtain ⟨event, inside, seen⟩ := here
  exact ⟨event, List.mem_append_left _ inside, seen⟩

/-- A client that is gone from the registry does not come back later. -/
theorem Traced.gone_along (traced : Traced identifiers past state)
    (registered : Shown past (.registers (.client client) token))
    (gone : ¬ Waits client token state.registry) (events : List Event) :
    ¬ Waits client token (final (step identifiers) state events).registry := by
  have held := (along_trivial past state events).invariant
    (fun past state => Traced identifiers past state ∧
      Shown past (.registers (.client client) token) ∧ ¬ Waits client token state.registry)
    (fun past state event held _ => ⟨held.1.onward event, held.2.1.append _,
      gone_move (step_moves identifiers state event) held.1.arrived held.2.1 held.2.2⟩)
    ⟨traced, registered, gone⟩
  exact held.2.2

/-- What is closed stays closed. -/
theorem closed_along {id : SocketId} (closed : (state.sockets id).closed = true)
    (events : List Event) :
    ((final (step identifiers) state events).sockets id).closed = true := by
  induction events generalizing state with
  | nil => exact closed
  | cons event rest ih => exact ih (closed_stays identifiers closed)

theorem now_along (state : State) (events : List Event) :
    state.now ≤ (final (step identifiers) state events).now := by
  induction events generalizing state with
  | nil => exact le_rfl
  | cons event rest ih => exact (now_move (step_moves identifiers state event)).trans (ih _)

/-- A client waits until its time is up exactly if it is not disturbed. -/
theorem Traced.waits_along_iff (traced : Traced identifiers past state)
    (registered : Shown past (.registers (.client client) token))
    (waits : Waits client token state.registry) (events : List Event)
    (opens : ((final (step identifiers) state events).sockets (.client client)).closed = false)
    (early : ∀ timer ∈ state.registry.timers, timer.socket = .client client →
      (final (step identifiers) state events).now < timer.due) :
    Waits client token (final (step identifiers) state events).registry ↔
      ∀ event ∈ trace (step identifiers) state events, ¬ Disturbs client token event.2 := by
  induction events generalizing past state with
  | nil => simpa [trace, final] using waits
  | cons event rest ih =>
    have move := step_moves identifiers state event
    have later := traced.onward event
    have registered' : Shown (past ++ [(event, (step identifiers state event).1)])
      (.registers (.client client) token) := registered.append _
    rw [trace, final, List.forall_mem_cons]
    by_cases disturbs : Disturbs client token (step identifiers state event).1
    · have gone := later.gone_along registered' (gone_of_disturbs move disturbs) rest
      exact ⟨fun waits => absurd waits gone, fun undisturbed => absurd disturbs undisturbed.1⟩
    · have early' : ∀ timer ∈ (step identifiers state event).2.registry.timers,
          timer.socket = .client client → (final (step identifiers)
            (step identifiers state event).2 rest).now < timer.due := by
        intro timer inside own
        rcases timers_move move inside with before | ⟨now, -⟩
        · exact early timer before own
        · exact absurd (registers_move move (own ▸ now))
            (traced.arrived.registered registered).2.2
      have onward : Waits client token (step identifiers state event).2.registry := by
        by_cases closes : event = .close (.client client)
        · subst closes
          by_cases closes : (state.sockets (.client client)).closes = true
          · have closed :=
              @closed_along identifiers _ _ (closed_of_closes identifiers closes) rest
            rw [final] at opens
            rw [opens] at closed
            cases closed
          · have same : (step identifiers state (.close (.client client))).2 = state := by
              simp [step, closes]
            rw [same]
            exact waits
        · refine waits_move move waits disturbs closes fun timer inside own => ?_
          exact ((now_move move).trans (now_along _ rest)).trans_lt (early timer inside own)
      rw [ih later registered' onward opens early']
      exact ⟨fun undisturbed => ⟨disturbs, undisturbed⟩, And.right⟩

/-- Whoever is joined is piped to the other. -/
theorem piped_of_pairs {free : ℕ → Bool} {wiring next : Wiring} {shown : List Observation}
    (move : Move identifiers free wiring event shown next) {waiting : SocketId}
    (here : .pairs control token waiting ∈ shown) (differs : waiting ≠ .control control) :
    next.listeners (.control control) = .pipe waiting true ∧
      next.listeners waiting = .pipe (.control control) true := by
  cases move with
  | pairs control' count heard token' exist found =>
    obtain ⟨rfl, -, rfl⟩ : control = control' ∧ token = token' ∧ waiting = exist.socket := by
      simpa using here
    simp [Wiring.join, Wiring.listen, differs.symm]
  | _ => simp at here

/-- A socket that has presented a token is joined to nobody by a later step. -/
theorem Traced.pairs_along (traced : Traced identifiers past state)
    (presented : Shown past (.presents control token)) (events : List Event) {token' : Text}
    {waiting : SocketId}
    (paired : Shown (past ++ trace (step identifiers) state events)
      (.pairs control token' waiting)) : Shown past (.pairs control token' waiting) := by
  have held := (along_trivial past state events).invariant
    (fun past' state => Traced identifiers past' state ∧ Shown past' (.presents control token) ∧
      (Shown past' (.pairs control token' waiting) → Shown past (.pairs control token' waiting)))
    (fun past' state event held _ => by
      refine ⟨held.1.onward event, held.2.1.append _, fun here => ?_⟩
      rcases shown_append.mp here with before | now
      · exact held.2.2 before
      · have move := step_moves identifiers state event
        obtain ⟨count, -, heard⟩ := presents_move move (presents_of_pairs move now)
        exact absurd heard (held.1.arrived.presented held.2.1).1)
    ⟨traced, presented, id⟩
  exact held.2.2 paired

/-- A socket is piped to a client only if it found it waiting under the token that it presented. -/
theorem Traced.waits_of_piped (traced : Traced identifiers past state)
    (presents : .presents control token ∈ (step identifiers state event).1) (after : List Event)
    {ends : Bool}
    (piped : (final (step identifiers) (step identifiers state event).2 after).listeners
      (.control control) = .pipe (.client client) ends) :
    Waits client token state.registry := by
  have later := traced.onward event
  have presented : Shown (past ++ [(event, (step identifiers state event).1)])
      (.presents control token) := shown_append.mpr (.inr presents)
  have whole := later.along after
  have bound := whole.stationed.pipes piped
  cases bound with
  | @presented _ token' _ paired =>
    rcases shown_append.mp (later.pairs_along presented after paired) with before | now
    · obtain ⟨count, -, heard⟩ := presents_move (step_moves identifiers state event) presents
      cases traced.stationed.once (.presented before) (.opened heard)
    · obtain ⟨count, exist, -, -, found, own⟩ := pairs_shown_iff.mp now
      obtain rfl := presents_sole (step_moves identifiers state event) presents
        (presents_of_pairs (step_moves identifiers state event) now)
      exact ⟨exist, found, own⟩
  | serving served =>
    have unserved := (whole.arrived.presented (shown_along presented)).2.2.2
    exact absurd (unserved.symm.trans served) (by simp)

/-- A socket that presents the token of a client that waits is joined to it. -/
theorem pairs_of_waits (presents : .presents control token ∈ (step identifiers state event).1)
    (waits : Waits client token state.registry) :
    .pairs control token (.client client) ∈ (step identifiers state event).1 := by
  obtain ⟨entry, found, own⟩ := waits
  obtain ⟨count, rfl, presented⟩ := presented_of_shown presents
  rw [(step_presented presented).1 entry found, own]
  simp

/-- A client that is registered waits, and its timer is set. -/
theorem Traced.waits_of_registers (traced : Traced identifiers past state)
    (registers : .registers (.client client) token ∈ (step identifiers state event).1) :
    Waits client token (step identifiers state event).2.registry ∧
      ∀ timer ∈ (step identifiers state event).2.registry.timers,
        timer.socket = .client client → timer.due = state.now + Registry.timeout := by
  have move := step_moves identifiers state event
  refine ⟨waits_of_registered move registers, fun timer inside own => ?_⟩
  · rcases timers_move move inside with before | ⟨-, due⟩
    · have registered := traced.arrived.timed timer before
      rw [own] at registered
      exact absurd (registers_move move registers) (traced.arrived.registered registered).2.2
    · exact due

/-- A timer deletes what stands under its token. -/
theorem found_of_expires {free : ℕ → Bool} {wiring next : Wiring} {shown : List Observation}
    (move : Move identifiers free wiring event shown next) {timer : Timer}
    {deleted : RegistryEntry} (here : .expires timer (some deleted) ∈ shown) :
    wiring.registry.get timer.token = some deleted := by
  cases move with
  | fires number timer' due =>
    obtain ⟨rfl, found⟩ : timer = timer' ∧
        some deleted = wiring.registry.get timer'.token := by simpa using here
    exact found.symm
  | _ => simp at here

/-- What the steps of a run show. -/
theorem reach_append (before after : List Event) :
    reach identifiers (before ++ after) =
      final (step identifiers) (reach identifiers before) after := final_append _ _ _ _

theorem traced_reach (events : List Event) :
    Traced identifiers (trace (step identifiers) {} events) (reach identifiers events) := by
  simpa [reach] using (traced_started identifiers).along events

section Arrival

variable {before between : List Event} {first second : Event} {earlier later : SocketId}

/-- Where the client is registered first, what it registers under lasts until the other comes
exactly if it is not disturbed. -/
theorem Arrival.waits_iff
    (arrival : Arrival identifiers before first between second control client token earlier later)
    (registers : .registers (.client client) token ∈ shows identifiers before first) :
    Waits client token (reach identifiers (before ++ first :: between)).registry ↔
      ∀ event ∈ trace (step identifiers) (reach identifiers (before ++ [first])) between,
        ¬ Disturbs client token event.2 := by
  have traced : Traced identifiers (trace (step identifiers) {} before)
    (reach identifiers before) := traced_reach before
  have one : reach identifiers (before ++ [first]) =
      (step identifiers (reach identifiers before) first).2 := reach_append before [first]
  have whole : reach identifiers (before ++ first :: between) =
      final (step identifiers) (step identifiers (reach identifiers before) first).2 between :=
    reach_append before (first :: between)
  have opens := arrival.opens (.client client) (.inl rfl)
  have soon := arrival.soon
  obtain ⟨waits, timed⟩ := traced.waits_of_registers registers
  rw [whole] at opens soon ⊢
  rw [one]
  refine (traced.onward first).waits_along_iff (shown_append.mpr (.inr registers)) waits between
    opens fun timer inside own => ?_
  rw [timed timer inside own]
  omega

/-- The two sockets of an arrival meet exactly if the client is registered first and nothing
happens under its token until the other comes; otherwise they are never piped to each other. -/
theorem meets_iff
    (arrival : Arrival identifiers before first between second control client token earlier later) :
    (Meets identifiers (before ++ first :: between ++ [second]) token earlier later ↔
        ClientFirst identifiers before first between client token earlier) ∧
      (¬ ClientFirst identifiers before first between client token earlier → ∀ after,
        ¬ (reach identifiers (before ++ first :: between ++ [second] ++ after)).Piped
          earlier later) := by
  have traced₁ : Traced identifiers (trace (step identifiers) {} before)
    (reach identifiers before) := traced_reach before
  have traced₂ : Traced identifiers (trace (step identifiers) {} (before ++ first :: between))
    (reach identifiers (before ++ first :: between)) := traced_reach _
  have meeting : (∃ after, (reach identifiers
        (before ++ first :: between ++ [second] ++ after)).Piped earlier later) →
      ClientFirst identifiers before first between client token earlier := by
    rintro ⟨after, piped⟩
    rcases arrival.order with ⟨rfl, rfl, registers, presents⟩ | ⟨rfl, rfl, presents, registers⟩
    · refine ⟨rfl, (arrival.waits_iff registers).mp ?_⟩
      obtain ⟨-, ends, here⟩ := piped
      rw [reach_append, reach_append] at here
      exact traced₂.waits_of_piped presents after here
    · exfalso
      obtain ⟨⟨ends, here⟩, -⟩ := piped
      rw [List.append_assoc, List.append_assoc, List.cons_append, reach_append] at here
      obtain ⟨entry, found, own⟩ := traced₁.waits_of_piped presents _ here
      have registered := (traced₁.stationed.keyed found).2
      have later : Shown (trace (step identifiers) {} (before ++ first :: between))
          (.registers (.client client) token) := by
        rw [trace_append]
        exact shown_along (own ▸ registered)
      exact (traced₂.arrived.registered later).2.2
        (registers_move (step_moves identifiers _ second) registers)
  refine ⟨⟨fun meets => meeting ⟨[], by simpa using meets.1⟩, ?_⟩,
    fun otherwise after piped => otherwise (meeting ⟨after, piped⟩)⟩
  rintro ⟨rfl, undisturbed⟩
  rcases arrival.order with ⟨-, rfl, registers, presents⟩ | ⟨same, -⟩
  · have paired := pairs_of_waits presents ((arrival.waits_iff registers).mpr undisturbed)
    have piped := piped_of_pairs (step_moves identifiers _ second) paired (by simp)
    rw [Meets, reach_append]
    refine ⟨⟨⟨true, piped.2⟩, true, piped.1⟩, ?_⟩
    intro after event timer deleted expires _ _ same
    have traced := @traced_reach identifiers
      (before ++ first :: between ++ [second] ++ after)
    have found := found_of_expires (step_moves identifiers _ event) expires
    have shown : Shown (trace (step identifiers) {}
        (before ++ first :: between ++ [second] ++ after))
        (.pairs control token (.client client)) := by
      rw [trace_append, trace_append]
      exact shown_along (shown_append.mpr (.inr paired))
    cases traced.stationed.once (.entered found same) (.presented shown)
  · cases same

end Arrival

/-- A request of a client, and the answer of the Hub that it can be routed. -/
def routed : List Event :=
  [.receive (.client 0) (encodeUtf8 "GET / HTTP/1.1\r\nHost: acme.optics.run\r\n\r\n"),
    .deliver (.client 0) 100, .answer 0 (some 200)]

/-- The first line of a connection is the token of the client. -/
def tokenComes : Event := .receive (.control 0) (encodeUtf8 "0\n")

theorem meets_client_first :
    Meets numbered (routed ++ .body 0 none :: [tokenComes] ++ [.deliver (.control 0) 2]) "0"
        (.client 0) (.control 0) ↔
      ClientFirst numbered routed (.body 0 none) [tokenComes] 0 "0" (.client 0) :=
  (@meets_iff numbered 0 0 "0" routed [tokenComes] (.body 0 none) (.deliver (.control 0) 2)
    (.client 0) (.control 0)
    { order := .inl ⟨rfl, rfl, by decide +kernel, by decide +kernel⟩
      soon := by decide +kernel
      opens := by
        rintro id (rfl | rfl)
        · decide +kernel
        · decide +kernel }).1

/-- The connection of the Agent comes before the client is registered, is never piped to it, and
its timer deletes the entry of the client. -/
theorem not_meets_control_first :
    Arrival numbered (routed ++ [tokenComes]) (.deliver (.control 0) 2) [] (.body 0 none) 0 0 "0"
        (.control 0) (.client 0) ∧
      ¬ Meets numbered
        (routed ++ [tokenComes] ++ .deliver (.control 0) 2 :: [] ++ [.body 0 none]) "0"
        (.control 0) (.client 0) ∧
      ∃ timer deleted, .expires timer (some deleted) ∈
          shows numbered (routed ++ [tokenComes] ++ .deliver (.control 0) 2 :: [] ++
            [.body 0 none, .elapse 10000]) (.fire 0) ∧
        timer.socket = .control 0 ∧ deleted.socket = .client 0 := by
  refine ⟨?_, fun meets => ?_, ?_⟩
  · exact
      { order := .inr ⟨rfl, rfl, by decide +kernel, by decide +kernel⟩
        soon := by decide +kernel
        opens := by
          rintro id (rfl | rfl)
          · decide +kernel
          · decide +kernel }
  · obtain ⟨⟨⟨ends, piped⟩, -⟩, -⟩ := meets
    have paused : (reach numbered (routed ++ [tokenComes] ++ .deliver (.control 0) 2 :: [] ++
        [.body 0 none])).listeners (.control 0) = .none := by decide +kernel
    rw [paused] at piped
    cases piped
  · refine ⟨⟨0, "0", .control 0, 10000⟩,
      ⟨.client 0, ((reach numbered routed).clients 0).buffer, 1⟩, ?_, rfl, rfl⟩
    decide +kernel

end Meeting

end Gateway

end OpticsHub
