import OpticsHub.Gateway.Fidelity

/-!
# One response for a request

A client is to get an error page of the gateway, or what the Agent answers, and never both. Nothing
follows a page, which ends the socket. A page may follow an answer, though: the proxy waits for what
the Hub says of the fallback while the Agent has the token already, and when that request fails or
is refused, the page is written without a look at what the client has got. Every other page comes
before any answer could: before the client is registered or handed over, when the timer of an entry
fires that nobody has claimed, or when a pooled socket closes that has not answered.
-/
namespace OpticsHub

open Script Net Machine

namespace Gateway

/-- What was written to a client. -/
def State.told (state : State) (client : ℕ) : List Piece := (state.sockets (.client client)).written

/-- One page and nothing else, or bytes only. -/
def OneResponse (told : List Piece) : Prop :=
  (∃ outcome context, told = [.page outcome context]) ∨
    ∀ piece ∈ told, ∃ value, piece = .byte value

/-- No request to the Hub fails, or is refused, for a client that has been written to and can still
be. -/
def FailsFirst (state : State) : Event → Prop
  | .answer client none =>
    (state.clients client).awaiting = .fallback →
      (state.sockets (.client client)).writable = true → state.told client = []
  | .body client _ =>
    ∀ status, (state.clients client).awaiting = .refusal status →
      (state.sockets (.client client)).writable = true → state.told client = []
  | _ => True

/-! ## What is written to a client -/

section Told

variable (state : State) (client : ℕ)

theorem told_onSocket {change : Duplex Piece → Duplex Piece}
    (keeps : ∀ socket : Duplex Piece, (change socket).written = socket.written) (id : SocketId) :
    (state.onSocket id change).told = state.told := by
  funext client
  by_cases self : SocketId.client client = id
  · subst self
    simp [State.told, State.onSocket, keeps]
  · simp [State.told, State.onSocket, self]

@[simp]
theorem told_onControlSocket (control : ℕ) (change : Duplex Piece → Duplex Piece) :
    (state.onSocket (.control control) change).told = state.told := by
  funext client
  simp [State.told, State.onSocket]

@[simp]
theorem told_pipe (source destination : SocketId) (ends : Bool) :
    (state.pipe source destination ends).told = state.told :=
  funext fun client => (pipe_sockets state source destination ends (.client client)).1

@[simp]
theorem told_unpipe (destination : SocketId) : (state.unpipe destination).told = state.told := by
  funext client
  simp only [State.told, State.unpipe]
  split <;> rfl

@[simp]
theorem told_reject (control : ℕ) (reason : Text) :
    (reject control reason state).told = state.told := told_onControlSocket _ _ _

@[simp]
theorem told_writeControl (control : ℕ) (bytes : Bytes) :
    (state.write (.control control) bytes).told = state.told := told_onControlSocket _ _ _

theorem told_write (id : SocketId) (bytes : Bytes) :
    (state.write id bytes).told client = state.told client ∨
      id = .client client ∧ (state.sockets (.client client)).writable = true ∧
        (state.write id bytes).told client = state.told client ++ pieces bytes := by
  by_cases self : SocketId.client client = id
  · subst self
    by_cases writable : (state.sockets (.client client)).writable = true
    · refine .inr ⟨rfl, writable, ?_⟩
      simp [State.told, State.write, State.onSocket, Duplex.write, writable]
    · left
      simp [State.told, State.write, State.onSocket, Duplex.write, writable]
  · left
    simp [State.told, State.write, State.onSocket, self]

theorem told_endPage (target : ℕ) (outcome : PageOutcome) (context : ErrorContext) :
    (state.endPage target outcome context).told client = state.told client ∨
      target = client ∧ (state.sockets (.client client)).writable = true ∧
        (state.endPage target outcome context).told client =
          state.told client ++ [.page outcome context] := by
  by_cases self : client = target
  · subst self
    by_cases writable : (state.sockets (.client client)).writable = true
    · refine .inr ⟨rfl, writable, ?_⟩
      simp [State.told, State.endPage, State.onSocket, Duplex.endWith, Duplex.write,
        Duplex.endStream, writable]
    · left
      simp [State.told, State.endPage, State.onSocket, Duplex.endWith, writable]
  · left
    simp [State.told, State.endPage, State.onSocket, self]

theorem told_endPage_of_writable (outcome : PageOutcome) (context : ErrorContext)
    (writable : (state.sockets (.client client)).writable = true) :
    (state.endPage client outcome context).told client =
      state.told client ++ [.page outcome context] := by
  simp [State.told, State.endPage, State.onSocket, Duplex.endWith, Duplex.write,
    Duplex.endStream, writable]

@[simp]
theorem writable_endPage (outcome : PageOutcome) (context : ErrorContext) :
    ((state.endPage client outcome context).sockets (.client client)).writable = false := by
  simp [State.endPage, State.onSocket]

end Told

/-- When a page is written to a client. -/
inductive Pages (state : State) (client : ℕ) : Event → Prop where
  | unread {count : ℕ} (heard : state.listeners (.client client) = .onData) :
      Pages state client (.deliver (.client client) count)
  | unrouted {status : Option ℕ} (awaited : (state.clients client).awaiting = .lookup) :
      Pages state client (.answer client status)
  | unreachable (awaited : (state.clients client).awaiting = .fallback) :
      Pages state client (.answer client none)
  | refused {body : Option Value} {status : ℕ}
      (awaited : (state.clients client).awaiting = .refusal status) :
      Pages state client (.body client body)
  | expired {number : ℕ} {timer : Timer}
      (due : state.registry.due number state.now = some timer)
      (own : timer.socket = .client client) :
      Pages state client (.fire number)
  | closed {control : ℕ} (served : (state.controls control).serves = some client)
      (silent : (state.clients client).pooledResponded = false) :
      Pages state client (.close (.control control))

/-- What a step adds to what was written to a client: nothing, bytes of the socket at the other end
of its tunnel, or a page. -/
inductive Adds (state : State) (client : ℕ) (event : Event) (shown : List Observation)
    (next : State) : Prop where
  | nothing (same : next.told client = state.told client)
  | bytes (writable : (state.sockets (.client client)).writable = true) (bytes : Bytes)
      (more : next.told client = state.told client ++ pieces bytes)
      (source : (∃ control token, .pairs control token (.client client) ∈ shown) ∨
        ∃ id count ends, event = .deliver id count ∧
          (state.sockets id).delivers count = true ∧
          state.listeners id = .pipe (.client client) ends)
  | page (writable : (state.sockets (.client client)).writable = true) (outcome : PageOutcome)
      (context : ErrorContext)
      (more : next.told client = state.told client ++ [.page outcome context])
      (ended : (next.sockets (.client client)).writable = false)
      (reason : Pages state client event)

section Adding

variable {identifiers : Identifiers} {state before next : State} {client : ℕ} {event : Event}
  {shown : List Observation}

theorem adds_same (same : next.told = state.told) : Adds state client event shown next :=
  .nothing (congrFun same client)

/-- A page is for the client, or nothing is. -/
theorem adds_endPage {target : ℕ} (same : before.told = state.told)
    (held : (before.sockets (.client client)).writable = true →
      (state.sockets (.client client)).writable = true)
    (outcome : PageOutcome) (context : ErrorContext)
    (reason : target = client → Pages state client event) :
    Adds state client event shown (before.endPage target outcome context) := by
  rcases told_endPage before client target outcome context with none | ⟨rfl, writable, more⟩
  · exact .nothing (none.trans (congrFun same client))
  · exact .page (held writable) outcome context (more.trans (by rw [same]))
      (writable_endPage before target outcome context) (reason rfl)

theorem adds_write {id : SocketId} {bytes : Bytes} (same : before.told = state.told)
    (held : (before.sockets (.client client)).writable = true →
      (state.sockets (.client client)).writable = true)
    (source : id = .client client →
      (∃ control token, .pairs control token (.client client) ∈ shown) ∨
        ∃ id count ends, event = .deliver id count ∧
          (state.sockets id).delivers count = true ∧
          state.listeners id = .pipe (.client client) ends) :
    Adds state client event shown (before.write id bytes) := by
  rcases told_write before client id bytes with none | ⟨own, writable, more⟩
  · exact .nothing (none.trans (congrFun same client))
  · exact .bytes (held writable) bytes (more.trans (by rw [same])) (source own)

theorem Adds.unpipe (adds : Adds state client event shown next) (destination : SocketId) :
    Adds state client event shown (next.unpipe destination) := by
  cases adds with
  | nothing same => exact .nothing (by rw [told_unpipe, same])
  | bytes writable bytes more source =>
    exact .bytes writable bytes (by rw [told_unpipe, more]) source
  | page writable outcome context more ended reason =>
    refine .page writable outcome context (by rw [told_unpipe, more]) ?_ reason
    rw [← ended]
    simp only [State.unpipe]
    split <;> rfl

/-- What a socket was handed is not written anywhere yet. -/
theorem told_advance (state : State) (id : SocketId) (count : ℕ) :
    (state.onSocket id (Duplex.advance count)).told = state.told :=
  @told_onSocket state (Duplex.advance count) (fun _ => rfl) id

theorem writable_onSocket {id : SocketId} {change : Duplex Piece → Duplex Piece}
    (ages : ∀ socket : Duplex Piece, (change socket).writable = true → socket.writable = true)
    (writable : ((state.onSocket id change).sockets (.client client)).writable = true) :
    (state.sockets (.client client)).writable = true := by
  by_cases self : SocketId.client client = id
  · subst self
    exact ages _ (by simpa [State.onSocket] using writable)
  · simpa [State.onSocket, self] using writable

theorem adds_onClientData {target count : ℕ} {chunk : Bytes}
    (heard : state.listeners (.client target) = .onData)
    (same : before.told = state.told)
    (held : (before.sockets (.client client)).writable = true →
      (state.sockets (.client client)).writable = true) :
    Adds state client (.deliver (.client target) count)
      (onClientData identifiers target chunk before).1
      (onClientData identifiers target chunk before).2 := by
  have unread (own : target = client) : Pages state client (.deliver (.client target) count) := by
    subst own
    exact .unread heard
  simp only [onClientData]
  split
  · exact adds_same same
  · split
    · refine adds_endPage ?_ ?_ _ _ unread
      · exact same
      · exact held
    · split
      · refine adds_endPage ?_ ?_ _ _ unread
        · exact same
        · exact held
      · refine adds_same (Eq.trans ?_ same)
        exact @told_onSocket _ Duplex.pause (fun _ => rfl) _

theorem adds_present {control count : ℕ} {token : Text} {rest : Bytes}
    (same : before.told = state.told)
    (held : (before.sockets (.client client)).writable = true →
      (state.sockets (.client client)).writable = true) :
    Adds state client (.deliver (.control control) count) (present control token rest before).1
      (present control token rest before).2 := by
  simp only [present]
  split
  · rename_i exist found
    have written : Adds state client (.deliver (.control control) count)
        [.presents control token, .pairs control token exist.socket]
        ((({ before.onControl control fun vars => { vars with token := token } with
          registry := before.registry.claim token }).write exist.socket rest)) :=
      adds_write same held fun own => .inl ⟨control, token, by simp [own]⟩
    cases written with
    | nothing none => exact .nothing (by simpa using none)
    | bytes writable bytes more source => exact .bytes writable bytes (by simpa using more) source
    | page writable outcome context more ended reason => cases reason
  · refine adds_same (Eq.trans (told_onControlSocket _ control Duplex.pause) ?_)
    exact same

theorem adds_onControlData {control count : ℕ} {chunk : Bytes}
    (same : before.told = state.told)
    (held : (before.sockets (.client client)).writable = true →
      (state.sockets (.client client)).writable = true) :
    Adds state client (.deliver (.control control) count)
      (onControlData control chunk before).1 (onControlData control chunk before).2 := by
  simp only [onControlData]
  split
  · exact adds_same same
  · split
    · refine adds_same (Eq.trans ?_ same)
      simp only [handlePreconnect]
      split
      · simp
        rfl
      · split
        · simp
          rfl
        · simp
          rfl
    · exact adds_present same held

theorem adds_deliver {id : SocketId} {count : ℕ}
    (delivers : (state.sockets id).delivers count = true) :
    Adds state client (.deliver id count) (deliver identifiers id count state).1
      (deliver identifiers id count state).2 := by
  have same := told_advance state id count
  have held (writable : ((state.onSocket id (Duplex.advance count)).sockets
      (.client client)).writable = true) : (state.sockets (.client client)).writable = true :=
    @writable_onSocket state client id (Duplex.advance count) (fun _ still => still) writable
  have piped {destination : SocketId} {ends : Bool}
      (heard : state.listeners id = .pipe destination ends) (own : destination = .client client) :
      ∃ source count' ends, Event.deliver id count = .deliver source count' ∧
        (state.sockets source).delivers count' = true ∧
        state.listeners source = .pipe (.client client) ends :=
    ⟨id, count, ends, rfl, delivers, own ▸ heard⟩
  simp only [deliver]
  split
  · rename_i target heard
    exact adds_onClientData heard same held
  · exact adds_onControlData same held
  · refine adds_same (Eq.trans ?_ same)
    simp only [onHeartbeat]
    split
    · rfl
    · simp
      rfl
  · rename_i destination ends control heard
    refine adds_write ?_ ?_ fun own => .inr (piped heard own)
    · refine Eq.trans ?_ same
      split <;> rfl
    · intro writable
      refine held ?_
      revert writable
      split <;> exact id
  · rename_i destination ends other heard
    exact adds_write same held fun own => .inr (piped heard own)
  · exact adds_same same

theorem adds_failWith {target : ℕ} (outcome : PageOutcome)
    (reason : target = client → Pages state client event) :
    Adds state client event shown (failWith identifiers target outcome state) := by
  refine adds_endPage ?_ ?_ _ _ reason
  · rfl
  · exact id

theorem adds_onBody (target : ℕ) (body : Option Value) :
    Adds state client (.body target body) (onBody identifiers target body state).1
      (onBody identifiers target body state).2 := by
  have detached (control : ℕ) (before : State) :
      (detachHeartbeat control before).told = before.told := by
    simp only [detachHeartbeat]
    split
    · simp
      rfl
    · rfl
  have claimed (agentUuid : Text) : (claimPreconnected agentUuid state).2.told = state.told := by
    simp only [claimPreconnected]
    split
    · rfl
    · rw [detached]
      rfl
  simp only [onBody]
  split
  · refine adds_same ?_
    simp only [onRouting]
    split
    · split
      · split
        · simp only [usePooled, told_pipe, told_writeControl]
          exact claimed _
        · exact claimed _
      · exact claimed _
    · rfl
  · rename_i status awaited
    exact adds_failWith _ fun own => by
      subst own
      exact .refused awaited
  · exact adds_same rfl

theorem adds_onAnswer (target : ℕ) (status : Option ℕ) :
    Adds state client (.answer target status) []
      (onAnswer identifiers target status state) := by
  simp only [onAnswer]
  split
  · rename_i awaited
    split
    · exact adds_failWith _ fun own => by
        subst own
        exact .unrouted awaited
    · exact adds_same rfl
  · rename_i awaited
    split
    · exact adds_failWith _ fun own => by
        subst own
        exact .unreachable awaited
    · exact adds_same rfl
  · exact adds_same rfl

theorem adds_closeControl {control : ℕ} (same : before.told = state.told)
    (held : (before.sockets (.client client)).writable = true →
      (state.sockets (.client client)).writable = true)
    (clients : before.clients = state.clients) (controls : before.controls = state.controls) :
    Adds state client (.close (.control control)) [] (closeControl identifiers control before) := by
  simp only [closeControl]
  refine Adds.unpipe ?_ _
  split
  · rename_i target served
    simp only [pooledClose]
    split
    · refine adds_same (Eq.trans ?_ same)
      exact @told_onSocket _ Duplex.endStream (fun _ => rfl) _
    · rename_i open'
      refine adds_endPage ?_ ?_ _ _ fun own => ?_
      · exact same
      · exact held
      · subst own
        refine .closed (controls ▸ served) ?_
        simp only [Bool.or_eq_true, not_or, Bool.not_eq_true] at open'
        rw [← clients]
        exact open'.1.1
  · exact adds_same same

theorem told_verified (control : ℕ) (reply : Option (ℕ × Option Value)) :
    (verified control reply state).told = state.told := by
  simp only [verified]
  split
  · rfl
  · split
    · rw [told_reject]
      rfl
    · split
      · rw [told_reject]
        rfl
      · simp only [answerHeartbeat, told_onControlSocket]
        rfl

/-- What a step adds to what was written to a client, and why. -/
theorem adds_step (identifiers : Identifiers) (state : State) (event : Event) (client : ℕ) :
    Adds state client event (step identifiers state event).1 (step identifiers state event).2 := by
  cases event with
  | receive id bytes =>
    simp only [step]
    split
    · exact adds_same (@told_onSocket state (Duplex.receive bytes) (fun _ => rfl) id)
    · exact adds_same rfl
  | deliver id count =>
    simp only [step]
    split
    · rename_i delivers
      exact adds_deliver delivers
    · exact adds_same rfl
  | readEnd id =>
    simp only [step]
    split
    · refine adds_same ?_
      have ended := @told_onSocket state Duplex.readEnd (fun _ => rfl) id
      simp only [readEnd]
      split
      · exact (@told_onSocket _ Duplex.endStream (fun _ => rfl) _).trans ended
      · exact ended
    · exact adds_same rfl
  | finish id =>
    simp only [step]
    split
    · refine adds_same ((told_unpipe _ id).trans ?_)
      exact @told_onSocket state Duplex.finish (fun _ => rfl) id
    · exact adds_same rfl
  | lost id => exact adds_same (@told_onSocket state Duplex.destroy (fun _ => rfl) id)
  | close id =>
    simp only [step]
    split
    · have same := @told_onSocket state Duplex.close (fun _ => rfl) id
      cases id with
      | client target =>
        refine adds_same (Eq.trans ?_ same)
        simp only [closeClient, told_unpipe]
        split
        · exact told_onControlSocket _ _ Duplex.endStream
        · rfl
      | control control =>
        exact adds_closeControl same (writable_onSocket fun _ still => still) rfl rfl
    · exact adds_same rfl
  | verdict control reply => exact adds_same (told_verified control reply)
  | answer target status => exact adds_onAnswer target status
  | body target body => exact adds_onBody target body
  | fire number =>
    simp only [step]
    split
    · rename_i timer due
      simp only [fire]
      split
      · rename_i target own
        refine adds_endPage ?_ ?_ _ _ fun same => .expired due (same ▸ own)
        · rfl
        · exact id
      · exact adds_same rfl
    · exact adds_same rfl
  | elapse milliseconds => exact adds_same rfl

end Adding

/-! ## Timers, and who has answered -/

section Moves

variable {identifiers : Identifiers} {free : ℕ → Bool} {wiring next : Wiring} {state : State}
  {event : Event} {shown : List Observation} {control client : ℕ} {token : Text}

/-- The entry and the timer of a registration have one number. -/
theorem numbered_of_registers (move : Move identifiers free wiring event shown next)
    (here : .registers (.client client) token ∈ shown) :
    (∀ entry, next.registry.get token = some entry → entry.timer = wiring.registry.drawn) ∧
      ∀ timer ∈ next.registry.timers,
        timer ∈ wiring.registry.timers ∨ timer.number = wiring.registry.drawn := by
  have numbered (other : ℕ) (rest : Bytes) :
      (∀ entry, (wiring.registry.register (identifiers.token other) (.client other) rest
        wiring.now).get (identifiers.token other) = some entry →
          entry.timer = wiring.registry.drawn) ∧
        ∀ timer ∈ (wiring.registry.register (identifiers.token other) (.client other) rest
          wiring.now).timers,
            timer ∈ wiring.registry.timers ∨ timer.number = wiring.registry.drawn := by
    refine ⟨fun entry found => ?_, fun timer inside => ?_⟩
    · rw [Registry.get_register, if_pos rfl] at found
      exact (congrArg RegistryEntry.timer (Option.some.inj found)).symm
    · rcases List.mem_append.mp inside with before | new
      · exact .inl before
      · exact .inr (congrArg Timer.number (List.mem_singleton.mp new))
  cases move with
  | registers other body routing rest route =>
    obtain ⟨rfl, rfl⟩ : client = other ∧ token = identifiers.token other := by simpa using here
    exact numbered client rest
  | misses other body routing agentUuid left claimed rest route =>
    obtain ⟨rfl, rfl⟩ : client = other ∧ token = identifiers.token other := by simpa using here
    exact numbered client rest
  | drops other body routing agentUuid control left claimed unnamed rest route detached same =>
    obtain ⟨rfl, rfl⟩ : client = other ∧ token = identifiers.token other := by simpa using here
    exact numbered client rest
  | _ => simp at here

/-- The timer of whoever is joined is stopped. -/
theorem stopped_of_pairs (move : Move identifiers free wiring event shown next)
    {waiting : SocketId} (here : .pairs control token waiting ∈ shown) {timer : Timer}
    (inside : timer ∈ next.registry.timers) :
    ∃ exist, wiring.registry.get token = some exist ∧ exist.socket = waiting ∧
      timer ∈ wiring.registry.timers ∧ timer.number ≠ exist.timer := by
  cases move with
  | pairs control' count heard token' exist found =>
    obtain ⟨rfl, rfl, rfl⟩ : control = control' ∧ token = token' ∧ waiting = exist.socket := by
      simpa using here
    have kept : timer ∈ (wiring.registry.claim token).timers := inside
    simp only [Registry.claim, found, Registry.delete, Registry.clearTimeout, List.mem_filter,
      bne_iff_ne] at kept
    exact ⟨exist, found, rfl, kept.1, kept.2⟩
  | _ => simp at here

/-- A client is served on, or has been routed now. -/
theorem served_move (move : Move identifiers free wiring event shown next)
    (served : next.serves control = some client) :
    wiring.serves control = some client ∨
      wiring.awaiting client = .routing ∧ (∃ body, event = .body client body) ∧
        next.listeners (.control control) = .pipe (.client client) false := by
  cases move with
  | serves other body routing agentUuid control' left port claimed named =>
    by_cases self : control = control'
    · subst self
      obtain rfl : other = client := by
        simpa [Wiring.serve, Wiring.join, Wiring.listen] using served
      exact .inr ⟨routing, ⟨body, rfl⟩, by simp [Wiring.serve, Wiring.join, Wiring.listen]⟩
    · exact .inl (by simpa [Wiring.serve, self] using served)
  | _ => exact .inl served

/-- Variables of a client other than whether it has been answered. -/
theorem responded_onClient {target : ℕ} {change : Client → Client}
    (keeps : ∀ vars, (change vars).pooledResponded = vars.pooledResponded) :
    ((state.onClient target change).clients client).pooledResponded =
      (state.clients client).pooledResponded := by
  by_cases self : client = target
  · subst self
    simp [State.onClient, keeps]
  · simp [State.onClient, self]

theorem responded_onClientData {target : ℕ} {chunk : Bytes} :
    ((onClientData identifiers target chunk state).2.clients client).pooledResponded =
      (state.clients client).pooledResponded := by
  have read : ((state.onClient target fun vars =>
      { vars with buffer := (state.clients target).buffer ++ chunk }).clients
        client).pooledResponded = (state.clients client).pooledResponded := by
    rw [responded_onClient]
    exact fun _ => rfl
  simp only [onClientData]
  split
  · exact read
  · split
    · exact read
    · split
      · exact read
      · rename_i route _
        refine Eq.trans ?_ read
        by_cases self : client = target
        · subst self
          simp [askHub, State.onClient, State.onSocket, State.listen]
        · simp [askHub, State.onClient, State.onSocket, State.listen, self]

theorem clients_onControlData {chunk : Bytes} :
    (onControlData control chunk state).2.clients = state.clients := by
  simp only [onControlData]
  split
  · rfl
  · split
    · simp only [handlePreconnect]
      split
      · rfl
      · split <;> rfl
    · simp only [present]
      split <;> rfl

theorem clients_verified {reply : Option (ℕ × Option Value)} :
    (verified control reply state).clients = state.clients := by
  simp only [verified]
  split
  · rfl
  · split
    · rfl
    · split <;> rfl

/-- What a pooled socket hands over answers its client. -/
theorem responded_of_piped {destination : SocketId} {ends : Bool} {count : ℕ}
    (delivers : (state.sockets (.control control)).delivers count = true)
    (piped : state.listeners (.control control) = .pipe destination ends)
    (serves : (state.controls control).serves = some client) :
    ((step identifiers state (.deliver (.control control) count)).2.clients
      client).pooledResponded = true := by
  simp only [step, delivers, if_true, deliver, piped, serves]
  simp [State.write, State.onSocket, State.onClient]

theorem responded_deliver {id : SocketId} {count : ℕ}
    (responded : (state.clients client).pooledResponded = true) :
    ((deliver identifiers id count state).2.clients client).pooledResponded = true := by
  simp only [deliver]
  split
  · rw [responded_onClientData]
    exact responded
  · rw [clients_onControlData]
    exact responded
  · simp only [onHeartbeat]
    split <;> exact responded
  · split
    · rename_i other served
      by_cases self : client = other
      · subst self
        simp [State.write, State.onSocket, State.onClient]
      · simpa [State.write, State.onSocket, State.onClient, self] using responded
    · exact responded
  · exact responded
  · exact responded

/-- The body of a lookup changes the variables of its client only. -/
theorem onRouting_other {target : ℕ} {body : Option Value} (differs : client ≠ target) :
    (onRouting identifiers target body state).2.clients client = state.clients client := by
  have detached (control : ℕ) (before : State) :
      (detachHeartbeat control before).clients = before.clients :=
    (detachHeartbeat_keeps control).2
  have claimed (agentUuid : Text) :
      (claimPreconnected agentUuid state).2.clients = state.clients := by
    simp only [claimPreconnected]
    split
    · rfl
    · exact detached _ _
  have registered (before : State) (same : before.clients = state.clients) :
      (registerClient identifiers target before).2.clients client = state.clients client := by
    simp [registerClient, askHub, State.onClient, differs, same]
  simp only [onRouting]
  split
  · split
    · split
      · simp only [usePooled, State.pipe, State.write, State.onSocket, State.listen,
          State.onControl, State.onClient, Function.update_of_ne differs]
        rw [claimed]
      · exact registered _ (claimed _)
    · exact registered _ (claimed _)
  · exact registered _ rfl

/-- A client that has been answered stays so, unless it is routed again. -/
theorem responded_step (event : Event)
    (responded : (state.clients client).pooledResponded = true)
    (unrouted : (state.clients client).awaiting ≠ .routing) :
    ((step identifiers state event).2.clients client).pooledResponded = true := by
  have awaits (target : ℕ) (awaiting : Awaiting) :
      ((state.onClient target fun vars => { vars with awaiting := awaiting }).clients
        client).pooledResponded = true := by
    rw [responded_onClient]
    · exact responded
    · exact fun _ => rfl
  cases event with
  | receive id bytes =>
    simp only [step]
    split <;> exact responded
  | deliver id count =>
    simp only [step]
    split
    · exact responded_deliver responded
    · exact responded
  | readEnd id =>
    simp only [step, readEnd]
    split
    · split <;> exact responded
    · exact responded
  | finish id =>
    simp only [step]
    split <;> exact responded
  | lost id => exact responded
  | close id =>
    simp only [step]
    split
    · cases id with
      | client target =>
        simp only [closeClient]
        split <;> exact responded
      | control control =>
        simp only [closeControl, pooledClose]
        split
        · split <;> exact responded
        · exact responded
    · exact responded
  | verdict control reply =>
    simp only [step]
    rw [clients_verified]
    exact responded
  | answer target status =>
    simp only [step, onAnswer]
    split
    · split <;> exact awaits target _
    · split <;> exact awaits target _
    · exact responded
  | body target body =>
    simp only [step, onBody]
    split
    · rename_i routing
      have differs : client ≠ target := by
        rintro rfl
        exact unrouted routing
      rw [onRouting_other differs]
      exact responded
    · exact awaits target .nothing
    · exact responded
  | fire number =>
    simp only [step]
    split
    · simp only [fire]
      split <;> exact responded
    · exact responded
  | elapse milliseconds => exact responded

end Moves

/-! ## What is known of clients -/

/-- A page ends its client; the timer of a client has the number of its entry, and runs only while
the client is joined to nobody and has got nothing; and a pooled socket has answered its client, or
that has got nothing. -/
structure Answering (past : List (Event × List Observation)) (state : State) : Prop where
  paged : ∀ {client}, Paged client state → (state.sockets (.client client)).writable = false
  own : ∀ {token entry timer client}, state.registry.get token = some entry →
    entry.socket = .client client → timer ∈ state.registry.timers →
    timer.socket = .client client → entry.timer = timer.number
  timed : ∀ {timer client}, timer ∈ state.registry.timers → timer.socket = .client client →
    (∀ other, ¬ At past state.wiring (.client client) (.bound other)) ∧
      ((state.sockets (.client client)).writable = true → state.told client = [])
  served : ∀ {control client}, state.wiring.serves control = some client →
    (state.clients client).pooledResponded = true ∨
      ((state.sockets (.client client)).writable = true → state.told client = [])

theorem answering_started : Answering [] {} where
  paged paged := by
    obtain ⟨outcome, context, inside⟩ := paged
    cases inside
  own found := by cases found
  timed inside := by cases inside
  served served := by cases served

section Answering

variable {identifiers : Identifiers} {past : List (Event × List Observation)} {state : State}
  {event : Event} {client : ℕ}

/-- Bytes come from whoever the client is joined to, or is joined to now. -/
theorem Standing.told_by (standing : Standing identifiers past state)
    (source : (∃ control token,
        .pairs control token (.client client) ∈ (step identifiers state event).1) ∨
      ∃ id count ends, event = .deliver id count ∧ (state.sockets id).delivers count = true ∧
        state.listeners id = .pipe (.client client) ends) :
    (At past state.wiring (.client client) .entered ∧ ∃ control token,
        .pairs control token (.client client) ∈ (step identifiers state event).1) ∨
      ∃ id count ends, At past state.wiring (.client client) (.bound id) ∧
        event = .deliver id count ∧ (state.sockets id).delivers count = true ∧
        state.listeners id = .pipe (.client client) ends := by
  rcases source with ⟨control, token, paired⟩ | ⟨id, count, ends, same, delivers, piped⟩
  · obtain ⟨count, exist, -, -, found, own⟩ := pairs_shown_iff.mp paired
    exact .inl ⟨.entered found own, control, token, paired⟩
  · exact .inr ⟨id, count, ends, (standing.stationed.pipes piped).symm, same, delivers, piped⟩

/-- A client that the Hub is asked about has got nothing, or is ended. -/
theorem Relaying.asking_blank (relaying : Relaying identifiers past state)
    (answering : Answering past state)
    (asking : At past state.wiring (.client client) .asking)
    (writable : (state.sockets (.client client)).writable = true) : state.told client = [] := by
  rcases relaying.fresh asking (.inr (.inl rfl)) with paged | blank
  · rw [answering.paged paged] at writable
    cases writable
  · exact blank

/-- A client that the Hub is asked about gets nothing but a page, which ends it. -/
theorem Relaying.asking_stays_blank (relaying : Relaying identifiers past state)
    (answering : Answering past state) (standing : Standing identifiers past state)
    (asking : At past state.wiring (.client client) .asking)
    (writable : ((step identifiers state event).2.sockets (.client client)).writable = true) :
    (step identifiers state event).2.told client = [] := by
  have blank := relaying.asking_blank answering asking (writable_step identifiers writable)
  cases adds_step identifiers state event client with
  | nothing same => rw [same, blank]
  | bytes before bytes more source =>
    rcases standing.told_by source with ⟨entered, -⟩ | ⟨id, -, -, bound, -⟩
    · cases standing.stationed.once asking entered
    · cases standing.stationed.once asking bound
  | page before outcome context more ended reason =>
    rw [ended] at writable
    cases writable

theorem Answering.onward (answering : Answering past state)
    (traced : Traced identifiers past state) (relaying : Relaying identifiers past state)
    (event : Event) :
    Answering (past ++ [(event, (step identifiers state event).1)])
      (step identifiers state event).2 where
  paged {client} paged := by
    obtain ⟨outcome, context, inside⟩ := paged
    change Piece.page outcome context ∈ (step identifiers state event).2.told client at inside
    have lasts (before : Piece.page outcome context ∈ state.told client) :
        (state.sockets (.client client)).writable = false := answering.paged ⟨_, _, before⟩
    have closed (before : (state.sockets (.client client)).writable = false) :
        ((step identifiers state event).2.sockets (.client client)).writable = false := by
      rw [Bool.eq_false_iff]
      intro writable
      rw [writable_step identifiers writable] at before
      cases before
    cases adds_step identifiers state event client with
    | nothing same => exact closed (lasts (same ▸ inside))
    | bytes writable bytes more source =>
      rw [more] at inside
      rcases List.mem_append.mp inside with before | new
      · exact closed (lasts before)
      · simp [pieces] at new
    | page writable outcome' context' more ended reason => exact ended
  own {token entry timer client} found own inside its := by
    have move := step_moves identifiers state event
    rcases entered_move move found with before | now
    · rcases timers_move move inside with running | ⟨now, -⟩
      · exact answering.own before own running its
      · have registered := (traced.stationed.keyed before).2
        rw [own] at registered
        rw [its] at now
        exact absurd (registers_move move now) (traced.arrived.registered registered).2.2
    · rw [own] at now
      obtain ⟨entries, timers⟩ := numbered_of_registers move now
      rcases timers timer inside with running | number
      · have registered := traced.arrived.timed timer running
        rw [its] at registered
        exact absurd (registers_move move now) (traced.arrived.registered registered).2.2
      · exact (entries entry found).trans number.symm
  timed {timer client} inside its := by
    have move := step_moves identifiers state event
    have later := traced.stationed.onward traced.pooling event
    rcases timers_move move inside with running | ⟨now, -⟩
    · obtain ⟨unbound, blank⟩ := answering.timed running its
      have registered := traced.arrived.timed timer running
      rw [its] at registered
      have unpaired (control : ℕ) (token : Text) :
          .pairs control token (.client client) ∉ (step identifiers state event).1 := by
        intro paired
        obtain ⟨exist, found, own, running, stopped⟩ := stopped_of_pairs move paired inside
        exact stopped (answering.own found own running its).symm
      refine ⟨fun other bound => ?_, fun writable => ?_⟩
      · cases bound with
        | awaited paired =>
          rcases shown_append.mp paired with before | now
          · exact unbound _ (.awaited before)
          · exact unpaired _ _ now
        | served served =>
          rcases served_move move served with before | ⟨routing, -⟩
          · exact unbound _ (.served before)
          · exact (traced.arrived.registered registered).2.2 routing
      · cases adds_step identifiers state event client with
        | nothing same => rw [same, blank (writable_step identifiers writable)]
        | bytes before bytes more source =>
          rcases traced.toStanding.told_by source with ⟨-, control, token, paired⟩ |
            ⟨id, -, -, bound, -⟩
          · exact absurd paired (unpaired control token)
          · exact absurd bound (unbound id)
        | page before outcome context more ended reason =>
          rw [ended] at writable
          cases writable
    · rw [its] at now
      have asking : At past state.wiring (.client client) .asking :=
        .asking (.inr (registers_move move now))
      obtain ⟨⟨entry, found, own⟩, -⟩ := traced.waits_of_registers now
      refine ⟨fun other bound => ?_, ?_⟩
      · cases later.once (.entered found own) bound
      · exact relaying.asking_stays_blank answering traced.toStanding asking
  served {control client} served := by
    have move := step_moves identifiers state event
    rcases served_move move served with before | ⟨routing, -⟩
    · have bound : At past state.wiring (.client client) (.bound (.control control)) :=
        .served before
      have unrouted : (state.clients client).awaiting ≠ .routing := by
        intro routing
        cases traced.stationed.once bound (.asking (.inr routing))
      rcases answering.served before with responded | blank
      · exact .inl (responded_step event responded unrouted)
      · cases adds_step identifiers state event client with
        | nothing same =>
          refine .inr fun writable => ?_
          rw [same, blank (writable_step identifiers writable)]
        | bytes writable bytes more source =>
          rcases traced.toStanding.told_by source with ⟨entered, -⟩ |
            ⟨id, count, ends, joined, rfl, delivers, piped⟩
          · cases traced.stationed.once bound entered
          · obtain rfl := Station.bound.inj (traced.stationed.once bound joined)
            exact .inl (responded_of_piped delivers piped before)
        | page writable outcome context more ended reason =>
          refine .inr fun writable => ?_
          rw [ended] at writable
          cases writable
    · have asking : At past state.wiring (.client client) .asking := .asking (.inr routing)
      exact .inr (relaying.asking_stays_blank answering traced.toStanding asking)

/-! ## One response -/

theorem OneResponse.writes {told : List Piece} (one : OneResponse told)
    (unpaged : ∀ outcome context, .page outcome context ∉ told) (bytes : Bytes) :
    OneResponse (told ++ pieces bytes) := by
  rcases one with ⟨outcome, context, rfl⟩ | only
  · exact absurd (List.mem_singleton.mpr rfl) (unpaged outcome context)
  · refine .inr fun piece inside => ?_
    rcases List.mem_append.mp inside with before | new
    · exact only piece before
    · obtain ⟨value, -, rfl⟩ := List.mem_map.mp new
      exact ⟨value, rfl⟩

/-- A page is the whole response only if nothing comes before it. -/
theorem oneResponse_page_iff {told : List Piece} {outcome : PageOutcome} {context : ErrorContext} :
    OneResponse (told ++ [.page outcome context]) ↔ told = [] := by
  constructor
  · rintro (⟨outcome', context', same⟩ | only)
    · rcases List.append_eq_singleton_iff.mp same with ⟨none, -⟩ | ⟨-, absurd⟩
      · exact none
      · cases absurd
    · obtain ⟨value, same⟩ := only _ (List.mem_append_right _ (List.mem_singleton.mpr rfl))
      cases same
  · rintro rfl
    exact .inl ⟨outcome, context, rfl⟩

/-- A page comes first, but for what the Hub says of the fallback. -/
theorem Answering.page_first (answering : Answering past state)
    (relaying : Relaying identifiers past state) (reason : Pages state client event)
    (writable : (state.sockets (.client client)).writable = true)
    (first : FailsFirst state event) : state.told client = [] := by
  cases reason with
  | unread heard =>
    rcases relaying.fresh (.opened heard) (.inl rfl) with paged | blank
    · rw [answering.paged paged] at writable
      cases writable
    · exact blank
  | unrouted awaited => exact relaying.asking_blank answering (.asking (.inl awaited)) writable
  | unreachable awaited => exact first awaited writable
  | refused awaited => exact first _ awaited writable
  | expired due own => exact (answering.timed (List.mem_of_find?_eq_some due) own).2 writable
  | closed served silent =>
    refine (answering.served served).resolve_left ?_ writable
    rw [silent]
    simp

/-- A step leaves every client with one response exactly if no failure of the Hub is written behind
an answer. -/
theorem Answering.oneResponse_iff (answering : Answering past state)
    (relaying : Relaying identifiers past state)
    (one : ∀ client, OneResponse (state.told client)) :
    (∀ client, OneResponse ((step identifiers state event).2.told client)) ↔
      FailsFirst state event := by
  constructor
  · intro later
    cases event with
    | answer client status =>
      cases status with
      | none =>
        intro awaited writable
        have here := later client
        simp only [step, onAnswer, awaited, failWith] at here
        rw [told_endPage_of_writable] at here
        · exact oneResponse_page_iff.mp here
        · exact writable
      | some status => trivial
    | body client body =>
      intro status awaited writable
      have here := later client
      simp only [step, onBody, awaited, failWith] at here
      rw [told_endPage_of_writable] at here
      · exact oneResponse_page_iff.mp here
      · exact writable
    | _ => trivial
  · intro first client
    cases adds_step identifiers state event client with
    | nothing same =>
      rw [same]
      exact one client
    | bytes writable bytes more source =>
      rw [more]
      refine (one client).writes (fun outcome context inside => ?_) bytes
      rw [answering.paged ⟨outcome, context, inside⟩] at writable
      cases writable
    | page writable outcome context more ended reason =>
      rw [more]
      exact oneResponse_page_iff.mpr (answering.page_first relaying reason writable first)

end Answering

/-- Along a run every client has at most one response, a page of the gateway or the bytes of its
Agent, exactly if no request to the Hub fails, or is refused, for a client that has been written to
already. -/
theorem oneResponse_along_iff (identifiers : Identifiers) (events : List Event) :
    Along (step identifiers)
        (fun _ state event => ∀ client, OneResponse ((step identifiers state event).2.told client))
        [] {} events ↔
      Each (step identifiers) FailsFirst {} events := by
  refine along_kept_iff (fun state => ∀ client, OneResponse (state.told client))
    (fun past state => Traced identifiers past state ∧ Relaying identifiers past state ∧
      Answering past state) ?_ ?_ (along_trivial _ _ _) ?_ ?_
  · rintro past state event - ⟨traced, relaying, answering⟩ -
    exact ⟨traced.onward event, relaying.onward traced.toStanding event,
      answering.onward traced relaying event⟩
  · rintro past state event - ⟨-, relaying, answering⟩ one
    exact answering.oneResponse_iff relaying one
  · exact ⟨traced_started identifiers, relaying_started identifiers, answering_started⟩
  · intro client
    exact .inr fun piece inside => by cases inside

/-- The Agent has answered, and the fallback fails. -/
def failsLate : List Event :=
  routed ++ answered ++ [.deliver (.control 0) 100, .answer 0 none]

theorem not_oneResponse_failsLate : ¬ OneResponse ((reach numbered failsLate).told 0) := by
  have told : (reach numbered failsLate).told 0 =
      pieces (encodeUtf8 "HTTP/1.1 200 OK\r\n\r\nhello") ++
        [.page .hubUnreachable ((reach numbered failsLate).context numbered 0)] := by
    decide +kernel
  rw [told, oneResponse_page_iff]
  decide +kernel

end Gateway

end OpticsHub
