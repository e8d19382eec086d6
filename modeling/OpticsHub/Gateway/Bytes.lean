import OpticsHub.Gateway.Stations

/-!
# What has been read

The gateway gathers the first line of a socket or the head of a request in a buffer. While it
does, the buffer is all that the socket has handed over, however that was cut into pieces. What
a socket has handed over changes only when it hands something over.
-/
namespace OpticsHub

open Script Net Machine

namespace Gateway

/-- The buffer of whoever opened a socket. -/
def State.buffer (state : State) : SocketId → Bytes
  | .client client => (state.clients client).buffer
  | .control control => (state.controls control).buffer

/-- What a socket has handed over, and what is gathered of it. -/
def State.read (state : State) (id : SocketId) : Bytes × Bytes :=
  ((state.sockets id).consumed, state.buffer id)

section Read

variable (state : State) (id : SocketId)

@[simp] theorem read_listen (listener : Listener) : (state.listen id listener).read = state.read :=
  rfl

theorem read_onSocket (change : Duplex Piece → Duplex Piece)
    (same : ∀ socket, (change socket).consumed = socket.consumed) :
    (state.onSocket id change).read = state.read := by
  funext other
  by_cases self : other = id
  · subst self
    simp only [State.read, State.onSocket, Function.update_self, same]
    rfl
  · simp only [State.read, State.onSocket, Function.update_of_ne self]
    rfl

@[simp] theorem read_pause : (state.onSocket id Duplex.pause).read = state.read :=
  read_onSocket state id Duplex.pause fun _ => rfl

@[simp] theorem read_resume : (state.onSocket id Duplex.resume).read = state.read :=
  read_onSocket state id Duplex.resume fun _ => rfl

@[simp] theorem read_endStream : (state.onSocket id Duplex.endStream).read = state.read :=
  read_onSocket state id Duplex.endStream fun _ => rfl

@[simp] theorem read_ended : (state.onSocket id Duplex.readEnd).read = state.read :=
  read_onSocket state id Duplex.readEnd fun _ => rfl

@[simp] theorem read_onClient {client : ℕ} {change : Client → Client}
    (same : ∀ vars, (change vars).buffer = vars.buffer) :
    (state.onClient client change).read = state.read := by
  funext other
  cases other with
  | control control => rfl
  | client other =>
    by_cases self : other = client
    · subst self
      simp only [State.read, State.buffer, State.onClient, Function.update_self, same]
    · simp only [State.read, State.buffer, State.onClient, Function.update_of_ne self]

@[simp] theorem read_onControl {control : ℕ} {change : Control → Control}
    (same : ∀ vars, (change vars).buffer = vars.buffer) :
    (state.onControl control change).read = state.read := by
  funext other
  cases other with
  | client client => rfl
  | control other =>
    by_cases self : other = control
    · subst self
      simp only [State.read, State.buffer, State.onControl, Function.update_self, same]
    · simp only [State.read, State.buffer, State.onControl, Function.update_of_ne self]

/-- What a handler puts into its buffer. -/
theorem read_gathers (client : ℕ) (change : Client → Client) :
    (state.onClient client change).read =
      Function.update state.read (.client client)
        ((state.sockets (.client client)).consumed, (change (state.clients client)).buffer) := by
  funext other
  by_cases self : other = .client client
  · subst self
    simp [State.read, State.buffer, State.onClient]
  · rw [Function.update_of_ne self]
    cases other with
    | control control => rfl
    | client other =>
      have differs : other ≠ client := fun same => self (congrArg _ same)
      simp [State.read, State.buffer, State.onClient, differs]

theorem read_collects (control : ℕ) (change : Control → Control) :
    (state.onControl control change).read =
      Function.update state.read (.control control)
        ((state.sockets (.control control)).consumed,
          (change (state.controls control)).buffer) := by
  funext other
  by_cases self : other = .control control
  · subst self
    simp [State.read, State.buffer, State.onControl]
  · rw [Function.update_of_ne self]
    cases other with
    | client client => rfl
    | control other =>
      have differs : other ≠ control := fun same => self (congrArg _ same)
      simp [State.read, State.buffer, State.onControl, differs]

@[simp] theorem read_write (bytes : Bytes) : (state.write id bytes).read = state.read :=
  read_onSocket state id _ fun socket => Duplex.consumed_write socket _

@[simp] theorem read_pipe (destination : SocketId) (ends : Bool) :
    (state.pipe id destination ends).read = state.read := by
  rw [State.pipe, read_onSocket, read_onSocket, read_listen]
  · exact fun _ => rfl
  · intro socket
    split <;> rfl

@[simp] theorem read_unpipe : (state.unpipe id).read = state.read := by
  funext other
  simp only [State.read, State.unpipe, State.buffer]
  split <;> rfl

@[simp] theorem read_endPage (client : ℕ) (outcome : PageOutcome) (context : ErrorContext) :
    (state.endPage client outcome context).read = state.read :=
  read_onSocket state _ _ fun socket => Duplex.consumed_endWith socket _

@[simp] theorem read_reject (control : ℕ) (reason : Text) :
    (reject control reason state).read = state.read :=
  read_onSocket state _ _ fun socket => Duplex.consumed_endWith socket _

@[simp] theorem read_with (pools : Pools) (registry : Registry) (now : ℤ) :
    State.read { state with pools := pools, registry := registry, now := now } = state.read := rfl

end Read

section Handlers

variable {identifiers : Identifiers} (state : State)

@[simp] theorem read_present (control : ℕ) (token : Text) (rest : Bytes) :
    (present control token rest state).2.read = state.read := by
  simp only [present]
  split
  · simp
  · simp

@[simp] theorem read_handlePreconnect (control : ℕ) (line : Text) (rest : Bytes) :
    (handlePreconnect control line rest state).2.read = state.read := by
  simp only [handlePreconnect]
  split
  · simp
  · split <;> simp

theorem read_onHeartbeat (control : ℕ) (chunk : Bytes) :
    (onHeartbeat control chunk state).read = state.read := by
  simp only [onHeartbeat]
  split <;> simp

theorem read_verified (control : ℕ) (reply : Option (ℕ × Option Value)) :
    (verified control reply state).read = state.read := by
  simp only [verified]
  split
  · rfl
  · split
    · simp
    · split
      · simp
      · simp [answerHeartbeat]

theorem read_failWith (client : ℕ) (outcome : PageOutcome) :
    (failWith identifiers client outcome state).read = state.read := by
  simp [failWith]

theorem read_onAnswer (client : ℕ) (status : Option ℕ) :
    (onAnswer identifiers client status state).read = state.read := by
  simp only [onAnswer]
  split
  · cases status <;> simp [read_failWith]
  · cases status <;> simp [read_failWith]
  · rfl

@[simp] theorem read_detachHeartbeat (control : ℕ) :
    (detachHeartbeat control state).read = state.read := by
  rw [detachHeartbeat]
  split
  · simp
  · rfl

@[simp] theorem read_claimPreconnected (agentUuid : Text) :
    (claimPreconnected agentUuid state).2.read = state.read := by
  simp only [claimPreconnected]
  split <;> simp

@[simp] theorem read_registerClient (client : ℕ) :
    (registerClient identifiers client state).2.read = state.read := by
  simp [registerClient, askHub]

theorem read_onBody (client : ℕ) (body : Option Value) :
    (onBody identifiers client body state).2.read = state.read := by
  simp only [onBody]
  split
  · simp only [onRouting]
    split
    · split
      · split
        · simp [usePooled]
        · simp
      · simp
    · simp
  · exact read_failWith state client _
  · rfl

theorem read_fire (timer : Timer) : (fire identifiers timer state).2.read = state.read := by
  simp only [fire]
  split <;> simp

theorem read_readEnd (id : SocketId) : (readEnd id state).read = state.read := by
  simp only [readEnd]
  split <;> simp

theorem read_closeControl (control : ℕ) :
    (closeControl identifiers control state).read = state.read := by
  simp only [closeControl, read_unpipe]
  split
  · simp only [pooledClose]
    split <;> simp
  · simp

theorem read_closeClient (client : ℕ) :
    (closeClient identifiers client state).read = state.read := by
  simp only [closeClient, read_unpipe]
  split <;> simp

/-- The handler of the first line gathers what it is handed. -/
theorem read_onControlData (control : ℕ) (chunk : Bytes) :
    (onControlData control chunk state).2.read =
      Function.update state.read (.control control)
        ((state.sockets (.control control)).consumed,
          (state.controls control).buffer ++ chunk) := by
  have collected := read_collects state control fun vars =>
    { vars with buffer := (state.controls control).buffer ++ chunk }
  simp only [onControlData]
  split
  · exact collected
  · split
    · simp [read_collects]
    · simp [read_collects]

/-- The handler of a request head gathers what it is handed, and rewrites it in the end. -/
theorem read_onClientData (client : ℕ) (chunk : Bytes) :
    ∃ buffer, (onClientData identifiers client chunk state).2.read =
        Function.update state.read (.client client)
          ((state.sockets (.client client)).consumed, buffer) ∧
      ((onClientData identifiers client chunk state).2.listeners = state.listeners ∧
          (onClientData identifiers client chunk state).1 = [] ∧
          buffer = (state.clients client).buffer ++ chunk ∨
        (onClientData identifiers client chunk state).2.listeners (.client client) = .none ∧
        ∃ index, indexOf emptyLine ((state.clients client).buffer ++ chunk) = some index ∧
          buffer = withRequestIdHeader ((state.clients client).buffer ++ chunk) index
            (identifiers.requestId client)) := by
  have gathered := read_gathers state client fun vars =>
    { vars with buffer := (state.clients client).buffer ++ chunk }
  simp only [onClientData]
  split
  · exact ⟨_, gathered, .inl ⟨rfl, rfl, rfl⟩⟩
  · rename_i index found
    split
    · exact ⟨_, (read_endPage _ _ _ _).trans gathered, .inl ⟨rfl, rfl, rfl⟩⟩
    · split
      · exact ⟨_, (read_endPage _ _ _ _).trans gathered, .inl ⟨rfl, rfl, rfl⟩⟩
      · refine ⟨_, ?_, .inr ⟨by simp [askHub, State.listen, State.onSocket, State.onClient], index,
          found, rfl⟩⟩
        simp only [askHub, if_true, read_onClient, implies_true, read_pause, read_listen]
        rw [read_gathers, read_gathers, Function.update_idem]
        rfl

theorem read_advance (id : SocketId) (count : ℕ) :
    (state.onSocket id (Duplex.advance count)).read =
      Function.update state.read id
        ((state.sockets id).consumed ++ (state.sockets id).chunk count, state.buffer id) := by
  funext other
  by_cases self : other = id
  · subst self
    simp [State.read, State.buffer, State.onSocket, Duplex.advance]
  · rw [Function.update_of_ne self]
    simp [State.read, State.onSocket, self]
    rfl

/-- Data that a socket hands over is consumed, and nothing of any other. -/
theorem read_deliver (id : SocketId) (count : ℕ) :
    ∃ buffer, (deliver identifiers id count state).2.read =
      Function.update state.read id
        ((state.sockets id).consumed ++ (state.sockets id).chunk count, buffer) := by
  have advanced := read_advance state id count
  have handed : ((state.onSocket id (Duplex.advance count)).sockets id).consumed =
      (state.sockets id).consumed ++ (state.sockets id).chunk count := by
    simp [State.onSocket, Duplex.advance]
  simp only [deliver]
  split
  · obtain ⟨buffer, same, -⟩ := @read_onClientData identifiers
      (state.onSocket _ (Duplex.advance count)) _ ((state.sockets _).chunk count)
    exact ⟨buffer, by rw [same, advanced, Function.update_idem, handed]⟩
  · exact ⟨_, by rw [read_onControlData, advanced, Function.update_idem, handed]⟩
  · exact ⟨_, (read_onHeartbeat _ _ _).trans advanced⟩
  · refine ⟨_, Eq.trans ?_ advanced⟩
    simp only [read_write]
    split <;> simp
  · exact ⟨_, (read_write _ _ _).trans advanced⟩
  · exact ⟨_, advanced⟩

/-- What a socket hands over is consumed. -/
theorem consumed_of_delivers {id : SocketId} {count : ℕ}
    (delivers : (state.sockets id).delivers count = true) :
    ((step identifiers state (.deliver id count)).2.sockets id).consumed =
      (state.sockets id).consumed ++ (state.sockets id).chunk count := by
  simp only [step, delivers, if_true]
  obtain ⟨buffer, same⟩ := @read_deliver identifiers state id count
  have here := congrFun same id
  rw [Function.update_self] at here
  exact (Prod.mk.inj here).1

/-- A step reads a socket only by having it hand data over. -/
theorem read_step (id : SocketId) (event : Event) :
    (step identifiers state event).2.read id = state.read id ∨
      ∃ count, event = .deliver id count ∧ (state.sockets id).delivers count = true ∧
        ((step identifiers state event).2.sockets id).consumed =
          (state.sockets id).consumed ++ (state.sockets id).chunk count := by
  cases event with
  | receive other bytes =>
    simp only [step]
    split
    · exact .inl (congrFun (read_onSocket state other (Duplex.receive bytes) fun _ => rfl) id)
    · exact .inl rfl
  | deliver other count =>
    by_cases delivers : (state.sockets other).delivers count = true
    · by_cases self : id = other
      · subst self
        exact .inr ⟨count, rfl, delivers, consumed_of_delivers state delivers⟩
      · obtain ⟨buffer, same⟩ := @read_deliver identifiers state other count
        simp only [step, delivers, if_true]
        exact .inl (by rw [same, Function.update_of_ne self])
    · exact .inl (by simp [step, delivers])
  | readEnd other =>
    simp only [step]
    split
    · exact .inl (congrFun (read_readEnd state other) id)
    · exact .inl rfl
  | finish other =>
    simp only [step]
    split
    · exact .inl (congrFun ((read_unpipe _ _).trans (read_onSocket state other Duplex.finish fun _ => rfl)) id)
    · exact .inl rfl
  | lost other => exact .inl (congrFun (read_onSocket state other Duplex.destroy fun _ => rfl) id)
  | close other =>
    have closed := read_onSocket state other Duplex.close fun _ => rfl
    simp only [step]
    split
    · cases other with
      | client client => exact .inl (congrFun ((read_closeClient _ client).trans closed) id)
      | control control => exact .inl (congrFun ((read_closeControl _ control).trans closed) id)
    · exact .inl rfl
  | verdict control reply => exact .inl (congrFun (read_verified state control reply) id)
  | answer client status => exact .inl (congrFun (read_onAnswer state client status) id)
  | body client body => exact .inl (congrFun (read_onBody state client body) id)
  | fire number =>
    simp only [step]
    split
    · exact .inl (congrFun (read_fire state _) id)
    · exact .inl rfl
  | elapse milliseconds => exact .inl rfl

end Handlers

/-! ## Buffers -/

/-- While a first line or a request head is gathered, the buffer is all that was handed over. -/
def Gathering (state : State) : Prop :=
  ∀ id, state.listeners id = .onData → state.buffer id = (state.sockets id).consumed

theorem gathering_started : Gathering {} := by
  intro id _
  cases id <;> rfl

theorem Gathering.onward {identifiers : Identifiers} {state : State} (gathering : Gathering state)
    (event : Event) : Gathering (step identifiers state event).2 := by
  intro id after
  have before : state.listeners id = .onData :=
    onData_move (step_moves identifiers state event) after
  rcases @read_step identifiers state id event with same | ⟨count, rfl, delivers, consumed⟩
  · obtain ⟨consumed, buffer⟩ := Prod.mk.inj same
    rw [buffer, consumed]
    exact gathering id before
  · rw [consumed, ← gathering id before]
    simp only [step, delivers, if_true] at after ⊢
    simp only [deliver, before] at after ⊢
    cases id with
    | client client =>
      simp only at after ⊢
      obtain ⟨buffer, same, ⟨-, -, gathered⟩ | ⟨none, -⟩⟩ := @read_onClientData identifiers
        (state.onSocket (.client client) (Duplex.advance count)) client
        ((state.sockets (.client client)).chunk count)
      · have here := congrFun same (.client client)
        rw [Function.update_self] at here
        exact (Prod.mk.inj here).2.trans gathered
      · rw [none] at after
        cases after
    | control control =>
      have here := congrFun (read_onControlData
        (state.onSocket (.control control) (Duplex.advance count)) control
        ((state.sockets (.control control)).chunk count)) (.control control)
      rw [Function.update_self] at here
      exact (Prod.mk.inj here).2

end Gateway

end OpticsHub
