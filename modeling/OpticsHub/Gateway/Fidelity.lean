import OpticsHub.Gateway.Frames

/-!
# What the two ends of a tunnel are told

The bytes of a request are in four places: the buffer of the head, what is stored with the entry
of the client, what follows the token line of the other socket, and what waits in a paused
socket. What has been written to either end is, at every moment, all that the other has handed
over, the head of the request with the identifier of the gateway and the token line left out. A
socket that takes no more is destroyed by what comes for it, and has got a first part.
-/
namespace OpticsHub

open Script Net Machine

namespace Gateway

/-! ## Streams -/

/-- What an Agent is to get of the bytes of a client: the rewritten head, and what follows it. -/
def forwarded (identifiers : Identifiers) (client : ℕ) (bytes : Bytes) : Bytes :=
  match indexOf emptyLine bytes with
  | none => []
  | some index => withRequestIdHeader bytes index (identifiers.requestId client)

/-- What a client is to get of the bytes of an Agent. -/
def afterLine (bytes : Bytes) : Bytes :=
  match indexOf newline bytes with
  | none => []
  | some index => bytes.drop (index + 1)

theorem forwarded_append (identifiers : Identifiers) (client : ℕ) {bytes : Bytes}
    (complete : (indexOf emptyLine bytes).isSome = true) (more : Bytes) :
    forwarded identifiers client (bytes ++ more) = forwarded identifiers client bytes ++ more := by
  obtain ⟨index, found⟩ := Option.isSome_iff_exists.mp complete
  simp only [forwarded, found, indexOf_append found]
  exact withRequestIdHeader_append found _ more

theorem afterLine_append {bytes : Bytes} (complete : (indexOf newline bytes).isSome = true)
    (more : Bytes) : afterLine (bytes ++ more) = afterLine bytes ++ more := by
  obtain ⟨index, found⟩ := Option.isSome_iff_exists.mp complete
  have fits := indexOf_le found
  simp only [afterLine, found, indexOf_append found]
  exact List.drop_append_of_le_length (by simpa [newline] using fits)

theorem isSome_append {pattern bytes : Bytes} (complete : (indexOf pattern bytes).isSome = true)
    (more : Bytes) : (indexOf pattern (bytes ++ more)).isSome = true := by
  obtain ⟨index, found⟩ := Option.isSome_iff_exists.mp complete
  rw [indexOf_append found]
  rfl

/-! ## The two ends of a tunnel -/

/-- What each end of a tunnel has been told is what the other has handed over. An end that is cut
off does not flow. -/
structure Relayed (identifiers : Identifiers) (control client : ℕ) (state : State) : Prop where
  head : (indexOf emptyLine (state.sockets (.client client)).consumed).isSome = true
  line : (indexOf newline (state.sockets (.control control)).consumed).isSome = true
  forwards : (state.sockets (.control control)).Told
    (pieces (forwarded identifiers client (state.sockets (.client client)).consumed))
  answers : (state.sockets (.client client)).Told
    (pieces (afterLine (state.sockets (.control control)).consumed))
  idle : ∀ id, id = .client client ∨ id = .control control → state.listeners id = .none →
    (state.sockets id).flowing = false

/-- The head of the request of a client is complete and rewritten, and the client waits. -/
structure Headed (identifiers : Identifiers) (client : ℕ) (state : State) : Prop where
  head : (indexOf emptyLine (state.sockets (.client client)).consumed).isSome = true
  buffer : (state.clients client).buffer =
    forwarded identifiers client (state.sockets (.client client)).consumed
  idle : (state.sockets (.client client)).flowing = false

/-- What is known of the bytes of clients before and after they are joined to a socket, unless they
have got an error page. -/
structure Relaying (identifiers : Identifiers) (past : List (Event × List Observation))
    (state : State) : Prop where
  fresh : ∀ {client station}, At past state.wiring (.client client) station →
    station = .opened ∨ station = .asking ∨ station = .entered →
    Paged client state ∨ (state.sockets (.client client)).written = []
  blank : ∀ control, state.listeners (.control control) = .onData →
    (state.sockets (.control control)).written = []
  headed : ∀ {client station}, At past state.wiring (.client client) station →
    station = .asking ∨ station = .entered →
    Paged client state ∨ Headed identifiers client state
  stored : ∀ {token entry client}, state.registry.get token = some entry →
    entry.socket = .client client →
    Paged client state ∨ entry.rest = (state.clients client).buffer
  paired : ∀ {control token client}, Shown past (.pairs control token (.client client)) →
    Paged client state ∨ Relayed identifiers control client state

section Steps

variable {identifiers : Identifiers} {past : List (Event × List Observation)} {state : State}
  {event : Event}

/-- A page that was written is not taken back. -/
theorem Paged.onward {client : ℕ} (paged : Paged client state) (event : Event) :
    Paged client (step identifiers state event).2 := by
  obtain ⟨outcome, context, inside⟩ := paged
  exact ⟨outcome, context, (written_step identifiers state event _).subset inside⟩

/-- Whoever is bound is bound mutually. -/
theorem At.symm {wiring : Wiring} {id other : SocketId} (here : At past wiring id (.bound other)) :
    At past wiring other (.bound id) := by
  cases here with
  | presented paired => exact .awaited paired
  | awaited paired => exact .presented paired
  | serving served => exact .served served
  | served served => exact .serving served

/-- A pooled socket serves the client that it is handed to. -/
theorem serves_of_body {client : ℕ} {body : Option Value} {agentUuid : Text} {control : ℕ}
    {left : Pools} {port : Number} (routing : (state.clients client).awaiting = .routing)
    (routed : member "agent_uuid" body = some (.string agentUuid))
    (claimed : state.pools.claim (usable state) agentUuid = (some control, left))
    (named : servicePort body = some port) :
    (step identifiers state (.body client body)).2.wiring.serves control = some client := by
  have free : usable (detachHeartbeat control { state with pools := left }) control = true :=
    (usable_detachHeartbeat control control).trans (Pools.usable_of_claim claimed)
  simp only [step, onBody, routing, onRouting, routed, claimPreconnected, claimed, named, free,
    if_true, wiring_usePooled]
  simp [Wiring.serve, Wiring.join, Wiring.listen]

theorem eq_pipe_of_pipesTo {listener : Listener} {destination : SocketId}
    (pipes : listener.pipesTo destination = true) : ∃ ends, listener = .pipe destination ends := by
  cases listener with
  | pipe target ends =>
    obtain rfl : target = destination := by simpa [Listener.pipesTo] using pipes
    exact ⟨ends, rfl⟩
  | _ => simp [Listener.pipesTo] at pipes

/-- A socket that serves a client serves it on. -/
theorem Standing.serves_stays (standing : Standing identifiers past state) (event : Event)
    {control client : ℕ} (served : state.wiring.serves control = some client) :
    (step identifiers state event).2.wiring.serves control = some client := by
  have move := step_moves identifiers state event
  revert move
  generalize (step identifiers state event).1 = shown
  generalize (step identifiers state event).2.wiring = next
  intro move
  cases move with
  | serves other body routing agentUuid control' left port claimed named =>
    have differs : control ≠ control' := by
      rintro rfl
      cases standing.stationed.once (standing.pooling.taken claimed).1 (.serving served)
    simpa [Wiring.serve, differs] using served
  | _ => exact served

/-- Whoever is bound to nobody after a step is left alone by it, unless it hands something over, or
the Hub says whether it is that of an Agent. -/
theorem Standing.rests_unbound (standing : Standing identifiers past state) (event : Event)
    {id : SocketId}
    (unbound : ∀ other, ¬ At (past ++ [(event, (step identifiers state event).1)])
      (step identifiers state event).2.wiring id (.bound other))
    (unjudged : ∀ control reply, event = .verdict control reply → id = .control control →
      (state.controls control).verifying = none)
    (silent : ∀ count, event = .deliver id count → (state.sockets id).delivers count = false) :
    Rests id state (step identifiers state event).2 := by
  refine rests_step event silent ?_ ?_ unjudged ?_
  · intro other count same differs delivers
    rw [Bool.eq_false_iff]
    intro pipes
    obtain ⟨ends, piped⟩ := eq_pipe_of_pipesTo pipes
    exact unbound other ((standing.stationed.pipes piped).symm.bound fun control client served =>
      standing.serves_stays event served)
  · intro control count token exist same presented found own
    have paired : .pairs control token exist.socket ∈ (step identifiers state event).1 :=
      pairs_shown_iff.mpr ⟨count, exist, same, presented, found, rfl⟩
    exact unbound (.control control) (own ▸ .awaited (shown_append.mpr (.inr paired)))
  · intro client body agentUuid control left port same routing routed claimed named
    subst same
    have serves := @serves_of_body identifiers _ _ _ _ _ _ _ routing routed claimed named
    refine ⟨?_, ?_⟩
    · rintro rfl
      exact unbound _ (.serving serves)
    · rintro rfl
      exact unbound _ (.served serves)

/-- One end of a tunnel is left alone by a step at which neither end hands anything over. -/
theorem Standing.rests_bound (standing : Standing identifiers past state) (event : Event)
    {id other : SocketId} (bound : At past state.wiring id (.bound other))
    (silent : ∀ source count, source = id ∨ source = other → event = .deliver source count →
      (state.sockets source).delivers count = false) :
    Rests id state (step identifiers state event).2 := by
  refine rests_step event (fun count => silent id count (.inl rfl)) ?_ ?_ ?_ ?_
  · intro source count same differs delivers
    rw [Bool.eq_false_iff]
    intro pipes
    obtain ⟨ends, piped⟩ := eq_pipe_of_pipesTo pipes
    have bound' := (standing.stationed.pipes piped).symm
    obtain rfl := Station.bound.inj (standing.stationed.once bound bound')
    rw [silent other count (.inr rfl) same] at delivers
    cases delivers
  · intro control count token exist same presented found own
    cases standing.stationed.once bound (.entered found own.symm)
  · intro control reply same own
    subst own
    cases verifying : (state.controls control).verifying with
    | none => rfl
    | some agentUuid => cases standing.stationed.once bound (.verdict verifying)
  · intro client body agentUuid control left port same routing routed claimed named
    refine ⟨?_, ?_⟩
    · rintro rfl
      cases standing.stationed.once bound (standing.pooling.taken claimed).1
    · rintro rfl
      cases standing.stationed.once bound (.asking (.inr routing))

/-- What a piped socket hands over is written to the other end. -/
theorem sockets_of_piped {id destination : SocketId} {ends : Bool} {count : ℕ}
    (delivers : (state.sockets id).delivers count = true)
    (piped : state.listeners id = .pipe destination ends) (differs : destination ≠ id) :
    (step identifiers state (.deliver id count)).2.sockets id =
        (state.sockets id).advance count ∧
      (step identifiers state (.deliver id count)).2.sockets destination =
        (state.sockets destination).write (pieces ((state.sockets id).chunk count)) ∧
      (step identifiers state (.deliver id count)).2.listeners = state.listeners := by
  simp only [step, delivers, if_true]
  cases id with
  | client client =>
    simp [deliver, piped, State.write, State.onSocket, differs, differs.symm]
  | control control =>
    simp only [deliver, piped]
    split
    · simp [State.write, State.onSocket, State.onClient, differs, differs.symm]
    · simp [State.write, State.onSocket, differs, differs.symm]

/-- A client whose head is not complete gets nothing but perhaps a page. -/
theorem onClientData_sockets (client : ℕ) (chunk : Bytes) :
    (Paged client (onClientData identifiers client chunk state).2 ∨
        ((onClientData identifiers client chunk state).2.sockets (.client client)).written =
          (state.sockets (.client client)).written) ∧
      ((onClientData identifiers client chunk state).2.listeners = state.listeners ∨
        ((onClientData identifiers client chunk state).2.sockets (.client client)).flowing =
          false) := by
  have paged (before : State) (same : before.sockets = state.sockets) (outcome : PageOutcome)
      (context : ErrorContext) : Paged client (before.endPage client outcome context) ∨
        ((before.endPage client outcome context).sockets (.client client)).written =
          (state.sockets (.client client)).written := by
    rcases (rests_refl (.client client) before).endPage client outcome context with
      ⟨client', own, paged⟩ | still
    · obtain rfl := SocketId.client.inj own
      exact .inl paged
    · exact .inr (still.calm.written.trans (by rw [same]))
  simp only [onClientData]
  split
  · exact ⟨.inr rfl, .inl rfl⟩
  · split
    · exact ⟨paged _ rfl _ _, .inl rfl⟩
    · split
      · exact ⟨paged _ rfl _ _, .inl rfl⟩
      · refine ⟨.inr ?_, .inr ?_⟩
        · simp [askHub, State.onClient, State.onSocket, State.listen, Duplex.pause]
        · simp [askHub, State.onClient, State.onSocket, State.listen, Duplex.pause]

/-- A socket whose first line is still not complete gets nothing. -/
theorem onControlData_sockets (control : ℕ) (chunk : Bytes)
    (heard : (onControlData control chunk state).2.listeners (.control control) = .onData) :
    (onControlData control chunk state).2.sockets = state.sockets := by
  simp only [onControlData] at heard ⊢
  split at heard
  · simp_all [State.onControl]
  · exfalso
    split at heard
    · simp only [handlePreconnect] at heard
      split at heard
      · simp [reject, State.onSocket, State.onControl, State.listen] at heard
      · split at heard
        · simp [reject, State.onSocket, State.onControl, State.listen] at heard
        · simp [State.onSocket, State.onControl, State.listen] at heard
    · simp only [present] at heard
      split at heard
      · rename_i exist _
        by_cases own : SocketId.control control = exist.socket
        · simp [State.pipe, State.onSocket, State.listen, own] at heard
        · simp [State.pipe, State.onSocket, State.listen, own] at heard
      · simp [State.onSocket, State.onControl, State.listen] at heard

/-- Piping writes nothing and destroys nobody. -/
theorem pipe_sockets (state : State) (source destination : SocketId) (ends : Bool) (id : SocketId) :
    ((state.pipe source destination ends).sockets id).written = (state.sockets id).written ∧
      ((state.pipe source destination ends).sockets id).destroyed =
        (state.sockets id).destroyed := by
  have resumed : (((state.listen source (.pipe destination ends)).onSocket source
      Duplex.resume).sockets id).written = (state.sockets id).written ∧
      (((state.listen source (.pipe destination ends)).onSocket source
        Duplex.resume).sockets id).destroyed = (state.sockets id).destroyed := by
    by_cases self : id = source
    · subst self
      simp [State.onSocket, State.listen, Duplex.resume]
    · simp [State.onSocket, State.listen, self]
  rw [State.pipe, ← resumed.1, ← resumed.2]
  generalize (state.listen source (.pipe destination ends)).onSocket source Duplex.resume = before
  by_cases self : id = destination
  · subst self
    simp only [State.onSocket, Function.update_self]
    split
    · exact ⟨rfl, rfl⟩
    · exact ⟨rfl, rfl⟩
  · simp [State.onSocket, self]

/-- Whoever is joined is told what was stored, and what followed the first line. -/
theorem present_sockets {control client : ℕ} {token : Text} {rest : Bytes} {exist : RegistryEntry}
    (found : state.registry.get token = some exist) (own : exist.socket = .client client) :
    (((present control token rest state).2.sockets (.control control)).written =
        ((state.sockets (.control control)).write (pieces exist.rest)).written ∧
      ((present control token rest state).2.sockets (.control control)).destroyed =
        ((state.sockets (.control control)).write (pieces exist.rest)).destroyed) ∧
    ((present control token rest state).2.sockets (.client client)).written =
        ((state.sockets (.client client)).write (pieces rest)).written ∧
      ((present control token rest state).2.sockets (.client client)).destroyed =
        ((state.sockets (.client client)).write (pieces rest)).destroyed := by
  simp only [present, found, own]
  refine ⟨⟨?_, ?_⟩, ?_, ?_⟩
  · rw [(pipe_sockets _ _ _ _ _).1, (pipe_sockets _ _ _ _ _).1]
    simp [State.write, State.onSocket, State.onControl]
  · rw [(pipe_sockets _ _ _ _ _).2, (pipe_sockets _ _ _ _ _).2]
    simp [State.write, State.onSocket, State.onControl]
  · rw [(pipe_sockets _ _ _ _ _).1, (pipe_sockets _ _ _ _ _).1]
    simp [State.write, State.onSocket, State.onControl]
  · rw [(pipe_sockets _ _ _ _ _).2, (pipe_sockets _ _ _ _ _).2]
    simp [State.write, State.onSocket, State.onControl]

/-- A socket whose first line is a token presents it, with what follows the line. -/
theorem onControlData_presents {control : ℕ} {chunk : Bytes} {token : Text}
    (line : tokenLine ((state.controls control).buffer ++ chunk) = some token) :
    ∃ heard : State, heard.sockets = state.sockets ∧ heard.registry = state.registry ∧
      onControlData control chunk state =
        present control token (afterLine ((state.controls control).buffer ++ chunk)) heard := by
  obtain ⟨first, otherwise⟩ := Option.filter_eq_some_iff.mp line
  obtain ⟨index, found, rfl⟩ := Option.map_eq_some_iff.mp first
  simp only [Bool.not_eq_true'] at otherwise
  refine ⟨(state.onControl control fun vars =>
    { vars with buffer := (state.controls control).buffer ++ chunk }).listen (.control control)
      .none, rfl, rfl, ?_⟩
  simp only [onControlData, found, otherwise, afterLine]
  rfl

/-- The sockets of a client and of whoever presents its token, when they are joined. -/
theorem Relaying.joined (relaying : Relaying identifiers past state)
    (standing : Standing identifiers past state) {control count client : ℕ} {token : Text}
    {exist : RegistryEntry} (presented : state.presented control count = some token)
    (found : state.registry.get token = some exist) (own : exist.socket = .client client)
    (unpaged : ¬ Paged client state) :
    Relayed identifiers control client
      (step identifiers state (.deliver (.control control) count)).2 := by
  have entered : At past state.wiring (.client client) .entered := .entered found own
  have headed := (relaying.headed entered (.inr rfl)).resolve_left unpaged
  have stored := (relaying.stored found own).resolve_left unpaged
  have unwritten := (relaying.fresh entered (.inr (.inr rfl))).resolve_left unpaged
  have paired : .pairs control token (.client client) ∈
      (step identifiers state (.deliver (.control control) count)).1 :=
    pairs_shown_iff.mpr ⟨count, exist, rfl, presented, found, own⟩
  have piped := piped_of_pairs (step_moves identifiers state _) paired (by simp)
  simp only [State.presented] at presented
  split at presented
  case isFalse => cases presented
  case isTrue condition =>
  obtain ⟨heard, delivers⟩ := condition
  have gathered := standing.gathering (.control control) heard
  have consumed := @consumed_of_delivers identifiers state _ _ delivers
  have same : ((step identifiers state (.deliver (.control control) count)).2.sockets
      (.client client)).consumed = (state.sockets (.client client)).consumed := by
    rcases @read_step identifiers state (.client client) (.deliver (.control control) count) with
      same | ⟨count', same, -⟩
    · exact (Prod.mk.inj same).1
    · cases same
  have line : firstLine ((state.sockets (.control control)).consumed ++
      (state.sockets (.control control)).chunk count) = some token := by
    rw [← gathered]
    exact firstLine_of_tokenLine presented
  obtain ⟨before, sockets, registry, onward⟩ := @onControlData_presents
    (state.onSocket (.control control) (Duplex.advance count)) control
    ((state.sockets (.control control)).chunk count) token presented
  have reached : (step identifiers state (.deliver (.control control) count)).2 =
      (present control token (afterLine ((state.sockets (.control control)).consumed ++
        (state.sockets (.control control)).chunk count)) before).2 := by
    simp only [step, delivers, if_true, deliver, heard]
    rw [onward, ← gathered]
    rfl
  obtain ⟨agent, answer⟩ := @present_sockets before control client token
    (afterLine ((state.sockets (.control control)).consumed ++
      (state.sockets (.control control)).chunk count)) exist (by rw [registry]; exact found) own
  rw [← reached] at agent answer
  have blank : (before.sockets (.control control)).written = [] := by
    rw [sockets]
    simpa [State.onSocket, Duplex.advance] using relaying.blank control heard
  have blank' : (before.sockets (.client client)).written = [] := by
    rw [sockets]
    simpa [State.onSocket] using unwritten
  constructor
  case head =>
    rw [same]
    exact headed.head
  case line =>
    rw [consumed]
    obtain ⟨index, found, -⟩ := Option.map_eq_some_iff.mp line
    rw [found]
    rfl
  case forwards =>
    rw [same, ← headed.buffer, ← stored, ← List.nil_append (pieces exist.rest)]
    exact ((Duplex.told_nil blank).write _).same agent.1 fun alive => agent.2 ▸ alive
  case answers =>
    rw [consumed, ← List.nil_append (pieces _)]
    exact ((Duplex.told_nil blank').write _).same answer.1 fun alive => answer.2 ▸ alive
  case idle =>
    rintro id (rfl | rfl) none
    · rw [show (step identifiers state (.deliver (.control control) count)).2.listeners
        (.client client) = .pipe (.control control) true from piped.2] at none
      cases none
    · rw [show (step identifiers state (.deliver (.control control) count)).2.listeners
        (.control control) = .pipe (.client client) true from piped.1] at none
      cases none

/-- A tunnel carries on what either end hands over, and nothing else. -/
theorem Relayed.onward {control client : ℕ} {token : Text}
    (relayed : Relayed identifiers control client state)
    (standing : Standing identifiers past state)
    (paired : Shown past (.pairs control token (.client client))) (event : Event) :
    Paged client (step identifiers state event).2 ∨
      Relayed identifiers control client (step identifiers state event).2 := by
  have bound : At past state.wiring (.control control) (.bound (.client client)) :=
    .presented paired
  have pipes {id other : SocketId} {count : ℕ} (bound : At past state.wiring id (.bound other))
      (idle : state.listeners id = .none → (state.sockets id).flowing = false)
      (delivers : (state.sockets id).delivers count = true) :
      ∃ ends, state.listeners id = .pipe other ends := by
    refine (standing.stationed.hears bound).resolve_left fun none => ?_
    simp [Duplex.delivers, idle none] at delivers
  by_cases active : ∃ id count, (id = .client client ∨ id = .control control) ∧
      event = .deliver id count ∧ (state.sockets id).delivers count = true
  · right
    obtain ⟨id, count, rfl | rfl, rfl, delivers⟩ := active
    · obtain ⟨ends, piped⟩ := pipes bound.symm (relayed.idle _ (.inl rfl)) delivers
      obtain ⟨own, told, listeners⟩ :=
        @sockets_of_piped identifiers _ _ _ _ _ delivers piped (by simp)
      constructor
      case head =>
        rw [own]
        exact isSome_append relayed.head _
      case line =>
        rw [told, Duplex.consumed_write]
        exact relayed.line
      case forwards =>
        rw [told, own]
        simp only [Duplex.advance]
        rw [forwarded_append _ _ relayed.head, pieces_append]
        exact relayed.forwards.write _
      case answers =>
        rw [told, own, Duplex.consumed_write]
        exact relayed.answers.same rfl id
      case idle =>
        rintro id (rfl | rfl) none
        · rw [listeners, piped] at none
          cases none
        · rw [listeners] at none
          rw [told, Duplex.flowing_write]
          exact relayed.idle _ (.inr rfl) none
    · obtain ⟨ends, piped⟩ := pipes bound (relayed.idle _ (.inr rfl)) delivers
      obtain ⟨own, told, listeners⟩ :=
        @sockets_of_piped identifiers _ _ _ _ _ delivers piped (by simp)
      constructor
      case head =>
        rw [told, Duplex.consumed_write]
        exact relayed.head
      case line =>
        rw [own]
        exact isSome_append relayed.line _
      case forwards =>
        rw [told, own, Duplex.consumed_write]
        exact relayed.forwards.same rfl id
      case answers =>
        rw [told, own]
        simp only [Duplex.advance]
        rw [afterLine_append relayed.line, pieces_append]
        exact relayed.answers.write _
      case idle =>
        rintro id (rfl | rfl) none
        · rw [listeners] at none
          rw [told, Duplex.flowing_write]
          exact relayed.idle _ (.inl rfl) none
        · rw [listeners, piped] at none
          cases none
  · have silent (source : SocketId) (count : ℕ)
        (ends : source = .client client ∨ source = .control control)
        (same : event = .deliver source count) : (state.sockets source).delivers count = false :=
      Bool.eq_false_iff.mpr fun delivers => active ⟨source, count, ends, same, delivers⟩
    rcases standing.rests_bound event bound.symm silent with ⟨client', own, paged⟩ | stillClient
    · obtain rfl := SocketId.client.inj own
      exact .inl paged
    rcases standing.rests_bound event bound (fun source count ends => silent source count ends.symm)
      with ⟨client', own, -⟩ | stillControl
    · cases own
    right
    have rested {id : SocketId} (still : Still (state.sockets id)
        ((step identifiers state event).2.sockets id) (state.listeners id)
        ((step identifiers state event).2.listeners id))
        (idle : state.listeners id = .none → (state.sockets id).flowing = false)
        (none : (step identifiers state event).2.listeners id = .none) :
        ((step identifiers state event).2.sockets id).flowing = false := by
      rcases still.heard with same | ⟨-, paused⟩
      · rw [Bool.eq_false_iff]
        intro flows
        have flowed := still.calm.flowing flows
        rw [idle (same ▸ none)] at flowed
        cases flowed
      · exact paused
    constructor
    case head =>
      rw [stillClient.calm.consumed]
      exact relayed.head
    case line =>
      rw [stillControl.calm.consumed]
      exact relayed.line
    case forwards =>
      rw [stillClient.calm.consumed]
      exact relayed.forwards.calm stillControl.calm
    case answers =>
      rw [stillControl.calm.consumed]
      exact relayed.answers.calm stillClient.calm
    case idle =>
      rintro id (rfl | rfl) none
      · exact rested stillClient (relayed.idle _ (.inl rfl)) none
      · exact rested stillControl (relayed.idle _ (.inr rfl)) none

theorem detachHeartbeat_keeps (control : ℕ) :
    (detachHeartbeat control state).registry = state.registry ∧
      (detachHeartbeat control state).clients = state.clients := by
  rw [detachHeartbeat]
  split
  · exact ⟨rfl, rfl⟩
  · exact ⟨rfl, rfl⟩

/-- The body of a lookup has a client registered, or handed over. -/
theorem onRouting_cases (client : ℕ) (body : Option Value) :
    (∃ (left : State) (shown : List Observation), left.registry = state.registry ∧
      left.clients = state.clients ∧
      onRouting identifiers client body state =
        (shown ++ (registerClient identifiers client left).1,
          (registerClient identifiers client left).2)) ∨
      ∀ id token, .registers id token ∉ (onRouting identifiers client body state).1 := by
  simp only [onRouting]
  split
  · rename_i agentUuid _
    rcases claimed : state.pools.claim (usable state) agentUuid with ⟨taken, left⟩
    cases taken with
    | none =>
      simp only [claimPreconnected, claimed]
      exact .inl ⟨{ state with pools := left }, [_], rfl, rfl, rfl⟩
    | some control =>
      have free : usable (detachHeartbeat control { state with pools := left }) control = true :=
        (usable_detachHeartbeat control control).trans (Pools.usable_of_claim claimed)
      simp only [claimPreconnected, claimed]
      cases named : servicePort body with
      | some port =>
        simp only [free, if_true]
        exact .inr (by simp)
      | none =>
        obtain ⟨registry, clients⟩ := @detachHeartbeat_keeps { state with pools := left } control
        exact .inl ⟨_, [_], registry, clients, rfl⟩
  · exact .inl ⟨state, [], rfl, rfl, rfl⟩

/-- The proxy stores the rewritten head with the entry of a client. -/
theorem registers_stores {client : ℕ} {token : Text}
    (here : .registers (.client client) token ∈ (step identifiers state event).1) :
    (∃ timer, (step identifiers state event).2.registry.get token =
        some ⟨.client client, (state.clients client).buffer, timer⟩) ∧
      ∃ body, event = .body client body := by
  obtain ⟨body, rfl, rfl⟩ := registers_body (step_moves identifiers state event) here
  have routing : (state.clients client).awaiting = .routing :=
    registers_move (step_moves identifiers state (.body client body)) here
  refine ⟨?_, body, rfl⟩
  simp only [step, onBody, routing] at here ⊢
  rcases @onRouting_cases identifiers state client body with
    ⟨left, shown, registry, clients, same⟩ | silent
  · refine ⟨state.registry.drawn, ?_⟩
    simp only [same, registerClient, askHub, State.onClient, registry, clients]
    rw [Registry.get_register, if_pos rfl]
  · exact absurd here (silent _ _)

/-! ## Where a client comes from -/

/-- A client stands where it stood, or has come from the station before. -/
theorem client_came {client : ℕ} {station : Station}
    (here : At (past ++ [(event, (step identifiers state event).1)])
      (step identifiers state event).2.wiring (.client client) station)
    (waits : station = .opened ∨ station = .asking ∨ station = .entered) :
    At past state.wiring (.client client) station ∨
      (station = .asking ∧ At past state.wiring (.client client) .opened ∧
        ∃ count, event = .deliver (.client client) count) ∨
      station = .entered ∧ At past state.wiring (.client client) .asking := by
  have move := step_moves identifiers state event
  cases here with
  | opened heard => exact .inl (.opened (onData_move move heard))
  | asking awaited =>
    rcases asking_move move awaited with before | ⟨opened, delivered⟩
    · exact .inl (.asking before)
    · exact .inr (.inl ⟨rfl, .opened opened, delivered⟩)
  | entered found own =>
    rcases entered_move move found with before | now
    · exact .inl (.entered before own)
    · exact .inr (.inr ⟨rfl, .asking (.inr (registers_move move (own ▸ now)))⟩)
  | awaited paired => simp at waits
  | served served => simp at waits

/-- A client that waits hands nothing over, unless it has got a page. -/
theorem Relaying.hushed (relaying : Relaying identifiers past state) {client count : ℕ} {station : Station}
    (here : At past state.wiring (.client client) station)
    (waits : station = .asking ∨ station = .entered)
    (delivers : (state.sockets (.client client)).delivers count = true) : Paged client state := by
  refine (relaying.headed here waits).resolve_right fun headed => ?_
  simp [Duplex.delivers, headed.idle] at delivers

/-- The buffer of a client that waits, and what it has handed over, stay what they are. -/
theorem Relaying.waits_still (relaying : Relaying identifiers past state) {client : ℕ} {station : Station}
    (here : At past state.wiring (.client client) station)
    (waits : station = .asking ∨ station = .entered) (event : Event) :
    Paged client state ∨
      (step identifiers state event).2.read (.client client) = state.read (.client client) := by
  rcases @read_step identifiers state (.client client) event with same | ⟨count, -, delivers, -⟩
  · exact .inr same
  · exact .inl (relaying.hushed here waits delivers)

/-- What is done to a client before it is joined. -/
theorem Relaying.client_rests (relaying : Relaying identifiers past state)
    (standing : Standing identifiers past state) {client : ℕ} {station : Station} (event : Event)
    (here : At (past ++ [(event, (step identifiers state event).1)])
      (step identifiers state event).2.wiring (.client client) station)
    (waits : station = .opened ∨ station = .asking ∨ station = .entered) :
    Rests (.client client) state (step identifiers state event).2 ∨
      At past state.wiring (.client client) .opened ∧ ∃ count,
        event = .deliver (.client client) count ∧
        (state.sockets (.client client)).delivers count = true := by
  have later := standing.stationed.onward standing.pooling event
  by_cases active : ∃ count, event = .deliver (.client client) count ∧
      (state.sockets (.client client)).delivers count = true
  · have before : At past state.wiring (.client client) .opened ∨ Paged client state := by
      obtain ⟨count, rfl, delivers⟩ := active
      rcases client_came here waits with same | ⟨-, opened, -⟩ | ⟨-, asking⟩
      · rcases waits with rfl | waits
        · exact .inl same
        · exact .inr (relaying.hushed same waits delivers)
      · exact .inl opened
      · exact .inr (relaying.hushed asking (.inl rfl) delivers)
    rcases before with opened | paged
    · exact .inr ⟨opened, active⟩
    · exact .inl (.inl ⟨client, rfl, paged.onward event⟩)
  · refine .inl (standing.rests_unbound event (fun other bound => ?_) (by simp) ?_)
    · have same := later.once here bound
      subst same
      simp at waits
    · exact fun count same => Bool.eq_false_iff.mpr fun delivers => active ⟨count, same, delivers⟩

/-- The piece that completes a request head has it rewritten, and the client paused. -/
theorem headed_of_delivers {client count : ℕ}
    (delivers : (state.sockets (.client client)).delivers count = true)
    (heard : state.listeners (.client client) = .onData)
    (gathered : state.buffer (.client client) = (state.sockets (.client client)).consumed)
    (unheard : (step identifiers state (.deliver (.client client) count)).2.listeners
      (.client client) = .none) :
    Headed identifiers client (step identifiers state (.deliver (.client client) count)).2 := by
  have consumed := @consumed_of_delivers identifiers state _ _ delivers
  have reached : (step identifiers state (.deliver (.client client) count)).2 =
      (onClientData identifiers client ((state.sockets (.client client)).chunk count)
        (state.onSocket (.client client) (Duplex.advance count))).2 := by
    simp only [step, delivers, if_true, deliver, heard]
  rw [reached] at consumed unheard ⊢
  obtain ⟨buffer, same, ⟨listeners, -, -⟩ | ⟨-, index, found, rewritten⟩⟩ :=
    @read_onClientData identifiers (state.onSocket (.client client) (Duplex.advance count)) client
      ((state.sockets (.client client)).chunk count)
  · rw [listeners] at unheard
    simp [State.onSocket, heard] at unheard
  have complete : indexOf emptyLine ((state.sockets (.client client)).consumed ++
      (state.sockets (.client client)).chunk count) = some index := by
    rw [← gathered]
    exact found
  have kept : ((onClientData identifiers client ((state.sockets (.client client)).chunk count)
      (state.onSocket (.client client) (Duplex.advance count))).2.clients client).buffer =
        buffer := by
    have here := congrFun same (.client client)
    rw [Function.update_self] at here
    exact (Prod.mk.inj here).2
  constructor
  case head =>
    rw [consumed, complete]
    rfl
  case buffer =>
    rw [kept, rewritten, consumed, forwarded, complete, ← gathered]
    rfl
  case idle =>
    refine (onClientData_sockets client _).2.resolve_left fun listeners => ?_
    rw [listeners] at unheard
    simp [State.onSocket, heard] at unheard

theorem Relaying.onward (relaying : Relaying identifiers past state)
    (standing : Standing identifiers past state) (event : Event) :
    Relaying identifiers (past ++ [(event, (step identifiers state event).1)])
      (step identifiers state event).2 where
  fresh {client station} here waits := by
    have before : Paged client state ∨ (state.sockets (.client client)).written = [] := by
      rcases client_came here waits with same | ⟨-, opened, -⟩ | ⟨-, asking⟩
      · exact relaying.fresh same waits
      · exact relaying.fresh opened (.inl rfl)
      · exact relaying.fresh asking (.inr (.inl rfl))
    rcases before with paged | unwritten
    · exact .inl (paged.onward event)
    rcases relaying.client_rests standing event here waits with
      (⟨client', own, paged⟩ | still) | ⟨opened, count, rfl, delivers⟩
    · obtain rfl := SocketId.client.inj own
      exact .inl paged
    · exact .inr (still.calm.written.trans unwritten)
    · have heard : state.listeners (.client client) = .onData := standing.stationed.hears opened
      simp only [step, delivers, if_true, deliver, heard]
      refine (onClientData_sockets client _).1.imp_right fun same => same.trans ?_
      simpa [State.onSocket, Duplex.advance] using unwritten
  blank control after := by
    have heard : state.listeners (.control control) = .onData :=
      onData_move (step_moves identifiers state event) after
    have opened : At past state.wiring (.control control) .opened := .opened heard
    have unwritten := relaying.blank control heard
    by_cases active : ∃ count, event = .deliver (.control control) count ∧
        (state.sockets (.control control)).delivers count = true
    · obtain ⟨count, rfl, delivers⟩ := active
      simp only [step, delivers, if_true, deliver, heard] at after ⊢
      rw [onControlData_sockets control _ after]
      simpa [State.onSocket, Duplex.advance] using unwritten
    · have later := standing.stationed.onward standing.pooling event
      have unbound (other : SocketId) : ¬ At (past ++ [(event, (step identifiers state event).1)])
          (step identifiers state event).2.wiring (.control control) (.bound other) := by
        intro bound
        cases later.once (.opened after) bound
      have unjudged (control' : ℕ) (own : SocketId.control control = .control control') :
          (state.controls control').verifying = none := by
        obtain rfl := SocketId.control.inj own
        cases verifying : (state.controls control).verifying with
        | none => rfl
        | some agentUuid => cases standing.stationed.once opened (.verdict verifying)
      rcases standing.rests_unbound event unbound (fun control' _ _ => unjudged control')
        (fun count same => Bool.eq_false_iff.mpr fun delivers => active ⟨count, same, delivers⟩)
        with ⟨client, own, -⟩ | still
      · cases own
      · exact still.calm.written.trans unwritten
  headed {client station} here waits := by
    have later := standing.stationed.onward standing.pooling event
    have carries {station : Station} (before : At past state.wiring (.client client) station)
        (waiting : station = .asking ∨ station = .entered) :
        Paged client (step identifiers state event).2 ∨
          Headed identifiers client (step identifiers state event).2 := by
      rcases relaying.headed before waiting with paged | headed
      · exact .inl (paged.onward event)
      rcases relaying.waits_still before waiting event with paged | same
      · exact .inl (paged.onward event)
      rcases relaying.client_rests standing event here (.inr waits) with
        (⟨client', own, paged⟩ | still) | ⟨opened, -⟩
      · obtain rfl := SocketId.client.inj own
        exact .inl paged
      · refine .inr ⟨?_, ?_, Bool.eq_false_iff.mpr fun flows => ?_⟩
        · rw [still.calm.consumed]
          exact headed.head
        · rw [still.calm.consumed]
          exact (Prod.mk.inj same).2.trans headed.buffer
        · have flowed := still.calm.flowing flows
          rw [headed.idle] at flowed
          cases flowed
      · have same := standing.stationed.once opened before
        subst same
        simp at waiting
    rcases client_came here (.inr waits) with same | ⟨rfl, opened, count, rfl⟩ | ⟨-, asking⟩
    · exact carries same waits
    · have heard : state.listeners (.client client) = .onData := standing.stationed.hears opened
      have unheard : (step identifiers state (.deliver (.client client) count)).2.listeners
          (.client client) = .none := later.hears here
      refine .inr (headed_of_delivers (Bool.not_eq_false _ ▸ fun silent => ?_) heard
        (standing.gathering _ heard) unheard)
      simp [step, silent, heard] at unheard
    · exact carries asking (.inl rfl)
  stored {token entry client} found own := by
    have move := step_moves identifiers state event
    have here : At (past ++ [(event, (step identifiers state event).1)])
        (step identifiers state event).2.wiring (.client client) .entered := .entered found own
    have kept {station : Station} (before : At past state.wiring (.client client) station)
        (waiting : station = .asking ∨ station = .entered)
        (stored : entry.rest = (state.clients client).buffer) :
        Paged client (step identifiers state event).2 ∨
          entry.rest = ((step identifiers state event).2.clients client).buffer := by
      rcases relaying.waits_still before waiting event with paged | same
      · exact .inl (paged.onward event)
      · exact .inr (stored.trans (Prod.mk.inj same).2.symm)
    rcases entered_move move found with before | now
    · rcases relaying.stored before own with paged | stored
      · exact .inl (paged.onward event)
      · exact kept (.entered before own) (.inr rfl) stored
    · rw [own] at now
      obtain ⟨⟨timer, found'⟩, -⟩ := registers_stores now
      obtain rfl := Option.some.inj (found.symm.trans found')
      exact kept (.asking (.inr (registers_move move now))) (.inl rfl) rfl
  paired {control token client} here := by
    rcases shown_append.mp here with before | now
    · rcases relaying.paired before with paged | relayed
      · exact .inl (paged.onward event)
      · exact relayed.onward standing before event
    · obtain ⟨count, exist, rfl, presented, found, own⟩ := pairs_shown_iff.mp now
      by_cases paged : Paged client state
      · exact .inl (paged.onward _)
      · exact .inr (relaying.joined standing presented found own paged)

theorem relaying_started (identifiers : Identifiers) : Relaying identifiers [] {} where
  fresh _ _ := .inr rfl
  blank _ _ := rfl
  headed here waits := by
    cases here with
    | asking awaited => rcases awaited with asked | routing <;> contradiction
    | entered found own => cases found
    | _ => simp at waits
  stored found := by cases found
  paired here := by
    obtain ⟨event, inside, -⟩ := here
    cases inside

/-- What is known of the bytes after the events of a run. -/
theorem relaying_reach (identifiers : Identifiers) (events : List Event) :
    Standing identifiers (trace (step identifiers) {} events) (reach identifiers events) ∧
      Relaying identifiers (trace (step identifiers) {} events) (reach identifiers events) := by
  simpa [reach] using (along_trivial [] {} events).invariant
    (fun past state => Standing identifiers past state ∧ Relaying identifiers past state)
    (fun _ _ event held _ => ⟨held.1.onward event, held.2.onward held.1 event⟩)
    ⟨standing_started identifiers, relaying_started identifiers⟩

end Steps

/-! ## The token path -/

/-- Piping resumes the socket that is piped. -/
theorem flowing_pipe (state : State) (source destination : SocketId) (ends : Bool) (id : SocketId)
    (flows : id = source ∨ (state.sockets id).flowing = true) :
    ((state.pipe source destination ends).sockets id).flowing = true := by
  have resumed : (((state.listen source (.pipe destination ends)).onSocket source
      Duplex.resume).sockets id).flowing = true := by
    by_cases self : id = source
    · subst self
      simp [State.onSocket, State.listen, Duplex.resume]
    · simpa [State.onSocket, State.listen, self] using flows.resolve_left self
  rw [State.pipe]
  by_cases self : id = destination
  · subst self
    simp only [State.onSocket, Function.update_self] at resumed ⊢
    split
    · exact resumed
    · exact resumed
  · simpa only [State.onSocket, Function.update_of_ne self] using resumed

/-- Both ends of a tunnel flow when they are joined. -/
theorem flowing_of_pairs {identifiers : Identifiers} {state : State} {event : Event}
    {control : ℕ} {token : Text} {other : SocketId}
    (paired : .pairs control token other ∈ (step identifiers state event).1) :
    ((step identifiers state event).2.sockets other).flowing = true ∧
      ((step identifiers state event).2.sockets (.control control)).flowing = true := by
  obtain ⟨count, exist, rfl, presented, found, rfl⟩ := pairs_shown_iff.mp paired
  simp only [State.presented] at presented
  split at presented
  case isFalse => cases presented
  case isTrue condition =>
  obtain ⟨heard, delivers⟩ := condition
  obtain ⟨before, sockets, registry, onward⟩ := @onControlData_presents
    (state.onSocket (.control control) (Duplex.advance count)) control
    ((state.sockets (.control control)).chunk count) token presented
  simp only [step, delivers, if_true, deliver, heard]
  rw [onward, present, registry, show (state.onSocket (.control control)
    (Duplex.advance count)).registry.get token = some exist from found]
  exact ⟨flowing_pipe _ _ _ _ _ (.inl rfl),
    flowing_pipe _ _ _ _ _ (.inr (flowing_pipe _ _ _ _ _ (.inl rfl)))⟩

/-- Whatever the pieces, what has been written to the ends of a tunnel is the rewritten head and
what followed it, and what followed the token line, as far as the ends have handed it over; only
an end that was destroyed has got a first part. -/
theorem relays (identifiers : Identifiers) (events : List Event) :
    (∀ control token client,
      Shown (trace (step identifiers) {} events) (.pairs control token (.client client)) →
      ¬ Paged client (reach identifiers events) →
      Relayed identifiers control client (reach identifiers events)) ∧
    ∀ event control token client,
      .pairs control token (.client client) ∈ shows identifiers events event →
      ((reach identifiers (events ++ [event])).sockets (.client client)).flowing = true ∧
        ((reach identifiers (events ++ [event])).sockets (.control control)).flowing = true := by
  refine ⟨fun control token client paired unpaged => ?_, fun event control token client paired => ?_⟩
  · exact ((relaying_reach identifiers events).2.paired paired).resolve_left unpaged
  · rw [reach_append]
    exact flowing_of_pairs paired

theorem shown_of_shows {identifiers : Identifiers} {events : List Event} {event : Event}
    {shown : Observation} (here : shown ∈ shows identifiers events event) :
    Shown (trace (step identifiers) {} (events ++ [event])) shown := by
  rw [trace_append]
  exact shown_append.mpr (.inr here)

/-- A client is registered, and the connection of the Agent sends its token and an answer. -/
def answered : List Event :=
  [.body 0 none, .receive (.control 0) (encodeUtf8 "0\nHTTP/1.1 200 OK\r\n\r\nhello")]

theorem relays_answered :
    Relayed numbered 0 0
        (reach numbered (routed ++ answered ++ [.deliver (.control 0) 100])) ∧
      ((reach numbered (routed ++ answered ++ [.deliver (.control 0) 100])).sockets
        (.client 0)).written = pieces (encodeUtf8 "HTTP/1.1 200 OK\r\n\r\nhello") := by
  have written : ((reach numbered (routed ++ answered ++ [.deliver (.control 0) 100])).sockets
      (.client 0)).written = pieces (encodeUtf8 "HTTP/1.1 200 OK\r\n\r\nhello") := by
    decide +kernel
  refine ⟨(relays numbered _).1 0 "0" 0 (shown_of_shows (by decide +kernel)) ?_, written⟩
  rintro ⟨outcome, context, inside⟩
  rw [written] at inside
  simp [pieces] at inside

/-- A client that ends its stream while it waits has its own end closed with it: the answer of the
Agent is not written to it, although nothing else has gone wrong. -/
theorem not_whole_half_closed :
    ¬ ∀ identifiers events control token client,
      Shown (trace (step identifiers) {} events) (.pairs control token (.client client)) →
      ¬ Paged client (reach identifiers events) →
      ((reach identifiers events).sockets (.client client)).pending = [] →
      ((reach identifiers events).sockets (.control control)).pending = [] →
      ((reach identifiers events).sockets (.control control)).written =
          pieces (forwarded identifiers client
            ((reach identifiers events).sockets (.client client)).received) ∧
        ((reach identifiers events).sockets (.client client)).written =
          pieces (afterLine ((reach identifiers events).sockets (.control control)).received) := by
  intro whole
  have written : ((reach numbered (routed ++ .readEnd (.client 0) :: answered ++
      [.deliver (.control 0) 100])).sockets (.client 0)).written = [] := by decide +kernel
  have unpaged : ¬ Paged 0 (reach numbered (routed ++ .readEnd (.client 0) :: answered ++
      [.deliver (.control 0) 100])) := by
    rintro ⟨outcome, context, inside⟩
    rw [written] at inside
    cases inside
  have same := (whole numbered _ 0 "0" 0 (shown_of_shows (by decide +kernel)) unpaged
    (by decide +kernel) (by decide +kernel)).2
  rw [written] at same
  revert same
  decide +kernel

end Gateway

end OpticsHub
