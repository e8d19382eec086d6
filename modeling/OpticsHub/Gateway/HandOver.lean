import OpticsHub.Gateway.OneResponse

/-!
# What a pooled socket brings with it

Until it has read the line that opens its socket for a request, an Agent may send a heartbeat, and
after that it sends the answer. The two ends of the connection are reliable channels of bytes, and
what the Agent sends comes in pieces of any size. A socket that is taken for a request is not read
by the reader of heartbeats any more: what comes from then on is written to the client, heartbeats
too. The client gets the answer and nothing else exactly if all that the Agent has sent has been
read when its socket is taken, and it sends no heartbeat before it has read the line that opens the
socket. No part of an answer is lost or comes out of order.
-/
namespace OpticsHub

open Script Net Machine

namespace Gateway

/-! ## Bytes and lines -/

def Piece.value : Piece → Option UInt8
  | .byte value => some value
  | .page _ _ => none

/-- The bytes among what was written. -/
def bytesOf (told : List Piece) : Bytes := told.filterMap Piece.value

@[simp]
theorem bytesOf_nil : bytesOf [] = [] := rfl

@[simp]
theorem bytesOf_append (first second : List Piece) :
    bytesOf (first ++ second) = bytesOf first ++ bytesOf second := List.filterMap_append

@[simp]
theorem bytesOf_pieces (bytes : Bytes) : bytesOf (pieces bytes) = bytes := by
  induction bytes with
  | nil => rfl
  | cons value rest ih =>
    rw [pieces, List.map_cons, bytesOf, List.filterMap_cons]
    exact congrArg (value :: ·) ih

@[simp]
theorem bytesOf_page (outcome : PageOutcome) (context : ErrorContext) :
    bytesOf [.page outcome context] = [] := rfl

/-- What an idle Agent sends. -/
def ping : Bytes := encodeUtf8 (Text.ofString "PING" ++ [CodeUnit.newline])

/-- What the gateway writes to a socket that it accepts. -/
def accepted : Bytes := encodeUtf8 (Text.ofString "PRE:OK" ++ [CodeUnit.newline])

/-- How the line starts that opens a socket for a request. -/
def openVerb : Bytes := encodeUtf8 "OPEN "

/-- Whether one of the complete lines of what an Agent has read opens its socket. A line starts at
the beginning, or does not. -/
def opensIn : Bool → Bytes → Bool
  | _, [] => false
  | starts, value :: rest =>
    starts && openVerb.isPrefixOf (value :: rest) && (indexOf newline (value :: rest)).isSome ||
      opensIn ([value] == newline) rest

theorem opensIn_append {starts : Bool} {bytes : Bytes} (opens : opensIn starts bytes = true)
    (more : Bytes) : opensIn starts (bytes ++ more) = true := by
  induction bytes generalizing starts with
  | nil => cases opens
  | cons value rest ih =>
    simp only [opensIn, Bool.or_eq_true, Bool.and_eq_true] at opens
    rw [List.cons_append, opensIn, Bool.or_eq_true, Bool.and_eq_true, Bool.and_eq_true]
    rcases opens with ⟨⟨here, verb⟩, line⟩ | later
    · refine .inl ⟨⟨here, ?_⟩, isSome_append line more⟩
      rw [List.isPrefixOf_iff_prefix] at verb ⊢
      exact verb.trans (List.prefix_append _ more)
    · exact .inr (ih later)

/-- What the gateway writes to a socket that waits for a request. -/
def Idle (bytes : Bytes) : Prop :=
  ∃ lines : List Bytes, (∀ line ∈ lines, line = accepted ∨ line = pong) ∧ bytes = lines.flatten

theorem idle_nil : Idle [] := ⟨[], by simp, rfl⟩

theorem Idle.append {bytes more : Bytes} (idle : Idle bytes) (after : Idle more) :
    Idle (bytes ++ more) := by
  obtain ⟨lines, each, rfl⟩ := idle
  obtain ⟨later, each', rfl⟩ := after
  refine ⟨lines ++ later, fun line inside => ?_, List.flatten_append.symm⟩
  rcases List.mem_append.mp inside with before | new
  · exact each line before
  · exact each' line new

theorem idle_line {line : Bytes} (known : line = accepted ∨ line = pong) : Idle line :=
  ⟨[line], by simpa using known, by simp⟩

/-- No line that a waiting socket gets opens it. -/
theorem Idle.unopened {bytes : Bytes} (idle : Idle bytes) : opensIn true bytes = false := by
  obtain ⟨lines, each, rfl⟩ := idle
  have verb : openVerb = [0x4F, 0x50, 0x45, 0x4E, 0x20] := by decide +kernel
  induction lines with
  | nil => rfl
  | cons line rest ih =>
    have later := ih fun other inside => each other (List.mem_cons_of_mem _ inside)
    rw [List.flatten_cons]
    rcases each line List.mem_cons_self with rfl | rfl
    · rw [show accepted = [0x50, 0x52, 0x45, 0x3A, 0x4F, 0x4B, 0x0A] by decide +kernel]
      simpa [opensIn, verb, newline] using later
    · rw [show pong = [0x50, 0x4F, 0x4E, 0x47, 0x0A] by decide +kernel]
      simpa [opensIn, verb, newline] using later

/-- Heartbeats are answered by lines that open nothing. -/
theorem idle_answerLines (buffer : Bytes) (fuel : ℕ) : Idle (answerLines buffer fuel).1 := by
  induction fuel generalizing buffer with
  | zero => exact idle_nil
  | succ fuel ih =>
    simp only [answerLines]
    split
    · exact idle_nil
    · split
      · exact (idle_line (.inr rfl)).append (ih _)
      · exact ih _

/-! ## The Agents and the gateway -/

/-- An Agent's end of a connection. -/
structure Peer where
  /-- All that it has sent. -/
  sent : Bytes := []
  /-- How much it has read of what the gateway has written. -/
  heard : ℕ := 0
  /-- What it has sent since it read the line that opened its socket. -/
  response : Bytes := []

structure Linked where
  gateway : State := {}
  peers : ℕ → Peer

namespace Linked

variable (linked : Linked)

/-- What an Agent has read. -/
def read (control : ℕ) : Bytes :=
  bytesOf ((linked.gateway.sockets (.control control)).written.take (linked.peers control).heard)

/-- Whether an Agent has read the line that opens its socket. -/
def opened (control : ℕ) : Bool := opensIn true (linked.read control)

/-- What an Agent has sent and has not come yet. -/
def underway (control : ℕ) : Bytes :=
  (linked.peers control).sent.drop (linked.gateway.sockets (.control control)).received.length

def onPeer (control : ℕ) (change : Peer → Peer) : Linked :=
  { linked with peers := Function.update linked.peers control (change (linked.peers control)) }

end Linked

inductive Act where
  /-- Something else happens to the gateway than that bytes of an Agent come. -/
  | gateway (event : Event)
  /-- Bytes of an Agent come, of a number at most. -/
  | arrives (control count : ℕ)
  /-- An Agent reads. -/
  | reads (control count : ℕ)
  /-- An idle Agent sends a heartbeat. -/
  | pings (control : ℕ)
  /-- An Agent sends a part of an answer. -/
  | answers (control : ℕ) (bytes : Bytes)

/-- What an act is to the gateway. -/
def Linked.event (linked : Linked) : Act → Option Event
  | .gateway (.receive (.control _) _) => none
  | .gateway event => some event
  | .arrives control count =>
    some (.receive (.control control) ((linked.underway control).take count))
  | _ => none

/-- What an act is to the Agents. -/
def Linked.acted (linked : Linked) : Act → Linked
  | .reads control count =>
    linked.onPeer control fun peer =>
      { peer with
        heard := min (peer.heard + count)
          (linked.gateway.sockets (.control control)).written.length }
  | .pings control =>
    if linked.opened control then linked
    else linked.onPeer control fun peer => { peer with sent := peer.sent ++ ping }
  | .answers control bytes =>
    if linked.opened control then
      linked.onPeer control fun peer =>
        { peer with sent := peer.sent ++ bytes, response := peer.response ++ bytes }
    else linked
  | _ => linked

/-- An act of an Agent or of the gateway. What the gateway does is shown. -/
def interplay (identifiers : Identifiers) :
    Machine.Transition Linked Act (List (Event × List Observation))
  | linked, act =>
    match linked.event act with
    | some event =>
      let moved := step identifiers linked.gateway event
      ([(event, moved.1)], { linked.acted act with gateway := moved.2 })
    | none => ([], linked.acted act)

/-- Nothing has happened but that each Agent has sent its first line. -/
def Linked.started (greetings : ℕ → Bytes) : Linked where
  peers control := { sent := greetings control }

/-! ## What the gateway has written -/

/-- A socket that waits for a request has got nothing but lines that do not open it; a client that
is joined to nobody has got no bytes; and a pooled socket that is cut off does not flow. -/
structure Unopened (past : List (Event × List Observation)) (state : State) : Prop where
  quiet : ∀ {control station}, At past state.wiring (.control control) station →
    station = .verdict ∨ station = .pooled →
    Idle (bytesOf (state.sockets (.control control)).written)
  unfed : ∀ {client station}, At past state.wiring (.client client) station →
    station = .opened ∨ station = .asking ∨ station = .entered → bytesOf (state.told client) = []
  idle : ∀ {control client}, state.wiring.serves control = some client →
    state.listeners (.control control) = .none →
    (state.sockets (.control control)).flowing = false

theorem unopened_started : Unopened [] {} where
  quiet _ _ := idle_nil
  unfed _ _ := rfl
  idle served := by cases served

section Unopened

variable {identifiers : Identifiers} {past : List (Event × List Observation)} {state : State}
  {event : Event}

/-- A first line that asks for a place in a pool is answered by nothing yet. -/
theorem onControlData_verifies {control : ℕ} {chunk : Bytes} {agentUuid : Text}
    (fresh : (state.controls control).verifying = none)
    (verifies : ((onControlData control chunk state).2.controls control).verifying =
      some agentUuid) :
    ((onControlData control chunk state).2.sockets (.control control)).written =
      (state.sockets (.control control)).written := by
  simp only [onControlData] at verifies ⊢
  split
  · rfl
  · rename_i index found
    simp only [found] at verifies
    split
    · rename_i preconnects
      simp only [preconnects, if_true, handlePreconnect] at verifies ⊢
      split
      · rename_i rest
        simp [rest, reject, State.onSocket, State.onControl, State.listen, fresh] at verifies
      · split
        · rename_i reason failed
          simp_all [reject, State.onSocket, State.onControl, State.listen]
        · simp [State.onSocket, State.onControl, State.listen, Duplex.pause]
    · rename_i otherwise
      exfalso
      rw [Bool.not_eq_true] at otherwise
      simp only [otherwise, Bool.false_eq_true, if_false, present] at verifies
      split at verifies
      · simp [State.pipe, State.write, State.onSocket, State.onControl, State.listen, fresh]
          at verifies
      · simp [State.onSocket, State.onControl, State.listen, fresh] at verifies

/-- A socket that is paused and has no listener stays as it is, whatever it hands over. -/
theorem written_of_none {id : SocketId} {count : ℕ} (heard : state.listeners id = .none) :
    ((step identifiers state (.deliver id count)).2.sockets id).written =
      (state.sockets id).written := by
  simp only [step]
  split
  · cases id <;> simp [deliver, heard, State.onSocket, Duplex.advance]
  · rfl

/-- The reader of heartbeats writes lines that open nothing. -/
theorem idle_of_heartbeat {control count : ℕ}
    (heard : state.listeners (.control control) = .heartbeat)
    (idle : Idle (bytesOf (state.sockets (.control control)).written)) :
    Idle (bytesOf ((step identifiers state (.deliver (.control control) count)).2.sockets
      (.control control)).written) := by
  simp only [step]
  split
  · simp only [deliver, heard, onHeartbeat]
    split
    · simpa [State.onSocket, State.onControl, Duplex.advance] using idle
    · simp only [State.write, State.onSocket, State.onControl, Function.update_self, Duplex.write]
      split
      · simpa [Duplex.advance] using idle.append (idle_answerLines _ _)
      · simpa [Duplex.advance] using idle
  · exact idle

/-- A socket that is accepted is told so. -/
theorem idle_of_verdict {control : ℕ} {reply : Option (ℕ × Option Value)} {agentUuid : Text}
    (awaited : (state.controls control).verifying = some agentUuid)
    (ok : verifyWithHub reply = .ok ())
    (room : (state.pools.waiting agentUuid).length < maxPoolPerAgent)
    (idle : Idle (bytesOf (state.sockets (.control control)).written)) :
    Idle (bytesOf ((verified control reply state).sockets (.control control)).written) := by
  simp only [verified, awaited, ok, Nat.not_le_of_lt room, if_false, answerHeartbeat, State.write,
    State.onSocket, State.onControl, State.listen, Function.update_self, Duplex.resume,
    Duplex.write]
  split
  · simpa [accepted] using idle.append (idle_line (.inl rfl))
  · exact idle

/-- When the Hub has said what a socket is, it is not asked any more. -/
theorem verifying_verdict {control : ℕ} {reply : Option (ℕ × Option Value)} :
    (step identifiers state (.verdict control reply)).2.wiring.verifying control = none := by
  change ((verified control reply state).controls control).verifying = none
  simp only [verified]
  split
  · assumption
  · split
    · simp [reject, State.onSocket, State.onControl]
    · split
      · simp [reject, State.onSocket, State.onControl]
      · simp [answerHeartbeat, State.write, State.onSocket, State.onControl, State.listen]

/-- A socket that is bound to nobody after a step is written nothing by it, unless it hands
something over or the Hub says what it is. -/
theorem Standing.quiet_onward (standing : Standing identifiers past state) {control : ℕ}
    {station : Station}
    (here : At (past ++ [(event, (step identifiers state event).1)])
      (step identifiers state event).2.wiring (.control control) station)
    (apart : ∀ other, station ≠ .bound other)
    (unjudged : ∀ reply, event = .verdict control reply →
      (state.controls control).verifying = none)
    (silent : ∀ count, event = .deliver (.control control) count →
      (state.sockets (.control control)).delivers count = false) :
    ((step identifiers state event).2.sockets (.control control)).written =
      (state.sockets (.control control)).written := by
  have later := standing.stationed.onward standing.pooling event
  rcases standing.rests_unbound event
    (fun other bound => apart other (later.once here bound))
    (fun other reply same own => by
      obtain rfl := SocketId.control.inj own
      exact unjudged reply same) silent with ⟨client, own, -⟩ | still
  · cases own
  · exact still.calm.written

/-- Whoever serves a client serves it on, and is cut off only if it is paused. -/
theorem Standing.idle_onward (standing : Standing identifiers past state) {control client : ℕ}
    (served : state.wiring.serves control = some client)
    (idle : state.listeners (.control control) = .none →
      (state.sockets (.control control)).flowing = false)
    (none : (step identifiers state event).2.listeners (.control control) = .none) :
    ((step identifiers state event).2.sockets (.control control)).flowing = false := by
  have bound : At past state.wiring (.control control) (.bound (.client client)) := .serving served
  by_cases active : ∃ source count, (source = .control control ∨ source = .client client) ∧
      event = .deliver source count ∧ (state.sockets source).delivers count = true
  · obtain ⟨source, count, rfl | rfl, rfl, delivers⟩ := active
    · rcases standing.stationed.hears bound with cut | ⟨ends, piped⟩
      · simp [Duplex.delivers, idle cut] at delivers
      · have piped : state.listeners (.control control) = .pipe (.client client) ends := piped
        rw [(@sockets_of_piped identifiers _ _ _ _ _ delivers piped (by simp)).2.2, piped] at none
        cases none
    · rcases standing.stationed.hears bound.symm with cut | ⟨ends, piped⟩
      · have cut : state.listeners (.client client) = .none := cut
        have same : (step identifiers state (.deliver (.client client) count)).2 =
            state.onSocket (.client client) (Duplex.advance count) := by
          simp [step, delivers, deliver, cut]
        rw [same] at none ⊢
        simpa [State.onSocket] using idle none
      · have piped : state.listeners (.client client) = .pipe (.control control) ends := piped
        obtain ⟨-, told, listeners⟩ :=
          @sockets_of_piped identifiers _ _ _ _ _ delivers piped (by simp)
        rw [told, Duplex.flowing_write]
        exact idle (listeners ▸ none)
  · have silent (source : SocketId) (count : ℕ)
        (ends : source = .control control ∨ source = .client client)
        (same : event = .deliver source count) : (state.sockets source).delivers count = false :=
      Bool.eq_false_iff.mpr fun delivers => active ⟨source, count, ends, same, delivers⟩
    rcases standing.rests_bound event bound silent with ⟨other, own, -⟩ | still
    · cases own
    · rcases still.heard with same | ⟨-, paused⟩
      · rw [Bool.eq_false_iff]
        intro flows
        have flowed := still.calm.flowing flows
        rw [idle (same ▸ none)] at flowed
        cases flowed
      · exact paused

theorem Unopened.onward (unopened : Unopened past state)
    (standing : Standing identifiers past state) (relaying : Relaying identifiers past state)
    (event : Event) :
    Unopened (past ++ [(event, (step identifiers state event).1)])
      (step identifiers state event).2 where
  quiet {control station} here waits := by
    have move := step_moves identifiers state event
    have apart (other : SocketId) : station ≠ .bound other := by
      rintro rfl
      simp at waits
    by_cases active : ∃ count, event = .deliver (.control control) count ∧
        (state.sockets (.control control)).delivers count = true
    · obtain ⟨count, rfl, delivers⟩ := active
      cases here with
      | verdict awaited =>
        rcases verdict_move move awaited with already | opened
        · rw [written_of_none (standing.stationed.hears (.verdict already))]
          exact unopened.quiet (.verdict already) (.inl rfl)
        · have heard : state.listeners (.control control) = .onData := opened
          have blank := relaying.blank control heard
          have fresh := (standing.pooling.fresh control opened).1
          have awaited : ((step identifiers state (.deliver (.control control) count)).2.controls
            control).verifying = some _ := awaited
          simp only [step, delivers, if_true, deliver, heard] at awaited ⊢
          rw [@onControlData_verifies (state.onSocket (.control control) (Duplex.advance count))
            control _ _ fresh awaited]
          simpa [State.onSocket, Duplex.advance, blank] using idle_nil
      | pooled inside =>
        rcases standing.pooling.waiting_move move inside with already | ⟨reply, same, -⟩
        · exact idle_of_heartbeat (standing.stationed.hears (.pooled already))
            (unopened.quiet (.pooled already) (.inr rfl))
        · cases same
      | _ => simp at waits
    · have silent (count : ℕ) (same : event = .deliver (.control control) count) :
          (state.sockets (.control control)).delivers count = false :=
        Bool.eq_false_iff.mpr fun delivers => active ⟨count, same, delivers⟩
      cases here with
      | verdict awaited =>
        have still : ∀ reply, event = .verdict control reply →
            (state.controls control).verifying = none := by
          rintro reply rfl
          rw [verifying_verdict] at awaited
          cases awaited
        rw [standing.quiet_onward (.verdict awaited) apart still silent]
        rcases verdict_move move awaited with already | opened
        · exact unopened.quiet (.verdict already) (.inl rfl)
        · rw [relaying.blank control opened]
          exact idle_nil
      | pooled inside =>
        rcases standing.pooling.waiting_move move inside with
          already | ⟨reply, rfl, ok, awaited, room⟩
        · have still : ∀ reply, event = .verdict control reply →
              (state.controls control).verifying = none := by
            rintro reply rfl
            cases verifying : (state.controls control).verifying with
            | none => rfl
            | some agentUuid =>
              cases standing.stationed.once (.pooled already) (.verdict verifying)
          rw [standing.quiet_onward (.pooled inside) apart still silent]
          exact unopened.quiet (.pooled already) (.inr rfl)
        · exact idle_of_verdict awaited ok room (unopened.quiet (.verdict awaited) (.inl rfl))
      | _ => simp at waits
  unfed {client station} here waits := by
    have before : bytesOf (state.told client) = [] := by
      rcases client_came here waits with same | ⟨-, opened, -⟩ | ⟨-, asking⟩
      · exact unopened.unfed same waits
      · exact unopened.unfed opened (.inl rfl)
      · exact unopened.unfed asking (.inr (.inl rfl))
    have later := standing.stationed.onward standing.pooling event
    cases adds_step identifiers state event client with
    | nothing same => rw [same, before]
    | bytes writable bytes more source =>
      have bound : ∃ other, At (past ++ [(event, (step identifiers state event).1)])
          (step identifiers state event).2.wiring (.client client) (.bound other) := by
        rcases standing.told_by source with ⟨-, control, token, paired⟩ | ⟨id, -, -, bound, -⟩
        · exact ⟨_, .awaited (shown_append.mpr (.inr paired))⟩
        · exact ⟨_, bound.bound fun _ _ served => standing.serves_stays event served⟩
      obtain ⟨other, bound⟩ := bound
      obtain rfl := later.once here bound
      simp at waits
    | page writable outcome context more ended reason =>
      rw [more, bytesOf_append, before]
      rfl
  idle {control client} served none := by
    rcases served_move (step_moves identifiers state event) served with before | ⟨-, -, piped⟩
    · exact standing.idle_onward before (unopened.idle before) none
    · have piped : (step identifiers state event).2.listeners (.control control) =
          .pipe (.client client) false := piped
      rw [piped] at none
      cases none

end Unopened

/-! ## What a client gets of its pooled socket -/

/-- A client that takes what is written to it, and has got no error page. -/
structure Listening (state : State) (client : ℕ) : Prop where
  alive : (state.sockets (.client client)).destroyed = false
  unpaged : ¬ Paged client state

/-- A client has got a first part of the answer of an Agent and nothing else; and as long as it
listens, what it has got, what waits in the socket and what has not come yet are the answer. -/
structure Answered (linked : Linked) (control client : ℕ) : Prop where
  begins : bytesOf (linked.gateway.told client) <+: (linked.peers control).response
  whole : Listening linked.gateway client →
    bytesOf (linked.gateway.told client) ++
      ((linked.gateway.sockets (.control control)).pending ++ linked.underway control) =
        (linked.peers control).response

/-- Every client that a pooled socket serves gets the answer of the Agent. -/
def Faithful (linked : Linked) : Prop :=
  ∀ control client, (linked.gateway.controls control).serves = some client →
    Answered linked control client

/-- The socket that the body of a lookup has a client handed to: the first of the pool of the Agent
that can be used. -/
def nextPooled (state : State) (body : Option Value) : Option ℕ :=
  match member "agent_uuid" body, servicePort body with
  | some (.string agentUuid), some _ =>
    (Pools.firstUsable (usable state) (state.pools.waiting agentUuid)).map Prod.fst
  | _, _ => none

/-- All that an Agent has sent has been read when its socket is taken for a client that listens;
and no heartbeat is sent while the Agent has not read the line that opens its socket, and the
client that it serves listens. -/
def Undisturbed (linked : Linked) : Act → Prop
  | .gateway (.body client body) =>
    (linked.gateway.clients client).awaiting = .routing → Listening linked.gateway client →
      ∀ control, nextPooled linked.gateway body = some control →
        (linked.gateway.sockets (.control control)).pending = [] ∧ linked.underway control = []
  | .pings control =>
    linked.opened control = false →
      ∀ client, (linked.gateway.controls control).serves = some client →
        ¬ Listening linked.gateway client
  | _ => True

section Serving

variable {identifiers : Identifiers} {past : List (Event × List Observation)} {state : State}
  {event : Event} {control client : ℕ}

/-- A claim takes the first socket that can be used. -/
theorem claim_fst (free : ℕ → Bool) (agentUuid : Text) (pools : Pools) :
    (pools.claim free agentUuid).1 =
      (Pools.firstUsable free (pools.waiting agentUuid)).map Prod.fst := by
  simp only [Pools.claim]
  cases here : pools.get agentUuid with
  | none => simp [Pools.waiting, here, Pools.firstUsable]
  | some pool =>
    simp only [Pools.waiting_of_get here]
    cases Pools.firstUsable free (pools.sets pool) <;> rfl

theorem nextPooled_of_named {body : Option Value} {agentUuid : Text} {port : Number}
    (routed : member "agent_uuid" body = some (.string agentUuid))
    (named : servicePort body = some port) :
    nextPooled state body = (state.pools.claim (usable state) agentUuid).1 := by
  rw [claim_fst]
  simp [nextPooled, routed, named]

theorem nextPooled_eq_some {body : Option Value} (next : nextPooled state body = some control) :
    ∃ agentUuid port left, member "agent_uuid" body = some (.string agentUuid) ∧
      servicePort body = some port ∧
      state.pools.claim (usable state) agentUuid = (some control, left) := by
  simp only [nextPooled] at next
  split at next
  · rename_i agentUuid port routed named
    rw [← claim_fst] at next
    exact ⟨agentUuid, port, _, routed, named, Prod.ext next rfl⟩
  · cases next

/-- A client is served on, or is handed over by the body of a lookup. -/
theorem serves_now (served : (step identifiers state event).2.wiring.serves control = some client) :
    state.wiring.serves control = some client ∨
      ∃ body, event = .body client body ∧ (state.clients client).awaiting = .routing ∧
        nextPooled state body = some control := by
  rcases served_move (step_moves identifiers state event) served with
    before | ⟨routing, ⟨body, rfl⟩, -⟩
  · exact .inl before
  · have routing : (state.clients client).awaiting = .routing := routing
    by_cases already : state.wiring.serves control = some client
    · exact .inl already
    refine .inr ⟨body, rfl, routing, ?_⟩
    have unserved (agentUuid : Text) :
        (claimPreconnected agentUuid state).2.wiring.serves = state.wiring.serves := by
      simp only [claimPreconnected]
      split
      · rfl
      · obtain ⟨detached, same, -⟩ := @detached_cases
          { state with pools := (state.pools.claim (usable state) agentUuid).2 } _
        rw [same]
        rfl
    have kept (before : State) (same : before.wiring.serves = state.wiring.serves)
        (served : (registerClient identifiers client before).2.wiring.serves control =
          some client) : False := by
      rw [wiring_registerClient] at served
      exact already (same ▸ served)
    simp only [step, onBody, routing, onRouting] at served
    split at served
    · rename_i agentUuid routed
      split at served
      · rename_i control' port claimed named
        rw [nextPooled_of_named routed named]
        split at served
        · rw [wiring_usePooled] at served
          by_cases self : control = control'
          · subst self
            simp only [claimPreconnected] at claimed
            split at claimed
            · cases claimed
            · rename_i found
              exact found.trans claimed
          · exfalso
            apply already
            rw [← unserved agentUuid]
            simpa [Wiring.serve, self] using served
        · exact (kept _ (unserved _) served).elim
      · exact (kept _ (unserved _) served).elim
    · exact (kept _ rfl served).elim

end Serving

/-! ## Along a run -/

/-- The events that the acts of a run are to the gateway. -/
def gatewayPast (past : List (Act × List (Event × List Observation))) :
    List (Event × List Observation) :=
  past.flatMap Prod.snd

/-- What is known of the gateway, and of the Agents: what has come is a first part of what was
sent, and no answer is sent before the line that opens the socket is written. -/
structure Tracked (identifiers : Identifiers) (past : List (Act × List (Event × List Observation)))
    (linked : Linked) : Prop where
  traced : Traced identifiers (gatewayPast past) linked.gateway
  relaying : Relaying identifiers (gatewayPast past) linked.gateway
  answering : Answering (gatewayPast past) linked.gateway
  unopened : Unopened (gatewayPast past) linked.gateway
  sent : ∀ control, (linked.gateway.sockets (.control control)).received <+:
    (linked.peers control).sent
  unanswered : ∀ control, opensIn true
    (bytesOf (linked.gateway.sockets (.control control)).written) = false →
      (linked.peers control).response = []

theorem tracked_started (identifiers : Identifiers) (greetings : ℕ → Bytes) :
    Tracked identifiers [] (Linked.started greetings) where
  traced := traced_started identifiers
  relaying := relaying_started identifiers
  answering := answering_started
  unopened := unopened_started
  sent _ := List.nil_prefix
  unanswered _ _ := rfl

section Along

variable {identifiers : Identifiers} {past : List (Act × List (Event × List Observation))}
  {linked : Linked} {event : Event} {control client : ℕ}

/-- What an Agent has read, the gateway has written. -/
theorem Linked.read_prefix (linked : Linked) (control : ℕ) :
    linked.read control <+: bytesOf (linked.gateway.sockets (.control control)).written :=
  (List.take_prefix _ _).filterMap _

theorem Linked.opened_written (opened : linked.opened control = true) :
    opensIn true (bytesOf (linked.gateway.sockets (.control control)).written) = true := by
  obtain ⟨more, same⟩ := linked.read_prefix control
  rw [← same]
  exact opensIn_append opened more

/-- What an act is to the gateway, if it is anything. -/
theorem interplay_gateway (act : Act) :
    (∃ event, linked.event act = some event ∧
        interplay identifiers linked act =
          ([(event, (step identifiers linked.gateway event).1)],
            { linked.acted act with gateway := (step identifiers linked.gateway event).2 })) ∨
      linked.event act = none ∧ interplay identifiers linked act = ([], linked.acted act) := by
  simp only [interplay]
  split
  · rename_i event same
    exact .inl ⟨event, same, rfl⟩
  · rename_i none
    exact .inr ⟨none, rfl⟩

@[simp]
theorem acted_gateway (act : Act) : (linked.acted act).gateway = linked.gateway := by
  cases act with
  | pings control =>
    simp only [Linked.acted]
    split <;> rfl
  | answers control bytes =>
    simp only [Linked.acted]
    split <;> rfl
  | _ => rfl

/-- Bytes that come to the gateway from an Agent were on the way. -/
theorem underway_of_receive {act : Act} {bytes : Bytes}
    (same : linked.event act = some (.receive (.control control) bytes)) :
    ∃ count, bytes = (linked.underway control).take count := by
  cases act with
  | gateway event =>
    cases event with
    | receive id bytes' =>
      cases id with
      | client client => cases same
      | control control' => cases same
    | _ => cases same
  | arrives control' count =>
    cases same
    exact ⟨count, rfl⟩
  | _ => cases same

/-- What has come to a socket, and what comes. -/
theorem received_step (state : State) (event : Event) (id : SocketId) :
    ((step identifiers state event).2.sockets id).received = (state.sockets id).received ∨
      ∃ bytes, event = .receive id bytes ∧
        (step identifiers state event).2.sockets id = (state.sockets id).receive bytes := by
  by_cases comes : ∃ bytes, event = .receive id bytes ∧ (state.sockets id).receives = true
  · obtain ⟨bytes, rfl, receives⟩ := comes
    exact .inr ⟨bytes, rfl, by simp [step, receives, State.onSocket]⟩
  · left
    have respected : Respected fun before after : Duplex Piece =>
        after.received = before.received :=
      { refl := fun _ => rfl
        trans := fun first second => second.trans first
        write := fun socket units => (socket.holds_write units).received
        endWith := fun socket units => (socket.holds_endWith units).received
        endStream := fun _ => rfl
        readEnd := fun _ => rfl
        pause := fun _ => rfl
        resume := fun _ => rfl }
    refine related_step respected state event fun own happens => ?_
    cases event with
    | receive target bytes =>
      obtain rfl := Option.some.inj own
      exact absurd ⟨bytes, rfl, happens⟩ comes
    | deliver target count =>
      simp [Event.change, Duplex.received, Duplex.advance, Duplex.chunk]
    | _ => rfl

/-- What is an event for the gateway changes no Agent. -/
theorem acted_of_event {act : Act} (same : linked.event act = some event) :
    linked.acted act = linked := by
  cases act with
  | gateway event => rfl
  | arrives control count => rfl
  | _ => cases same

/-- What an act adds to what an Agent has sent and answered. -/
theorem acted_sends (act : Act) (control : ℕ) :
    (linked.acted act).peers control = linked.peers control ∨
      (∃ count, act = .reads control count ∧
        ((linked.acted act).peers control).sent = (linked.peers control).sent ∧
        ((linked.acted act).peers control).response = (linked.peers control).response) ∨
      (act = .pings control ∧ linked.opened control = false ∧
        ((linked.acted act).peers control).sent = (linked.peers control).sent ++ ping ∧
        ((linked.acted act).peers control).response = (linked.peers control).response) ∨
      ∃ bytes, act = .answers control bytes ∧ linked.opened control = true ∧
        ((linked.acted act).peers control).sent = (linked.peers control).sent ++ bytes ∧
        ((linked.acted act).peers control).response =
          (linked.peers control).response ++ bytes := by
  cases act with
  | reads other count =>
    by_cases self : control = other
    · subst self
      exact .inr (.inl ⟨count, rfl, by simp [Linked.acted, Linked.onPeer]⟩)
    · exact .inl (by simp [Linked.acted, Linked.onPeer, self])
  | pings other =>
    cases opened : linked.opened other with
    | true => exact .inl (by simp [Linked.acted, opened])
    | false =>
      by_cases self : control = other
      · subst self
        exact .inr (.inr (.inl ⟨rfl, opened, by simp [Linked.acted, Linked.onPeer, opened]⟩))
      · exact .inl (by simp [Linked.acted, Linked.onPeer, opened, self])
  | answers other bytes =>
    cases opened : linked.opened other with
    | false => exact .inl (by simp [Linked.acted, opened])
    | true =>
      by_cases self : control = other
      · subst self
        exact .inr (.inr (.inr ⟨bytes, rfl, opened, by
          simp [Linked.acted, Linked.onPeer, opened]⟩))
      · exact .inl (by simp [Linked.acted, Linked.onPeer, opened, self])
  | _ => exact .inl rfl

theorem Tracked.onward (tracked : Tracked identifiers past linked) (act : Act) :
    Tracked identifiers (past ++ [(act, (interplay identifiers linked act).1)])
      (interplay identifiers linked act).2 := by
  have appended (shown : List (Event × List Observation)) :
      gatewayPast (past ++ [(act, shown)]) = gatewayPast past ++ shown := by
    simp [gatewayPast]
  rcases @interplay_gateway identifiers linked act with ⟨event, same, moved⟩ | ⟨none, moved⟩
  · rw [moved, acted_of_event same]
    have standing := tracked.traced.toStanding
    constructor
    case traced =>
      rw [appended]
      exact tracked.traced.onward event
    case relaying =>
      rw [appended]
      exact tracked.relaying.onward standing event
    case answering =>
      rw [appended]
      exact tracked.answering.onward tracked.traced tracked.relaying event
    case unopened =>
      rw [appended]
      exact tracked.unopened.onward standing tracked.relaying event
    case sent =>
      intro control
      obtain ⟨later, whole⟩ := tracked.sent control
      rcases @received_step identifiers linked.gateway event (.control control) with
        unchanged | ⟨bytes, rfl, received⟩
      · simp only [unchanged]
        exact ⟨later, whole⟩
      · obtain ⟨count, rfl⟩ := underway_of_receive same
        obtain rfl : linked.underway control = later := by
          rw [Linked.underway, ← whole, List.drop_left]
        have parts := List.take_append_drop count (linked.underway control)
        refine ⟨(linked.underway control).drop count, ?_⟩
        simp only [received, Duplex.received, Duplex.receive]
        rw [← whole, Duplex.received, List.append_assoc, List.append_assoc, List.append_assoc,
          parts]
    case unanswered =>
      intro control unopened
      refine tracked.unanswered control (Bool.eq_false_iff.mpr fun opens => ?_)
      obtain ⟨more, written⟩ := written_step identifiers linked.gateway event (.control control)
      have opens' := opensIn_append opens (bytesOf more)
      rw [← bytesOf_append, written, unopened] at opens'
      cases opens'
  · rw [moved]
    constructor
    case traced =>
      rw [appended, List.append_nil, acted_gateway]
      exact tracked.traced
    case relaying =>
      rw [appended, List.append_nil, acted_gateway]
      exact tracked.relaying
    case answering =>
      rw [appended, List.append_nil, acted_gateway]
      exact tracked.answering
    case unopened =>
      rw [appended, List.append_nil, acted_gateway]
      exact tracked.unopened
    case sent =>
      intro control
      have before := tracked.sent control
      rw [acted_gateway]
      rcases @acted_sends linked act control with
        same | ⟨count, -, sent, -⟩ | ⟨-, -, sent, -⟩ | ⟨bytes, -, -, sent, -⟩
      · rw [same]
        exact before
      · rw [sent]
        exact before
      · rw [sent]
        exact before.trans (List.prefix_append _ _)
      · rw [sent]
        exact before.trans (List.prefix_append _ _)
    case unanswered =>
      intro control unopened
      rw [acted_gateway] at unopened
      have before := tracked.unanswered control unopened
      rcases @acted_sends linked act control with
        same | ⟨count, -, -, response⟩ | ⟨-, -, -, response⟩ | ⟨bytes, -, opened, -⟩
      · rw [same]
        exact before
      · rw [response]
        exact before
      · rw [response]
        exact before
      · rw [Linked.opened_written opened] at unopened
        cases unopened

/-- What comes of the rest of a text, and what is left of it then. -/
theorem take_append_drop_length (sent received : Bytes) (count : ℕ) :
    (sent.drop received.length).take count ++
        sent.drop (received ++ (sent.drop received.length).take count).length =
      sent.drop received.length := by
  rw [List.length_append, ← List.drop_drop]
  exact (List.prefix_iff_eq_append.mp (List.take_prefix count _))

/-- What waits in a socket and what has not come yet are the same bytes, however many of them come
in between. -/
theorem Linked.conveyed (identifiers : Identifiers) (linked : Linked)
    (comes : ∀ bytes, event = .receive (.control control) bytes →
      ∃ count, bytes = (linked.underway control).take count)
    (silent : ∀ count, event = .deliver (.control control) count →
      (linked.gateway.sockets (.control control)).delivers count = false) :
    ((step identifiers linked.gateway event).2.sockets (.control control)).pending ++
        { linked with gateway := (step identifiers linked.gateway event).2 }.underway control =
      (linked.gateway.sockets (.control control)).pending ++ linked.underway control := by
  by_cases receives : ∃ bytes, event = .receive (.control control) bytes ∧
      (linked.gateway.sockets (.control control)).receives = true
  · obtain ⟨bytes, rfl, receives⟩ := receives
    obtain ⟨count, rfl⟩ := comes bytes rfl
    have socket : (step identifiers linked.gateway (.receive (.control control)
        ((linked.underway control).take count))).2.sockets (.control control) =
          (linked.gateway.sockets (.control control)).receive
            ((linked.underway control).take count) := by
      simp [step, receives, State.onSocket]
    have received : ((linked.gateway.sockets (.control control)).receive
        ((linked.underway control).take count)).received =
          (linked.gateway.sockets (.control control)).received ++
            (linked.underway control).take count :=
      (List.append_assoc _ _ _).symm
    change _ ++ (linked.peers control).sent.drop _ = _
    rw [socket, received]
    exact (List.append_assoc _ _ _).trans
      (congrArg (_ ++ ·) (take_append_drop_length _ _ count))
  · have holds := holds_step identifiers linked.gateway
      (fun bytes same => Bool.eq_false_iff.mpr fun yes => receives ⟨bytes, same, yes⟩) silent
    rw [holds.pending]
    simp only [Linked.underway, holds.received]

/-- What a client has got of a socket that hands nothing over. -/
theorem Tracked.told_same (tracked : Tracked identifiers past linked)
    (served : linked.gateway.wiring.serves control = some client)
    (silent : ∀ count, event = .deliver (.control control) count →
      (linked.gateway.sockets (.control control)).delivers count = false) :
    bytesOf ((step identifiers linked.gateway event).2.told client) =
      bytesOf (linked.gateway.told client) := by
  have standing := tracked.traced.toStanding
  have bound : At (gatewayPast past) linked.gateway.wiring (.client client)
      (.bound (.control control)) := .served served
  cases adds_step identifiers linked.gateway event client with
  | nothing same => rw [same]
  | bytes writable bytes more source =>
    rcases standing.told_by source with ⟨entered, -⟩ | ⟨id, count, ends, joined, same, delivers, -⟩
    · cases standing.stationed.once bound entered
    · obtain rfl := Station.bound.inj (standing.stationed.once bound joined)
      rw [silent count same] at delivers
      cases delivers
  | page writable outcome context more ended reason =>
    rw [more, bytesOf_append, bytesOf_page, List.append_nil]

/-- A client that listens after a step did so before. -/
theorem Listening.before {state : State}
    (listening : Listening (step identifiers state event).2 client) : Listening state client :=
  ⟨destroyed_step identifiers state listening.alive,
    fun paged => listening.unpaged (paged.onward event)⟩

/-- What a pooled socket hands over is written to its client. -/
theorem Tracked.answered_delivers (tracked : Tracked identifiers past linked)
    (served : linked.gateway.wiring.serves control = some client)
    (answered : Answered linked control client) {count : ℕ}
    (delivers : (linked.gateway.sockets (.control control)).delivers count = true) :
    Answered { linked with
      gateway := (step identifiers linked.gateway (.deliver (.control control) count)).2 }
      control client := by
  have bound : At (gatewayPast past) linked.gateway.wiring (.control control)
      (.bound (.client client)) := .serving served
  have piped : ∃ ends,
      linked.gateway.listeners (.control control) = .pipe (.client client) ends := by
    refine (tracked.traced.stationed.hears bound).resolve_left fun none => ?_
    simp [Duplex.delivers, tracked.unopened.idle served none] at delivers
  obtain ⟨ends, piped⟩ := piped
  obtain ⟨own, told, -⟩ := @sockets_of_piped identifiers _ _ _ _ _ delivers piped (by simp)
  have same : ((step identifiers linked.gateway (.deliver (.control control) count)).2.sockets
      (.control control)).received =
        (linked.gateway.sockets (.control control)).received := by
    rw [own]
    simp [Duplex.received, Duplex.advance, Duplex.chunk]
  have rest : ({ linked with
      gateway := (step identifiers linked.gateway (.deliver (.control control) count)).2 } :
        Linked).underway control = linked.underway control := by
    simp only [Linked.underway, same]
  by_cases writable : (linked.gateway.sockets (.client client)).writable = true
  · have listening : Listening linked.gateway client := by
      refine ⟨?_, fun paged => ?_⟩
      · simp only [Duplex.writable, Bool.and_eq_true, Bool.not_eq_true'] at writable
        exact writable.2
      · rw [tracked.answering.paged paged] at writable
        cases writable
    have got : (step identifiers linked.gateway (.deliver (.control control) count)).2.told
        client = linked.gateway.told client ++
          pieces ((linked.gateway.sockets (.control control)).chunk count) := by
      rw [State.told, told, Duplex.write, if_pos writable]
      rfl
    have whole : bytesOf ((step identifiers linked.gateway
        (.deliver (.control control) count)).2.told client) ++
          (((step identifiers linked.gateway (.deliver (.control control) count)).2.sockets
            (.control control)).pending ++ linked.underway control) =
              (linked.peers control).response := by
      rw [got, own, bytesOf_append, bytesOf_pieces, ← answered.whole listening]
      simp only [Duplex.advance, Duplex.chunk, List.append_assoc]
      rw [← List.append_assoc (List.take _ _), List.take_append_drop]
    refine ⟨⟨_, whole⟩, fun _ => ?_⟩
    rw [rest]
    exact whole
  · have got : (step identifiers linked.gateway (.deliver (.control control) count)).2.told
        client = linked.gateway.told client := by
      rw [State.told, told, Duplex.write, if_neg writable]
      rfl
    refine ⟨?_, fun listening => ?_⟩
    · rw [got]
      exact answered.begins
    · have dead := listening.alive
      rw [told, Duplex.write, if_neg writable] at dead
      cases dead

/-- A client that is served on gets the answer. -/
theorem Tracked.answered_onward (tracked : Tracked identifiers past linked)
    (served : linked.gateway.wiring.serves control = some client)
    (answered : Answered linked control client)
    (comes : ∀ bytes, event = .receive (.control control) bytes →
      ∃ count, bytes = (linked.underway control).take count) :
    Answered { linked with gateway := (step identifiers linked.gateway event).2 }
      control client := by
  by_cases active : ∃ count, event = .deliver (.control control) count ∧
      (linked.gateway.sockets (.control control)).delivers count = true
  · obtain ⟨count, rfl, delivers⟩ := active
    exact tracked.answered_delivers served answered delivers
  · have silent (count : ℕ) (same : event = .deliver (.control control) count) :
        (linked.gateway.sockets (.control control)).delivers count = false :=
      Bool.eq_false_iff.mpr fun delivers => active ⟨count, same, delivers⟩
    have told := tracked.told_same served silent
    refine ⟨?_, fun listening => ?_⟩
    · rw [told]
      exact answered.begins
    · rw [told, linked.conveyed identifiers comes silent]
      exact answered.whole listening.before

/-- Handing a client over does not destroy it. -/
theorem destroyed_of_next {state : State} {body : Option Value}
    (routing : (state.clients client).awaiting = .routing)
    (next : nextPooled state body = some control) :
    ((step identifiers state (.body client body)).2.sockets (.client client)).destroyed =
      (state.sockets (.client client)).destroyed := by
  obtain ⟨agentUuid, port, left, routed, named, claimed⟩ := nextPooled_eq_some next
  have free : usable (detachHeartbeat control { state with pools := left }) control = true :=
    (usable_detachHeartbeat control control).trans (Pools.usable_of_claim claimed)
  have kept : (detachHeartbeat control { state with pools := left }).sockets (.client client) =
      state.sockets (.client client) := by
    simp only [detachHeartbeat]
    split
    · simp [State.onSocket, State.listen]
    · rfl
  simp only [step, onBody, routing, onRouting, routed, claimPreconnected, claimed, named, free,
    if_true, usePooled]
  rw [(pipe_sockets _ _ _ _ _).2, (pipe_sockets _ _ _ _ _).2, ← kept]
  simp [State.write, State.onSocket, State.onControl, State.onClient]

/-- A client that is handed over now has got nothing, and neither has the Agent answered: it gets
the answer exactly if nothing that the Agent has sent is left. -/
theorem Tracked.answered_now_iff (tracked : Tracked identifiers past linked) {body : Option Value}
    (routing : (linked.gateway.clients client).awaiting = .routing)
    (next : nextPooled linked.gateway body = some control) :
    Answered { linked with gateway := (step identifiers linked.gateway (.body client body)).2 }
        control client ↔
      (Listening linked.gateway client →
        (linked.gateway.sockets (.control control)).pending = [] ∧
          linked.underway control = []) := by
  have standing := tracked.traced.toStanding
  obtain ⟨agentUuid, port, left, routed, named, claimed⟩ := nextPooled_eq_some next
  have asking : At (gatewayPast past) linked.gateway.wiring (.client client) .asking :=
    .asking (.inr routing)
  have pooled : At (gatewayPast past) linked.gateway.wiring (.control control) .pooled :=
    (standing.pooling.taken claimed).1
  have silence : (linked.peers control).response = [] :=
    tracked.unanswered control (tracked.unopened.quiet pooled (.inr rfl)).unopened
  have told : (step identifiers linked.gateway (.body client body)).2.told client =
      linked.gateway.told client := by
    cases adds_step identifiers linked.gateway (.body client body) client with
    | nothing same => exact same
    | bytes writable bytes more source =>
      rcases standing.told_by source with ⟨entered, -⟩ | ⟨id, -, -, bound, -⟩
      · cases standing.stationed.once asking entered
      · cases standing.stationed.once asking bound
    | page writable outcome context more ended reason =>
      cases reason with
      | refused awaited =>
        rw [routing] at awaited
        cases awaited
  have blank : bytesOf (linked.gateway.told client) = [] :=
    tracked.unopened.unfed asking (.inr (.inl rfl))
  have conveyed :
      ((step identifiers linked.gateway (.body client body)).2.sockets (.control control)).pending ++
          { linked with
            gateway := (step identifiers linked.gateway (.body client body)).2 }.underway control =
        (linked.gateway.sockets (.control control)).pending ++ linked.underway control :=
    linked.conveyed identifiers (by simp) (by simp)
  constructor
  · intro answered listening
    have after : Listening (step identifiers linked.gateway (.body client body)).2 client := by
      refine ⟨(destroyed_of_next routing next).trans listening.alive, fun paged => ?_⟩
      obtain ⟨outcome, context, inside⟩ := paged
      refine listening.unpaged ⟨outcome, context, ?_⟩
      change _ ∈ linked.gateway.told client
      rw [← told]
      exact inside
    have whole := answered.whole after
    rw [told, blank, List.nil_append, conveyed, silence] at whole
    exact List.append_eq_nil_iff.mp whole
  · intro nothing
    refine ⟨?_, fun listening => ?_⟩
    · rw [told, blank]
      exact List.nil_prefix
    · obtain ⟨pending, underway⟩ := nothing listening.before
      rw [told, blank, conveyed, pending, underway, silence]
      rfl

/-- Of what happens to the gateway, only the body of a lookup disturbs an answer. -/
theorem undisturbed_iff_of_event {act : Act} (same : linked.event act = some event) :
    Undisturbed linked act ↔ ∀ client body, event = .body client body →
      Undisturbed linked (.gateway (.body client body)) := by
  cases act with
  | gateway event' =>
    cases event' with
    | receive id bytes =>
      cases id with
      | client client =>
        cases same
        exact iff_of_true trivial fun _ _ other => by cases other
      | control control => cases same
    | body client body =>
      cases same
      refine ⟨fun undisturbed _ _ other => ?_, fun undisturbed => undisturbed _ _ rfl⟩
      cases other
      exact undisturbed
    | _ =>
      cases same
      exact iff_of_true trivial fun _ _ other => by cases other
  | arrives control count =>
    cases same
    exact iff_of_true trivial fun _ _ other => by cases other
  | _ => cases same

/-- A step of the gateway leaves every client with the answer exactly if it takes no socket from
which something is still to come. -/
theorem Tracked.faithful_step_iff (tracked : Tracked identifiers past linked)
    (faithful : Faithful linked)
    (comes : ∀ control bytes, event = .receive (.control control) bytes →
      ∃ count, bytes = (linked.underway control).take count) :
    Faithful { linked with gateway := (step identifiers linked.gateway event).2 } ↔
      ∀ client body, event = .body client body →
        Undisturbed linked (.gateway (.body client body)) := by
  constructor
  · rintro later client body rfl routing listening control next
    obtain ⟨agentUuid, port, left, routed, named, claimed⟩ := nextPooled_eq_some next
    have served := @serves_of_body identifiers _ _ _ _ _ _ _ routing routed claimed named
    exact (tracked.answered_now_iff routing next).mp (later control client served) listening
  · intro undisturbed control client served
    rcases serves_now served with before | ⟨body, rfl, routing, next⟩
    · exact tracked.answered_onward before (faithful control client before) (comes control)
    · exact (tracked.answered_now_iff routing next).mpr fun listening =>
        undisturbed client body rfl routing listening control next

/-- What an Agent does leaves every client with the answer exactly if it is no heartbeat behind
which the answer would come. -/
theorem Tracked.faithful_acted_iff (tracked : Tracked identifiers past linked)
    (faithful : Faithful linked) {act : Act} (none : linked.event act = none) :
    Faithful (linked.acted act) ↔ Undisturbed linked act := by
  have rest {control : ℕ} {bytes : Bytes}
      (sent : ((linked.acted act).peers control).sent = (linked.peers control).sent ++ bytes) :
      (linked.acted act).underway control = linked.underway control ++ bytes := by
    rw [Linked.underway, Linked.underway, sent, acted_gateway]
    exact List.drop_append_of_le_length (tracked.sent control).length_le
  constructor
  · intro later
    cases act with
    | pings control =>
      intro unopened client served listening
      have sent : ((linked.acted (.pings control)).peers control).sent =
          (linked.peers control).sent ++ ping := by
        simp [Linked.acted, Linked.onPeer, unopened]
      have response : ((linked.acted (.pings control)).peers control).response =
          (linked.peers control).response := by
        simp [Linked.acted, Linked.onPeer, unopened]
      have before := (faithful control client served).whole listening
      have after := (later control client (by rwa [acted_gateway])).whole
        (by rwa [acted_gateway])
      rw [rest sent, response, acted_gateway, ← before] at after
      have nothing := List.append_right_eq_self.mp
        (List.append_cancel_left (List.append_cancel_left after))
      exact absurd nothing (by decide +kernel)
    | gateway event =>
      cases event with
      | body client body => cases none
      | _ => trivial
    | _ => trivial
  · intro undisturbed control client served
    rw [acted_gateway] at served
    have before := faithful control client served
    have onward {bytes more : Bytes}
        (sent : ((linked.acted act).peers control).sent = (linked.peers control).sent ++ bytes)
        (response : ((linked.acted act).peers control).response =
          (linked.peers control).response ++ more)
        (same : Listening linked.gateway client → bytes = more) :
        Answered (linked.acted act) control client := by
      refine ⟨?_, fun listening => ?_⟩
      · rw [acted_gateway, response]
        exact before.begins.trans (List.prefix_append _ _)
      · rw [acted_gateway] at listening ⊢
        rw [rest sent, response, ← before.whole listening, same listening]
        simp only [List.append_assoc]
    rcases @acted_sends linked act control with same | ⟨count, -, sent, response⟩ |
      ⟨rfl, unopened, sent, response⟩ | ⟨bytes, -, -, sent, response⟩
    · exact @onward [] [] (by rw [same, List.append_nil]) (by rw [same, List.append_nil])
        fun _ => rfl
    · exact @onward [] [] (by rw [sent, List.append_nil]) (by rw [response, List.append_nil])
        fun _ => rfl
    · exact @onward ping [] sent (by rw [response, List.append_nil])
        fun listening => absurd listening (undisturbed unopened client served)
    · exact onward sent response fun _ => rfl

end Along

/-- Along a run every client that a pooled socket serves gets the answer of the Agent, with nothing
before it, nothing lost and in order, exactly if all that the Agent has sent has been read whenever
a socket is taken, and no heartbeat is sent between that and the reading of the line that opens the
socket. -/
theorem faithful_along_iff (identifiers : Identifiers) (greetings : ℕ → Bytes) (acts : List Act) :
    Along (interplay identifiers)
        (fun _ linked act => Faithful (interplay identifiers linked act).2) []
        (Linked.started greetings) acts ↔
      Each (interplay identifiers) Undisturbed (Linked.started greetings) acts := by
  refine along_kept_iff Faithful (Tracked identifiers)
    (fun past linked act _ tracked _ => tracked.onward act) ?_ (along_trivial _ _ _)
    (tracked_started identifiers greetings) ?_
  · intro past linked act _ tracked faithful
    rcases @interplay_gateway identifiers linked act with ⟨event, same, moved⟩ | ⟨none, moved⟩
    · rw [moved, acted_of_event same, undisturbed_iff_of_event same]
      exact tracked.faithful_step_iff faithful fun control bytes comes =>
        underway_of_receive (same.trans (congrArg some comes))
    · rw [moved]
      exact tracked.faithful_acted_iff faithful none
  · intro control client served
    cases served

/-- A socket waits in the pool of its Agent, and the Hub routes a request to that. -/
def pooledAndRouted : List Act :=
  [.arrives 0 200, .gateway (.deliver (.control 0) 200), .gateway (.verdict 0 hubAccepts)] ++
    routed.map .gateway

/-- The body of a lookup that names an Agent and a port. -/
def namesAgent : Option Value :=
  some (.object [("agent_uuid", .string someAgent),
    ("service_port", .number (.finite (Decimal.ofInt 3000)))])

/-- The Agent sends a heartbeat when its socket has been taken, before it reads so. -/
def pingsLate : List Act :=
  pooledAndRouted ++ [.gateway (.body 0 namesAgent), .pings 0, .arrives 0 100,
    .gateway (.deliver (.control 0) 100)]

/-- The client gets the heartbeat as the beginning of the answer. -/
theorem not_faithful_pingsLate : ¬ Faithful
    (final (interplay numbered) (Linked.started fun _ => preconnectLine) pingsLate) := by
  intro faithful
  have served : ((final (interplay numbered) (Linked.started fun _ => preconnectLine)
      pingsLate).gateway.controls 0).serves = some 0 := by decide +kernel
  have got : bytesOf ((final (interplay numbered) (Linked.started fun _ => preconnectLine)
      pingsLate).gateway.told 0) = ping := by decide +kernel
  have silence : ((final (interplay numbered) (Linked.started fun _ => preconnectLine)
      pingsLate).peers 0).response = [] := by decide +kernel
  have begins := (faithful 0 0 served).begins
  rw [got, silence] at begins
  revert begins
  decide +kernel

end Gateway

end OpticsHub
