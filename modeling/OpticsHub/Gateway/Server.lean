import OpticsHub.Gateway.Preconnect
import OpticsHub.Machine.Run

/-!
# The two servers of the gateway

The proxy reads the head of a public request, asks the Hub where it goes, and either hands the
request to a pooled socket of the Agent or registers the client under a token and has the Hub
tell the Agent to connect. The control server reads the first line of each connection: a token
joins it to the socket that waits under the token, or makes it wait itself.

A step is whatever the process reacts to: bytes that come, data handed to a listener, the end,
the failure and the closing of a connection, the answers of the Hub, and timers.
-/
namespace OpticsHub

open Script Net

namespace Gateway

/-! ## The control server -/

/-- The first line of a socket is a token. -/
def present (control : ℕ) (token : Text) (rest : Bytes) (state : State) :
    List Observation × State :=
  let named := state.onControl control fun control => { control with token := token }
  let claimed := { named with registry := state.registry.claim token }
  match state.registry.get token with
  | some exist =>
    ([.presents control token, .pairs control token exist.socket],
      (((claimed.write exist.socket rest).write (.control control) exist.rest).pipe
        (.control control) exist.socket true).pipe exist.socket (.control control) true)
  | none =>
    ([.presents control token, .registers (.control control) token],
      { claimed with
        registry :=
          (state.registry.claim token).register token (.control control) rest state.now }.onSocket
        (.control control) Duplex.pause)

/-- Data of a socket whose first line is not complete. -/
def onControlData (control : ℕ) (chunk : Bytes) (state : State) : List Observation × State :=
  let buffer := (state.controls control).buffer ++ chunk
  let read := state.onControl control fun control => { control with buffer := buffer }
  match indexOf newline buffer with
  | none => ([], read)
  | some index =>
    let line := decodeUtf8 (buffer.take index)
    let rest := buffer.drop (index + 1)
    let heard := read.listen (.control control) .none
    if (preconnectVerb ++ [space]).isPrefixOf line then
      handlePreconnect control line rest
        (heard.onControl control fun control => { control with onClose := false })
    else present control line rest heard

/-- What else the closing of a pooled socket does: the client that it serves gets an error page,
unless it has had an answer or cannot take one. -/
def pooledClose (identifiers : Identifiers) (client : ℕ) (state : State) : State :=
  let socket := state.sockets (.client client)
  if (state.clients client).pooledResponded || socket.destroyed || socket.ended then
    state.onSocket (.client client) Duplex.endStream
  else state.endPage client .agentNoTunnel (state.context identifiers client)

/-- The handlers of the closing of a connection that an Agent opened. -/
def closeControl (identifiers : Identifiers) (control : ℕ) (state : State) : State :=
  let vars := state.controls control
  let left :=
    { state with
      registry :=
        if vars.onClose then state.registry.release vars.token (.control control)
        else state.registry
      pools :=
        match vars.leaves with
        | some (agentUuid, pool) => state.pools.remove agentUuid pool control
        | none => state.pools }
  let answered :=
    match vars.serves with
    | some client => pooledClose identifiers client left
    | none => left
  answered.unpipe (.control control)

/-! ## The proxy -/

/-- The member of a body, if that is an object. -/
def member (key : Text) (body : Option Value) : Option Value :=
  match body with
  | some (.object members) => Members.own members key
  | _ => none

def isOk (status : ℕ) : Bool := decide (200 ≤ status ∧ status < 300)

/-- The outcome of a refusal, by its body or else by its status. -/
def readHubOutcome (status : ℕ) (body : Option Value) : PageOutcome :=
  let guess := if status = 404 then .serviceNotFound else .hubRejected
  match member "outcome" body with
  | some (.string outcome) => (PageOutcome.ofName outcome).getD guess
  | _ => guess

/-- Ask the Hub where a request goes. -/
def askHub (identifiers : Identifiers) (client : ℕ) (preferPooled : Bool) (state : State) :
    List Observation × State :=
  ([.asks client (state.clients client).route (identifiers.token client) preferPooled],
    state.onClient client fun vars =>
      { vars with awaiting := if preferPooled then .lookup else .fallback })

/-- Data of a client whose request head is not complete, or was rejected. -/
def onClientData (identifiers : Identifiers) (client : ℕ) (chunk : Bytes) (state : State) :
    List Observation × State :=
  let buffer := (state.clients client).buffer ++ chunk
  let read := state.onClient client fun vars => { vars with buffer := buffer }
  match indexOf emptyLine buffer with
  | none => ([], read)
  | some index =>
    let header := splitLines (decodeUtf8 (buffer.take index))
    let rayId := readCfRay header
    let requestId := identifiers.requestId client
    match header.find? (isHeader hostName) with
    | none => ([], read.endPage client .missingHost ⟨[], none, requestId, rayId⟩)
    | some hostLine =>
      match parseRouteFromHostHeader hostLine with
      | none => ([], read.endPage client .invalidRoute ⟨hostOf hostLine, none, requestId, rayId⟩)
      | some route =>
        let routed := read.onClient client fun vars =>
          { vars with
            buffer := withRequestIdHeader buffer index requestId
            host := hostOf hostLine
            rayId := rayId
            route := route }
        askHub identifiers client true
          ((routed.listen (.client client) .none).onSocket (.client client) Duplex.pause)

/-- Hand a request to a pooled socket. -/
def usePooled (identifiers : Identifiers) (client control : ℕ) (servicePort : Number)
    (state : State) : State :=
  let serving :=
    (state.onClient client fun vars =>
      { vars with
        awaiting := .nothing
        pooled := some control
        pooledResponded := false }).onControl control
      fun vars => { vars with serves := some client }
  let opening := Text.ofString "OPEN " ++ servicePort.text ++ [space] ++
    identifiers.requestId client ++ [CodeUnit.newline]
  let sent := (serving.write (.control control) (encodeUtf8 opening)).write (.control control)
    (state.clients client).buffer
  (sent.pipe (.control control) (.client client) false).pipe (.client client)
    (.control control) true

/-- Register a client, and have the Hub tell the Agent to connect. -/
def registerClient (identifiers : Identifiers) (client : ℕ) (state : State) :
    List Observation × State :=
  let token := identifiers.token client
  let asked := askHub identifiers client false
    { state with
      registry :=
        state.registry.register token (.client client) (state.clients client).buffer state.now }
  (.registers (.client client) token :: asked.1, asked.2)

/-- The port that the body of a lookup names. -/
def servicePort (body : Option Value) : Option Number :=
  match member "service_port" body with
  | some (.number port) => some port
  | _ => none

/-- The body of a lookup has come. -/
def onRouting (identifiers : Identifiers) (client : ℕ) (body : Option Value) (state : State) :
    List Observation × State :=
  match member "agent_uuid" body with
  | some (.string agentUuid) =>
    let claimed := claimPreconnected agentUuid state
    let shown := Observation.claims client agentUuid claimed.1
    match claimed.1, servicePort body with
    | some control, some port =>
      if usable claimed.2 control then
        ([shown], usePooled identifiers client control port claimed.2)
      else
        let registered := registerClient identifiers client claimed.2
        (shown :: registered.1, registered.2)
    | _, _ =>
      let registered := registerClient identifiers client claimed.2
      (shown :: registered.1, registered.2)
  | _ => registerClient identifiers client state

/-- Nothing is awaited any more, and the client gets an error page. -/
def failWith (identifiers : Identifiers) (client : ℕ) (outcome : PageOutcome) (state : State) :
    State :=
  (state.onClient client fun vars => { vars with awaiting := .nothing }).endPage client
    outcome (state.context identifiers client)

/-- A request to the Hub is answered, or fails. -/
def onAnswer (identifiers : Identifiers) (client : ℕ) (status : Option ℕ) (state : State) :
    State :=
  let onward (awaiting : Awaiting) : State :=
    match status with
    | none => failWith identifiers client .hubUnreachable state
    | some status =>
      state.onClient client fun vars =>
        { vars with awaiting := if isOk status then awaiting else .refusal status }
  match (state.clients client).awaiting with
  | .lookup => onward .routing
  | .fallback => onward .nothing
  | _ => state

/-- The body of an answer has been read, or could not be. -/
def onBody (identifiers : Identifiers) (client : ℕ) (body : Option Value) (state : State) :
    List Observation × State :=
  match (state.clients client).awaiting with
  | .routing => onRouting identifiers client body state
  | .refusal status => ([], failWith identifiers client (readHubOutcome status body) state)
  | _ => ([], state)

/-- The handlers of the closing of a public connection. -/
def closeClient (identifiers : Identifiers) (client : ℕ) (state : State) : State :=
  let released :=
    { state with
      registry := state.registry.release (identifiers.token client) (.client client) }
  let left :=
    match (state.clients client).pooled with
    | some control => released.onSocket (.control control) Duplex.endStream
    | none => released
  left.unpipe (.client client)

/-! ## Steps -/

inductive Event where
  /-- Bytes come. -/
  | receive (id : SocketId) (bytes : Bytes)
  /-- A flowing socket hands a number of bytes at most to its listener. -/
  | deliver (id : SocketId) (count : ℕ)
  /-- The stream of the peer ends. -/
  | readEnd (id : SocketId)
  /-- What was written to an ended socket is gone out. -/
  | finish (id : SocketId)
  /-- A connection breaks. -/
  | lost (id : SocketId)
  | close (id : SocketId)
  | verdict (control : ℕ) (reply : Option (ℕ × Option Value))
  | answer (client : ℕ) (status : Option ℕ)
  | body (client : ℕ) (body : Option Value)
  | fire (timer : ℕ)
  | elapse (milliseconds : ℕ)

/-- A socket hands data to its listener. -/
def deliver (identifiers : Identifiers) (id : SocketId) (count : ℕ) (state : State) :
    List Observation × State :=
  let chunk := (state.sockets id).chunk count
  let handed := state.onSocket id (Duplex.advance count)
  match state.listeners id, id with
  | .onData, .client client => onClientData identifiers client chunk handed
  | .onData, .control control => onControlData control chunk handed
  | .heartbeat, .control control => ([], onHeartbeat control chunk handed)
  | .pipe destination _, .control control =>
    let responded :=
      match (state.controls control).serves with
      | some client =>
        handed.onClient client fun vars => { vars with pooledResponded := true }
      | none => handed
    ([], responded.write destination chunk)
  | .pipe destination _, .client _ => ([], handed.write destination chunk)
  | _, _ => ([], handed)

/-- The stream of a peer ends, and with it the socket, and where it is piped to. -/
def readEnd (id : SocketId) (state : State) : State :=
  let ended := state.onSocket id Duplex.readEnd
  match state.listeners id with
  | .pipe destination true => ended.onSocket destination Duplex.endStream
  | _ => ended

/-- A timer fires: the entry of its token is deleted, and its socket is told. -/
def fire (identifiers : Identifiers) (timer : Timer) (state : State) :
    List Observation × State :=
  let deleted := { state with registry := state.registry.fire timer }
  ([.expires timer (state.registry.get timer.token)],
    match timer.socket with
    | .client client => deleted.endPage client .agentNoTunnel (deleted.context identifiers client)
    | .control control =>
      { deleted with
        registry := deleted.registry.release (state.controls control).token (.control control) })

def step (identifiers : Identifiers) : Machine.Transition State Event (List Observation)
  | state, .receive id bytes =>
    ([], if (state.sockets id).receives then state.onSocket id (Duplex.receive bytes) else state)
  | state, .deliver id count =>
    if (state.sockets id).delivers count then deliver identifiers id count state else ([], state)
  | state, .readEnd id => ([], if (state.sockets id).ends then readEnd id state else state)
  | state, .finish id =>
    ([], if (state.sockets id).finishes then (state.onSocket id Duplex.finish).unpipe id else state)
  | state, .lost id => ([], state.onSocket id Duplex.destroy)
  | state, .close id =>
    ([],
      if (state.sockets id).closes then
        match id with
        | .client client => closeClient identifiers client (state.onSocket id Duplex.close)
        | .control control => closeControl identifiers control (state.onSocket id Duplex.close)
      else state)
  | state, .verdict control reply => ([], verified control reply state)
  | state, .answer client status => ([], onAnswer identifiers client status state)
  | state, .body client body => onBody identifiers client body state
  | state, .fire number =>
    match state.registry.due number state.now with
    | some timer => fire identifiers timer state
    | none => ([], state)
  | state, .elapse milliseconds => ([], { state with now := state.now + milliseconds })

end Gateway

end OpticsHub
