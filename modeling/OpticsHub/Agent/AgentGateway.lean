import OpticsHub.Agent.AgentUpdate

/-!
# The gateway of the Agents

A `register` packet runs through three waits: the signing secret of the Agent it
names, the row it registers, and the secret again when the registration did not
issue one. The identity is written to the socket before the last wait, and the
secret, a fresh replay guard and the middleware that verifies packets only after
it. The middleware is installed once for a socket; every later registration finds
it there and replaces what it reads.
-/
namespace OpticsHub

open Script Async Program

namespace AgentGateway

open AgentService

def registerEvent : Text := "register"

def minimumProtocolVersion : ℤ := 1
def maximumProtocolVersion : ℤ := 1

/-! ## Outgoing packets -/

/-- The connected socket on which an Agent registered last. -/
def getAgentSocket (hub : Hub) (agentUuid : Text) : Option ℕ :=
  (Members.own hub.agentUuidToSocketId agentUuid).filter fun socket =>
    (hub.sockets socket).connected

/-- Send a packet to an Agent, if it has a socket with a secret. -/
def sendToAgent (agentUuid : Text) (packet : AgentPacket) (hub : Hub) : Bool × Hub :=
  match getAgentSocket hub agentUuid with
  | none => (false, hub)
  | some socket =>
    if hasSecret (hub.sockets socket).data.signingSecret then
      (true, hub.emit (.packet socket packet))
    else (false, hub)

/-- Whether an Agent is in the map, connected or not. -/
def isAgentConnected (agentUuid : Text) (hub : Hub) : Bool :=
  (Members.own hub.agentUuidToSocketId agentUuid).isSome

def clearOfflineTimer (agentUuid : Text) (hub : Hub) : Hub :=
  { hub with offlineTimers := hub.offlineTimers.filter (· != agentUuid) }

/-- Send an Agent away and forget its socket. The socket is closed a moment later. -/
def disconnectAgent (agentUuid : Text) (hub : Hub) : Bool × Hub :=
  match getAgentSocket hub agentUuid with
  | none => (false, hub)
  | some _ =>
    let sent := (sendToAgent agentUuid (.command .disconnect) hub).2
    (true, clearOfflineTimer agentUuid
      { sent with agentUuidToSocketId := Members.erase sent.agentUuidToSocketId agentUuid })

/-! ## Registration -/

/-- The members of a packet; a packet that is null or missing has no members to read. -/
def packetMembers : Value → Option (Members Value)
  | .undefined | .null => none
  | .object members => some members
  | _ => some []

/-- Whether the protocol version of a packet is refused. -/
def protocolGate (protocolVersion : Value) : Except Failure (Option RegisterRefusal) :=
  match protocolVersion.toNumber with
  | none => .error .internal
  | some number =>
    let minimum : Number := .finite (Decimal.ofInt minimumProtocolVersion)
    let maximum : Number := .finite (Decimal.ofInt maximumProtocolVersion)
    if !protocolVersion.truthy || number.less minimum || maximum.less number then
      .ok (some (
        if maximum.less number then
          .unknownProtocolVersion minimumProtocolVersion maximumProtocolVersion
        else .deprecatedProtocolVersion minimumProtocolVersion maximumProtocolVersion))
    else .ok none

/-- Refuse a registration and close the socket. -/
def refuse (client : ℕ) (refusal : RegisterRefusal) (hub : Hub) : Hub :=
  (hub.emit (.refused client refusal)).disconnect client

/-- The address of a client behind the proxy, without the prefix of a mapped address. -/
def clientIp (socket : Socket) : Text :=
  let rawIp := socket.forwardedFor.getD socket.address
  let mapped := Text.ofString "::ffff:"
  if rawIp = Text.ofString "::1" then "127.0.0.1"
  else if mapped.isPrefixOf rawIp then rawIp.drop mapped.length
  else rawIp

/-- Write the identity of a registered Agent to the socket. -/
def bindIdentity (client : ℕ) (agent : RegisteredAgent) (hub : Hub) : Hub :=
  { clearOfflineTimer agent.uuid hub with
    agentUuidToSocketId := Members.define hub.agentUuidToSocketId agent.uuid client
    sockets := (hub.setData client fun data =>
      { data with
        agentCode := some agent.code
        agentUuid := some agent.uuid
        agentIp := some agent.ip
        workspaceIndex := agent.parentWorkspace }).sockets }

/-- Attach the secret and a fresh replay guard, install the middleware and answer. -/
def attachSecret (client : ℕ) (agent : RegisteredAgent) (secret : Option Text) (hub : Hub) : Hub :=
  (hub.setData client fun data =>
    { data with
      signingSecret := secret
      replayGuard := some {}
      packetGuardInstalled := true }).emit (.registered client agent)

section Register

variable (platform : Platform)

/-- Let an Agent that is known and has a secret prove who it is. True when it may go
on. -/
def proveIdentity (client : ℕ) (payload agentUuid : Value) : HubProgram Bool :=
  if agentUuid.truthy then do
    let selects ← orThrow (uuidFilter platform agentUuid) .internal
    let knownSecret ← getSigningSecret selects
    if hasSecret knownSecret then
      step fun hub =>
        match (Hash.verify platform.mac registerEvent payload knownSecret
            { now := hub.now } none).1 with
        | .ok => (true, hub)
        | .failed reason => (false, refuse client (.invalidSignature reason) hub)
    else pure true
  else pure true

/-- Bind a registered Agent to the socket and attach its secret. One that was just
issued is attached at once, another one is read first. -/
def bindAndAttach (client : ℕ) (agent : RegisteredAgent) : HubProgram Unit :=
  match agent.signingSecret with
  | some secret => step fun hub =>
      ((), attachSecret client agent (some secret) (bindIdentity client agent hub))
  | none => do
    step fun hub => ((), bindIdentity client agent hub)
    let secret ← getSigningSecret (· == agent.uuid)
    step fun hub => ((), attachSecret client agent secret hub)

/-- The handler of `register`. -/
def handleValidation (client : ℕ) (payload : Value) : HubProgram Unit := do
  let members ← orThrow (packetMembers payload) .internal
  let agentUuid := (Members.own members "agentUuid").getD .undefined
  let agentVersion := Members.own members "agentVersion"
  let protocolVersion := Members.own members "protocolVersion"
  let refusal ← fromExcept (protocolGate (protocolVersion.getD .undefined))
  let _ ← orThrow agentUuid.toText .internal
  match refusal with
  | some refusal => step fun hub => ((), refuse client refusal hub)
  | none => do
    let proved ← proveIdentity platform client payload agentUuid
    if proved then do
      let ip ← look fun hub => clientIp (hub.sockets client)
      let agent ← registerAgent platform ip (some agentUuid) agentVersion protocolVersion
      bindAndAttach client agent
      AgentUpdateService.handleReconnect agent.uuid ((textColumn agentVersion).join.join)
      step fun hub => ((), hub.notifyWorkspaceUpdated agent.parentWorkspace)
    else pure ()

end Register

/-! ## Disconnection -/

/-- `consoleGateway.closeAgentConnections`: forget the terminals of an Agent and the requests
for its metrics. -/
def closeAgentConnections (agentUuid : Text) (hub : Hub) : Hub :=
  { hub with
    terminalSessions := hub.terminalSessions.filter fun entry => entry.2.agentUuid != agentUuid
    metricRequests := hub.metricRequests.filter fun entry => entry.2.agentUuid != agentUuid }

/-- The handler of a closed socket: forget it, and set a timer to report the Agent
offline unless it is expected to restart. -/
def handleDisconnect (client : ℕ) : HubProgram Unit := do
  let agentUuid ← step fun hub =>
    let socket := hub.sockets client
    match socket.data.agentCode, socket.data.agentUuid.or socket.handshakeAgentUuid with
    | some (_ :: _), some (unit :: units) =>
      if Members.own hub.agentUuidToSocketId (unit :: units) = some client then
        (some (unit :: units), { closeAgentConnections (unit :: units) hub with
          agentUuidToSocketId := Members.erase hub.agentUuidToSocketId (unit :: units) })
      else (none, hub)
    | _, _ => (none, hub)
  match agentUuid with
  | none => pure ()
  | some agentUuid => do
    let expected ← AgentUpdateService.isExpectedRestart agentUuid
    if expected then pure ()
    else step fun hub => ((),
      { clearOfflineTimer agentUuid hub with
        offlineTimers := (clearOfflineTimer agentUuid hub).offlineTimers ++ [agentUuid] })

/-- What the offline timer of an Agent does when it fires. -/
def offlineTimer (agentUuid : Text) : HubProgram Unit := do
  let gone ← step fun hub =>
    if hub.offlineTimers.contains agentUuid then
      ((Members.own hub.agentUuidToSocketId agentUuid).isNone, clearOfflineTimer agentUuid hub)
    else (false, hub)
  if gone then markAgentOffline agentUuid else pure ()

/-! ## Incoming packets -/

/-- What happens to a packet that arrives on a socket. -/
inductive Arrival where
  /-- The socket is not connected. -/
  | closed
  /-- The handler is called without a check. -/
  | passed (agentUuid : Option Text)
  /-- The middleware finds no secret and drops the packet. -/
  | noSecret
  /-- The middleware verifies the packet and calls the handler if it is accepted. -/
  | judged (agentUuid : Option Text) (result : Hash.VerifyResult)
  deriving DecidableEq, Repr

/-- Whether a packet reaches its handler, and under which identity. -/
def Arrival.handledFor : Arrival → Option Text
  | .passed agentUuid => agentUuid
  | .judged agentUuid .ok => agentUuid
  | _ => none

/-- Take a packet from a socket through the middleware, if that is installed. -/
def receive (platform : Platform) (hub : Hub) (client : ℕ) (event : Text) (payload : Value) :
    Arrival × Hub :=
  let socket := hub.sockets client
  if !socket.connected then (.closed, hub)
  else if !socket.data.packetGuardInstalled || event == registerEvent then
    (.passed socket.data.agentUuid, hub)
  else if hasSecret socket.data.signingSecret then
    let outcome := Hash.verify platform.mac event payload socket.data.signingSecret
      { now := hub.now } socket.data.replayGuard
    (.judged socket.data.agentUuid outcome.1,
      hub.setData client fun data => { data with replayGuard := outcome.2 })
  else (.noSecret, hub)

end AgentGateway

end OpticsHub
