import OpticsHub.Async.Interleaving
import OpticsHub.Database.Schema
import OpticsHub.Global.Hash
import OpticsHub.Script.Coercion

/-!
# The state of a running Hub

One process holds the database, the sockets of the Agents and a few maps in memory,
and every request runs as a program on that state. Each query is one atomic action,
and so is the code between two waits. The state also keeps what the Hub has sent,
since a packet on its way out is all that an Agent or a console ever sees of it.

What comes from outside the repository is the platform: the HMAC, random data in
the order in which it is drawn, the answers of the DNS provider, the limit on active
subdomains, and what the database client makes of an object where it expects the
text of a unique column. A packet to an Agent is signed when it is sent; the
signature is left out here, because nothing in the Hub reads it back.
-/
namespace OpticsHub

open Script Async

/-! ## Exceptions -/

/-- How a routing request ends. -/
inductive TunnelOutcome where
  | success
  | workspaceNotFound
  | serviceNotFound
  | serviceBlocked
  | agentNotFound
  | agentOffline
  | dbError
  deriving DecidableEq, Repr

/-- What a handler throws: an HTTP exception with a message, one whose body also
carries the outcome of a routing request, or anything else. -/
inductive Failure where
  | http (status : ℕ) (message : String)
  | tunnel (status : ℕ) (outcome : TunnelOutcome) (message : String)
  | internal
  deriving DecidableEq, Repr

namespace Failure

def badRequest (message : String) : Failure := .http 400 message
def notFound (message : String) : Failure := .http 404 message
def conflict (message : String) : Failure := .http 409 message
def gone (message : String) : Failure := .http 410 message
def serviceUnavailable (message : String) : Failure := .http 503 message

/-- `AgentNotConnectedException`. -/
def agentNotConnected : Failure :=
  .http 430 "Agent is not connected with requested workspace."

end Failure

/-! ## Packets -/

structure ServicePortMapping where
  hostPort : ℤ
  containerPort : ℤ
  deriving DecidableEq, Repr

structure ServiceSourceRepository where
  url : Text
  rootDirectory : Option Text
  deriving DecidableEq, Repr

/-- The data of a `DEPLOY` or `REDEPLOY` command. -/
structure DeployCommand where
  serviceIndex : ℕ
  sourceUrl : List ServiceSourceRepository
  rootDirectory : Option Text
  deployPreset : DeployPreset
  serviceName : Text
  servicePort : ℤ
  serviceHostPort : ℤ
  serviceContainerPort : ℤ
  servicePortMappings : List ServicePortMapping
  serviceVersion : Text
  env : Members Text

/-- The data of a `START` or `STOP` command. -/
structure RunCommand where
  serviceIndex : ℕ
  serviceName : Text
  servicePort : ℤ
  serviceHostPort : ℤ
  serviceContainerPort : ℤ
  serviceVersion : Text
  deployPreset : DeployPreset

/-- The data of a command for one container. -/
structure ContainerCommand where
  serviceIndex : ℕ
  serviceName : Text
  deployPreset : DeployPreset
  containerName : Text

inductive DeleteScope where
  | containers
  | service
  deriving DecidableEq, Repr

inductive AgentCommand where
  | deploy (command : DeployCommand)
  | redeploy (command : DeployCommand)
  | delete (serviceIndex : ℕ) (serviceName : Text) (deployPreset : DeployPreset)
      (deleteScope : DeleteScope)
  | start (command : RunCommand)
  | stop (command : RunCommand)
  | containerStart (command : ContainerCommand)
  | containerStop (command : ContainerCommand)
  | containerRestart (command : ContainerCommand)
  | disconnect

/-- A packet that `sendToAgent` signs and sends. -/
inductive AgentPacket where
  | command (command : AgentCommand)
  | tunnelConnect (token : Text) (servicePort : ℤ) (tunnelPort : ℕ)
  | connectRequest (workspaceOwnerName workspaceName : Text) (workspaceCreatedAt : ℤ)
      (workspaceIndex : ℕ) (requestDatetime : ℤ)
  | connectRequestCancelled (workspaceIndex : ℕ) (requestCancelledAt : ℤ)
  | updateAgent (version : Text)
  /-- What the Hub passes on for a console. -/
  | forConsole (event : Text) (payload : Value)

/-- What a registration returns to the Agent. -/
structure RegisteredAgent where
  ip : Text
  code : Text
  uuid : Text
  signingSecret : Option Text
  parentWorkspace : Option ℕ

/-- Why a registration is refused. -/
inductive RegisterRefusal where
  | unknownProtocolVersion (minimum maximum : ℤ)
  | deprecatedProtocolVersion (minimum maximum : ℤ)
  | invalidSignature (reason : Hash.VerifyFailure)
  deriving DecidableEq, Repr

/-- A packet from the Hub to the socket of an Agent. -/
inductive Outgoing where
  | refused (socket : ℕ) (refusal : RegisterRefusal)
  | registered (socket : ℕ) (agent : RegisteredAgent)
  | packet (socket : ℕ) (packet : AgentPacket)

/-- An event for the consoles: for those of one workspace, or for all. -/
inductive ConsoleEvent where
  | agentUpdated (workspaceIndex : Option ℕ)
  | agentUpdate (workspaceIndex : ℕ) (agentUuid agentCode : Text) (agentVersion : Option Text)
      (updatePhase : AgentUpdatePhase) (updateTarget updateMessage : Option Text)
      (updateStartedAt : Option ℤ)

/-! ## Sockets and maps -/

/-- What the gateway keeps on a socket: nothing before the first registration. -/
structure SocketData where
  agentCode : Option Text := none
  agentUuid : Option Text := none
  agentIp : Option Text := none
  workspaceIndex : Option ℕ := none
  signingSecret : Option Text := none
  replayGuard : Option Hash.ReplayGuard := none
  packetGuardInstalled : Bool := false

/-- The socket of an Agent, from before it is opened to after it is closed. -/
structure Socket where
  opened : Bool := false
  connected : Bool := false
  forwardedFor : Option Text := none
  address : Text := []
  handshakeAgentUuid : Option Text := none
  data : SocketData := {}

/-- An entry of the route cache. -/
structure CachedRoute where
  agentUuid : Text
  servicePort : ℤ
  expiresAt : ℤ
  deriving DecidableEq

/-- What a console is waiting for from an Agent: a terminal or its metrics. -/
structure TerminalSession where
  consoleSocketId : ℕ
  agentUuid : Text
  deriving DecidableEq

inductive DnsReply where
  | success (recordId : Text)
  | refused
  | failed
  deriving DecidableEq, Repr

/-- What the DNS provider is asked for. -/
inductive DnsRequest where
  | create (workspaceSubdomain : Text)
  | update (workspaceSubdomain dnsRecordId : Text)
  | delete (dnsRecordId : Text)

/-- The records after a request that is carried out, or is not. -/
def DnsRequest.records (request : DnsRequest) (records : Members Text) : DnsReply → Members Text
  | .success recordId =>
    match request with
    | .create workspaceSubdomain => records ++ [(recordId, workspaceSubdomain)]
    | .update workspaceSubdomain dnsRecordId => records.map fun record =>
        if record.1 = dnsRecordId then (record.1, workspaceSubdomain) else record
    | .delete dnsRecordId => records.filter fun record => record.1 ≠ dnsRecordId
  | _ => records

/-- What the Hub takes from outside the repository. -/
structure Platform where
  mac : Mac
  /-- 32 random bytes in hexadecimal. -/
  randomBytes : ℕ → Text
  randomBytes_ne_nil : ∀ n, randomBytes n ≠ []
  /-- Two random words, as an Agent code. -/
  randomCode : ℕ → Text
  randomUuid : ℕ → Text
  /-- The texts an object in a filter selects, if the database client accepts it. -/
  uuidFilter : Members Value → Option (Text → Bool)
  dnsReply : ℕ → DnsReply
  subdomainActiveLimit : ℕ

/-- The state of the process, with the packets sent so far. -/
structure Hub where
  database : Database := {}
  now : ℤ
  drawn : ℕ := 0
  sockets : ℕ → Socket := fun _ => {}
  agentUuidToSocketId : Members ℕ := []
  offlineTimers : List Text := []
  updateTimers : List Text := []
  routeCache : Members CachedRoute := []
  terminalSessions : Members TerminalSession := []
  metricRequests : Members TerminalSession := []
  consumedTerminalTokens : List Text := []
  terminalTokenTimers : List (Text × ℤ) := []
  /-- The records that the DNS provider keeps for the Hub, each with the subdomain it names. -/
  dnsRecords : Members Text := []
  sent : List Outgoing := []
  console : List ConsoleEvent := []

/-- A request handler: a program on the state of the Hub. -/
abbrev HubProgram := Program Hub Failure

namespace Hub

/-- Change what the gateway keeps on a socket. -/
def setData (hub : Hub) (socket : ℕ) (change : SocketData → SocketData) : Hub :=
  { hub with
    sockets := Function.update hub.sockets socket
      { hub.sockets socket with data := change (hub.sockets socket).data } }

def emit (hub : Hub) (packet : Outgoing) : Hub := { hub with sent := hub.sent ++ [packet] }

/-- `socket.disconnect(true)`. -/
def disconnect (hub : Hub) (socket : ℕ) : Hub :=
  { hub with
    sockets := Function.update hub.sockets socket
      { hub.sockets socket with connected := false } }

/-- `consoleGateway.notifyWorkspaceUpdated`. -/
def notifyWorkspaceUpdated (hub : Hub) (workspaceIndex : Option ℕ) : Hub :=
  { hub with console := hub.console ++ [.agentUpdated workspaceIndex] }

/-- Write to the database. -/
def write (hub : Hub) (change : Database → Database) : Hub :=
  { hub with database := change hub.database }

section Projections

variable (hub : Hub) (socket : ℕ) (change : SocketData → SocketData) (packet : Outgoing)
  (workspaceIndex : Option ℕ) (edit : Database → Database)

@[simp] theorem setData_database : (hub.setData socket change).database = hub.database := rfl
@[simp] theorem setData_sent : (hub.setData socket change).sent = hub.sent := rfl
@[simp] theorem setData_now : (hub.setData socket change).now = hub.now := rfl
@[simp] theorem emit_database : (hub.emit packet).database = hub.database := rfl
@[simp] theorem emit_sockets : (hub.emit packet).sockets = hub.sockets := rfl
@[simp] theorem emit_sent : (hub.emit packet).sent = hub.sent ++ [packet] := rfl
@[simp] theorem emit_routeCache : (hub.emit packet).routeCache = hub.routeCache := rfl
@[simp] theorem disconnect_database : (hub.disconnect socket).database = hub.database := rfl
@[simp] theorem disconnect_sent : (hub.disconnect socket).sent = hub.sent := rfl

@[simp]
theorem disconnect_data (other : ℕ) :
    ((hub.disconnect socket).sockets other).data = (hub.sockets other).data := by
  by_cases same : other = socket
  · simp only [same, disconnect, Function.update_self]
  · simp only [disconnect, Function.update_of_ne same]

@[simp]
theorem setData_self :
    ((hub.setData socket change).sockets socket).data = change (hub.sockets socket).data := by
  simp only [setData, Function.update_self]

theorem setData_of_ne {other : ℕ} (differs : other ≠ socket) :
    (hub.setData socket change).sockets other = hub.sockets other :=
  Function.update_of_ne differs _ _

@[simp]
theorem notify_database :
    (hub.notifyWorkspaceUpdated workspaceIndex).database = hub.database := rfl

@[simp]
theorem notify_sockets : (hub.notifyWorkspaceUpdated workspaceIndex).sockets = hub.sockets := rfl

@[simp] theorem notify_sent : (hub.notifyWorkspaceUpdated workspaceIndex).sent = hub.sent := rfl

@[simp]
theorem notify_routeCache :
    (hub.notifyWorkspaceUpdated workspaceIndex).routeCache = hub.routeCache := rfl

@[simp] theorem write_sockets : (hub.write edit).sockets = hub.sockets := rfl
@[simp] theorem write_routeCache : (hub.write edit).routeCache = hub.routeCache := rfl

end Projections

end Hub

end OpticsHub
