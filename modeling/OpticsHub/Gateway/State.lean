import OpticsHub.Gateway.Registry
import OpticsHub.Gateway.Request
import OpticsHub.Net.Duplex
import Mathlib.Logic.Function.Basic

/-!
# The state of the gateway

One process serves the public clients and the connections that Agents open to it. Every socket
has at most one listener for its data, which is a handler of the process or a pipe to another
socket. Beside the sockets there are the variables of the handlers, the pools of sockets that
Agents have opened in advance, and the registry. An error page is kept as the outcome it
presents and what is filled in.
-/
namespace OpticsHub

open Script Net

namespace Gateway

/-- Why a client gets an error page. -/
inductive PageOutcome where
  | workspaceNotFound
  | serviceNotFound
  | serviceBlocked
  | agentNotFound
  | agentOffline
  | dbError
  | missingHost
  | invalidRoute
  | hubUnreachable
  | hubRejected
  | agentNoTunnel
  deriving DecidableEq, Repr

namespace PageOutcome

def name : PageOutcome → Text
  | workspaceNotFound => "workspace_not_found"
  | serviceNotFound => "service_not_found"
  | serviceBlocked => "service_blocked"
  | agentNotFound => "agent_not_found"
  | agentOffline => "agent_offline"
  | dbError => "db_error"
  | missingHost => "missing_host"
  | invalidRoute => "invalid_route"
  | hubUnreachable => "hub_unreachable"
  | hubRejected => "hub_rejected"
  | agentNoTunnel => "agent_no_tunnel"

/-- `KNOWN_OUTCOMES`, less that of success. -/
def known : List PageOutcome :=
  [workspaceNotFound, serviceNotFound, serviceBlocked, agentNotFound, agentOffline, dbError,
    missingHost, invalidRoute, hubUnreachable, hubRejected, agentNoTunnel]

/-- The outcome that a body names. -/
def ofName (text : Text) : Option PageOutcome := known.find? fun outcome => outcome.name == text

theorem ofName_name (outcome : PageOutcome) : ofName outcome.name = some outcome := by
  cases outcome <;> decide

end PageOutcome

structure ErrorContext where
  host : Text
  serviceName : Option Text
  requestId : Text
  rayId : Text
  deriving DecidableEq

/-- What is written to a socket: bytes, and to a client perhaps an error page. -/
inductive Piece where
  | byte (value : UInt8)
  | page (outcome : PageOutcome) (context : ErrorContext)
  deriving DecidableEq

/-- Bytes to be written. -/
def pieces (bytes : Bytes) : List Piece := bytes.map Piece.byte

@[simp]
theorem pieces_append (first second : Bytes) :
    pieces (first ++ second) = pieces first ++ pieces second :=
  List.map_append

@[simp]
theorem pieces_nil : pieces [] = [] := rfl

/-- Who gets the data of a socket. -/
inductive Listener where
  /-- The handler that the socket was opened with. -/
  | onData
  /-- The reader of heartbeats. -/
  | heartbeat
  | pipe (destination : SocketId) (ends : Bool)
  | none
  deriving DecidableEq

namespace Listener

/-- Whether a listener passes data on to a socket. -/
def pipesTo (destination : SocketId) : Listener → Bool
  | pipe target _ => target == destination
  | _ => false

end Listener

/-- What the handler of a request waits for. -/
inductive Awaiting where
  | nothing
  /-- The answer of the Hub to `askHub(true)`. -/
  | lookup
  /-- The body of that answer. -/
  | routing
  /-- The answer of the Hub to `askHub(false)`. -/
  | fallback
  /-- The body of a refusal. -/
  | refusal (status : ℕ)
  deriving DecidableEq, Repr

/-- The variables of the handlers of a public connection. -/
structure Client where
  buffer : Bytes := []
  awaiting : Awaiting := .nothing
  host : Text := []
  rayId : Text := []
  route : Route := ⟨[], []⟩
  /-- The pooled socket that serves the request. -/
  pooled : Option ℕ := none
  pooledResponded : Bool := false

/-- The variables of the handlers of a connection that an Agent opened. -/
structure Control where
  buffer : Bytes := []
  token : Text := []
  /-- Whether `onClose` is still attached. -/
  onClose : Bool := true
  /-- The Agent whose signature the Hub verifies. -/
  verifying : Option Text := none
  /-- The Agent and the set that the socket was added to, and leaves when it closes. -/
  leaves : Option (Text × ℕ) := none
  heartbeat : Bytes := []
  /-- The client that a pooled socket serves. -/
  serves : Option ℕ := none

/-- The sockets of each Agent that wait for a request. Sets are objects: what closes a socket
refers to the set it was added to, whether that still is the pool of its Agent or not. -/
structure Pools where
  agents : Members ℕ := []
  sets : ℕ → List ℕ := fun _ => []
  drawn : ℕ := 0

structure State where
  sockets : SocketId → Duplex Piece := fun _ => {}
  listeners : SocketId → Listener := fun _ => .onData
  clients : ℕ → Client := fun _ => {}
  controls : ℕ → Control := fun _ => {}
  pools : Pools := {}
  registry : Registry := {}
  now : ℤ := 0

/-- The identifiers that are drawn for each public connection. -/
structure Identifiers where
  token : ℕ → Text
  requestId : ℕ → Text

namespace State

variable (state : State)

def onSocket (id : SocketId) (change : Duplex Piece → Duplex Piece) : State :=
  { state with sockets := Function.update state.sockets id (change (state.sockets id)) }

def listen (id : SocketId) (listener : Listener) : State :=
  { state with listeners := Function.update state.listeners id listener }

def onClient (index : ℕ) (change : Client → Client) : State :=
  { state with clients := Function.update state.clients index (change (state.clients index)) }

def onControl (index : ℕ) (change : Control → Control) : State :=
  { state with controls := Function.update state.controls index (change (state.controls index)) }

/-- `socket.write(bytes)` -/
def write (id : SocketId) (bytes : Bytes) : State :=
  state.onSocket id (Duplex.write (pieces bytes))

/-- `source.pipe(destination)`, which ends the destination with the source, unless told not to. -/
def pipe (source destination : SocketId) (ends : Bool) : State :=
  ((state.listen source (.pipe destination ends)).onSocket source Duplex.resume).onSocket
    destination fun socket =>
      if ends && (state.sockets source).readEnded then socket.endStream else socket

/-- Nothing is passed on to a socket any more, and what was is paused. -/
def unpipe (destination : SocketId) : State :=
  { state with
    sockets := fun id =>
      if (state.listeners id).pipesTo destination then (state.sockets id).pause
      else state.sockets id
    listeners := fun id =>
      if (state.listeners id).pipesTo destination then .none else state.listeners id }

/-- `socket.end(renderErrorResponse(outcome, context))` -/
def endPage (client : ℕ) (outcome : PageOutcome) (context : ErrorContext) : State :=
  state.onSocket (.client client) (Duplex.endWith [.page outcome context])

/-- What an error page of a routed request shows. -/
def context (identifiers : Identifiers) (client : ℕ) : ErrorContext where
  host := (state.clients client).host
  serviceName := some (state.clients client).route.serviceSubdomain
  requestId := identifiers.requestId client
  rayId := (state.clients client).rayId

end State

/-! ## What a step shows -/

/-- What the Hub is asked to verify. -/
structure PreconnectBody where
  agentUuid : Text
  timestamp : ℤ
  nonce : Text
  signature : Text
  deriving DecidableEq

inductive Observation where
  /-- The Hub is asked whether a socket is that of an Agent. -/
  | verifies (control : ℕ) (body : PreconnectBody)
  /-- The Hub is asked where a request goes. -/
  | asks (client : ℕ) (route : Route) (token : Text) (preferPooled : Bool)
  /-- The first line of a socket was a token. -/
  | presents (control : ℕ) (token : Text)
  | registers (socket : SocketId) (token : Text)
  /-- The socket that presented a token is piped to one that waited under it. -/
  | pairs (control : ℕ) (token : Text) (waiting : SocketId)
  | claims (client : ℕ) (agentUuid : Text) (pooled : Option ℕ)
  /-- A timer fires and deletes what it finds. -/
  | expires (timer : Timer) (deleted : Option RegistryEntry)
  deriving DecidableEq

end Gateway

end OpticsHub
