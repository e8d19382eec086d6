import OpticsHub.Agent.ConsoleAccess
import OpticsHub.Machine.Since
import OpticsHub.Script.Utf8

/-!
# Terminals and metrics

A terminal belongs to one console and one Agent, and so does a request for metrics. What its
console types is passed on under the identifier of the session alone: the check of the user was
made when the terminal was opened. A terminal ends when its console closes it or goes away, when
its Agent says so, or when the handler of the closed socket of the Agent ends all that the Agent
has. A request ends with its answer, or with its timer.

The handlers return what they pass on, beside what they make of the Hub.
-/
namespace OpticsHub

open Script Async

namespace ConsoleGateway

open AgentGateway

/-- What is passed on between the consoles and the Agents. -/
inductive Transmission where
  | toAgent (agentUuid : Text) (event : Text) (payload : Value)
  | toConsole (client : ℕ) (event : Text) (payload : Value)

/-! ## Sessions -/

/-- A value that is a text. -/
def asText : Value → Option Text
  | .string text => some text
  | _ => none

/-- A member of a packet. Without members it is undefined, and names no entry: a handler that throws
then does as little as one that finds none. -/
def memberOf (payload : Value) (key : Text) : Value :=
  ((packetMembers payload).map fun members => member members key).getD .undefined

/-- The entry of a map under an identifier, which is a text. -/
def entryOf (entries : Members TerminalSession) (id : Value) : Option TerminalSession :=
  (asText id).bind (Members.own entries)

/-- Forget the entry under an identifier. -/
def withoutEntry (entries : Members TerminalSession) (id : Value) : Members TerminalSession :=
  (asText id).elim entries (Members.erase entries)

def ownedTerminalSession (hub : Hub) (client : ℕ) (sessionId : Value) : Option TerminalSession :=
  (entryOf hub.terminalSessions sessionId).filter fun session => session.consoleSocketId == client

def agentTerminalSession (hub : Hub) (agentUuid : Text) (sessionId : Value) :
    Option TerminalSession :=
  (entryOf hub.terminalSessions sessionId).filter fun session => session.agentUuid == agentUuid

/-! ## What a console does with its terminals -/

/-- Pass an event of a terminal on to its Agent, if that gets it. -/
def forward (session : TerminalSession) (event : Text) (payload : Value) (hub : Hub) :
    List Transmission × Hub :=
  let sent := sendToAgent session.agentUuid (.forConsole event payload) hub
  (if sent.1 then [.toAgent session.agentUuid event payload] else [], sent.2)

/-- The longest input, in bytes. -/
def maximumInput : ℕ := 64 * 1024

/-- A text that is not too long to be typed. -/
def isInput (data : Value) : Bool :=
  (asText data).any fun text => decide ((encodeUtf8 text).length ≤ maximumInput)

def handleTerminalInput (client : ℕ) (payload : Value) (hub : Hub) : List Transmission × Hub :=
  match ownedTerminalSession hub client (memberOf payload "sessionId") with
  | some session =>
    if isInput (memberOf payload "data") then forward session "terminal-input" payload hub
    else ([], hub)
  | none => ([], hub)

def handleTerminalResize (client : ℕ) (payload : Value) (hub : Hub) : List Transmission × Hub :=
  match ownedTerminalSession hub client (memberOf payload "sessionId") with
  | some session =>
    forward session "terminal-resize" (.object [("sessionId", memberOf payload "sessionId"),
      ("cols", intValue (clampDimension (memberOf payload "cols") 80)),
      ("rows", intValue (clampDimension (memberOf payload "rows") 24))]) hub
  | none => ([], hub)

def handleTerminalClose (client : ℕ) (payload : Value) (hub : Hub) : List Transmission × Hub :=
  match ownedTerminalSession hub client (memberOf payload "sessionId") with
  | some session =>
    let forwarded := forward session "terminal-close" payload hub
    (forwarded.1, { forwarded.2 with
      terminalSessions :=
        withoutEntry forwarded.2.terminalSessions (memberOf payload "sessionId") })
  | none => ([], hub)

/-- Tell the Agents of a console that its terminals are closed, one after another. -/
def closeAll (client : ℕ) : Members TerminalSession → Hub → List Transmission × Hub
  | [], hub => ([], hub)
  | (sessionId, session) :: rest, hub =>
    if session.consoleSocketId == client then
      let forwarded :=
        forward session "terminal-close" (.object [("sessionId", .string sessionId)]) hub
      let later := closeAll client rest forwarded.2
      (forwarded.1 ++ later.1, later.2)
    else closeAll client rest hub

/-- The handler of a closed console: its terminals are closed at their Agents and forgotten, and so
is what it has asked for. -/
def handleDisconnect (client : ℕ) (hub : Hub) : List Transmission × Hub :=
  let closed := closeAll client hub.terminalSessions hub
  (closed.1, { closed.2 with
    terminalSessions := hub.terminalSessions.filter fun entry => entry.2.consoleSocketId != client
    metricRequests := hub.metricRequests.filter fun entry => entry.2.consoleSocketId != client })

/-! ## What an Agent says -/

def forwardSystemMetrics (agentUuid : Text) (payload : Value) (hub : Hub) :
    List Transmission × Hub :=
  match (entryOf hub.metricRequests (memberOf payload "requestId")).filter
      (fun request => request.agentUuid == agentUuid) with
  | some request =>
    ([.toConsole request.consoleSocketId "agent-metrics"
        (.object [("agentUuid", .string agentUuid), ("metrics", memberOf payload "metrics")])],
      { hub with
        metricRequests := withoutEntry hub.metricRequests (memberOf payload "requestId") })
  | none => ([], hub)

def forwardTerminalReady (agentUuid : Text) (payload : Value) (hub : Hub) :
    List Transmission × Hub :=
  match agentTerminalSession hub agentUuid (memberOf payload "sessionId") with
  | some session => ([.toConsole session.consoleSocketId "terminal-ready" payload], hub)
  | none => ([], hub)

def forwardTerminalOutput (agentUuid : Text) (payload : Value) (hub : Hub) :
    List Transmission × Hub :=
  match agentTerminalSession hub agentUuid (memberOf payload "sessionId") with
  | some session =>
    if (asText (memberOf payload "data")).isSome then
      ([.toConsole session.consoleSocketId "terminal-output" payload], hub)
    else ([], hub)
  | none => ([], hub)

def forwardTerminalClosed (agentUuid : Text) (payload : Value) (hub : Hub) :
    List Transmission × Hub :=
  match agentTerminalSession hub agentUuid (memberOf payload "sessionId") with
  | some session =>
    ([.toConsole session.consoleSocketId "terminal-closed" payload],
      { hub with
        terminalSessions := withoutEntry hub.terminalSessions (memberOf payload "sessionId") })
  | none => ([], hub)

/-- What `closeAgentConnections` tells the consoles. -/
def toldClosed (agentUuid : Text) (hub : Hub) : List Transmission :=
  (hub.terminalSessions.filter fun entry => entry.2.agentUuid == agentUuid).map fun entry =>
    .toConsole entry.2.consoleSocketId "terminal-closed"
      (.object [("sessionId", .string entry.1), ("reason", .string "Agent disconnected.")])

end ConsoleGateway

namespace AgentGateway

open ConsoleGateway

/-- Hand a packet that the middleware lets pass on for the Agent of its socket. -/
def handOn (platform : Platform) (event : Text)
    (forward : Text → Value → Hub → List Transmission × Hub) (client : ℕ) (payload : Value)
    (hub : Hub) : List Transmission × Hub :=
  let arrived := receive platform hub client event payload
  match arrived.1.handledFor with
  | some (unit :: units) => forward (unit :: units) payload arrived.2
  | _ => ([], arrived.2)

section Handlers

variable (platform : Platform)

def handleSystemMetrics : ℕ → Value → Hub → List Transmission × Hub :=
  handOn platform "system-metrics" forwardSystemMetrics

def handleTerminalReady : ℕ → Value → Hub → List Transmission × Hub :=
  handOn platform "terminal-ready" forwardTerminalReady

def handleTerminalOutput : ℕ → Value → Hub → List Transmission × Hub :=
  handOn platform "terminal-output" forwardTerminalOutput

def handleTerminalClosed : ℕ → Value → Hub → List Transmission × Hub :=
  handOn platform "terminal-closed" forwardTerminalClosed

end Handlers

end AgentGateway

end OpticsHub
