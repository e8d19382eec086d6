import OpticsHub.Agent.AgentGateway
import OpticsHub.Auth.JwtUtil
import OpticsHub.Workspaces.WorkspaceService

/-!
# The gateway of the consoles

A console is signed in when it connects, and later events carry what its user wants an
Agent to do. Each handler first asks the database whether the user may: by the Agent, or
by a service and the Agent it runs on. Only then is a packet passed on. The answer of a
query is a moment old when the packet is sent.
-/
namespace OpticsHub

open Script Async Program

namespace ConsoleGateway

open AgentService AgentGateway WorkspaceService

/-! ## Access -/

/-- The user of a console, once it is signed in. -/
def signedIn (userIndex : Option Int32) : Option Int32 := userIndex.filter (· ≠ 0)

/-- A number as an integer column of 32 bits; the database client refuses the rest. -/
def intColumn (number : Number) : Except Failure ℤ :=
  match numberColumn (some (.number number)) with
  | some n => .ok n
  | none => .error .internal

/-- `Number.isFinite`. -/
def isFinite : Number → Bool
  | .finite _ => true
  | _ => false

/-- The condition on the workspace of an Agent that a number makes, if it makes one. -/
def workspaceFilter (workspaceIndex : Option Number) : Except Failure (ℕ → Bool) :=
  match workspaceIndex.filter fun number => (Value.number number).truthy with
  | none => .ok fun _ => true
  | some number => do
    let wanted ← intColumn number
    return fun index => (index : ℤ) == wanted

/-- A linked Agent of a workspace of the user. -/
def accessibleAgent (user : Int32) (selects : Text → Bool) (inWorkspace : ℕ → Bool)
    (database : Database) : Option AgentRow :=
  database.agents.findFirst fun agent =>
    selects agent.agentUuid && agent.agentConnection == .linked && agent.agentDeletedAt.isNone &&
      agent.agentParentWorkspace.any fun index =>
        inWorkspace index && (ownedWorkspace user index database).isSome

/-- The linked Agent that a service runs on. -/
def hostOfService (selects : Text → Bool) (service : ServiceRow) (database : Database) :
    Option AgentRow :=
  database.agents.findFirst fun agent =>
    agent.agentIndex == service.serviceParentAgent && selects agent.agentUuid &&
      agent.agentConnection == .linked && agent.agentDeletedAt.isNone

/-- A service in a workspace of the user that runs on a linked Agent. -/
def accessibleService (user : Int32) (workspaceIndex serviceIndex : ℤ) (selects : Text → Bool)
    (database : Database) : Option ServiceRow :=
  database.services.findFirst fun service =>
    (service.serviceIndex : ℤ) == serviceIndex &&
      (service.serviceParentWorkspace : ℤ) == workspaceIndex && service.serviceDeletedAt.isNone &&
      (ownedWorkspace user service.serviceParentWorkspace database).isSome &&
      (hostOfService selects service database).isSome

section Handlers

variable (platform : Platform)

def canAccessAgent (userIndex : Option Int32) (agentUuid : Value)
    (workspaceIndex : Option Number) : HubProgram Bool :=
  match signedIn userIndex with
  | none => pure false
  | some user =>
    if agentUuid.truthy then do
      let selects ← orThrow (uuidFilter platform agentUuid) .internal
      let inWorkspace ← fromExcept (workspaceFilter workspaceIndex)
      look fun hub => (accessibleAgent user selects inWorkspace hub.database).isSome
    else pure false

def canAccessService (userIndex : Option Int32) (workspaceIndex : Number) (agentUuid : Value)
    (serviceIndex : Number) : HubProgram Bool :=
  match signedIn userIndex with
  | none => pure false
  | some user =>
    if isFinite workspaceIndex && isFinite serviceIndex && agentUuid.truthy then do
      let selects ← orThrow (uuidFilter platform agentUuid) .internal
      let workspaceIndex ← fromExcept (intColumn workspaceIndex)
      let serviceIndex ← fromExcept (intColumn serviceIndex)
      look fun hub =>
        (accessibleService user workspaceIndex serviceIndex selects hub.database).isSome
    else pure false

/-! ## Packets -/

/-- What a handler returns to the console. -/
inductive ConsoleReply where
  | none
  | ok
  | opened (sessionId : Text)
  | refused (error : String)
  deriving DecidableEq

/-- A member of what a console has sent. -/
def member (members : Members Value) (key : Text) : Value :=
  (Members.own members key).getD .undefined

/-- `sendToAgent` for what a console gave as the UUID; only a text is a key of the map. -/
def passOn (agentUuid : Value) (event : Text) (payload : Members Value) (hub : Hub) : Bool × Hub :=
  match agentUuid with
  | .string uuid => sendToAgent uuid (.forConsole event (.object payload)) hub
  | _ => (false, hub)

def handleCommand (userIndex : Option Int32) (payload : Value) : HubProgram ConsoleReply := do
  let members ← orThrow (packetMembers payload) .internal
  let agentUuid := member members "agentUuid"
  let allowed ← canAccessAgent platform userIndex agentUuid none
  if allowed then
    step fun hub => (.none, (passOn agentUuid "command" (Members.erase members "agentUuid") hub).2)
  else pure .none

/-- Joining the room of the workspace is a wait of its own. -/
def handleSubscribeLog (userIndex : Option Int32) (payload : Value) : HubProgram ConsoleReply := do
  let members ← orThrow (packetMembers payload) .internal
  let workspaceIndex ← orThrow (member members "workspaceIndex").toNumber .internal
  let serviceIndex ← orThrow (member members "serviceIndex").toNumber .internal
  let allowed ← canAccessService platform userIndex workspaceIndex (member members "agentUuid")
    serviceIndex
  if allowed then do
    let _ ← look fun _ => ()
    step fun hub => (.none,
      (passOn (member members "agentUuid") "command"
        [("command", .string "STREAM_LOG"), ("serviceIndex", member members "serviceIndex"),
          ("serviceName", member members "serviceName"),
          ("deployPreset", member members "deployPreset")] hub).2)
  else pure .none

def handleUnsubscribeLog (userIndex : Option Int32) (payload : Value) :
    HubProgram ConsoleReply := do
  let members ← orThrow (packetMembers payload) .internal
  let workspaceIndex ← orThrow (member members "workspaceIndex").toNumber .internal
  let allowed ← canAccessAgent platform userIndex (member members "agentUuid")
    (some workspaceIndex)
  if allowed then
    step fun hub => (.none,
      (passOn (member members "agentUuid") "command"
        [("command", .string "STOP_LOG"), ("serviceName", member members "serviceName")] hub).2)
  else pure .none

/-- Ask an Agent for its metrics. The request is forgotten when the Agent is away. -/
def requestMetrics (client : ℕ) (agentUuid : Value) (hub : Hub) : ConsoleReply × Hub :=
  let requestId := platform.randomUuid hub.drawn
  let delivered := passOn agentUuid "system-metrics-request" [("requestId", .string requestId)]
    { hub with drawn := hub.drawn + 1 }
  match delivered, agentUuid with
  | (true, hub), .string uuid =>
    (.ok, { hub with
      metricRequests := Members.define hub.metricRequests requestId ⟨client, uuid⟩ })
  | (_, hub), _ => (.refused "Agent is offline.", hub)

def handleAgentMetricsRequest (client : ℕ) (userIndex : Option Int32) (payload : Value) :
    HubProgram ConsoleReply := do
  let members ← orThrow (packetMembers payload) .internal
  let agentUuid := member members "agentUuid"
  let allowed ← canAccessAgent platform userIndex agentUuid none
  if allowed then
    step (requestMetrics platform client agentUuid)
  else pure (.refused "Agent access denied.")

/-- A number of rows or columns between 1 and 500. -/
def clampDimension (value : Value) (fallback : ℤ) : ℤ :=
  match value with
  | .number (.finite decimal) => min 500 (max 1 ⌊decimal.toRat⌋)
  | _ => fallback

/-- An integer in a packet. -/
def intValue (n : ℤ) : Value := .number (.finite (Decimal.ofInt n))

/-- Whether a claim is the purpose of a token for a terminal. -/
def isTerminalPurpose : Value → Bool
  | .string purpose => purpose == Auth.TokenPurpose.terminalSsh.text
  | _ => false

/-- Whether a subject is the user of a console. -/
def isUser (subject : Number) (userIndex : Option Int32) : Bool :=
  userIndex.any fun user => subject.toInteger? == some user.toInt

/-- The milliseconds after which a timer fires: one, for a delay out of range. -/
def timerDelay (delay : ℚ) : ℤ := if 1 ≤ delay ∧ delay ≤ 2 ^ 31 - 1 then ⌊delay⌋ else 1

/-- How long a token that is used stays consumed: until it expires, or for a minute. -/
def tokenLifetimeMs (claims : Members Value) (now : ℤ) : ℤ :=
  let expiresAt : Option Number := match member claims Auth.expiresAtClaim with
    | .undefined | .null => some (.finite (Decimal.ofInt (now / 1000 + 60)))
    | value => value.toNumber
  match expiresAt with
  | some (.finite seconds) => timerDelay (max 1000 (seconds.toRat * 1000 - now))
  | _ => 1

/-- Use a token up and open a terminal. The token is remembered until a timer fires, and the
session is forgotten when the Agent is away. -/
def openTerminal (client : ℕ) (tokenId : Text) (claims members : Members Value) (hub : Hub) :
    ConsoleReply × Hub :=
  let agentUuid := member claims "agentUuid"
  let sessionId := platform.randomUuid hub.drawn
  let delivered := passOn agentUuid "terminal-open"
    [("sessionId", .string sessionId),
      ("cols", intValue (clampDimension (member members "cols") 80)),
      ("rows", intValue (clampDimension (member members "rows") 24))]
    { hub with
      drawn := hub.drawn + 1
      consumedTerminalTokens := hub.consumedTerminalTokens ++ [tokenId]
      terminalTokenTimers := hub.terminalTokenTimers ++
        [(tokenId, hub.now + tokenLifetimeMs claims hub.now)] }
  match delivered, agentUuid with
  | (true, hub), .string uuid =>
    (.opened sessionId, { hub with
      terminalSessions := Members.define hub.terminalSessions sessionId ⟨client, uuid⟩ })
  | (_, hub), _ => (.refused "Agent is offline.", hub)

/-- What a verified token allows the console to do. -/
def useTerminalToken (client : ℕ) (userIndex : Option Int32) (members claims : Members Value) :
    HubProgram ConsoleReply := do
  let subject ← orThrow (member claims Auth.subjectClaim).toNumber .internal
  match member claims Auth.jwtIdClaim with
  | .string (unit :: units) => do
    let consumed ← look fun hub => hub.consumedTerminalTokens.contains (unit :: units)
    if consumed then pure (.refused "Terminal token was already used.")
    else if (member claims "agentUuid").truthy && isUser subject userIndex then do
      let allowed ← canAccessAgent platform userIndex (member claims "agentUuid") none
      if allowed then
        step (openTerminal platform client (unit :: units) claims members)
      else pure (.refused "Agent access denied.")
    else pure (.refused "Terminal token does not match this session.")
  | _ => pure (.refused "Terminal token was already used.")

/-- Open a terminal with a token. The parameter is what the library returns for a token at
a time. -/
def handleTerminalOpen (verifyToken : Value → ℤ → Option (Members Value)) (client : ℕ)
    (userIndex : Option Int32) (payload : Value) : HubProgram ConsoleReply :=
  tryCatch (do
    let members ← orThrow (packetMembers payload) .internal
    let now ← look fun hub => hub.now
    let token ← orThrow (verifyToken (member members "token") now) .internal
    require (isTerminalPurpose (member token Auth.purposeClaim) = true) .internal
    useTerminalToken platform client userIndex members token)
    fun _ => pure (.refused "Terminal authorization failed.")

end Handlers

end ConsoleGateway

end OpticsHub
