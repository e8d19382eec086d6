import OpticsHub.Hub.State

/-!
# Agents in the database

An Agent registers with the UUID it was given before, or without one to get a new
row. A row without a signing secret, left from the time before signatures, gets one
at the next registration; the row is read first and written in a second action. A
workspace asks for an Agent and the Agent accepts or rejects: both look for a row
that is still in the requested state and change it under the same condition.
-/
namespace OpticsHub

open Script Async Program

namespace AgentService

/-- `Agent Not Found.` -/
def agentNotFound : Failure := .notFound "Agent Not Found."

section Queries

/-- `findFirst` on `agents`. -/
def findAgent (selected : AgentRow → Bool) : HubProgram (Option AgentRow) :=
  look fun hub => hub.database.agents.findFirst selected

/-- `update` on `agents`: change the one row that is selected and return it. -/
def updateAgent (selected : AgentRow → Bool) (change : AgentRow → AgentRow)
    (keyed : ∀ row, (change row).agentIndex = row.agentIndex := by intro; rfl) :
    HubProgram AgentRow :=
  atomically fun hub =>
    match hub.database.agents.findFirst selected with
    | none => (.error .internal, hub)
    | some row =>
      (.ok (change row), hub.write fun database =>
        { database with
          agents := database.agents.updateMany
            (fun other => other.agentIndex == row.agentIndex) change keyed })

/-- `updateMany` on `agents`. -/
def updateAgents (selected : AgentRow → Bool) (change : AgentRow → AgentRow)
    (keyed : ∀ row, (change row).agentIndex = row.agentIndex := by intro; rfl) :
    HubProgram Unit :=
  step fun hub => ((), hub.write fun database =>
    { database with agents := database.agents.updateMany selected change keyed })

end Queries

/-- The signing secret of the first Agent whose UUID is selected. -/
def secretOf (selects : Text → Bool) (database : Database) : Option Text :=
  (database.agents.findFirst fun row => selects row.agentUuid).bind AgentRow.agentSigningSecret

/-- The secret stored for a UUID. -/
def storedSecret (database : Database) (agentUuid : Text) : Option Text :=
  secretOf (· == agentUuid) database

def getSigningSecret (selects : Text → Bool) : HubProgram (Option Text) :=
  look fun hub => secretOf selects hub.database

section Register

variable (platform : Platform)

/-- The filter that a value of a packet makes on `agent_uuid`: equality with a text,
whatever the client makes of an object, and no query for any other value. -/
def uuidFilter : Value → Option (Text → Bool)
  | .string uuid => some (· == uuid)
  | .object members => platform.uuidFilter members
  | _ => none

/-- A value of a packet as a text column: not set, null or a text; the client refuses
the rest. -/
def textColumn : Option Value → Option (Option (Option Text))
  | none | some .undefined => some none
  | some .null => some (some none)
  | some (.string text) => some (some (some text))
  | _ => none

/-- A value of a packet as a number column of 32 bits. -/
def numberColumn : Option Value → Option ℤ
  | some (.number number) =>
    number.toInteger?.filter fun n => decide (-2 ^ 31 ≤ n ∧ n < 2 ^ 31)
  | _ => none

/-- Whether a secret is there: an empty one counts as none. -/
def hasSecret : Option Text → Bool
  | some (_ :: _) => true
  | _ => false

/-- The write of a registration to the row of a known Agent. -/
def updateRegistered (ip uuid : Text) (exist : AgentRow) (agentVersion : Option (Option Text))
    (protocolVersion : ℤ) : HubProgram RegisteredAgent :=
  atomically fun hub =>
    match hub.database.agents.findFirst fun row => row.agentUuid == uuid with
    | none => (.error .internal, hub)
    | some row =>
      let reissuedSecret :=
        if hasSecret exist.agentSigningSecret then none
        else some (platform.randomBytes hub.drawn)
      let change (row : AgentRow) : AgentRow :=
        { row with
          agentStatus := .online
          agentIp := ip
          agentLastOnline := hub.now
          agentProtocolVersion := some protocolVersion
          agentVersion := agentVersion.getD row.agentVersion
          agentSigningSecret := reissuedSecret.or row.agentSigningSecret }
      (.ok
        { ip := ip
          code := row.agentCode
          uuid := row.agentUuid
          signingSecret := reissuedSecret
          parentWorkspace := row.agentParentWorkspace },
        { hub with
          drawn := hub.drawn + 1
          database := { hub.database with
            agents := hub.database.agents.updateMany
              (fun other => other.agentIndex == row.agentIndex) change } })

/-- The row of an Agent that registers for the first time. Its code and its UUID must
be new. -/
def createRegistered (ip : Text) (agentVersion : Option (Option Text)) (protocolVersion : ℤ) :
    HubProgram RegisteredAgent :=
  atomically fun hub =>
    let newCode := platform.randomCode hub.drawn
    let newUuid := platform.randomUuid hub.drawn
    let newSecret := platform.randomBytes hub.drawn
    let taken := hub.database.agents.findFirst fun row =>
      row.agentCode == newCode || row.agentUuid == newUuid
    match taken with
    | some _ => (.error .internal, hub)
    | none =>
      (.ok
        { ip := ip
          code := newCode
          uuid := newUuid
          signingSecret := some newSecret
          parentWorkspace := none },
        { hub with
          drawn := hub.drawn + 1
          database := { hub.database with
            agents := hub.database.agents.create fun index =>
              { agentIndex := index
                agentIp := ip
                agentCode := newCode
                agentUuid := newUuid
                agentName := newCode
                agentSigningSecret := some newSecret
                agentProtocolVersion := some protocolVersion
                agentStatus := .online
                agentVersion := agentVersion.getD none
                agentLastOnline := hub.now } } })

/-- The row that a packet names, if it names one. -/
def findExist (uuid : Value) : HubProgram (Option AgentRow) :=
  if uuid.truthy then do
    let selects ← orThrow (uuidFilter platform uuid) .internal
    findAgent fun row => selects row.agentUuid
  else pure none

/-- Register an Agent by the UUID of its packet, or as a new one when the packet names
none or one that is not known. -/
def registerAgent (ip : Text) (agentUuid agentVersion protocolVersion : Option Value) :
    HubProgram RegisteredAgent := do
  let uuid := agentUuid.getD .undefined
  let exist ← findExist platform uuid
  let version ← orThrow (textColumn agentVersion) .internal
  let protocol ← orThrow (numberColumn protocolVersion) .internal
  match exist, uuid with
  | some exist, .string uuid => updateRegistered platform ip uuid exist version protocol
  | some _, _ => throw .internal
  | none, _ => createRegistered platform ip version protocol

end Register

/-! ## Requests for a connection -/

/-- The row of an Agent that a workspace has asked for. -/
def requested (agentCode agentUuid : Text) (row : AgentRow) : Bool :=
  row.agentCode == agentCode.toUpperCase && row.agentUuid == agentUuid &&
    row.agentConnection == .requested

def handleAcceptConnectRequest (agentCode agentUuid : Text) : HubProgram AgentRow := do
  let rawAgent ← findAgent (requested agentCode agentUuid)
  let _ ← orThrow rawAgent agentNotFound
  let rawUpdatedAgent ← updateAgent (requested agentCode agentUuid) fun row =>
    { row with agentConnection := .linked }
  step fun hub => (rawUpdatedAgent,
    hub.notifyWorkspaceUpdated rawUpdatedAgent.agentParentWorkspace)

def handleRejectConnectRequest (agentCode agentUuid : Text) : HubProgram AgentRow := do
  let rawAgent ← findAgent (requested agentCode agentUuid)
  let rawAgent ← orThrow rawAgent agentNotFound
  let rawUpdatedAgent ← updateAgent (requested agentCode agentUuid) fun row =>
    { row with agentConnection := .unlinked, agentParentWorkspace := none }
  step fun hub => (rawUpdatedAgent, hub.notifyWorkspaceUpdated rawAgent.agentParentWorkspace)

/-! ## The status of a service -/

/-- Set the status of a service. The database client takes an integer for its index. -/
def updateServiceStatus (serviceIndex : Value) (status : ServiceStatus) : HubProgram Unit := do
  let index ← orThrow (numberColumn (some serviceIndex)) .internal
  atomically fun hub =>
    match hub.database.services.findFirst fun row => (row.serviceIndex : ℤ) == index with
    | none => (.error .internal, hub)
    | some service =>
      (.ok (), hub.write fun database =>
        { database with
          services := database.services.updateMany
            (fun row => row.serviceIndex == service.serviceIndex)
            fun row => { row with serviceStatus := status } })

/-! ## Going offline -/

/-- Set the services of some Agents offline, apart from those that are removed. -/
def markServicesOffline (agentWhere : AgentRow → Bool) : HubProgram Unit :=
  step fun hub => ((), hub.write fun database =>
    { database with
      services := database.services.updateMany
        (fun service => service.serviceDeletedAt.isNone &&
          !(service.serviceStatus == .removed || service.serviceStatus == .offline) &&
          (database.agents.findFirst fun agent =>
            agent.agentIndex == service.serviceParentAgent && agentWhere agent).isSome)
        fun service => { service with serviceStatus := .offline } })

/-- No Agent is there when the Hub has just started. -/
def onModuleInit : HubProgram Unit := do
  let now ← look Hub.now
  updateAgents (fun row => row.agentDeletedAt.isNone) fun row =>
    { row with agentStatus := .offline, agentLastOnline := now }
  markServicesOffline fun row => row.agentDeletedAt.isNone

def markAgentOffline (agentUuid : Text) : HubProgram Unit := do
  let agent ← findAgent fun row => row.agentUuid == agentUuid
  let now ← look Hub.now
  updateAgents (fun row => row.agentUuid == agentUuid) fun row =>
    { row with agentStatus := .offline, agentLastOnline := now }
  markServicesOffline fun row => row.agentUuid == agentUuid
  step fun hub => ((), hub.notifyWorkspaceUpdated (agent.bind AgentRow.agentParentWorkspace))

end AgentService

end OpticsHub
