import OpticsHub.Agent.ConsoleGateway

/-!
# The events of the Agents

What an Agent reports is passed on to the consoles of one workspace. For the answer to a
command that is the workspace on the socket, written there when the Agent registered. For
what is about a service it is the workspace of the service, once the database has said
that a linked Agent of this UUID hosts it; the answer is kept for 30 seconds under the UUID
and the index, so that a service that logs much does not ask again for every line. Only
this gateway reads and writes that cache, so it stands here beside the rest of the Hub,
with the events that have been passed on.
-/
namespace OpticsHub

open Script Async Program

namespace AgentGateway

open AgentService ConsoleGateway

/-- An entry of the cache of workspaces. -/
structure CachedWorkspace where
  workspaceIndex : ℕ
  expiresAt : ℤ
  deriving DecidableEq

/-- An event that was emitted to the room of a workspace. -/
structure Relay where
  workspaceIndex : ℕ
  event : Text
  payload : Value

/-- The Hub, the cache of workspaces, and what has been passed on so far. -/
structure RelayState where
  hub : Hub
  workspaceIndexCache : Members CachedWorkspace := []
  relayed : List Relay := []

abbrev RelayProgram := Program RelayState Failure

/-- A program on the rest of the Hub. -/
def onHub {α : Type} (program : HubProgram α) : RelayProgram α :=
  program.zoom RelayState.hub fun hub state => { state with hub := hub }

def emitToWorkspace (workspaceIndex : ℕ) (event : Text) (payload : Value) (state : RelayState) :
    RelayState :=
  { state with relayed := state.relayed ++ [⟨workspaceIndex, event, payload⟩] }

/-! ## The workspace of a service -/

/-- The lifetime of an entry of the cache, in milliseconds. -/
def workspaceIndexCacheTtl : ℤ := 30000

def slash : CodeUnit := 0x2F

def cacheKey (agentUuid serviceIndex : Text) : Text := agentUuid ++ slash :: serviceIndex

/-- The entry under a key that has not expired. -/
def cachedWorkspace (key : Text) (state : RelayState) : Option CachedWorkspace :=
  (Members.own state.workspaceIndexCache key).filter fun entry =>
    decide (state.hub.now < entry.expiresAt)

/-- The first service that an index selects. -/
def serviceBy (selects : ℕ → Bool) (database : Database) : Option ServiceRow :=
  database.services.findFirst fun service =>
    selects service.serviceIndex && service.serviceDeletedAt.isNone

/-- Keep the workspace of a service. -/
def cacheWorkspace (key : Text) (workspaceIndex : ℕ) (state : RelayState) : RelayState :=
  { state with
    workspaceIndexCache := Members.define state.workspaceIndexCache key
      ⟨workspaceIndex, state.hub.now + workspaceIndexCacheTtl⟩ }

/-- Forget what is kept for an Agent, as its last socket closes. -/
def forgetWorkspaces (agentUuid : Text) (state : RelayState) : RelayState :=
  { state with
    workspaceIndexCache := state.workspaceIndexCache.filter fun entry =>
      !(cacheKey agentUuid []).isPrefixOf entry.1 }

section Handlers

variable (objectFilter : Members Value → Option (ℕ → Bool))

/-- The filter that a value of a packet makes on an integer column: none if it is not given,
equality with an integer, whatever the client makes of an object, and no query for any
other value. -/
def indexFilter : Value → Option (ℕ → Bool)
  | .undefined => some fun _ => true
  | .number number =>
    (numberColumn (some (.number number))).map fun wanted index => (index : ℤ) == wanted
  | .object members => objectFilter members
  | _ => none

/-- The workspace to which an Agent may report on a service. -/
def getWorkspaceIndexForAgentService (agentUuid : Text) (serviceIndex : Value) :
    RelayProgram (Option ℕ) := do
  let indexText ← orThrow serviceIndex.toText .internal
  let cached ← look (cachedWorkspace (cacheKey agentUuid indexText))
  match cached with
  | some entry => pure (some entry.workspaceIndex)
  | none => do
    let selects ← orThrow (indexFilter objectFilter serviceIndex) .internal
    let service ← look fun state => serviceBy selects state.hub.database
    match service with
    | none => pure none
    | some service => do
      let agent ← look fun state => hostOfService (· == agentUuid) service state.hub.database
      match agent with
      | none => pure none
      | some _ =>
        step fun state => (some service.serviceParentWorkspace,
          cacheWorkspace (cacheKey agentUuid indexText) service.serviceParentWorkspace state)

/-! ## Components -/

/-- The status of a component; one that is not known counts as stopped. -/
def normalizeComponentStatus : Value → ServiceComponentStatus
  | .string status =>
    if status = "waiting" then .waiting
    else if status = "building" then .building
    else if status = "starting" then .starting
    else if status = "running" then .running
    else if status = "failed" then .failed
    else if status = "removed" then .removed
    else if status = "restarting" then .restarting
    else .stopped
  | _ => .stopped

/-- The name of the component that a container belongs to. -/
def componentName (deployPreset : DeployPreset) (container : Members Value) :
    Except Failure Value :=
  let otherwise : Value := if deployPreset = .compose then member container "name" else .string "app"
  match member container "service" with
  | .undefined | .null => .ok otherwise
  | .string service => .ok (if service.trim.isEmpty then otherwise else .string service.trim)
  | _ => .error .internal

/-- What is reported of one container, as it goes into the columns of a component. The name of the
container may not be set. -/
structure ReportedContainer where
  containerName : Option (Option Text)
  status : ServiceComponentStatus
  health : Option Text
  exitCode : Option ℤ

/-- A value of a packet as a number column that may be null, also if the value is not there. -/
def nullableNumber : Value → Option (Option ℤ)
  | .undefined | .null => some none
  | value => (numberColumn (some value)).map some

/-- The columns that a container is reported with; the client refuses values of other types. -/
def reportedContainer (container : Members Value) : Option ReportedContainer := do
  let containerName ← textColumn (some (member container "name"))
  let health ← textColumn (some (member container "health"))
  let exitCode ← nullableNumber (member container "exitCode")
  return {
    containerName := containerName
    status := normalizeComponentStatus (member container "status")
    health := health.join
    exitCode := exitCode }

/-- Whether a component is that of a service with a name. -/
def isComponent (serviceIndex : ℤ) (name : Text) (component : ComponentRow) : Bool :=
  (component.componentParentService : ℤ) == serviceIndex && component.componentName == name

/-- Create or change the component of a service that has a name. -/
def upsertComponent (serviceIndex : ℤ) (name : Text) (reported : ReportedContainer) :
    HubProgram Unit :=
  step fun hub => ((), hub.write fun database =>
    { database with
      serviceComponents :=
        match database.serviceComponents.findFirst (isComponent serviceIndex name) with
        | some _ => database.serviceComponents.updateMany (isComponent serviceIndex name)
            fun component =>
              { component with
                componentContainerName :=
                  reported.containerName.getD component.componentContainerName
                componentStatus := reported.status
                componentHealth := reported.health
                componentExitCode := reported.exitCode
                componentDeletedAt := none }
        | none => database.serviceComponents.create fun index =>
            { componentIndex := index
              componentParentService := serviceIndex.toNat
              componentName := name
              componentContainerName := reported.containerName.getD none
              componentStatus := reported.status
              componentHealth := reported.health
              componentExitCode := reported.exitCode } })

/-- Write what is reported of one container, and return the name of its component. -/
def syncContainer (serviceIndex : Value) (deployPreset : DeployPreset) (container : Value) :
    HubProgram (Option Text) := do
  let container ← orThrow (packetMembers container) .internal
  let name ← fromExcept (componentName deployPreset container)
  if name.truthy then do
    let index ← orThrow (numberColumn (some serviceIndex)) .internal
    let column ← orThrow (textColumn (some name)) .internal
    let name ← orThrow column.join .internal
    let reported ← orThrow (reportedContainer container) .internal
    upsertComponent index name reported
    return some name
  else return none

/-- Mark the components of a service removed that are not deleted and do not have one of some
names. -/
def removeComponents (selects : ℕ → Bool) (seenNames : List Text) : HubProgram Unit :=
  step fun hub => ((), hub.write fun database =>
    { database with
      serviceComponents := database.serviceComponents.updateMany
        (fun component => selects component.componentParentService &&
          component.componentDeletedAt.isNone && !seenNames.contains component.componentName)
        fun component => { component with componentStatus := .removed } })

/-- The elements of a list of containers; nothing else is gone through. -/
def containerList : Value → Option (List Value)
  | .array elements => some elements
  | _ => none

/-- Write what is reported of the containers of a service. Components that are not reported
are marked removed. -/
def syncServiceComponents (serviceIndex containers : Value) : HubProgram Unit := do
  let selects ← orThrow (indexFilter objectFilter serviceIndex) .internal
  let service ← look fun hub => serviceBy selects hub.database
  match service with
  | none => pure ()
  | some service => do
    let containers ← orThrow (containerList containers) .internal
    let seenNames ← containers.mapM (syncContainer serviceIndex service.serviceDeployPreset)
    removeComponents selects seenNames.reduceOption

/-! ## Events -/

/-- Go on when something fails; the failure is only logged. -/
def loggingFailure (program : HubProgram Unit) : HubProgram Unit :=
  tryCatch program fun _ => pure ()

/-- The members that spreading a value copies. -/
def spreadable : Value → Members Value
  | .object members => members
  | .array elements => elements.mapIdx fun index element => (decimalText index, element)
  | .string text => text.mapIdx fun index unit => (decimalText index, .string [unit])
  | _ => []

/-- A text that may not be there. -/
def textValue : Option Text → Value
  | none => .undefined
  | some text => .string text

/-- An event that is about a service: look up its workspace, record what it reports, and
pass it on. -/
def relayForService (event : Text) (client : ℕ) (payload : Value)
    (record : Members Value → HubProgram Unit) : RelayProgram Unit := do
  let data ← look fun state => (state.hub.sockets client).data
  match data.agentUuid with
  | some (unit :: units) => do
    let members ← orThrow (packetMembers payload) .internal
    let workspaceIndex ← getWorkspaceIndexForAgentService objectFilter (unit :: units)
      (member members "serviceIndex")
    match workspaceIndex with
    | some (index + 1) => do
      onHub (record members)
      step fun state => ((), emitToWorkspace (index + 1) event
        (.object (Members.spread [("agentCode", textValue data.agentCode)] (spreadable payload)))
        state)
    | _ => pure ()
  | _ => pure ()

/-- The answer to a command goes to the workspace that is on the socket. -/
def handleResponse (client : ℕ) (payload : Value) : RelayProgram Unit :=
  step fun state => ((),
    match (state.hub.sockets client).data.workspaceIndex with
    | some (index + 1) => emitToWorkspace (index + 1) "response" payload state
    | _ => state)

def handleContainerStatus (client : ℕ) (payload : Value) : RelayProgram Unit :=
  relayForService objectFilter "container-status" client payload fun members =>
    loggingFailure (syncServiceComponents objectFilter (member members "serviceIndex")
      (member members "containers"))

/-- The statuses that are written to the row of a service. -/
def dbStatus : Value → Option ServiceStatus
  | .string status =>
    if status = "waiting" then some .waiting
    else if status = "building" then some .building
    else if status = "starting" then some .starting
    else if status = "running" then some .running
    else if status = "stopped" then some .stopped
    else if status = "failed" then some .failed
    else if status = "removed" then some .removed
    else none
  | _ => none

def handleServiceStatus (client : ℕ) (payload : Value) : RelayProgram Unit :=
  relayForService objectFilter "service-status" client payload fun members =>
    match dbStatus (member members "status") with
    | some status => loggingFailure (updateServiceStatus (member members "serviceIndex") status)
    | none => pure ()

def handleServiceLog (client : ℕ) (payload : Value) : RelayProgram Unit :=
  relayForService objectFilter "service-log" client payload fun _ => pure ()

def handleLogLoadProgress (client : ℕ) (payload : Value) : RelayProgram Unit :=
  relayForService objectFilter "log-load-progress" client payload fun _ => pure ()

def handleServiceLogHistory (client : ℕ) (payload : Value) : RelayProgram Unit :=
  relayForService objectFilter "service-log-history" client payload fun _ => pure ()

def handleServiceLogMarkers (client : ℕ) (payload : Value) : RelayProgram Unit :=
  relayForService objectFilter "service-log-markers" client payload fun _ => pure ()

end Handlers

end AgentGateway

end OpticsHub
