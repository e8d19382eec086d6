import OpticsHub.Services.Normalize
import OpticsHub.Tunnel.TunnelService

/-!
# Services

Every operation of a service starts with the same two queries: the service, if the
caller owns its workspace, and the agent it runs on, if that is linked to the same
workspace. Rows are written one query at a time, without a transaction, and a command
for the agent comes last. The addresses of a service are replaced in three steps: a
query for addresses of other services that are in the way, the removal of all rows of
the service, and the new rows.
-/
namespace OpticsHub

open Script Async Program

namespace ServiceService

open AgentGateway TunnelService

/-! ## Failures -/

def workspaceNotFound : Failure := .notFound "Workspace Not Found."
def agentNotFound : Failure := .notFound "Agent Not Found."
def serviceNotFound : Failure := .notFound "Service Not Found."
def targetAgentNotFound : Failure := .notFound "Target agent is offline or deleted."
def serviceNameExists : Failure := .conflict "Service Name Already Exists in This Workspace."
def duplicateEndpointSubdomain : Failure := .conflict "Duplicate Endpoint Subdomain."
def endpointSubdomainInUse : Failure := .conflict "Endpoint Subdomain Already In Use."
def subdomainInUse : Failure := .conflict "Subdomain Already In Use."
def invalidServiceIndex : Failure := .badRequest "Invalid Service Index."
def agentIsNotConnected : Failure := .serviceUnavailable "Agent is not connected."

/-! ## Queries -/

/-- Whether a workspace belongs to a user and is not deleted. -/
def ownedBy (database : Database) (owner : Int32) (workspaceIndex : ℕ) : Bool :=
  (database.workspaces.findFirst fun workspace =>
    workspace.workspaceIndex == workspaceIndex && workspace.workspaceOwner == owner &&
      workspace.workspaceDeletedAt.isNone).isSome

/-- `Number(serviceIdx)` as an index of a service. -/
def parseServiceIndex (serviceIdx : Text) : Except Failure ℕ :=
  match serviceIdx.toNumber.toInteger? with
  | some parsed => if 1 ≤ parsed then .ok parsed.toNat else .error invalidServiceIndex
  | none => .error invalidServiceIndex

/-- A service that is not deleted, by its owner. -/
def ownedService (owner : Int32) (serviceIndex : ℕ) (database : Database) : Option ServiceRow :=
  database.services.findFirst fun service =>
    service.serviceIndex == serviceIndex && service.serviceDeletedAt.isNone &&
      ownedBy database owner service.serviceParentWorkspace

/-- The agent a service runs on, if it is linked to the workspace of the service. -/
def agentOfService (service : ServiceRow) (database : Database) : Option AgentRow :=
  database.agents.findFirst fun agent =>
    agent.agentIndex == service.serviceParentAgent &&
      agent.agentParentWorkspace == some service.serviceParentWorkspace &&
      agent.agentConnection == .linked && agent.agentDeletedAt.isNone

/-- Another service of the workspace with a name, unless it is removed. -/
def namesake (workspaceIndex : ℕ) (serviceName : Text) (except : Option ℕ)
    (database : Database) : Option ServiceRow :=
  database.services.findFirst fun service =>
    service.serviceParentWorkspace == workspaceIndex && service.serviceName == serviceName &&
      service.serviceDeletedAt.isNone && service.serviceStatus != .removed &&
      some service.serviceIndex != except

/-- An endpoint of another service of the workspace with one of some subdomains. -/
def takenEndpoint (workspaceIndex serviceIndex : ℕ) (subdomains : List Text)
    (database : Database) : Option EndpointRow :=
  database.serviceEndpoints.findFirst fun endpoint =>
    endpoint.endpointParentWorkspace == workspaceIndex &&
      endpoint.endpointParentService != serviceIndex &&
      endpoint.endpointSubdomain.any subdomains.contains && endpoint.endpointDeletedAt.isNone

/-- The service and the agent that an operation of a user is about. An index beyond the
column is refused by the database. -/
def findOwnedServiceAndAgent (owner : Int32) (serviceIdx : Text) :
    HubProgram (ServiceRow × Option AgentRow) := do
  let serviceIndex ← fromExcept (parseServiceIndex serviceIdx)
  require (serviceIndex < 2 ^ 31) .internal
  let rawService ← look fun hub => ownedService owner serviceIndex hub.database
  let rawService ← orThrow rawService serviceNotFound
  let rawAgent ← look fun hub => agentOfService rawService hub.database
  return (rawService, rawAgent)

/-! ## Writes -/

/-- Whether another row has the subdomain and the time of deletion of a deleted service of
its workspace. Rows that are not deleted never clash. -/
def clashes (services : Table ServiceRow) (row : ServiceRow) : Bool :=
  row.serviceDeletedAt.isSome && row.serviceSubdomain.isSome &&
    (services.findFirst fun other =>
      other.serviceIndex != row.serviceIndex &&
        other.serviceParentWorkspace == row.serviceParentWorkspace &&
        other.serviceSubdomain == row.serviceSubdomain &&
        other.serviceDeletedAt == row.serviceDeletedAt).isSome

/-- `update` on `services`. -/
def updateService (serviceIndex : ℕ) (change : ℤ → ServiceRow → ServiceRow)
    (keyed : ∀ now row, (change now row).serviceIndex = row.serviceIndex := by intros; rfl) :
    HubProgram ServiceRow :=
  atomically fun hub =>
    match hub.database.services.findFirst fun row => row.serviceIndex == serviceIndex with
    | none => (.error .internal, hub)
    | some row =>
      if clashes hub.database.services (change hub.now row) then (.error .internal, hub)
      else (.ok (change hub.now row), hub.write fun database =>
        { database with
          services := database.services.updateMany (fun other => other.serviceIndex == serviceIndex)
            (change hub.now) (keyed hub.now) })

/-- The component that a service has by default. -/
def ensureDefaultComponent (serviceIndex : ℕ) (serviceName : Text) (deployPreset : DeployPreset) :
    HubProgram Unit :=
  let componentName := defaultComponentName serviceName deployPreset
  let named (component : ComponentRow) : Bool :=
    component.componentParentService == serviceIndex && component.componentName == componentName
  step fun hub => ((), hub.write fun database =>
    { database with
      serviceComponents :=
        match database.serviceComponents.findFirst named with
        | some _ => database.serviceComponents.updateMany named fun component =>
            { component with componentDeletedAt := none }
        | none => database.serviceComponents.create fun index =>
            { componentIndex := index
              componentParentService := serviceIndex
              componentName := componentName
              componentContainerName :=
                if deployPreset = .compose then none else some serviceName.toLowerCase } })

/-- The subdomains of endpoints that have one. -/
def publicSubdomains (endpoints : List ServiceEndpoint) : List Text :=
  endpoints.filterMap ServiceEndpoint.subdomain

/-- The row of an endpoint. -/
def endpointRow (workspaceIndex serviceIndex : ℕ) (endpoint : ServiceEndpoint) (index : ℕ) :
    EndpointRow where
  endpointIndex := index
  endpointParentWorkspace := workspaceIndex
  endpointParentService := serviceIndex
  endpointComponentName := some endpoint.componentName
  endpointSubdomain := endpoint.subdomain
  endpointHostPort := endpoint.hostPort
  endpointContainerPort := endpoint.containerPort

/-- `deleteMany` on the endpoints of a service. -/
def deleteEndpoints (serviceIndex : ℕ) : HubProgram Unit :=
  step fun hub => ((), hub.write fun database =>
    { database with
      serviceEndpoints := database.serviceEndpoints.deleteMany fun endpoint =>
        endpoint.endpointParentService == serviceIndex })

/-- `createMany` of the endpoints of a service. -/
def createEndpoints (serviceIndex workspaceIndex : ℕ) (endpoints : List ServiceEndpoint) :
    HubProgram Unit :=
  step fun hub => ((), hub.write fun database =>
    { database with
      serviceEndpoints := database.serviceEndpoints.createMany
        (endpointRow workspaceIndex serviceIndex) (fun _ _ => rfl) endpoints })

/-- The checks before the endpoints of a service are replaced. -/
def checkEndpoints (serviceIndex workspaceIndex : ℕ) (endpoints : List ServiceEndpoint) :
    HubProgram Unit := do
  require (publicSubdomains endpoints).Nodup duplicateEndpointSubdomain
  if (publicSubdomains endpoints).isEmpty then pure ()
  else do
    let duplicate ← look fun hub =>
      takenEndpoint workspaceIndex serviceIndex (publicSubdomains endpoints) hub.database
    require (duplicate.isNone = true) endpointSubdomainInUse

def replaceServiceEndpoints (serviceIndex workspaceIndex : ℕ) (endpoints : List ServiceEndpoint) :
    HubProgram Unit := do
  checkEndpoints serviceIndex workspaceIndex endpoints
  deleteEndpoints serviceIndex
  if endpoints.isEmpty then pure () else createEndpoints serviceIndex workspaceIndex endpoints

/-! ## Commands -/

/-- Send a command, and tell the consoles of a workspace if asked to and it was sent. -/
def trySend (agentUuid : Text) (command : AgentCommand) (workspaceIndex : ℕ) (notify : Bool) :
    HubProgram Bool :=
  step fun hub =>
    let delivered := sendToAgent agentUuid (.command command) hub
    (delivered.1,
      if delivered.1 && notify then delivered.2.notifyWorkspaceUpdated (some workspaceIndex)
      else delivered.2)

/-- The service is marked as failed and the caller is told that the agent is away. -/
def failUnsent (serviceIndex workspaceIndex : ℕ) : HubProgram Unit := do
  let _ ← updateService serviceIndex fun _ row => { row with serviceStatus := .failed }
  atomically fun hub =>
    (.error agentIsNotConnected, hub.notifyWorkspaceUpdated (some workspaceIndex))

/-- Send a command for a service; without a connection the service fails. -/
def sendCommand (agentUuid : Text) (command : AgentCommand) (serviceIndex workspaceIndex : ℕ)
    (notify : Bool) : HubProgram Unit := do
  let sent ← trySend agentUuid command workspaceIndex notify
  if sent then pure () else failUnsent serviceIndex workspaceIndex

/-- What the commands for a service share: the service may not be removed, and its agent
must be linked. -/
def commandService (owner : Int32) (serviceIdx : Text) (removed : String)
    (command : ServiceRow → AgentCommand) (notify : Bool) : HubProgram ℕ := do
  let (rawService, rawAgent) ← findOwnedServiceAndAgent owner serviceIdx
  require (rawService.serviceStatus ≠ .removed) (.conflict removed)
  let rawAgent ← orThrow rawAgent .agentNotConnected
  sendCommand rawAgent.agentUuid (command rawService) rawService.serviceIndex
    rawService.serviceParentWorkspace notify
  return rawService.serviceIndex

/-- The data of `START` and `STOP`. -/
def runCommand (service : ServiceRow) : RunCommand where
  serviceIndex := service.serviceIndex
  serviceName := service.serviceName
  servicePort := service.serviceHostPort.getD service.servicePort
  serviceHostPort := service.serviceHostPort.getD service.servicePort
  serviceContainerPort := service.serviceContainerPort.getD service.servicePort
  serviceVersion := service.serviceVersion
  deployPreset := service.serviceDeployPreset

/-- The data of a command for a container. -/
def containerCommand (containerName : Text) (service : ServiceRow) : ContainerCommand where
  serviceIndex := service.serviceIndex
  serviceName := service.serviceName
  deployPreset := service.serviceDeployPreset
  containerName := containerName

def handleStartService (owner : Int32) (serviceIdx : Text) : HubProgram ℕ :=
  commandService owner serviceIdx "Removed service must be redeployed before it can be started."
    (fun service => .start (runCommand service)) true

def handleStopService (owner : Int32) (serviceIdx : Text) : HubProgram ℕ :=
  commandService owner serviceIdx "Removed service cannot be stopped."
    (fun service => .stop (runCommand service)) true

def handleStartContainer (owner : Int32) (serviceIdx containerName : Text) : HubProgram ℕ :=
  commandService owner serviceIdx
    "Removed service must be redeployed before containers can be started."
    (fun service => .containerStart (containerCommand containerName service)) false

def handleStopContainer (owner : Int32) (serviceIdx containerName : Text) : HubProgram ℕ :=
  commandService owner serviceIdx "Removed service containers cannot be stopped."
    (fun service => .containerStop (containerCommand containerName service)) false

def handleRestartContainer (owner : Int32) (serviceIdx containerName : Text) : HubProgram ℕ :=
  commandService owner serviceIdx
    "Removed service must be redeployed before containers can be restarted."
    (fun service => .containerRestart (containerCommand containerName service)) false

def handleDeleteService (owner : Int32) (serviceIdx : Text) (deleteScope : DeleteScope) :
    HubProgram (ℕ × DeleteScope) := do
  let (rawService, rawAgent) ← findOwnedServiceAndAgent owner serviceIdx
  let rawAgent ← orThrow rawAgent .agentNotConnected
  let sent ← trySend rawAgent.agentUuid
    (.delete rawService.serviceIndex rawService.serviceName rawService.serviceDeployPreset
      deleteScope) rawService.serviceParentWorkspace false
  require (sent = true) agentIsNotConnected
  let _ ← updateService rawService.serviceIndex fun now row =>
    { row with
      serviceStatus := .removed
      serviceDeletedAt := if deleteScope = .service then some now else none }
  step fun hub => ((rawService.serviceIndex, deleteScope),
    hub.notifyWorkspaceUpdated (some rawService.serviceParentWorkspace))

/-! ## Traffic -/

/-- The options of a block. -/
structure BlockServiceTraffic where
  mode : Option TrafficBlockMode := none
  reason : Option Text := none

/-- A text without blanks around it; an empty one is none. -/
def trimmed (text : Option Text) : Option Text :=
  text.bind fun text => if text.trim.isEmpty then none else some text.trim

/-- What follows the write of a block or its end. -/
def publishTraffic (rawService updated : ServiceRow) : HubProgram ServiceRow :=
  step fun hub => (updated, (invalidateRouteCache hub).notifyWorkspaceUpdated
    (some rawService.serviceParentWorkspace))

def handleBlockServiceTraffic (owner : Int32) (serviceIdx : Text) (options : BlockServiceTraffic) :
    HubProgram ServiceRow := do
  let (rawService, _) ← findOwnedServiceAndAgent owner serviceIdx
  require (rawService.serviceStatus ≠ .removed)
    (.conflict "Removed service has no traffic to block.")
  let updated ← updateService rawService.serviceIndex fun now row =>
    { row with
      serviceTrafficBlockedAt := some (rawService.serviceTrafficBlockedAt.getD now)
      serviceTrafficBlockMode := options.mode.getD .notice
      serviceTrafficBlockReason := trimmed options.reason }
  publishTraffic rawService updated

def handleUnblockServiceTraffic (owner : Int32) (serviceIdx : Text) : HubProgram ServiceRow := do
  let (rawService, _) ← findOwnedServiceAndAgent owner serviceIdx
  let updated ← updateService rawService.serviceIndex fun _ row =>
    { row with
      serviceTrafficBlockedAt := none
      serviceTrafficBlockReason := none
      serviceTrafficBlockMode := .notice }
  publishTraffic rawService updated

end ServiceService

end OpticsHub
