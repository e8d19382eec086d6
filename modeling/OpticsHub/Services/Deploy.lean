import OpticsHub.Services.ServiceService

/-!
# Deployments and addresses

Creating and redeploying a service normalise the request, write the row of the service,
make sure of its default component, replace its endpoints and send the command, in this
order. A redeployment to another agent stops the service on the one it runs on before
the rest of the request is looked at. The address of a service is that of its first
endpoint row, and setting it changes that row or makes one.
-/
namespace OpticsHub

open Script Async Program

namespace ServiceService

open AgentGateway

/-! ## Creation -/

/-- The body of a request for a new service. -/
structure CreateServiceBody where
  workspaceIdx : ℕ
  serviceName : Text
  servicePort : Option ℤ
  serviceContainerPort : Option ℤ := none
  serviceHostPort : Option ℤ := none
  servicePortMappings : Value := .undefined
  serviceEndpoints : Value := .undefined
  serviceSourceUrl : Value
  serviceRootDirectory : Value := .undefined
  serviceVersion : Text
  serviceDeployPreset : DeployPreset
  agentIndex : ℕ
  env : Value := .undefined

/-- The linked agent of a workspace by its index. -/
def linkedAgent (agentIndex workspaceIndex : ℕ) (database : Database) : Option AgentRow :=
  database.agents.findFirst fun agent =>
    agent.agentIndex == agentIndex && agent.agentParentWorkspace == some workspaceIndex &&
      agent.agentConnection == .linked && agent.agentDeletedAt.isNone

/-- The normalised parts of a request. -/
structure Deployment where
  sourceRepositories : List ServiceSourceRepository
  portMappings : List ServicePortMapping
  endpoints : List ServiceEndpoint
  env : Members Text

/-- The stored form of an environment. -/
def storedEnv (env : Members Text) : Value :=
  .object (env.map fun entry => (entry.1, .string entry.2))

def rootDirectoryOf (repositories : List ServiceSourceRepository) : Option Text :=
  repositories.head?.bind ServiceSourceRepository.rootDirectory

/-- Normalise a request for a new service. -/
def createDeployment (body : CreateServiceBody) : Except Failure Deployment := do
  let sourceRepositories ←
    normalizeSourceRepositories body.serviceSourceUrl body.serviceRootDirectory
  let portMappings ← normalizePortMappings body.servicePortMappings
    (body.serviceHostPort.or body.servicePort) (body.serviceContainerPort.or body.servicePort)
  let endpoints ← normalizeEndpoints body.serviceEndpoints portMappings body.serviceName
    body.serviceDeployPreset none
  let env ← normalizeEnv body.env
  return {
    sourceRepositories := sourceRepositories
    portMappings := portMappings
    endpoints := endpoints
    env := env }

/-- The row of a new service. -/
def serviceRow (body : CreateServiceBody) (deployment : Deployment) (index : ℕ) : ServiceRow where
  serviceIndex := index
  serviceName := body.serviceName
  servicePort := (primaryPortMapping deployment.portMappings).hostPort
  serviceHostPort := some (primaryPortMapping deployment.portMappings).hostPort
  serviceContainerPort := some (primaryPortMapping deployment.portMappings).containerPort
  servicePortMappings := some (storedPortMappings deployment.portMappings)
  serviceSourceUrl := serializeSourceRepositories deployment.sourceRepositories
  serviceRootDirectory := rootDirectoryOf deployment.sourceRepositories
  serviceEnv := some (storedEnv deployment.env)
  serviceVersion := body.serviceVersion
  serviceDeployPreset := body.serviceDeployPreset
  serviceParentWorkspace := body.workspaceIdx
  serviceParentAgent := body.agentIndex

/-- `create` on `services`. -/
def createService (row : ℕ → ServiceRow) (keyed : ∀ n, (row n).serviceIndex = n := by intro; rfl) :
    HubProgram ServiceRow :=
  step fun hub =>
    (row hub.database.services.next, hub.write fun database =>
      { database with services := database.services.create row keyed })

/-- The data of `DEPLOY` for a new service. -/
def deployCommand (body : CreateServiceBody) (deployment : Deployment) (serviceIndex : ℕ) :
    DeployCommand where
  serviceIndex := serviceIndex
  sourceUrl := deployment.sourceRepositories
  rootDirectory := rootDirectoryOf deployment.sourceRepositories
  deployPreset := body.serviceDeployPreset
  serviceName := body.serviceName
  servicePort := (primaryPortMapping deployment.portMappings).hostPort
  serviceHostPort := (primaryPortMapping deployment.portMappings).hostPort
  serviceContainerPort := (primaryPortMapping deployment.portMappings).containerPort
  servicePortMappings := deployment.portMappings
  serviceVersion := body.serviceVersion
  env := deployment.env

/-- The checks of a request for a new service: the agent and the normalised request. -/
def prepareCreation (owner : Int32) (body : CreateServiceBody) :
    HubProgram (AgentRow × Deployment) := do
  let owned ← look fun hub => ownedBy hub.database owner body.workspaceIdx
  require (owned = true) workspaceNotFound
  let agent ← look fun hub => linkedAgent body.agentIndex body.workspaceIdx hub.database
  let agent ← orThrow agent agentNotFound
  let duplicatedService ← look fun hub =>
    namesake body.workspaceIdx body.serviceName none hub.database
  require (duplicatedService.isNone = true) serviceNameExists
  let deployment ← fromExcept (createDeployment body)
  return (agent, deployment)

/-- The writes of a new service and its command. -/
def deployNew (body : CreateServiceBody) (agent : AgentRow) (deployment : Deployment) :
    HubProgram ServiceRow := do
  let raw ← createService (serviceRow body deployment)
  ensureDefaultComponent raw.serviceIndex raw.serviceName raw.serviceDeployPreset
  replaceServiceEndpoints raw.serviceIndex body.workspaceIdx deployment.endpoints
  sendCommand agent.agentUuid (.deploy (deployCommand body deployment raw.serviceIndex))
    raw.serviceIndex body.workspaceIdx true
  return raw

def handleCreateService (owner : Int32) (body : CreateServiceBody) : HubProgram ServiceRow := do
  let (agent, deployment) ← prepareCreation owner body
  deployNew body agent deployment

/-! ## Redeployment -/

/-- The body of a request to deploy a service again. -/
structure RedeployService where
  agentIndex : Option ℕ := none
  serviceName : Option Text := none
  servicePort : Option ℤ := none
  serviceContainerPort : Option ℤ := none
  serviceHostPort : Option ℤ := none
  servicePortMappings : Option Value := none
  serviceSourceUrl : Option Value := none
  serviceRootDirectory : Option Text := none
  serviceVersion : Option Text := none
  serviceDeployPreset : Option DeployPreset := none
  serviceEndpoints : Value := .undefined
  env : Option Value := none

/-- An online agent of the workspace: the one that is asked for, or the first. -/
def targetAgent (agentIndex : Option ℕ) (workspaceIndex : ℕ) (database : Database) :
    Option AgentRow :=
  database.agents.findFirst fun agent =>
    (agentIndex.all fun index => agent.agentIndex == index) &&
      agent.agentParentWorkspace == some workspaceIndex && agent.agentStatus == .online &&
      agent.agentDeletedAt.isNone

/-- Whether the service has to be stopped on the agent that it runs on. -/
def leavesAgent (body : RedeployService) (rawService : ServiceRow) (rawAgent : Option AgentRow) :
    Bool :=
  body.agentIndex.any (fun index => index != 0 && rawService.serviceParentAgent != index) &&
    rawAgent.any fun agent => agent.agentStatus == .online

/-- The source of a redeployment; a text that is JSON stands for what it denotes. -/
def redeploySource (body : RedeployService) (rawService : ServiceRow) : Value :=
  match (Value.orElse body.serviceSourceUrl none).getD (.string rawService.serviceSourceUrl) with
  | .string text => (text.parseJson).getD (.string text)
  | value => value

/-- The repositories and the mappings of a redeployment. -/
def redeploySourceAndPorts (body : RedeployService) (rawService : ServiceRow) :
    Except Failure (List ServiceSourceRepository × List ServicePortMapping) := do
  let sourceRepositories ← normalizeSourceRepositories (redeploySource body rawService)
    (nullable (body.serviceRootDirectory.or rawService.serviceRootDirectory))
  let hostPort := ((body.serviceHostPort.or body.servicePort).or rawService.serviceHostPort).getD
    rawService.servicePort
  let containerPort := ((body.serviceContainerPort.or body.servicePort).or
    rawService.serviceContainerPort).getD rawService.servicePort
  let existing ← normalizePortMappings (rawService.servicePortMappings.getD .null)
    (some hostPort) (some containerPort)
  let portMappings ←
    match body.servicePortMappings with
    | some mappings => normalizePortMappings mappings (some hostPort) (some containerPort)
    | none => pure existing
  return (sourceRepositories, portMappings)

/-- The row of a service that is deployed again. -/
def redeployedRow (body : RedeployService) (targetIndex : ℕ)
    (repositories : List ServiceSourceRepository) (portMappings : List ServicePortMapping)
    (env : Members Text) (rawService row : ServiceRow) : ServiceRow :=
  { row with
    serviceName := body.serviceName.getD rawService.serviceName
    servicePort := (primaryPortMapping portMappings).hostPort
    serviceHostPort := some (primaryPortMapping portMappings).hostPort
    serviceContainerPort := some (primaryPortMapping portMappings).containerPort
    servicePortMappings := some (storedPortMappings portMappings)
    serviceSourceUrl := serializeSourceRepositories repositories
    serviceRootDirectory := rootDirectoryOf repositories
    serviceEnv := some (storedEnv env)
    serviceParentAgent := targetIndex
    serviceVersion := body.serviceVersion.getD rawService.serviceVersion
    serviceDeployPreset := body.serviceDeployPreset.getD rawService.serviceDeployPreset }

/-- The data of `REDEPLOY`. -/
def redeployCommand (updated : ServiceRow) (repositories : List ServiceSourceRepository)
    (portMappings : List ServicePortMapping) (env : Members Text) : DeployCommand where
  serviceIndex := updated.serviceIndex
  sourceUrl := repositories
  rootDirectory := rootDirectoryOf repositories
  deployPreset := updated.serviceDeployPreset
  serviceName := updated.serviceName
  servicePort := updated.serviceHostPort.getD updated.servicePort
  serviceHostPort := updated.serviceHostPort.getD updated.servicePort
  serviceContainerPort := updated.serviceContainerPort.getD updated.servicePort
  servicePortMappings := portMappings
  serviceVersion := updated.serviceVersion
  env := env

/-- The first endpoint row of a service that has a subdomain. -/
def existingPrimaryEndpoint (serviceIndex : ℕ) (database : Database) : Option EndpointRow :=
  database.serviceEndpoints.findFirst fun endpoint =>
    endpoint.endpointParentService == serviceIndex && endpoint.endpointSubdomain.isSome

/-- The checks of the part of a redeployment before its first write. -/
def checkRedeployment (body : RedeployService) (rawService : ServiceRow) :
    HubProgram (List ServiceSourceRepository × List ServicePortMapping × Option EndpointRow ×
      Members Text) := do
  let (repositories, portMappings) ← fromExcept (redeploySourceAndPorts body rawService)
  let primary ← look fun hub => existingPrimaryEndpoint rawService.serviceIndex hub.database
  let env ← fromExcept (normalizeEnv (body.env.getD (rawService.serviceEnv.getD .null)))
  match body.serviceName with
  | some (unit :: units) =>
    if unit :: units = rawService.serviceName then pure ()
    else do
      let duplicatedService ← look fun hub =>
        namesake rawService.serviceParentWorkspace (unit :: units) (some rawService.serviceIndex)
          hub.database
      require (duplicatedService.isNone = true) serviceNameExists
  | _ => pure ()
  return (repositories, portMappings, primary, env)

/-- The writes of a redeployment and its command. -/
def deployAgain (body : RedeployService) (rawService : ServiceRow) (target : AgentRow)
    (repositories : List ServiceSourceRepository) (portMappings : List ServicePortMapping)
    (primary : Option EndpointRow) (env : Members Text) : HubProgram ServiceRow := do
  let updated ← updateService rawService.serviceIndex fun _ row =>
    redeployedRow body target.agentIndex repositories portMappings env rawService row
  let endpoints ← fromExcept (normalizeEndpoints body.serviceEndpoints portMappings
    updated.serviceName updated.serviceDeployPreset
    ((primary.bind EndpointRow.endpointSubdomain).or rawService.serviceSubdomain))
  ensureDefaultComponent updated.serviceIndex updated.serviceName updated.serviceDeployPreset
  replaceServiceEndpoints updated.serviceIndex updated.serviceParentWorkspace endpoints
  sendCommand target.agentUuid (.redeploy (redeployCommand updated repositories portMappings env))
    updated.serviceIndex rawService.serviceParentWorkspace false
  return updated

def handleRedeployService (owner : Int32) (serviceIdx : Text) (body : RedeployService) :
    HubProgram ServiceRow := do
  let (rawService, rawAgent) ← findOwnedServiceAndAgent owner serviceIdx
  let target ← look fun hub =>
    targetAgent body.agentIndex rawService.serviceParentWorkspace hub.database
  let target ← orThrow target targetAgentNotFound
  if leavesAgent body rawService rawAgent then do
    let _ ← handleStopService owner (decimalText rawService.serviceIndex)
  let (repositories, portMappings, primary, env) ← checkRedeployment body rawService
  deployAgain body rawService target repositories portMappings primary env

/-! ## Addresses -/

/-- `update` of the subdomain of an endpoint. -/
def updateEndpointSubdomain (endpointIndex : ℕ) (subdomain : Option Text) : HubProgram Unit :=
  atomically fun hub =>
    match hub.database.serviceEndpoints.findFirst fun row => row.endpointIndex == endpointIndex with
    | none => (.error .internal, hub)
    | some _ => (.ok (), hub.write fun database =>
        { database with
          serviceEndpoints := database.serviceEndpoints.updateMany
            (fun row => row.endpointIndex == endpointIndex)
            fun row => { row with endpointSubdomain := subdomain } })

/-- The endpoint that a service gets with its first subdomain. -/
def subdomainRow (rawService : ServiceRow) (subdomain : Text) (index : ℕ) : EndpointRow where
  endpointIndex := index
  endpointParentWorkspace := rawService.serviceParentWorkspace
  endpointParentService := rawService.serviceIndex
  endpointComponentName :=
    some (defaultComponentName rawService.serviceName rawService.serviceDeployPreset)
  endpointSubdomain := some subdomain
  endpointHostPort := rawService.serviceHostPort.getD rawService.servicePort
  endpointContainerPort := rawService.serviceContainerPort.getD rawService.servicePort

/-- `create` of the endpoint of a service without one. -/
def createSubdomainEndpoint (rawService : ServiceRow) (subdomain : Text) : HubProgram Unit :=
  step fun hub => ((), hub.write fun database =>
    { database with
      serviceEndpoints := database.serviceEndpoints.create (subdomainRow rawService subdomain) })

/-- The first endpoint row of a service. -/
def primaryEndpoint (serviceIndex : ℕ) (database : Database) : Option EndpointRow :=
  database.serviceEndpoints.findFirst fun endpoint => endpoint.endpointParentService == serviceIndex

/-- Refuse a subdomain that an endpoint of another service of the workspace has. -/
def checkSubdomainFree (rawService : ServiceRow) : Option Text → HubProgram Unit
  | none => pure ()
  | some subdomain => do
    let duplicate ← look fun hub => takenEndpoint rawService.serviceParentWorkspace
      rawService.serviceIndex [subdomain] hub.database
    require (duplicate.isNone = true) subdomainInUse

/-- Put a subdomain into the first endpoint row of a service, or into a new one. -/
def storeSubdomain (rawService : ServiceRow) (subdomain : Option Text) : HubProgram Unit := do
  let primary ← look fun hub => primaryEndpoint rawService.serviceIndex hub.database
  match primary, subdomain with
  | some primary, _ => updateEndpointSubdomain primary.endpointIndex subdomain
  | none, some subdomain => createSubdomainEndpoint rawService subdomain
  | none, none => pure ()

def handleUpdateServiceSubdomain (owner : Int32) (serviceIdx : Text) (subdomain : Option Text) :
    HubProgram ServiceRow := do
  let (rawService, _) ← findOwnedServiceAndAgent owner serviceIdx
  let normalizedSubdomain := normalizeServiceSubdomain subdomain
  fromExcept (assertServiceSubdomainFormat normalizedSubdomain)
  checkSubdomainFree rawService normalizedSubdomain
  storeSubdomain rawService normalizedSubdomain
  updateService rawService.serviceIndex fun _ row =>
    { row with serviceSubdomain := normalizedSubdomain }

/-- The endpoints that a request for a service comes to. -/
def requestedEndpoints (rawService : ServiceRow) (serviceEndpoints : Value) :
    Except Failure (List ServiceEndpoint) := do
  let fallbackPortMappings ← normalizePortMappings (rawService.servicePortMappings.getD .null)
    (some (rawService.serviceHostPort.getD rawService.servicePort))
    (some (rawService.serviceContainerPort.getD rawService.servicePort))
  normalizeEndpoints serviceEndpoints fallbackPortMappings rawService.serviceName
    rawService.serviceDeployPreset rawService.serviceSubdomain

/-- The subdomain of the first endpoint that has one. -/
def primarySubdomain (endpoints : List ServiceEndpoint) : Option Text :=
  (publicSubdomains endpoints).head?

def handleUpdateServiceEndpoints (owner : Int32) (serviceIdx : Text) (serviceEndpoints : Value) :
    HubProgram (ServiceRow × List ServiceEndpoint) := do
  let (rawService, _) ← findOwnedServiceAndAgent owner serviceIdx
  let endpoints ← fromExcept (requestedEndpoints rawService serviceEndpoints)
  replaceServiceEndpoints rawService.serviceIndex rawService.serviceParentWorkspace endpoints
  let updated ← updateService rawService.serviceIndex fun _ row =>
    { row with serviceSubdomain := primarySubdomain endpoints }
  step fun hub => ((updated, endpoints),
    hub.notifyWorkspaceUpdated (some rawService.serviceParentWorkspace))

end ServiceService

end OpticsHub
