import OpticsHub.Agent.AgentGateway

/-!
# Routing a public address

The gateway asks where to send the traffic of an address. The route of an address is
kept for a few seconds; otherwise the workspace is read, then the endpoint with its
service and its agent, and only after both reads the decision is made, the route is
kept and the agent is told to open a tunnel. Blocking the traffic of a service forgets
every route that is kept.
-/
namespace OpticsHub

open Script Async Program

namespace TunnelService

open AgentGateway

def routeCacheTtlMs : ℤ := 5000

def tunnelPort : ℕ := 5220

/-- The part of an answer that says where the traffic goes. -/
structure TunnelRoute where
  agentUuid : Text
  servicePort : ℤ
  deriving DecidableEq

/-- An endpoint with its service and the agent of that. -/
structure RoutedEndpoint where
  endpoint : EndpointRow
  service : ServiceRow
  agent : Option AgentRow

/-! ## Queries -/

/-- The workspace under whose subdomain services are published. -/
def activeWorkspace (workspaceSubdomain : Text) (database : Database) : Option WorkspaceRow :=
  database.workspaces.findFirst fun workspace =>
    workspace.workspaceSubdomain == some workspaceSubdomain && workspace.workspaceSubdomainActive

/-- Whether an endpoint answers to a subdomain of a workspace. -/
def routes (database : Database) (workspaceIndex : ℕ) (subdomain : Text)
    (endpoint : EndpointRow) : Bool :=
  endpoint.endpointParentWorkspace == workspaceIndex &&
    endpoint.endpointSubdomain == some subdomain && endpoint.endpointDeletedAt.isNone &&
    (database.services.findFirst fun service =>
      service.serviceIndex == endpoint.endpointParentService &&
        service.serviceDeletedAt.isNone).isSome

/-- The first endpoint that answers, with its service and its agent. -/
def findEndpoint (workspaceIndex : ℕ) (subdomain : Text) (database : Database) :
    Option RoutedEndpoint := do
  let endpoint ← database.serviceEndpoints.findFirst (routes database workspaceIndex subdomain)
  let service ← database.services.findFirst fun service =>
    service.serviceIndex == endpoint.endpointParentService
  return {
    endpoint := endpoint
    service := service
    agent := database.agents.findFirst fun agent =>
      agent.agentIndex == service.serviceParentAgent }

/-! ## Outcomes -/

def workspaceNotFound : Failure := .tunnel 404 .workspaceNotFound "Workspace not found"
def serviceNotFound : Failure := .tunnel 404 .serviceNotFound "Service not found"
def serviceBlocked : Failure := .tunnel 503 .serviceBlocked "Service traffic is blocked"
def agentNotFound : Failure := .tunnel 404 .agentNotFound "Agent not found"
def agentOffline : Failure := .tunnel 503 .agentOffline "Agent is probably offline"

/-- Tell the agent to open a tunnel, unless the gateway takes one that is open. -/
def dispatchToAgent (agentUuid : Text) (servicePort : ℤ) (token : Text) (preferPooled : Bool)
    (hub : Hub) : TunnelOutcome × Hub :=
  if preferPooled then (.success, hub)
  else
    let delivered := sendToAgent agentUuid (.tunnelConnect token servicePort tunnelPort) hub
    (if delivered.1 then .success else .agentOffline, delivered.2)

/-- Answer with a route, once the agent is told. -/
def answer (route : TunnelRoute) (token : Text) (preferPooled : Bool) (hub : Hub) :
    Except Failure TunnelRoute × Hub :=
  let dispatched := dispatchToAgent route.agentUuid route.servicePort token preferPooled hub
  (if dispatched.1 = .success then .ok route else .error agentOffline, dispatched.2)

/-! ## The route cache -/

def invalidateRouteCache (hub : Hub) : Hub := { hub with routeCache := [] }

/-- The route of an address that is kept and has not expired. -/
def cachedRoute (routeKey : Text) (hub : Hub) : Option TunnelRoute :=
  ((Members.own hub.routeCache routeKey).filter fun cached =>
    decide (hub.now < cached.expiresAt)).map fun cached =>
      { agentUuid := cached.agentUuid, servicePort := cached.servicePort }

def keepRoute (routeKey : Text) (route : TunnelRoute) (hub : Hub) : Hub :=
  { hub with
    routeCache := Members.define hub.routeCache routeKey
      { agentUuid := route.agentUuid
        servicePort := route.servicePort
        expiresAt := hub.now + routeCacheTtlMs } }

/-! ## Routing -/

/-- The subdomain of a service as it is stored; `@` stands for the workspace itself. -/
def normalizeSubdomain (serviceSubdomain : Text) : Text :=
  let value := serviceSubdomain.trim.toLowerCase
  if value = Text.ofString "@" then [] else value

/-- The key of an address in the route cache. -/
def routeKey (workspaceSubdomain serviceSubdomain : Text) : Text :=
  workspaceSubdomain ++ Text.ofString "/" ++ normalizeSubdomain serviceSubdomain

/-- What follows the two queries: the decision on the endpoint as it was read. -/
def decide (key token : Text) (preferPooled : Bool) (found : Option RoutedEndpoint) :
    HubProgram TunnelRoute :=
  atomically fun hub =>
    match found with
    | none => (.error serviceNotFound, hub)
    | some routed =>
      match routed.service.serviceTrafficBlockedAt with
      | some _ =>
        (.error (if routed.service.serviceTrafficBlockMode = .hidden then serviceNotFound
          else serviceBlocked), hub)
      | none =>
        match routed.agent with
        | none => (.error agentNotFound, hub)
        | some agent =>
          if agent.agentConnection = .linked ∧ agent.agentDeletedAt = none then
            let route : TunnelRoute :=
              { agentUuid := agent.agentUuid
                servicePort := routed.endpoint.endpointHostPort }
            answer route token preferPooled (keepRoute key route hub)
          else (.error agentNotFound, hub)

/-- What follows the query for the workspace. -/
def routeWithin (workspace : Option WorkspaceRow) (key subdomain token : Text)
    (preferPooled : Bool) : HubProgram TunnelRoute := do
  let workspace ← orThrow workspace workspaceNotFound
  let found ← look fun hub => findEndpoint workspace.workspaceIndex subdomain hub.database
  TunnelService.decide key token preferPooled found

/-- What follows a miss in the cache. -/
def routeFromDatabase (workspaceSubdomain key subdomain token : Text) (preferPooled : Bool) :
    HubProgram TunnelRoute := do
  let workspace ← look fun hub => activeWorkspace workspaceSubdomain hub.database
  routeWithin workspace key subdomain token preferPooled

/-- A hit in the cache is answered at once. -/
def routeFromCache (key token : Text) (preferPooled : Bool) : HubProgram (Option TunnelRoute) :=
  atomically fun hub =>
    match cachedRoute key hub with
    | none => (.ok none, hub)
    | some route =>
      let answered := answer route token preferPooled hub
      (answered.1.map some, answered.2)

/-- Find the agent and the port for an address. -/
def sendProxyInfo (serviceSubdomain workspaceSubdomain token : Text) (preferPooled : Bool) :
    HubProgram TunnelRoute := do
  let key := routeKey workspaceSubdomain serviceSubdomain
  let cached ← routeFromCache key token preferPooled
  match cached with
  | some route => pure route
  | none =>
    routeFromDatabase workspaceSubdomain key (normalizeSubdomain serviceSubdomain) token
      preferPooled

end TunnelService

end OpticsHub
