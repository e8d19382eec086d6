import OpticsHub.Services.Actions
import OpticsHub.Services.Addresses
import OpticsHub.Services.TrafficBlocks
import OpticsHub.Tunnel.Routes
import OpticsHub.Workspaces.Links

/-!
# Whose agent answers an address

A route leads from an endpoint to its service and on to the agent of the service, which has to be
linked; nobody asks to which workspace. The row of a service keeps its agent when the agent is
released, and another workspace may link the agent then. So it is the acceptance of a request
that decides whether an address stays with its workspace: after every other operation of
workspaces, connections and services the agent of a service is not linked, or linked to the
workspace of the service.
-/
namespace OpticsHub

open Script Async Program Machine

namespace TunnelService

open AgentGateway AgentService WorkspaceService ServiceService

/-! ## The property and its condition -/

/-- A request for an address that finds no kept route goes to an agent that is linked to the
workspace of the endpoint that is found for the address. -/
def Isolated (hub : Hub) : Prop :=
  ∀ serviceSubdomain workspaceSubdomain token preferPooled route,
    ((sendProxyInfo serviceSubdomain workspaceSubdomain token preferPooled).run
      { hub with routeCache := [] }).1 = .ok route →
    ∃ workspace routed agent, activeWorkspace workspaceSubdomain hub.database = some workspace ∧
      findEndpoint workspace.workspaceIndex (normalizeSubdomain serviceSubdomain) hub.database =
        some routed ∧
      routed.agent = some agent ∧ agent.agentUuid = route.agentUuid ∧
      agent.agentConnection = .linked ∧
      agent.agentParentWorkspace = some routed.endpoint.endpointParentWorkspace

/-- Whether an operation is one of services. -/
def ofServices : ServiceOperation → Bool
  | .elsewhere _ => false
  | _ => true

/-- An operation of workspaces, of the connections of agents, or of services. -/
inductive TenantOperation where
  | binding (call : BindingCall)
  | subdomain (call : SubdomainCall)
  | service (operation : ServiceOperation) (named : ofServices operation = true)

section Operations

variable (platform : Platform) (objectFilter : Members Value → Option (ℕ → Bool))

def tenantProgram : TenantOperation → RelayProgram Unit
  | .binding call => onHub (bindingProgram platform call)
  | .subdomain call => onHub (subdomainProgram platform call)
  | .service operation _ => operationProgram objectFilter operation

/-- One operation from beginning to end. -/
def serveTenants : Transition RelayState TenantOperation (Except Failure Unit) :=
  fun state operation => (tenantProgram platform objectFilter operation).run state

end Operations

/-- A service is not deleted, and its workspace is not retired. -/
def Stands (database : Database) (service : ServiceRow) : Prop :=
  service.serviceDeletedAt = none ∧ ∀ workspace ∈ database.workspaces,
    workspace.workspaceIndex = service.serviceParentWorkspace → ¬ Retired workspace

/-- An agent accepts a request only if the services on it that stand are all of the workspace
that asks. -/
def AcceptsOwn (state : RelayState) : TenantOperation → Prop
  | .binding (.acceptConnectRequest agentCode agentUuid) =>
    ∀ agent, state.hub.database.agents.findFirst (requested agentCode agentUuid) = some agent →
      ∀ service ∈ state.hub.database.services, Stands state.hub.database service →
        service.serviceParentAgent = agent.agentIndex →
          agent.agentParentWorkspace = some service.serviceParentWorkspace
  | _ => True

instance (workspace : WorkspaceRow) : Decidable (Retired workspace) :=
  inferInstanceAs (Decidable (_ ∧ _))

instance (database : Database) (service : ServiceRow) : Decidable (Stands database service) :=
  inferInstanceAs (Decidable (_ ∧ ∀ workspace ∈ database.workspaces, _ → _))

instance (state : RelayState) : (operation : TenantOperation) →
    Decidable (AcceptsOwn state operation)
  | .binding (.acceptConnectRequest agentCode agentUuid) =>
    inferInstanceAs (Decidable (∀ agent ∈
      state.hub.database.agents.findFirst (requested agentCode agentUuid),
      ∀ service ∈ state.hub.database.services, _ → _ → _))
  | .binding (.registerAgent _ _ _ _) | .binding (.requestConnect _ _ _ _)
  | .binding (.rejectConnectRequest _ _) | .binding (.cancelRequest _ _ _)
  | .binding (.disconnectAgent _ _ _) | .binding (.deleteWorkspace _ _ _ _)
  | .binding (.meanwhile _ _ _) | .subdomain _ | .service _ _ => isTrue trivial

/-- An agent may run a service: it is not linked, or linked to the workspace of the service. -/
def Hosts (service : ServiceRow) (agent : AgentRow) : Prop :=
  agent.agentConnection = .linked →
    agent.agentParentWorkspace = some service.serviceParentWorkspace

/-- A service that stands has an agent that may run it. -/
def Fits (database : Database) (service : ServiceRow) : Prop :=
  Stands database service → ∀ agent ∈ database.agents,
    agent.agentIndex = service.serviceParentAgent → Hosts service agent

/-- Every service fits. -/
def Housed (database : Database) : Prop := ∀ service ∈ database.services, Fits database service

/-! ## From services to routes -/

section Routes

variable {database : Database} {workspaceSubdomain subdomain : Text} {route : TunnelRoute}

/-- An endpoint is found with its service, which is not deleted, and the agent of that. -/
theorem findEndpoint_joins {workspaceIndex : ℕ} {routed : RoutedEndpoint}
    (found : findEndpoint workspaceIndex subdomain database = some routed) :
    routed.endpoint ∈ database.serviceEndpoints ∧
      routed.endpoint.endpointParentWorkspace = workspaceIndex ∧
      routed.service.serviceDeletedAt = none ∧
      routed.agent = database.agents.findFirst fun agent =>
        agent.agentIndex == routed.service.serviceParentAgent := by
  obtain ⟨inside, index⟩ := findEndpoint_service found
  simp only [findEndpoint, Option.bind_eq_bind, Option.bind_eq_some_iff] at found
  obtain ⟨endpoint, first, service, -, same⟩ := found
  obtain rfl := Option.some.inj same
  obtain ⟨here, answers⟩ := Table.mem_of_findFirst first
  simp only [routes, Bool.and_eq_true, beq_iff_eq] at answers
  refine ⟨here, answers.1.1.1, ?_, rfl⟩
  obtain ⟨standing, there⟩ := Option.isSome_iff_exists.mp answers.2
  obtain ⟨inside', alive⟩ := Table.mem_of_findFirst there
  simp only [Bool.and_eq_true, beq_iff_eq, Option.isNone_iff_eq_none] at alive
  obtain rfl := Table.eq_of_key inside inside' (index.trans alive.1.symm)
  exact alive.2

/-- The route of an address leads to the agent of its endpoint, which is linked. -/
theorem resolve_ok (resolved : resolve workspaceSubdomain subdomain database = .ok route) :
    ∃ workspace routed agent, activeWorkspace workspaceSubdomain database = some workspace ∧
      findEndpoint workspace.workspaceIndex subdomain database = some routed ∧
      routed.agent = some agent ∧ agent.agentUuid = route.agentUuid ∧
      agent.agentConnection = .linked := by
  rw [resolve] at resolved
  split at resolved
  · cases resolved
  · rename_i workspace active
    cases found : findEndpoint workspace.workspaceIndex subdomain database with
    | none =>
      rw [found] at resolved
      cases resolved
    | some routed =>
      rw [found, routeOf] at resolved
      split at resolved
      · cases resolved
      · split at resolved
        · cases resolved
        · rename_i agent hosted
          split at resolved
          · rename_i linked
            obtain rfl := Except.ok.inj resolved
            exact ⟨workspace, routed, agent, active, found, hosted, rfl, linked.1⟩
          · cases resolved

/-- What is answered is the route, if anything. -/
theorem answerWith_ok {resolved : Except Failure TunnelRoute} {token : Text} {preferPooled : Bool}
    {hub : Hub} (answered : (answerWith resolved token preferPooled hub).1 = .ok route) :
    resolved = .ok route := by
  cases resolved with
  | error failure => exact answered
  | ok found =>
    rw [answerWith, answer] at answered
    dsimp only at answered
    split at answered
    · exact answered
    · cases answered

/-- A workspace whose subdomain is active is not retired. -/
theorem not_retired_of_active {workspace : WorkspaceRow}
    (active : activeWorkspace workspaceSubdomain database = some workspace) :
    workspace ∈ database.workspaces ∧ ¬ Retired workspace := by
  obtain ⟨inside, selected⟩ := Table.mem_of_findFirst active
  rw [Bool.and_eq_true] at selected
  refine ⟨inside, fun retired => ?_⟩
  rw [retired.2] at selected
  cases selected.2

/-- Where every service fits, addresses stay with their workspaces. -/
theorem Housed.isolated {hub : Hub} (housed : Housed hub.database)
    (owned : EndpointsOwned hub.database) : Isolated hub := by
  intro serviceSubdomain workspaceSubdomain token preferPooled route answered
  rw [run_sendProxyInfo_missed rfl] at answered
  obtain ⟨workspace, routed, agent, active, found, hosted, named, linked⟩ :=
    resolve_ok (answerWith_ok answered)
  refine ⟨workspace, routed, agent, active, found, hosted, named, linked, ?_⟩
  obtain ⟨here, answers, alive, joined⟩ := findEndpoint_joins found
  obtain ⟨inside, index⟩ := findEndpoint_service found
  rw [hosted] at joined
  obtain ⟨member, runs⟩ := Table.mem_of_findFirst joined.symm
  -- the service is one of the workspace that has the subdomain
  obtain ⟨-, service, there, parent, placed⟩ := owned routed.endpoint here
  obtain rfl := Table.eq_of_key there inside (parent.trans index.symm)
  obtain ⟨standing, unretired⟩ := not_retired_of_active active
  rw [← placed]
  refine housed _ inside ⟨alive, fun other inside' same => ?_⟩ agent member (beq_iff_eq.mp runs)
    linked
  obtain rfl := Table.eq_of_key inside' standing (same.trans (placed.trans answers))
  exact unretired

end Routes

/-! ## What keeps services where they may be -/

section Steps

variable {before after : Database} {service changed : ServiceRow}

/-- The links of a database come from another one, with its workspaces. -/
structure LinkedBy (before after : Database) : Prop where
  agents : LinksNone before after
  workspaces : StayRetired none before.workspaces after.workspaces

/-- A service stands after a step only if it stood before. -/
theorem Stands.earlier (stands : Stands after changed)
    (workspaces : StayRetired none before.workspaces after.workspaces)
    (alive : service.serviceDeletedAt = none)
    (parent : changed.serviceParentWorkspace = service.serviceParentWorkspace) :
    Stands before service := by
  refine ⟨alive, fun workspace inside index retired => ?_⟩
  obtain ⟨later, there, same, retired'⟩ := workspaces workspace inside retired nofun
  exact stands.2 later there (same.trans (index.trans parent.symm)) retired'

/-- A service whose agent may run it before still fits when no agent is linked. -/
theorem fits_of_hosts (linked : LinkedBy before after)
    (hosts : Stands after changed → ∀ agent ∈ before.agents,
      agent.agentIndex = changed.serviceParentAgent → Hosts changed agent) :
    Fits after changed := by
  intro stands agent inside runs links
  obtain ⟨older, there, index, parent, links'⟩ := linked.agents agent inside links
  rw [← parent]
  exact hosts stands older there (index.trans runs) links'

/-- A write that leaves the workspace and the agent of a service, and brings none back. -/
theorem Fits.written (fits : Fits before service) (linked : LinkedBy before after)
    (alive : changed.serviceDeletedAt = none → service.serviceDeletedAt = none)
    (parent : changed.serviceParentWorkspace = service.serviceParentWorkspace)
    (agent : changed.serviceParentAgent = service.serviceParentAgent) : Fits after changed := by
  refine fits_of_hosts linked fun stands older there runs => ?_
  have hosts := fits (stands.earlier linked.workspaces (alive stands.1) parent) older there
    (runs.trans agent)
  rw [Hosts, parent]
  exact hosts

theorem Housed.unchanged (housed : Housed before) (linked : LinkedBy before after)
    (services : after.services = before.services) : Housed after := by
  intro service inside
  rw [services] at inside
  exact (housed service inside).written linked id rfl rfl

/-- The row of one service is written, and it fits. -/
theorem Housed.rewrites (housed : Housed before) (linked : LinkedBy before after)
    (rewrites : Rewrites service changed before after) (fits : Fits after changed) :
    Housed after := by
  intro row inside
  rcases (rewrites.rows row).mp inside with rfl | ⟨older, -⟩
  · exact fits
  · exact (housed row older).written linked id rfl rfl

/-- An agent that is linked to a workspace may run its services. -/
theorem fits_of_parent (linked : LinkedBy before after) {agent : AgentRow}
    (member : agent ∈ before.agents) (runs : changed.serviceParentAgent = agent.agentIndex)
    (parent : agent.agentParentWorkspace = some changed.serviceParentWorkspace) :
    Fits after changed := by
  refine fits_of_hosts linked fun _ other there index => ?_
  obtain rfl := Table.eq_of_key there member (index.trans runs)
  exact fun _ => parent

end Steps

/-! ## Operations of services -/

section Services

variable {objectFilter : Members Value → Option (ℕ → Bool)} {state : RelayState}
  {operation : ServiceOperation}

theorem linkedBy_of_eq {before after : Database} (agents : after.agents = before.agents)
    (workspaces : after.workspaces = before.workspaces) : LinkedBy before after where
  agents := linksNone_of_eq agents
  workspaces := by
    rw [workspaces]
    exact stayRetired_refl

theorem linkedBy_refl (database : Database) : LinkedBy database database :=
  linkedBy_of_eq rfl rfl

theorem LinkedBy.trans {first second third : Database} (earlier : LinkedBy first second)
    (later : LinkedBy second third) : LinkedBy first third :=
  ⟨earlier.agents.trans later.agents, earlier.workspaces.trans later.workspaces⟩

/-- Actions that link no agent and bring no workspace back. -/
abbrev LinksNoAgent (before after : Hub) : Prop := LinkedBy before.database after.database

/-- No action of a user's call on services writes agents or workspaces. -/
theorem allowsUsers_linksNoAgent :
    AllowsUsers fun effect => ∀ hub, LinksNoAgent hub (effect hub) where
  aside _ same hub := linkedBy_of_eq (same hub).agents (same hub).workspaces
  created _ _ _ := linkedBy_of_eq rfl rfl
  written index change keyed _ hub := by
    rw [updateService]
    dsimp only [Program.atomically, Program.effect]
    split
    · exact linkedBy_refl _
    · split <;> exact linkedBy_of_eq rfl rfl
  failed index hub := by
    rw [writeFailed, updateService]
    dsimp only [Program.atomically, Program.effect]
    split
    · exact linkedBy_refl _
    · split <;> exact linkedBy_of_eq rfl rfl

/-- What sets services offline writes no connection of an agent. -/
theorem linksNoAgent_updateAgents {selected : AgentRow → Bool} {change : AgentRow → AgentRow}
    {keyed : ∀ row, (change row).agentIndex = row.agentIndex}
    (kept : ∀ row, (change row).agentConnection = row.agentConnection ∧
      (change row).agentParentWorkspace = row.agentParentWorkspace) :
    Always LinksNoAgent (updateAgents selected change keyed) := by
  refine always_step fun hub => ⟨linksNone_updateMany fun row linked => ?_, stayRetired_refl⟩
  exact ⟨(kept row).1.symm.trans linked, (kept row).2.symm⟩

theorem linksNoAgent_offlineTimer (agentUuid : Text) :
    Always LinksNoAgent (offlineTimer agentUuid) := by
  apply Always.bind
  · apply always_step
    intro hub
    split <;> exact linkedBy_refl hub.database
  · intro gone
    split
    · refine Always.bind (always_look (fun hub => linkedBy_refl hub.database) _) fun agent => ?_
      refine Always.bind (always_look (fun hub => linkedBy_refl hub.database) _) fun now => ?_
      refine Always.bind (linksNoAgent_updateAgents ?_) fun _ => ?_
      · exact fun _ => ⟨rfl, rfl⟩
      · refine Always.bind (always_step fun _ => linkedBy_of_eq rfl rfl) fun _ => ?_
        exact always_step fun _ => linkedBy_of_eq rfl rfl
    · exact always_pure _

theorem linksNoAgent_onHubStart : Always LinksNoAgent onHubStart := by
  refine Always.bind ?_ fun _ => linksNoAgent_updateAgents fun _ => ⟨rfl, rfl⟩
  refine Always.bind (always_look (fun hub => linkedBy_refl hub.database) _) fun now => ?_
  refine Always.bind (linksNoAgent_updateAgents ?_) fun _ => ?_
  · exact fun _ => ⟨rfl, rfl⟩
  · exact always_step fun _ => linkedBy_of_eq rfl rfl

/-- No operation of services links an agent. -/
theorem linkedBy_operate (state : RelayState) (operation : ServiceOperation)
    (named : ofServices operation = true) :
    LinkedBy state.hub.database (operate objectFilter state operation).2.hub.database := by
  have always {program : HubProgram Unit} (always : Always LinksNoAgent program) (hub : Hub) :
      LinkedBy hub.database (program.run hub).2.database :=
    always.run (fun hub => linkedBy_refl hub.database) LinkedBy.trans hub
  have user {α : Type} {program : HubProgram α}
      (consists : Consists (fun effect => ∀ hub, LinksNoAgent hub (effect hub)) program) :
      LinkedBy state.hub.database
        ((onHub (do let _ ← program : HubProgram Unit)).run state).2.hub.database := by
    rw [run_onHub]
    exact always (consists.always.bind fun _ => always_pure _) state.hub
  cases operation with
  | call call =>
    rw [operate, operationProgram, run_onHub]
    exact always (consists_serviceProgram allowsUsers_linksNoAgent call).always state.hub
  | blockTraffic owner serviceIdx options =>
    exact user (consists_handleBlockServiceTraffic allowsUsers_linksNoAgent _ _ _)
  | unblockTraffic owner serviceIdx =>
    exact user (consists_handleUnblockServiceTraffic allowsUsers_linksNoAgent _ _)
  | updateSubdomain owner serviceIdx given =>
    exact user (consists_handleUpdateServiceSubdomain allowsUsers_linksNoAgent _ _ _)
  | updateEndpoints owner serviceIdx given =>
    exact user (consists_handleUpdateServiceEndpoints allowsUsers_linksNoAgent _ _ _)
  | serviceStatus client payload =>
    rw [operate, operationProgram, hub_handleServiceStatus]
    cases reportedStatus objectFilter client payload state with
    | none => exact linkedBy_refl _
    | some written => exact linkedBy_of_eq rfl rfl
  | containerStatus client payload =>
    have kept := (@relaysView_handleContainerStatus objectFilter _
      (fun database => (database.agents, database.workspaces)) (fun _ _ => rfl) client payload).run
        (fun _ => rfl) (fun earlier later => later.trans earlier) state
    exact linkedBy_of_eq (Prod.mk.inj kept).1 (Prod.mk.inj kept).2
  | offlineTimer agentUuid =>
    rw [operate, operationProgram, run_onHub]
    exact always (linksNoAgent_offlineTimer agentUuid) state.hub
  | hubStart =>
    rw [operate, operationProgram, run_bind, Program.step, run_atomically, runFrom, run_onHub]
    exact always linksNoAgent_onHubStart _
  | elsewhere change => cases named

/-- A new service has an agent of its workspace, and so has one that is deployed again. -/
theorem Housed.operate (housed : Housed state.hub.database)
    (named : ofServices operation = true) :
    Housed (ServiceService.operate objectFilter state operation).2.hub.database := by
  have linked := @linkedBy_operate objectFilter state operation named
  have effect := @effect_of_operation objectFilter state operation
  generalize (ServiceService.operate objectFilter state operation).2.hub.database = after
    at linked effect
  have written {service changed : ServiceRow}
      (rewrites : Rewrites service changed state.hub.database after)
      (alive : changed.serviceDeletedAt = none → service.serviceDeletedAt = none)
      (parent : changed.serviceParentWorkspace = service.serviceParentWorkspace)
      (agent : changed.serviceParentAgent = service.serviceParentAgent) : Housed after :=
    housed.rewrites linked rewrites
      ((housed service rewrites.inside).written linked alive parent agent)
  cases effect with
  | aside services _ => exact housed.unchanged linked services
  | created accepted rows _ =>
    intro row inside
    rcases (rows row).mp inside with older | rfl
    · exact (housed row older).written linked id rfl rfl
    · obtain ⟨agent, found⟩ := Option.isSome_iff_exists.mp accepted.linked
      obtain ⟨member, selected⟩ := Table.mem_of_findFirst found
      simp only [Bool.and_eq_true, beq_iff_eq] at selected
      exact fits_of_parent linked member selected.1.1.1.symm selected.1.1.2
  | failed _ rewrites _ => exact written rewrites id rfl rfl
  | redeployed redeploys same rewrites _ =>
    subst same
    obtain ⟨member, selected⟩ := Table.mem_of_findFirst redeploys.targeted
    simp only [Bool.and_eq_true, beq_iff_eq] at selected
    exact housed.rewrites linked rewrites
      (fits_of_parent linked member rfl selected.1.1.2)
  | removed located rewrites _ => exact written rewrites (fun _ => located.alive.2) rfl rfl
  | blocked _ rewrites _ => exact written rewrites id rfl rfl
  | unblocked _ rewrites _ => exact written rewrites id rfl rfl
  | addressed _ rewrites _ _ _ => exact written rewrites id rfl rfl
  | published _ rewrites _ _ => exact written rewrites id rfl rfl
  | reported _ rewrites _ => exact written rewrites id rfl rfl
  | lowered lowers =>
    obtain ⟨-, change, rows, allowed⟩ := lowers
    intro row inside
    rw [Table.mem_def, rows] at inside
    obtain ⟨service, older, rfl⟩ := List.mem_map.mp inside
    rcases allowed service with same | ⟨-, offline⟩
    · rw [same]
      exact (housed service older).written linked id rfl rfl
    · rw [offline]
      exact (housed service older).written linked id rfl rfl

end Services

/-! ## Runs -/

section Runs

variable {platform : Platform} {objectFilter : Members Value → Option (ℕ → Bool)}
  {state : RelayState} {operation : TenantOperation}

/-- What is neither an acceptance nor an operation of services. -/
theorem Housed.outside {before after : Hub} (housed : Housed before.database)
    (outside : Outside none before after) : Housed after.database :=
  housed.unchanged ⟨outside.agents, outside.workspaces⟩ outside.services

theorem endpointsOwned_outside {before after : Hub} (owned : EndpointsOwned before.database)
    (outside : Outside none before after) : EndpointsOwned after.database := by
  rw [EndpointsOwned, outside.services, outside.endpoints]
  exact owned

/-- The database once an agent is linked. -/
def withLinked (database : Database) (agent : AgentRow) : Database :=
  { database with
    agents := database.agents.updateMany (fun other => other.agentIndex == agent.agentIndex)
      fun row => { row with agentConnection := .linked } }

/-- An acceptance links the agent that is found, if one is, and writes nothing else. -/
theorem accepted_database (agentCode agentUuid : Text) (hub : Hub) :
    ((bindingProgram platform (.acceptConnectRequest agentCode agentUuid)).run hub).2.database =
        hub.database ∨
      ∃ agent, hub.database.agents.findFirst (requested agentCode agentUuid) = some agent ∧
        ((bindingProgram platform (.acceptConnectRequest agentCode agentUuid)).run
          hub).2.database = withLinked hub.database agent := by
  refine @run_of_wp Hub Failure _ hub (fun after => after.database = hub.database ∨
    ∃ agent, hub.database.agents.findFirst (requested agentCode agentUuid) = some agent ∧
      after.database = withLinked hub.database agent) _ ?_
  simp only [bindingProgram, handleAcceptConnectRequest, wp_bind, wp_look, wp_orThrow, findAgent]
  refine ⟨fun found _ => ?_, fun _ => .inl trivial⟩
  apply wp_updateAgent
  · exact fun _ => .inl rfl
  · intro agent first
    exact .inr ⟨agent, first, rfl⟩

/-- Only the agent is linked that was not before. -/
theorem mem_withLinked {database : Database} {agent row : AgentRow}
    (there : agent ∈ database.agents) (inside : row ∈ (withLinked database agent).agents) :
    row = { agent with agentConnection := .linked } ∨ row ∈ database.agents := by
  have changed : row ∈ database.agents.updateMany
      (fun other => other.agentIndex == agent.agentIndex)
      fun row => { row with agentConnection := .linked } := inside
  exact ((@Table.mem_updateMany_key _ _ _ (fun row : AgentRow =>
    { row with agentConnection := .linked }) (fun _ => rfl) _ _ there).mp changed).imp_right
      And.left

/-- An agent that accepts only for its own services keeps them where they may be. -/
theorem Housed.accepted {agentCode agentUuid : Text} (housed : Housed state.hub.database)
    (own : AcceptsOwn state (.binding (.acceptConnectRequest agentCode agentUuid))) :
    Housed ((bindingProgram platform (.acceptConnectRequest agentCode agentUuid)).run
      state.hub).2.database := by
  rcases @accepted_database platform agentCode agentUuid state.hub with same | ⟨agent, found, same⟩
  · rw [same]
    exact housed
  · rw [same]
    intro service inside stands row member runs
    rcases mem_withLinked (Table.mem_of_findFirst found).1 member with rfl | older
    · exact fun _ => own agent found service inside stands runs.symm
    · exact housed service inside stands row older runs

/-- An operation keeps the services where they may be, and the endpoints with them, if its
acceptances do. -/
theorem Housed.served (housed : Housed state.hub.database)
    (owned : EndpointsOwned state.hub.database) (own : AcceptsOwn state operation) :
    Housed (serveTenants platform objectFilter state operation).2.hub.database ∧
      EndpointsOwned (serveTenants platform objectFilter state operation).2.hub.database := by
  cases operation with
  | service operation named => exact ⟨housed.operate named, owned.operate⟩
  | subdomain call =>
    rw [serveTenants, tenantProgram, run_onHub]
    have outside := outside_subdomainProgram platform state.hub call
    exact ⟨housed.outside outside, endpointsOwned_outside owned outside⟩
  | binding call =>
    rw [serveTenants, tenantProgram, run_onHub]
    by_cases accepts : ∃ agentCode agentUuid, call = .acceptConnectRequest agentCode agentUuid
    · obtain ⟨agentCode, agentUuid, rfl⟩ := accepts
      refine ⟨housed.accepted own, ?_⟩
      rcases @accepted_database platform agentCode agentUuid state.hub with same | ⟨_, _, same⟩
      · exact same ▸ owned
      · exact same ▸ owned
    · have outside := outside_bindingProgram platform
        (fun agentCode agentUuid same => accepts ⟨agentCode, agentUuid, same⟩) state.hub
      exact ⟨housed.outside outside, endpointsOwned_outside owned outside⟩

end Runs

/-- In a run from a state in which every service is where it may be, with its endpoints, every
address stays with its workspace in every state, if every agent accepts only requests of the
workspace of the services on it. -/
theorem tenants_isolated (platform : Platform) (objectFilter : Members Value → Option (ℕ → Bool))
    (start : RelayState) (operations : List TenantOperation)
    (housed : Housed start.hub.database) (owned : EndpointsOwned start.hub.database)
    (own : Each (serveTenants platform objectFilter) AcceptsOwn start operations) :
    Each (serveTenants platform objectFilter)
      (fun state operation =>
        Isolated (serveTenants platform objectFilter state operation).2.hub)
      start operations := by
  refine Along.safe (fun _ state =>
    Housed state.hub.database ∧ EndpointsOwned state.hub.database) ?_ ?_ own ⟨housed, owned⟩
  · exact fun _ state operation held own => held.1.served held.2 own
  · intro _ state operation held own
    obtain ⟨housed, owned⟩ := @Housed.served platform objectFilter _ _ held.1 held.2 own
    exact housed.isolated owned

/-- An agent registers, and two owners make workspaces, one of them with an active subdomain. -/
def twoTenants : List TenantOperation :=
  [.binding (.registerAgent "127.0.0.1" none none (some (.number (.finite (Decimal.ofInt 1))))),
    .subdomain (.create 1 (some "W") (some "first")),
    .subdomain (.create 2 (some "V") none)]

/-- A workspace asks for the agent, which has connected, and it accepts. -/
def asks (owner : Int32) (workspaceIdx : ℕ) : List TenantOperation :=
  [.binding (.meanwhile
      (fun _ => { connected := true, data.signingSecret := some "secret" }) [("U", 0)] 1),
    .binding (.requestConnect owner workspaceIdx "C" "owner"),
    .binding (.acceptConnectRequest "C" "U")]

/-- The owner of the first workspace creates a service with an address on the agent. -/
def createsPublic : TenantOperation :=
  .service (.call (.create 1 {
    workspaceIdx := 1
    serviceName := "api"
    servicePort := some 80
    serviceEndpoints := .array [endpointOn 80 "a"]
    serviceSourceUrl := .string "https://example.org/api.git"
    serviceVersion := "1"
    serviceDeployPreset := .dockerfile
    agentIndex := 1 })) rfl

/-- The service is deleted before the agent is released and the second workspace links it. -/
def deletedFirst : List TenantOperation :=
  twoTenants ++ asks 1 1 ++ [createsPublic, .service (.call (.delete 1 "1" .service)) rfl,
    .binding (.disconnectAgent 1 1 "C")] ++ asks 2 2

theorem tenants_isolated_deleted :
    Each (serveTenants recordingPlatform fun _ => none)
      (fun state operation =>
        Isolated (serveTenants recordingPlatform (fun _ => none) state operation).2.hub)
      { hub := { now := 0 } } deletedFirst := by
  apply tenants_isolated recordingPlatform (fun _ => none) { hub := { now := 0 } } deletedFirst
  · exact fun _ inside => absurd inside List.not_mem_nil
  · exact fun _ inside => absurd inside List.not_mem_nil
  · decide +kernel

/-- The second workspace links the agent while it still has the service of the first. -/
def relinked : List TenantOperation :=
  twoTenants ++ asks 1 1 ++ [createsPublic, .binding (.disconnectAgent 1 1 "C")] ++ asks 2 2

/-- A route that is answered while no agent belongs to the workspace of an endpoint. -/
theorem not_isolated_of_elsewhere {hub : Hub}
    {serviceSubdomain workspaceSubdomain token : Text} {preferPooled : Bool} {route : TunnelRoute}
    (answered : ((sendProxyInfo serviceSubdomain workspaceSubdomain token preferPooled).run
      { hub with routeCache := [] }).1 = .ok route)
    (elsewhere : ∀ agent ∈ hub.database.agents, ∀ endpoint ∈ hub.database.serviceEndpoints,
      agent.agentParentWorkspace ≠ some endpoint.endpointParentWorkspace) : ¬ Isolated hub := by
  intro isolated
  obtain ⟨workspace, routed, agent, -, found, hosted, -, -, parent⟩ :=
    isolated serviceSubdomain workspaceSubdomain token preferPooled route answered
  obtain ⟨here, -, -, joined⟩ := findEndpoint_joins found
  have member := (Table.mem_of_findFirst (joined.symm.trans hosted)).1
  exact elsewhere agent member routed.endpoint here parent

/-- The address of the first workspace is served by the agent of the second. -/
theorem not_tenants_isolated_relinked :
    ¬ Isolated (final (serveTenants recordingPlatform fun _ => none) { hub := { now := 0 } }
      relinked).hub := by
  apply @not_isolated_of_elsewhere _ "a" "first" "t" true { agentUuid := "U", servicePort := 80 }
  · decide +kernel
  · decide +kernel

end TunnelService

end OpticsHub
