import OpticsHub.Agent.OfflineServices
import OpticsHub.Services.Rejections

/-!
# What writes to services and their addresses

Users create, redeploy, delete and command services, block their traffic and change their
addresses; an Agent reports the status of a service and of its containers; and the services
of an Agent that is gone are set offline. Nothing else in the Hub writes to the tables of
services, components and endpoints. What one operation does to services and endpoints is
said once, by a relation with a case for every way in which an operation can end, so that a
law about any sequence of operations needs only the cases.
-/
namespace OpticsHub

open Script Async Program Machine

namespace ServiceService

open AgentGateway AgentService TunnelService

/-! ## The operations -/

inductive ServiceOperation where
  | call (call : ServiceCall)
  | blockTraffic (owner : Int32) (serviceIdx : Text) (options : BlockServiceTraffic)
  | unblockTraffic (owner : Int32) (serviceIdx : Text)
  | updateSubdomain (owner : Int32) (serviceIdx : Text) (subdomain : Option Text)
  | updateEndpoints (owner : Int32) (serviceIdx : Text) (serviceEndpoints : Value)
  /-- A report that has got through the middleware. -/
  | serviceStatus (client : ℕ) (payload : Value)
  | containerStatus (client : ℕ) (payload : Value)
  | offlineTimer (agentUuid : Text)
  | hubStart
  /-- Whatever else the Hub does: none of it writes to the three tables. -/
  | elsewhere (change : RelayState → RelayState)

/-- A change that leaves services, components and endpoints as they are. -/
def besides (change : RelayState → RelayState) (state : RelayState) : RelayState :=
  { change state with
    hub := (change state).hub.write fun database =>
      { database with
        services := state.hub.database.services
        serviceComponents := state.hub.database.serviceComponents
        serviceEndpoints := state.hub.database.serviceEndpoints } }

section Programs

variable (objectFilter : Members Value → Option (ℕ → Bool))

def operationProgram : ServiceOperation → RelayProgram Unit
  | .call call => onHub (serviceProgram call)
  | .blockTraffic owner serviceIdx options => onHub do
    let _ ← handleBlockServiceTraffic owner serviceIdx options
  | .unblockTraffic owner serviceIdx => onHub do
    let _ ← handleUnblockServiceTraffic owner serviceIdx
  | .updateSubdomain owner serviceIdx subdomain => onHub do
    let _ ← handleUpdateServiceSubdomain owner serviceIdx subdomain
  | .updateEndpoints owner serviceIdx serviceEndpoints => onHub do
    let _ ← handleUpdateServiceEndpoints owner serviceIdx serviceEndpoints
  | .serviceStatus client payload => handleServiceStatus objectFilter client payload
  | .containerStatus client payload => handleContainerStatus objectFilter client payload
  | .offlineTimer agentUuid => onHub (AgentGateway.offlineTimer agentUuid)
  | .hubStart => do
    step fun state => ((), freshProcess state)
    onHub onHubStart
  | .elsewhere change => step fun state => ((), besides change state)

/-- One operation from beginning to end. -/
def operate : Transition RelayState ServiceOperation (Except Failure Unit) :=
  fun state operation => (operationProgram objectFilter operation).run state

end Programs

/-! ## What an operation does to services and endpoints -/

/-- The row of one service is written. -/
structure Rewrites (service changed : ServiceRow) (before after : Database) : Prop where
  inside : service ∈ before.services
  index : changed.serviceIndex = service.serviceIndex
  workspace : changed.serviceParentWorkspace = service.serviceParentWorkspace
  rows : ∀ row, row ∈ after.services ↔
    row = changed ∨ row ∈ before.services ∧ row.serviceIndex ≠ service.serviceIndex

/-- The endpoints of a service are replaced. -/
structure Publishes (workspaceIndex serviceIndex : ℕ) (endpoints : List ServiceEndpoint)
    (before after : Database) : Prop where
  older : ∀ row ∈ after.serviceEndpoints,
    row ∈ before.serviceEndpoints ∧ row.endpointParentService ≠ serviceIndex ∨
      ∃ endpoint ∈ endpoints, ∃ n, row = endpointRow workspaceIndex serviceIndex endpoint n
  kept : ∀ row ∈ before.serviceEndpoints, row.endpointParentService ≠ serviceIndex →
    row ∈ after.serviceEndpoints
  made : ∀ endpoint ∈ endpoints, ∃ n,
    endpointRow workspaceIndex serviceIndex endpoint n ∈ after.serviceEndpoints
  apart : (publicSubdomains endpoints).Nodup →
    ∀ row ∈ after.serviceEndpoints, ∀ other ∈ after.serviceEndpoints,
      row.endpointParentService = serviceIndex → other.endpointParentService = serviceIndex →
      row.endpointSubdomain ≠ none → row.endpointSubdomain = other.endpointSubdomain → row = other

/-- The subdomain of a service goes into its first endpoint row, or into a new one. -/
inductive Readdresses (service : ServiceRow) (before after : Database) : Option Text → Prop where
  | changed (primary : EndpointRow) (subdomain : Option Text)
      (found : primaryEndpoint service.serviceIndex before = some primary)
      (rows : ∀ row, row ∈ after.serviceEndpoints ↔
        row = { primary with endpointSubdomain := subdomain } ∨
          row ∈ before.serviceEndpoints ∧ row.endpointIndex ≠ primary.endpointIndex) :
      Readdresses service before after subdomain
  | created (subdomain : Text)
      (absent : primaryEndpoint service.serviceIndex before = none)
      (rows : ∀ row, row ∈ after.serviceEndpoints ↔ row ∈ before.serviceEndpoints ∨
        row = subdomainRow service subdomain before.serviceEndpoints.next) :
      Readdresses service before after (some subdomain)
  | none (absent : primaryEndpoint service.serviceIndex before = none)
      (same : after.serviceEndpoints = before.serviceEndpoints) :
      Readdresses service before after none

/-- Some services are set offline, none of them removed. -/
def Lowered (before after : Database) : Prop :=
  after.serviceEndpoints = before.serviceEndpoints ∧
    ∃ change : ServiceRow → ServiceRow, after.services.rows = before.services.rows.map change ∧
      ∀ row, change row = row ∨
        row.serviceStatus ≠ .removed ∧ change row = { row with serviceStatus := .offline }

/-- The socket of an Agent is connected and has a secret. -/
def Reached (hub : Hub) (agentUuid : Text) : Prop :=
  ∃ socket, getAgentSocket hub agentUuid = some socket ∧
    hasSecret (hub.sockets socket).data.signingSecret = true

/-- A redeployment gets as far as writing the row of its service. -/
structure Redeploys (owner : Int32) (serviceIdx : Text) (body : RedeployService) (hub : Hub)
    (service : ServiceRow) (target : AgentRow) (repositories : List ServiceSourceRepository)
    (portMappings : List ServicePortMapping) (env : Members Text) : Prop where
  located : Located owner serviceIdx hub.database service
  targeted : targetAgent body.agentIndex service.serviceParentWorkspace hub.database = some target
  stopped : leavesAgent body service (agentOfService service hub.database) = true →
    StopReaches hub service
  prepared : Prepared body service hub.database repositories portMappings env

/-- A redeployment replaces the endpoints of its service. -/
structure Republishes (body : RedeployService) (service updated : ServiceRow)
    (portMappings : List ServicePortMapping) (endpoints : List ServiceEndpoint)
    (database : Database) : Prop where
  normalized : redeployedEndpoints body service updated portMappings database = .ok endpoints
  free : EndpointsFree service.serviceParentWorkspace service.serviceIndex endpoints database

/-- How services and endpoints may be after an operation. -/
inductive Effect (objectFilter : Members Value → Option (ℕ → Bool)) (before : RelayState) :
    ServiceOperation → Database → Prop where
  | aside {operation : ServiceOperation} {after : Database}
      (services : after.services = before.hub.database.services)
      (endpoints : after.serviceEndpoints = before.hub.database.serviceEndpoints) :
      Effect objectFilter before operation after
  | created {owner : Int32} {body : CreateServiceBody} {deployment : Deployment}
      {status : ServiceStatus} {after : Database}
      (accepted : CreationAccepted owner body before.hub.database deployment)
      (rows : ∀ row, row ∈ after.services ↔ row ∈ before.hub.database.services ∨
        row = { serviceRow body deployment before.hub.database.services.next with
          serviceStatus := status })
      (endpoints : after.serviceEndpoints = before.hub.database.serviceEndpoints ∨
        EndpointsFree body.workspaceIdx before.hub.database.services.next deployment.endpoints
            before.hub.database ∧
          Publishes body.workspaceIdx before.hub.database.services.next deployment.endpoints
            before.hub.database after) :
      Effect objectFilter before (.call (.create owner body)) after
  | failed {call : ServiceCall} {service : ServiceRow} {after : Database}
      (standing : service.serviceStatus ≠ .removed)
      (rewrites : Rewrites service { service with serviceStatus := .failed }
        before.hub.database after)
      (endpoints : after.serviceEndpoints = before.hub.database.serviceEndpoints) :
      Effect objectFilter before (.call call) after
  | redeployed {owner : Int32} {serviceIdx : Text} {body : RedeployService}
      {service updated : ServiceRow} {target : AgentRow}
      {repositories : List ServiceSourceRepository} {portMappings : List ServicePortMapping}
      {env : Members Text} {status : ServiceStatus} {after : Database}
      (redeploys : Redeploys owner serviceIdx body before.hub service target repositories
        portMappings env)
      (written : updated = redeployedRow body target.agentIndex repositories portMappings env
        service service)
      (rewrites : Rewrites service { updated with serviceStatus := status }
        before.hub.database after)
      (outcome : status = service.serviceStatus ∧
          after.serviceEndpoints = before.hub.database.serviceEndpoints ∨
        ∃ endpoints, Republishes body service updated portMappings endpoints before.hub.database ∧
          Publishes service.serviceParentWorkspace service.serviceIndex endpoints
            before.hub.database after ∧
          (status = service.serviceStatus ∨
            status = .failed ∧ ¬ Reached before.hub target.agentUuid)) :
      Effect objectFilter before (.call (.redeploy owner serviceIdx body)) after
  | removed {owner : Int32} {serviceIdx : Text} {deleteScope : DeleteScope}
      {service : ServiceRow} {deletedAt : Option ℤ} {after : Database}
      (located : Located owner serviceIdx before.hub.database service)
      (rewrites : Rewrites service
        { service with serviceStatus := .removed, serviceDeletedAt := deletedAt }
        before.hub.database after)
      (endpoints : after.serviceEndpoints = before.hub.database.serviceEndpoints) :
      Effect objectFilter before (.call (.delete owner serviceIdx deleteScope)) after
  | blocked {owner : Int32} {serviceIdx : Text} {options : BlockServiceTraffic}
      {service : ServiceRow} {mode : TrafficBlockMode} {reason : Option Text} {after : Database}
      (located : Located owner serviceIdx before.hub.database service)
      (rewrites : Rewrites service
        { service with
          serviceTrafficBlockedAt := some (service.serviceTrafficBlockedAt.getD before.hub.now)
          serviceTrafficBlockMode := mode
          serviceTrafficBlockReason := reason }
        before.hub.database after)
      (endpoints : after.serviceEndpoints = before.hub.database.serviceEndpoints) :
      Effect objectFilter before (.blockTraffic owner serviceIdx options) after
  | unblocked {owner : Int32} {serviceIdx : Text} {service : ServiceRow} {after : Database}
      (located : Located owner serviceIdx before.hub.database service)
      (rewrites : Rewrites service
        { service with
          serviceTrafficBlockedAt := none
          serviceTrafficBlockReason := none
          serviceTrafficBlockMode := .notice }
        before.hub.database after)
      (endpoints : after.serviceEndpoints = before.hub.database.serviceEndpoints) :
      Effect objectFilter before (.unblockTraffic owner serviceIdx) after
  | addressed {owner : Int32} {serviceIdx : Text} {given : Option Text} {service : ServiceRow}
      {after : Database}
      (located : Located owner serviceIdx before.hub.database service)
      (rewrites : Rewrites service
        { service with serviceSubdomain := normalizeServiceSubdomain given }
        before.hub.database after)
      (endpoints : Readdresses service before.hub.database after
        (normalizeServiceSubdomain given))
      (formed : assertServiceSubdomainFormat (normalizeServiceSubdomain given) = .ok ())
      (free : ∀ subdomain, normalizeServiceSubdomain given = some subdomain →
        takenEndpoint service.serviceParentWorkspace service.serviceIndex [subdomain]
          before.hub.database = none) :
      Effect objectFilter before (.updateSubdomain owner serviceIdx given) after
  | published {owner : Int32} {serviceIdx : Text} {given : Value} {service : ServiceRow}
      {endpoints : List ServiceEndpoint} {after : Database}
      (located : Located owner serviceIdx before.hub.database service)
      (rewrites : Rewrites service { service with serviceSubdomain := primarySubdomain endpoints }
        before.hub.database after)
      (publishes : Publishes service.serviceParentWorkspace service.serviceIndex endpoints
        before.hub.database after)
      (free : EndpointsFree service.serviceParentWorkspace service.serviceIndex endpoints
        before.hub.database) :
      Effect objectFilter before (.updateEndpoints owner serviceIdx given) after
  | reported {client : ℕ} {payload : Value} {service : ServiceRow} {status : ServiceStatus}
      {after : Database}
      (reports : reportedStatus objectFilter client payload before = some (service, status))
      (rewrites : Rewrites service { service with serviceStatus := status }
        before.hub.database after)
      (endpoints : after.serviceEndpoints = before.hub.database.serviceEndpoints) :
      Effect objectFilter before (.serviceStatus client payload) after
  | lowered {operation : ServiceOperation} {after : Database}
      (lowers : Lowered before.hub.database after) :
      Effect objectFilter before operation after

/-! ## What the parts of the operations leave -/

section Parts

variable {hub : Hub} {fail : Failure → Hub → Prop}

/-- The write to the row of a service that is there. -/
theorem wp_updateRow {service : ServiceRow} (inside : service ∈ hub.database.services)
    {change : ℤ → ServiceRow → ServiceRow}
    {keyed : ∀ now row, (change now row).serviceIndex = row.serviceIndex}
    {post : ServiceRow → Hub → Prop}
    (clash : clashes hub.database.services (change hub.now service) = true → fail .internal hub)
    (held : ∀ services : Table ServiceRow,
      (∀ row, row ∈ services ↔ row = change hub.now service ∨
        row ∈ hub.database.services ∧ row.serviceIndex ≠ service.serviceIndex) →
      post (change hub.now service)
        (hub.write fun database => { database with services := services })) :
    wp (updateService service.serviceIndex change keyed) post fail hub := by
  have found : hub.database.services.findFirst
      (fun row => row.serviceIndex == service.serviceIndex) = some service :=
    Table.findFirst_of_key inside (beq_self_eq_true _) fun _ _ => beq_iff_eq.mp
  by_cases clear : clashes hub.database.services (change hub.now service) = true
  · rw [updateService, wp_atomically_error (by rw [found]; exact if_pos clear)]
    exact clash clear
  · rw [updateService, wp_atomically_ok (by rw [found]; exact if_neg clear)]
    exact held _ fun _ => Table.mem_updateMany_key inside

/-- A row that is not deleted takes the address of no other. -/
theorem not_clashes {services : Table ServiceRow} {row : ServiceRow}
    (alive : row.serviceDeletedAt = none) : ¬ clashes services row = true := by
  simp [clashes, alive]

/-- The rows of the endpoints after they are replaced. -/
def published (workspaceIndex serviceIndex : ℕ) (endpoints : List ServiceEndpoint)
    (table : Table EndpointRow) : Table EndpointRow :=
  (table.deleteMany fun endpoint => endpoint.endpointParentService == serviceIndex).createMany
    (endpointRow workspaceIndex serviceIndex) (fun _ _ => rfl) endpoints

theorem subdomains_made {workspaceIndex serviceIndex : ℕ} {endpoints : List ServiceEndpoint}
    {made : List EndpointRow} (matched : List.Forall₂ (fun endpoint row =>
      ∃ n, row = endpointRow workspaceIndex serviceIndex endpoint n) endpoints made) :
    made.filterMap EndpointRow.endpointSubdomain = publicSubdomains endpoints := by
  induction matched with
  | nil => rfl
  | cons here _ ih =>
    obtain ⟨n, rfl⟩ := here
    rw [publicSubdomains, List.filterMap_cons, List.filterMap_cons, ih]
    rfl

theorem publishes_published {workspaceIndex serviceIndex : ℕ} {endpoints : List ServiceEndpoint}
    {before after : Database}
    (written : after.serviceEndpoints =
      published workspaceIndex serviceIndex endpoints before.serviceEndpoints) :
    Publishes workspaceIndex serviceIndex endpoints before after where
  older row inside := by
    rw [written] at inside
    rcases Table.mem_createMany inside with kept | made
    · obtain ⟨older, other⟩ := Table.mem_deleteMany.mp kept
      exact .inl ⟨older, by simpa using other⟩
    · exact .inr made
  kept row inside other := by
    rw [written]
    exact Table.mem_createMany_of_mem (Table.mem_deleteMany.mpr ⟨inside, by simpa using other⟩)
  made endpoint member := by
    rw [written]
    exact Table.exists_mem_createMany member
  apart distinct row inside other inside' parent parent' given same := by
    obtain ⟨made, rows, matched⟩ := @Table.rows_createMany _ _
      (before.serviceEndpoints.deleteMany fun endpoint =>
        endpoint.endpointParentService == serviceIndex)
      _ (endpointRow workspaceIndex serviceIndex) (fun _ _ => rfl) endpoints
    have new {row : EndpointRow} (inside : row ∈ after.serviceEndpoints)
        (parent : row.endpointParentService = serviceIndex) : row ∈ made := by
      rw [written, Table.mem_def, published, rows] at inside
      refine (List.mem_append.mp inside).resolve_left fun older => ?_
      have other := (Table.mem_deleteMany.mp older).2
      simp [parent] at other
    rw [← subdomains_made matched] at distinct
    exact Table.eq_of_nodup_filterMap distinct (new inside parent) (new inside' parent') given same

/-- The endpoints of a service are replaced if they are free. -/
theorem wp_replaced (serviceIndex workspaceIndex : ℕ) (endpoints : List ServiceEndpoint)
    {post : Unit → Hub → Prop} :
    wp (replaceServiceEndpoints serviceIndex workspaceIndex endpoints) post fail hub ↔
      (EndpointsFree workspaceIndex serviceIndex endpoints hub.database →
        post () (hub.write fun database =>
          { database with
            serviceEndpoints :=
              published workspaceIndex serviceIndex endpoints database.serviceEndpoints })) ∧
      (¬ (publicSubdomains endpoints).Nodup → fail duplicateEndpointSubdomain hub) ∧
      ((publicSubdomains endpoints).Nodup → takenEndpoint workspaceIndex serviceIndex
        (publicSubdomains endpoints) hub.database ≠ none → fail endpointSubdomainInUse hub) := by
  rw [replaceServiceEndpoints, wp_bind, wp_checked]
  refine and_congr (imp_congr_right fun _ => ?_) Iff.rfl
  rw [wp_bind, deleteEndpoints, wp_step]
  cases endpoints with
  | nil => exact Iff.rfl
  | cons endpoint endpoints => exact Iff.rfl

/-- A packet is sent, and the consoles may be told. -/
theorem wp_trySend (agentUuid : Text) (command : AgentCommand) (workspaceIndex : ℕ)
    (notify : Bool) {post : Bool → Hub → Prop}
    (sent : Reached hub agentUuid → ∀ packets console,
      post true { hub with sent := packets, console := console })
    (unsent : ¬ Reached hub agentUuid → post false hub) :
    wp (trySend agentUuid command workspaceIndex notify) post fail hub := by
  rw [trySend, wp_step, sendToAgent]
  cases connected : getAgentSocket hub agentUuid with
  | none =>
    refine unsent ?_
    rintro ⟨socket, found, -⟩
    cases connected.symm.trans found
  | some socket =>
    by_cases secret : hasSecret (hub.sockets socket).data.signingSecret = true
    · have reached := sent ⟨socket, connected, secret⟩
      simp only [if_pos secret, Bool.true_and]
      cases notify with
      | true => exact reached _ _
      | false => exact reached _ hub.console
    · simp only [if_neg secret, Bool.false_and]
      refine unsent ?_
      rintro ⟨other, found, there⟩
      rw [connected] at found
      obtain rfl := Option.some.inj found
      exact secret there

/-- A command is sent; otherwise the service fails. -/
theorem wp_commanded {ended : Database → Prop} {service : ServiceRow} {serviceIndex : ℕ}
    (inside : service ∈ hub.database.services) (named : serviceIndex = service.serviceIndex)
    (agentUuid : Text) (command : AgentCommand) (workspaceIndex : ℕ) (notify : Bool)
    {post : Unit → Hub → Prop}
    (sent : Reached hub agentUuid → ∀ packets console,
      post () { hub with sent := packets, console := console })
    (unsent : ¬ Reached hub agentUuid → ended hub.database ∧
      ∀ after, Rewrites service { service with serviceStatus := .failed } hub.database after →
        after.serviceEndpoints = hub.database.serviceEndpoints → ended after) :
    wp (sendCommand agentUuid command serviceIndex workspaceIndex notify) post
      (fun _ after => ended after.database) hub := by
  rw [sendCommand, wp_bind]
  apply wp_trySend
  · intro reached packets console
    exact sent reached packets console
  · intro unreached
    obtain ⟨unchanged, failed⟩ := unsent unreached
    rw [if_neg Bool.false_ne_true, failUnsent, wp_bind, named]
    apply wp_updateRow inside fun _ => unchanged
    intro services rows
    exact failed _ ⟨inside, rfl, rfl, rows⟩ rfl

/-- The checks of a redeployment, where it does not matter which of them it fails. -/
theorem wp_redeploymentChecked (body : RedeployService) (service : ServiceRow)
    (here : ∀ failure, failure.isConflict = false → fail failure hub)
    (named : fail serviceNameExists hub)
    {post : List ServiceSourceRepository × List ServicePortMapping × Option EndpointRow ×
      Members Text → Hub → Prop} :
    wp (checkRedeployment body service) post fail hub ↔
      ∀ repositories portMappings env,
        Prepared body service hub.database repositories portMappings env →
        post (repositories, portMappings,
          existingPrimaryEndpoint service.serviceIndex hub.database, env) hub := by
  have source : ∀ failure, redeploySourceAndPorts body service = .error failure →
      fail failure hub :=
    fun failure failed => here failure (noConflict_redeploySourceAndPorts body service _ failed)
  have environment : ∀ failure, redeployedEnv body service = .error failure →
      fail failure hub := by
    intro failure failed
    rw [redeployedEnv_internal failed]
    exact here _ rfl
  have passes (unnamed : ¬ NameTaken body service hub.database) :
      ((∀ prepared, redeploySourceAndPorts body service = .ok prepared →
          (∀ env, redeployedEnv body service = .ok env →
            post (prepared.1, prepared.2,
              existingPrimaryEndpoint service.serviceIndex hub.database, env) hub) ∧
          ∀ failure, redeployedEnv body service = .error failure → fail failure hub) ∧
        ∀ failure, redeploySourceAndPorts body service = .error failure → fail failure hub) ↔
      ∀ repositories portMappings env,
        Prepared body service hub.database repositories portMappings env →
        post (repositories, portMappings,
          existingPrimaryEndpoint service.serviceIndex hub.database, env) hub := by
    constructor
    · rintro ⟨passed, -⟩ repositories portMappings env prepared
      exact (passed _ prepared.source).1 env prepared.environment
    · intro passed
      refine ⟨fun prepared sources => ⟨fun env given => ?_, environment⟩, source⟩
      exact passed _ _ env ⟨sources, given, unnamed⟩
  have unasked (asked : ∀ name, body.serviceName = some name → name ≠ [] →
      name = service.serviceName) : ¬ NameTaken body service hub.database := by
    rintro ⟨name, given, filled, differs, -⟩
    exact differs (asked name given filled)
  rw [checkRedeployment]
  cases asked : body.serviceName with
  | none =>
    refine Iff.trans ?_ (passes (unasked fun name given => by rw [asked] at given; cases given))
    simp only [wp_bind, wp_fromExcept, wp_look, wp_pure]
    exact Iff.rfl
  | some name =>
    cases name with
    | nil =>
      refine Iff.trans ?_ (passes (unasked fun name given filled => ?_))
      · simp only [wp_bind, wp_fromExcept, wp_look, wp_pure]
        exact Iff.rfl
      · rw [asked] at given
        exact absurd (Option.some.inj given).symm filled
    | cons unit units =>
      by_cases same : unit :: units = service.serviceName
      · refine Iff.trans ?_ (passes (unasked fun name given _ => ?_))
        · simp only [wp_bind, wp_fromExcept, wp_look, if_pos same, wp_pure]
          exact Iff.rfl
        · rw [asked] at given
          exact (Option.some.inj given).symm.trans same
      · simp only [wp_bind, wp_fromExcept, wp_look, if_neg same, wp_require, wp_pure]
        by_cases taken : NameTaken body service hub.database
        · have used : ¬ (namesake service.serviceParentWorkspace (unit :: units)
              (some service.serviceIndex) hub.database).isNone = true := by
            obtain ⟨name, given, -, -, used⟩ := taken
            rw [asked] at given
            obtain rfl := Option.some.inj given
            rwa [Option.isNone_iff_eq_none]
          refine iff_of_true ?_ fun _ _ _ prepared => absurd taken prepared.unnamed
          refine ⟨fun _ _ => ⟨fun _ _ => ⟨fun free => absurd free used, fun _ => named⟩,
            environment⟩, source⟩
        · have free : (namesake service.serviceParentWorkspace (unit :: units)
              (some service.serviceIndex) hub.database).isNone = true := by
            rw [Option.isNone_iff_eq_none]
            by_contra used
            exact taken ⟨unit :: units, asked, List.cons_ne_nil _ _, same, used⟩
          refine Iff.trans ?_ (passes taken)
          simp only [free, true_imp_iff, not_true_eq_false, false_imp_iff, and_true]
          exact Iff.rfl

end Parts

/-! ## What the operations of users leave -/

section Users

variable {objectFilter : Members Value → Option (ℕ → Bool)} {before : RelayState}

/-- However an operation of a user ends, it has had one of its effects. -/
abbrev HasEffect {α : Type} (objectFilter : Members Value → Option (ℕ → Bool))
    (before : RelayState) (operation : ServiceOperation) (program : HubProgram α) : Prop :=
  wp program (fun _ after => Effect objectFilter before operation after.database)
    (fun _ after => Effect objectFilter before operation after.database) before.hub

theorem Effect.refl (operation : ServiceOperation) :
    Effect objectFilter before operation before.hub.database :=
  .aside rfl rfl

theorem effect_create (owner : Int32) (body : CreateServiceBody) :
    HasEffect objectFilter before (.call (.create owner body))
      (handleCreateService owner body) := by
  have here : Effect objectFilter before (.call (.create owner body)) before.hub.database :=
    .refl _
  simp only [handleCreateService, prepareCreation, HasEffect, wp_bind, wp_look, wp_require,
    wp_orThrow, wp_fromExcept, wp_pure, here, implies_true, and_true]
  intro owned agent found unnamed deployment normalized
  have accepted : CreationAccepted owner body before.hub.database deployment :=
    ⟨owned, Option.isSome_iff_exists.mpr ⟨agent, found⟩, Option.isNone_iff_eq_none.mp unnamed,
      normalized⟩
  have created (row : ServiceRow) :
      row ∈ before.hub.database.services.create (serviceRow body deployment) ↔
        row ∈ before.hub.database.services ∨
          row = serviceRow body deployment before.hub.database.services.next := Table.mem_create
  simp only [deployNew, createService, ensureDefaultComponent, wp_bind, wp_step, wp_replaced]
  refine ⟨fun free => ?_, fun _ => ?_, fun _ _ => ?_⟩
  · refine wp_commanded ((created _).mpr (.inr rfl)) rfl _ _ _ _ ?_ ?_
    · intro _ packets console
      exact .created accepted created (.inr ⟨free, publishes_published rfl⟩)
    · intro _
      refine ⟨.created accepted created (.inr ⟨free, publishes_published rfl⟩), ?_⟩
      intro after rewrites endpoints
      have rows (row : ServiceRow) : row ∈ after.services ↔
          row ∈ before.hub.database.services ∨
            row = { serviceRow body deployment before.hub.database.services.next with
              serviceStatus := .failed } := by
        rw [rewrites.rows]
        constructor
        · rintro (rfl | ⟨inside, other⟩)
          · exact .inr rfl
          · rcases (created row).mp inside with older | rfl
            · exact .inl older
            · exact absurd rfl other
        · rintro (older | rfl)
          · refine .inr ⟨(created row).mpr (.inl older), ?_⟩
            exact Nat.ne_of_lt (before.hub.database.services.below row older)
          · exact .inl rfl
      exact .created accepted rows (.inr ⟨free, publishes_published endpoints⟩)
  · exact .created accepted created (.inl rfl)
  · exact .created accepted created (.inl rfl)

/-- A command for a service that was looked up. -/
theorem effect_command (call : ServiceCall) (owner : Int32) (serviceIdx : Text) (removed : String)
    (command : ServiceRow → AgentCommand) (notify : Bool) :
    HasEffect objectFilter before (.call call)
      (commandService owner serviceIdx removed command notify) := by
  have here : Effect objectFilter before (.call call) before.hub.database := .refl _
  rw [HasEffect, commandService, wp_bind, wp_findOwnedServiceAndAgent fun _ _ => here]
  intro service located
  obtain ⟨inside, -⟩ := located.alive
  simp only [wp_bind, wp_require, wp_orThrow, here, implies_true, and_true]
  intro standing agent _
  refine wp_commanded inside rfl _ _ _ _ ?_ ?_
  · intro _ packets console
    exact here
  · exact fun _ => ⟨here, fun after => .failed standing⟩

theorem effect_delete (owner : Int32) (serviceIdx : Text) (deleteScope : DeleteScope) :
    HasEffect objectFilter before (.call (.delete owner serviceIdx deleteScope))
      (handleDeleteService owner serviceIdx deleteScope) := by
  have here : Effect objectFilter before (.call (.delete owner serviceIdx deleteScope))
      before.hub.database := .refl _
  rw [HasEffect, handleDeleteService, wp_bind, wp_findOwnedServiceAndAgent fun _ _ => here]
  intro service located
  obtain ⟨inside, -⟩ := located.alive
  simp only [wp_bind, wp_orThrow, here, implies_true, and_true]
  intro agent _
  apply wp_trySend
  · intro _ packets console
    rw [wp_bind, wp_require]
    refine ⟨fun _ => ?_, fun refused => absurd rfl refused⟩
    rw [wp_bind]
    apply wp_updateRow
    · exact inside
    · exact fun _ => here
    · intro services rows
      exact .removed located ⟨inside, rfl, rfl, rows⟩ rfl
  · intro _
    rw [wp_bind, wp_require]
    exact ⟨fun sent => absurd sent Bool.false_ne_true, fun _ => here⟩

/-- A redeployment from its first write on, after what has been sent before. -/
theorem effect_deployAgain {owner : Int32} {serviceIdx : Text} {body : RedeployService}
    {service : ServiceRow} {target : AgentRow} {repositories : List ServiceSourceRepository}
    {portMappings : List ServicePortMapping} {env : Members Text}
    (redeploys : Redeploys owner serviceIdx body before.hub service target repositories
      portMappings env) (packets : List Outgoing) (console : List ConsoleEvent) :
    wp (deployAgain body service target repositories portMappings
        (existingPrimaryEndpoint service.serviceIndex before.hub.database) env)
      (fun _ after => Effect objectFilter before (.call (.redeploy owner serviceIdx body))
        after.database)
      (fun _ after => Effect objectFilter before (.call (.redeploy owner serviceIdx body))
        after.database)
      { before.hub with sent := packets, console := console } := by
  obtain ⟨inside, alive⟩ := redeploys.located.alive
  rw [deployAgain, wp_bind]
  apply wp_updateRow
  · exact inside
  · exact fun _ => .refl _
  intro services rows
  have there : redeployedRow body target.agentIndex repositories portMappings env service service ∈
      services := (rows _).mpr (.inl rfl)
  simp only [ensureDefaultComponent, wp_bind, wp_fromExcept, wp_step, wp_replaced]
  refine ⟨fun endpoints normalized => ⟨fun free => ?_, fun _ => ?_, fun _ _ => ?_⟩,
    fun _ _ => ?_⟩
  · have republishes : Republishes body service _ portMappings endpoints before.hub.database :=
      ⟨normalized, free⟩
    refine wp_commanded there rfl _ _ _ _ ?_ ?_
    · intro _ packets console
      exact .redeployed redeploys rfl ⟨inside, rfl, rfl, rows⟩
        (.inr ⟨endpoints, republishes, publishes_published rfl, .inl rfl⟩)
    · intro unreached
      refine ⟨.redeployed redeploys rfl ⟨inside, rfl, rfl, rows⟩
        (.inr ⟨endpoints, republishes, publishes_published rfl, .inl rfl⟩), ?_⟩
      intro after failed same
      refine .redeployed redeploys rfl ⟨inside, rfl, rfl, fun row => ?_⟩
        (.inr ⟨endpoints, republishes, publishes_published same, .inr ⟨rfl, unreached⟩⟩)
      rw [failed.rows]
      refine or_congr_right (and_congr_left fun other => ?_)
      exact (rows row).trans (or_iff_right_of_imp (by rintro rfl; exact absurd rfl other))
        |>.trans (and_iff_left other)
  · exact .redeployed redeploys rfl ⟨inside, rfl, rfl, rows⟩ (.inl ⟨rfl, rfl⟩)
  · exact .redeployed redeploys rfl ⟨inside, rfl, rfl, rows⟩ (.inl ⟨rfl, rfl⟩)
  · exact .redeployed redeploys rfl ⟨inside, rfl, rfl, rows⟩ (.inl ⟨rfl, rfl⟩)

/-- The service is stopped on the agent that it leaves. -/
theorem wp_stopped {owner : Int32} {serviceIdx : Text} {service : ServiceRow}
    (located : Located owner serviceIdx before.hub.database service) (call : ServiceCall)
    {post : ℕ → Hub → Prop}
    (stopped : StopReaches before.hub service → ∀ packets console,
      post service.serviceIndex { before.hub with sent := packets, console := console }) :
    wp (handleStopService owner (decimalText service.serviceIndex)) post
      (fun _ after => Effect objectFilter before (.call call) after.database) before.hub := by
  have here : Effect objectFilter before (.call call) before.hub.database := .refl _
  obtain ⟨inside, -⟩ := located.alive
  rw [handleStopService, commandService, wp_bind, wp_findOwnedServiceAndAgent fun _ _ => here]
  simp only [located.self, forall_eq, wp_bind, wp_require, wp_orThrow, here, implies_true,
    and_true]
  intro standing agent found
  refine wp_commanded inside rfl _ _ _ _ ?_ ?_
  · rintro ⟨socket, connected, secret⟩ packets console
    exact stopped ⟨standing, agent, found, socket, connected, secret⟩ packets console
  · exact fun _ => ⟨here, fun after => .failed standing⟩

theorem effect_redeploy (owner : Int32) (serviceIdx : Text) (body : RedeployService) :
    HasEffect objectFilter before (.call (.redeploy owner serviceIdx body))
      (handleRedeployService owner serviceIdx body) := by
  have here : Effect objectFilter before (.call (.redeploy owner serviceIdx body))
      before.hub.database := .refl _
  rw [HasEffect, handleRedeployService, wp_bind, wp_findOwnedServiceAndAgent fun _ _ => here]
  intro service located
  simp only [wp_bind, wp_look, wp_orThrow, here, implies_true, and_true]
  intro target targeted
  -- what follows the stop, if there is one
  have deploys (stopped : leavesAgent body service (agentOfService service before.hub.database) =
      true → StopReaches before.hub service) (packets : List Outgoing)
      (console : List ConsoleEvent) :
      wp (checkRedeployment body service >>= fun checked =>
          deployAgain body service target checked.1 checked.2.1 checked.2.2.1 checked.2.2.2)
        (fun _ after => Effect objectFilter before (.call (.redeploy owner serviceIdx body))
          after.database)
        (fun _ after => Effect objectFilter before (.call (.redeploy owner serviceIdx body))
          after.database)
        { before.hub with sent := packets, console := console } := by
    rw [wp_bind, wp_redeploymentChecked body service (fun _ _ => .refl _) (.refl _)]
    intro repositories portMappings env prepared
    exact effect_deployAgain ⟨located, targeted, stopped, prepared⟩ packets console
  cases leaves : leavesAgent body service (agentOfService service before.hub.database) with
  | false =>
    rw [if_neg Bool.false_ne_true]
    exact deploys (fun leaving => by rw [leaves] at leaving; cases leaving) before.hub.sent
      before.hub.console
  | true =>
    rw [if_pos rfl, wp_bind]
    apply wp_stopped located
    intro reaches packets console
    exact deploys (fun _ => reaches) packets console

theorem effect_serviceProgram (call : ServiceCall) :
    HasEffect objectFilter before (.call call) (serviceProgram call) := by
  have ended {α : Type} {program : HubProgram α}
      (effect : HasEffect objectFilter before (.call call) program) :
      HasEffect objectFilter before (.call call) (do let _ ← program : HubProgram Unit) := by
    rw [HasEffect, wp_bind]
    exact effect
  cases call with
  | create owner body => exact ended (effect_create owner body)
  | redeploy owner serviceIdx body => exact ended (effect_redeploy owner serviceIdx body)
  | delete owner serviceIdx deleteScope =>
    exact ended (effect_delete owner serviceIdx deleteScope)
  | _ => exact ended (effect_command _ _ _ _ _ _)

theorem effect_blockTraffic (owner : Int32) (serviceIdx : Text) (options : BlockServiceTraffic) :
    HasEffect objectFilter before (.blockTraffic owner serviceIdx options)
      (handleBlockServiceTraffic owner serviceIdx options) := by
  have here : Effect objectFilter before (.blockTraffic owner serviceIdx options)
      before.hub.database := .refl _
  rw [HasEffect, handleBlockServiceTraffic, wp_bind,
    wp_findOwnedServiceAndAgent fun _ _ => here]
  intro service located
  obtain ⟨inside, -⟩ := located.alive
  simp only [wp_bind, wp_require, here, implies_true, and_true]
  intro _
  apply wp_updateRow inside fun _ => here
  intro services rows
  exact .blocked located ⟨inside, rfl, rfl, rows⟩ rfl

theorem effect_unblockTraffic (owner : Int32) (serviceIdx : Text) :
    HasEffect objectFilter before (.unblockTraffic owner serviceIdx)
      (handleUnblockServiceTraffic owner serviceIdx) := by
  have here : Effect objectFilter before (.unblockTraffic owner serviceIdx)
      before.hub.database := .refl _
  rw [HasEffect, handleUnblockServiceTraffic, wp_bind,
    wp_findOwnedServiceAndAgent fun _ _ => here]
  intro service located
  obtain ⟨inside, -⟩ := located.alive
  rw [wp_bind]
  apply wp_updateRow inside fun _ => here
  intro services rows
  exact .unblocked located ⟨inside, rfl, rfl, rows⟩ rfl

/-- The subdomain is stored with an endpoint, and nothing else changes. -/
theorem wp_storeSubdomain (service : ServiceRow) (subdomain : Option Text)
    {post : Unit → Hub → Prop}
    (stored : ∀ endpoints : Table EndpointRow,
      Readdresses service hub.database { hub.database with serviceEndpoints := endpoints }
        subdomain →
      post () (hub.write fun database => { database with serviceEndpoints := endpoints })) :
    wp (storeSubdomain service subdomain) post fail hub := by
  rw [storeSubdomain, wp_bind, wp_look]
  cases found : primaryEndpoint service.serviceIndex hub.database with
  | some primary =>
    obtain ⟨inside, -⟩ := Table.mem_of_findFirst found
    have first : hub.database.serviceEndpoints.findFirst
        (fun row => row.endpointIndex == primary.endpointIndex) = some primary :=
      Table.findFirst_of_key inside (beq_self_eq_true _) fun _ _ => beq_iff_eq.mp
    dsimp only
    rw [updateEndpointSubdomain, wp_atomically_ok (by rw [first])]
    apply stored
    refine .changed primary subdomain found fun row => ?_
    exact @Table.mem_updateMany_key _ _ _ (fun row => { row with endpointSubdomain := subdomain })
      (fun _ => rfl) _ _ inside
  | none =>
    cases subdomain with
    | some subdomain =>
      dsimp only
      rw [createSubdomainEndpoint, wp_step]
      apply stored
      exact .created subdomain found fun row =>
        @Table.mem_create _ _ _ (subdomainRow service subdomain) (fun _ => rfl) row
    | none =>
      exact stored hub.database.serviceEndpoints (.none found rfl)

/-- What happens to the endpoints does not depend on the rest. -/
theorem Readdresses.written {service : ServiceRow} {database after after' : Database}
    {subdomain : Option Text} (readdresses : Readdresses service database after subdomain)
    (same : after'.serviceEndpoints = after.serviceEndpoints) :
    Readdresses service database after' subdomain := by
  cases readdresses with
  | changed primary subdomain found rows =>
    exact .changed primary subdomain found fun row => by rw [same, rows]
  | created subdomain absent rows =>
    exact .created subdomain absent fun row => by rw [same, rows]
  | none absent endpoints => exact .none absent (same.trans endpoints)

/-- The subdomain of a service is stored with its endpoints and in its row. -/
theorem wp_readdressed {service : ServiceRow} (inside : service ∈ hub.database.services)
    (alive : service.serviceDeletedAt = none) (subdomain : Option Text)
    {post : ServiceRow → Hub → Prop}
    (held : ∀ row after, Readdresses service hub.database after.database subdomain →
      Rewrites service { service with serviceSubdomain := subdomain } hub.database
        after.database → post row after) :
    wp (do
        storeSubdomain service subdomain
        updateService service.serviceIndex (fun _ row => { row with serviceSubdomain := subdomain })
          fun _ _ => rfl) post fail hub := by
  rw [wp_bind]
  apply wp_storeSubdomain
  intro endpoints readdresses
  apply wp_updateRow
  · exact inside
  · exact fun clash => absurd clash (not_clashes alive)
  · intro services rows
    exact held _ _ (readdresses.written rfl) ⟨inside, rfl, rfl, rows⟩

theorem effect_updateSubdomain (owner : Int32) (serviceIdx : Text) (given : Option Text) :
    HasEffect objectFilter before (.updateSubdomain owner serviceIdx given)
      (handleUpdateServiceSubdomain owner serviceIdx given) := by
  have here : Effect objectFilter before (.updateSubdomain owner serviceIdx given)
      before.hub.database := .refl _
  rw [HasEffect, handleUpdateServiceSubdomain, wp_bind,
    wp_findOwnedServiceAndAgent fun _ _ => here]
  intro service located
  obtain ⟨inside, alive⟩ := located.alive
  dsimp only
  rw [wp_bind, wp_fromExcept]
  refine ⟨fun _ formed => ?_, fun _ _ => here⟩
  rw [wp_bind, checkSubdomainFree.eq_def]
  split
  · rename_i none
    refine wp_readdressed inside alive _ fun row after readdresses rewrites => ?_
    refine .addressed located rewrites readdresses formed fun subdomain given => ?_
    rw [none] at given
    cases given
  · rename_i subdomain some'
    rw [wp_bind, wp_look, wp_require]
    refine ⟨fun untaken => ?_, fun _ => here⟩
    refine wp_readdressed inside alive _ fun row after readdresses rewrites => ?_
    refine .addressed located rewrites readdresses formed fun other given => ?_
    obtain rfl := Option.some.inj (some'.symm.trans given)
    exact Option.isNone_iff_eq_none.mp untaken

theorem effect_updateEndpoints (owner : Int32) (serviceIdx : Text) (given : Value) :
    HasEffect objectFilter before (.updateEndpoints owner serviceIdx given)
      (handleUpdateServiceEndpoints owner serviceIdx given) := by
  have here : Effect objectFilter before (.updateEndpoints owner serviceIdx given)
      before.hub.database := .refl _
  rw [HasEffect, handleUpdateServiceEndpoints, wp_bind,
    wp_findOwnedServiceAndAgent fun _ _ => here]
  intro service located
  obtain ⟨inside, alive⟩ := located.alive
  simp only [wp_bind, wp_fromExcept, wp_replaced, here, implies_true, and_true]
  intro endpoints _ free
  apply wp_updateRow
  · exact inside
  · exact fun clash => absurd clash (not_clashes alive)
  · intro services rows
    exact .published located ⟨inside, rfl, rfl, rows⟩ (publishes_published rfl) free

end Users

/-! ## What the other operations leave -/

section Others

variable {objectFilter : Members Value → Option (ℕ → Bool)} {before : RelayState}

theorem lowered_refl (database : Database) : Lowered database database :=
  ⟨rfl, id, (List.map_id _).symm, fun _ => .inl rfl⟩

theorem Lowered.trans {first second third : Database} (lowered : Lowered first second)
    (lowered' : Lowered second third) : Lowered first third := by
  obtain ⟨endpoints, change, rows, allowed⟩ := lowered
  obtain ⟨endpoints', change', rows', allowed'⟩ := lowered'
  refine ⟨endpoints'.trans endpoints, change' ∘ change, ?_, fun row => ?_⟩
  · rw [rows', rows, List.map_map]
  · rw [Function.comp_apply]
    rcases allowed row with same | ⟨standing, offline⟩
    · rw [same]
      exact allowed' row
    · rcases allowed' (change row) with same | ⟨-, again⟩
      · exact .inr ⟨standing, same.trans offline⟩
      · rw [offline] at again ⊢
        exact .inr ⟨standing, again⟩

/-- Actions that at most set services offline. -/
abbrev Lowers (before after : Hub) : Prop := Lowered before.database after.database

theorem lowers_updateAgents (selected : AgentRow → Bool) (change : AgentRow → AgentRow)
    (keyed : ∀ row, (change row).agentIndex = row.agentIndex) :
    Always Lowers (updateAgents selected change keyed) :=
  always_step fun hub => ⟨rfl, (lowered_refl hub.database).2⟩

theorem lowers_markServicesOffline (agentWhere : AgentRow → Bool) :
    Always Lowers (markServicesOffline agentWhere) := by
  apply always_step
  intro hub
  refine ⟨rfl, _, rfl, fun row => ?_⟩
  dsimp only
  split
  · rename_i selected
    refine .inr ⟨?_, rfl⟩
    rintro removed
    simp [removed] at selected
  · exact .inl rfl

theorem lowers_offlineTimer (agentUuid : Text) :
    Always Lowers (AgentGateway.offlineTimer agentUuid) := by
  apply Always.bind
  · apply always_step
    intro hub
    split <;> exact lowered_refl hub.database
  · intro gone
    split
    · refine Always.bind (always_look (fun hub => lowered_refl hub.database) _) fun agent => ?_
      refine Always.bind (always_look (fun hub => lowered_refl hub.database) _) fun now => ?_
      refine (lowers_updateAgents _ _ _).bind fun _ => ?_
      refine (lowers_markServicesOffline _).bind fun _ => ?_
      exact always_step fun hub => lowered_refl hub.database
    · exact always_pure _

theorem lowers_onHubStart : Always Lowers onHubStart := by
  refine Always.bind ?_ fun _ => lowers_updateAgents _ _ _
  refine Always.bind (always_look (fun hub => lowered_refl hub.database) _) fun now => ?_
  exact (lowers_updateAgents _ _ _).bind fun _ => lowers_markServicesOffline _

/-- What a view of the database shows is as before. -/
abbrev KeepsView {γ : Type} (view : Database → γ) (before after : Hub) : Prop :=
  view after.database = view before.database

/-- The same, with what is kept beside the Hub. -/
abbrev RelaysView {γ : Type} (view : Database → γ) (before after : RelayState) : Prop :=
  KeepsView view before.hub after.hub

section Views

variable {γ : Type} (view : Database → γ)

theorem keepsView_look {α : Type} (looks : Hub → α) :
    Always (KeepsView view) (look looks : HubProgram α) :=
  always_look (fun hub => (rfl : KeepsView view hub hub)) looks

theorem relaysView_look {α : Type} (looks : RelayState → α) :
    Always (RelaysView view) (look looks : RelayProgram α) :=
  always_look (fun state => (rfl : RelaysView view state state)) looks

/-- Finding the workspace of a report at most remembers it. -/
theorem relaysView_getWorkspaceIndex (agentUuid : Text) (serviceIndex : Value) :
    Always (RelaysView view)
      (getWorkspaceIndexForAgentService objectFilter agentUuid serviceIndex) := by
  refine (always_orThrow _ _).bind fun indexText => ?_
  refine (relaysView_look view _).bind fun cached => ?_
  split
  · exact always_pure _
  · refine (always_orThrow _ _).bind fun selects => ?_
    refine (relaysView_look view _).bind fun service => ?_
    split
    · exact always_pure _
    · refine (relaysView_look view _).bind fun agent => ?_
      split
      · exact always_pure _
      · exact always_step fun state => rfl

/-- A report keeps what its record keeps. -/
theorem relaysView_relayForService (event : Text) (client : ℕ) (payload : Value)
    {record : Members Value → HubProgram Unit}
    (records : ∀ members, Always (KeepsView view) (record members)) :
    Always (RelaysView view) (relayForService objectFilter event client payload record) := by
  refine (relaysView_look view _).bind fun data => ?_
  split
  · refine (always_orThrow _ _).bind fun members => ?_
    refine (relaysView_getWorkspaceIndex view _ _).bind fun workspaceIndex => ?_
    split
    · refine Always.bind ((records members).zoom fun _ _ kept => kept) fun _ => ?_
      exact always_step fun _ => rfl
    · exact always_pure _
  · exact always_pure _

/-- A report of containers keeps all but the components. -/
theorem relaysView_handleContainerStatus
    (aside : ∀ database components,
      view { database with serviceComponents := components } = view database)
    (client : ℕ) (payload : Value) :
    Always (RelaysView view) (handleContainerStatus objectFilter client payload) := by
  apply relaysView_relayForService
  intro members
  refine Always.tryCatch ?_ fun _ => always_pure _
  refine (always_orThrow _ _).bind fun selects => ?_
  refine (keepsView_look view _).bind fun service => ?_
  split
  · exact always_pure _
  · refine (always_orThrow _ _).bind fun containers => ?_
    refine Always.bind (always_mapM fun container => ?_) fun seenNames => ?_
    · refine (always_orThrow _ _).bind fun members => ?_
      refine (always_fromExcept _).bind fun name => ?_
      split
      · refine (always_orThrow _ _).bind fun index => ?_
        refine (always_orThrow _ _).bind fun column => ?_
        refine (always_orThrow _ _).bind fun name => ?_
        refine (always_orThrow _ _).bind fun reported => ?_
        exact Always.bind (always_step fun hub => aside hub.database _) fun _ => always_pure _
      · exact always_pure _
    · exact always_step fun hub => aside hub.database _

end Views

/-- Neither services nor endpoints are written. -/
def KeepsListing (before after : RelayState) : Prop :=
  after.hub.database.services = before.hub.database.services ∧
    after.hub.database.serviceEndpoints = before.hub.database.serviceEndpoints

theorem keepsListing_refl (state : RelayState) : KeepsListing state state := ⟨rfl, rfl⟩

theorem keepsListing_iff {before after : RelayState} :
    RelaysView (fun database => (database.services, database.serviceEndpoints)) before after ↔
      KeepsListing before after :=
  Prod.mk_inj

theorem keepsListing_getWorkspaceIndex (agentUuid : Text) (serviceIndex : Value) :
    Always KeepsListing (getWorkspaceIndexForAgentService objectFilter agentUuid serviceIndex) :=
  (relaysView_getWorkspaceIndex _ agentUuid serviceIndex).mono fun _ _ => keepsListing_iff.mp

theorem keepsListing_handleContainerStatus (client : ℕ) (payload : Value) :
    Always KeepsListing (handleContainerStatus objectFilter client payload) :=
  (relaysView_handleContainerStatus _ (fun _ _ => rfl) client payload).mono
    fun _ _ => keepsListing_iff.mp

/-- The status of a report is written to one service. -/
theorem effect_serviceStatus (client : ℕ) (payload : Value) :
    Effect objectFilter before (.serviceStatus client payload)
      ((handleServiceStatus objectFilter client payload).run before).2.hub.database := by
  rw [hub_handleServiceStatus]
  cases reports : reportedStatus objectFilter client payload before with
  | none => exact .refl _
  | some written =>
    have inside := mem_of_reportedStatus reports
    refine .reported reports ⟨inside, rfl, rfl, fun row => ?_⟩ rfl
    exact @Table.mem_updateMany_key _ _ _ (fun row => { row with serviceStatus := written.2 })
      (fun _ => rfl) _ _ inside

/-- Every operation has one of the effects. -/
theorem effect_of_operation (state : RelayState) (operation : ServiceOperation) :
    Effect objectFilter state operation (operate objectFilter state operation).2.hub.database := by
  have onHub {program : HubProgram Unit} (effect : HasEffect objectFilter state operation program) :
      Effect objectFilter state operation ((onHub program).run state).2.hub.database := by
    rw [run_onHub]
    exact @run_of_wp Hub Failure _ state.hub
      (fun after => Effect objectFilter state operation after.database) program effect
  have ended {α : Type} {program : HubProgram α}
      (effect : HasEffect objectFilter state operation program) :
      HasEffect objectFilter state operation (do let _ ← program : HubProgram Unit) := by
    rw [HasEffect, wp_bind]
    exact effect
  have lowered {hub : Hub} (same : hub.database = state.hub.database) {program : HubProgram Unit}
      (lowers : Always Lowers program) :
      Effect objectFilter state operation (program.run hub).2.database := by
    refine .lowered ?_
    rw [← same]
    exact lowers.run (fun hub => lowered_refl hub.database) (fun first second => first.trans second)
      hub
  cases operation with
  | call call => exact onHub (effect_serviceProgram call)
  | blockTraffic owner serviceIdx options => exact onHub (ended (effect_blockTraffic _ _ _))
  | unblockTraffic owner serviceIdx => exact onHub (ended (effect_unblockTraffic _ _))
  | updateSubdomain owner serviceIdx subdomain => exact onHub (ended (effect_updateSubdomain _ _ _))
  | updateEndpoints owner serviceIdx given => exact onHub (ended (effect_updateEndpoints _ _ _))
  | serviceStatus client payload => exact effect_serviceStatus client payload
  | containerStatus client payload =>
    obtain ⟨services, endpoints⟩ := (keepsListing_handleContainerStatus client payload).run
      keepsListing_refl (fun first second => ⟨second.1.trans first.1, second.2.trans first.2⟩) state
    exact .aside services endpoints
  | offlineTimer agentUuid =>
    rw [operate, operationProgram, run_onHub]
    exact lowered rfl (lowers_offlineTimer agentUuid)
  | hubStart =>
    rw [operate, operationProgram, run_bind, Program.step, run_atomically, runFrom, run_onHub]
    exact lowered rfl lowers_onHubStart
  | elsewhere change => exact .aside rfl rfl

end Others

end ServiceService

end OpticsHub
