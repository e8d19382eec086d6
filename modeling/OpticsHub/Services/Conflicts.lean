import OpticsHub.Services.Operations

/-!
# When an address is taken

Four operations refuse a subdomain that is in use by another service of the workspace. They
look for it among the endpoints. Routing looks there too, but passes over the endpoints of a
service that is deleted, and deleting a service leaves its endpoints. So an address is
refused although nothing answers to it, exactly while a deleted service has it and no other
one does.
-/
namespace OpticsHub

open Script Async Program Machine

namespace ServiceService

open AgentGateway TunnelService

/-! ## The property and its condition -/

/-- An operation asks for subdomains: it gets as far as looking whether another service of the
workspace has one of them. -/
inductive AsksFor (hub : Hub) : ServiceOperation → ℕ → ℕ → List Text → Prop where
  | create {owner : Int32} {body : CreateServiceBody} {deployment : Deployment}
      (accepted : CreationAccepted owner body hub.database deployment)
      (distinct : (publicSubdomains deployment.endpoints).Nodup) :
      AsksFor hub (.call (.create owner body)) body.workspaceIdx hub.database.services.next
        (publicSubdomains deployment.endpoints)
  | redeploy {owner : Int32} {serviceIdx : Text} {body : RedeployService} {service : ServiceRow}
      {target : AgentRow} {repositories : List ServiceSourceRepository}
      {portMappings : List ServicePortMapping} {env : Members Text}
      {endpoints : List ServiceEndpoint}
      (redeploys : Redeploys owner serviceIdx body hub service target repositories portMappings env)
      (normalized : redeployedEndpoints body service
        (redeployedRow body target.agentIndex repositories portMappings env service service)
        portMappings hub.database = .ok endpoints)
      (distinct : (publicSubdomains endpoints).Nodup) :
      AsksFor hub (.call (.redeploy owner serviceIdx body)) service.serviceParentWorkspace
        service.serviceIndex (publicSubdomains endpoints)
  | updateEndpoints {owner : Int32} {serviceIdx : Text} {given : Value} {service : ServiceRow}
      {endpoints : List ServiceEndpoint}
      (located : Located owner serviceIdx hub.database service)
      (normalized : requestedEndpoints service given = .ok endpoints)
      (distinct : (publicSubdomains endpoints).Nodup) :
      AsksFor hub (.updateEndpoints owner serviceIdx given) service.serviceParentWorkspace
        service.serviceIndex (publicSubdomains endpoints)
  | updateSubdomain {owner : Int32} {serviceIdx : Text} {given : Option Text}
      {service : ServiceRow} {subdomain : Text}
      (located : Located owner serviceIdx hub.database service)
      (normalized : normalizeServiceSubdomain given = some subdomain)
      (formed : assertServiceSubdomainFormat (some subdomain) = .ok ()) :
      AsksFor hub (.updateSubdomain owner serviceIdx given) service.serviceParentWorkspace
        service.serviceIndex [subdomain]

/-- Whether an operation ends with the answer that an address is in use. -/
def isInUse : Except Failure Unit → Prop
  | .ok _ => False
  | .error failure => ¬ NotInUse failure

/-- Another service of the workspace has an endpoint with one of some subdomains. -/
def HeldBy (standing : ServiceRow → Prop) (workspaceIndex serviceIndex : ℕ)
    (subdomains : List Text) (database : Database) : Prop :=
  ∃ service ∈ database.services, standing service ∧
    service.serviceParentWorkspace = workspaceIndex ∧ service.serviceIndex ≠ serviceIndex ∧
      ∃ endpoint ∈ database.serviceEndpoints,
        endpoint.endpointParentService = service.serviceIndex ∧
          endpoint.endpointSubdomain.any subdomains.contains = true

abbrev isAlive (service : ServiceRow) : Prop := service.serviceDeletedAt = none

abbrev isDeleted (service : ServiceRow) : Prop := service.serviceDeletedAt ≠ none

/-- Requests for one of some subdomains of a workspace are routed to another service. -/
def Routable (workspaceIndex serviceIndex : ℕ) (subdomains : List Text) (database : Database) :
    Prop :=
  ∃ endpoint ∈ database.serviceEndpoints, endpoint.endpointParentService ≠ serviceIndex ∧
    ∃ subdomain ∈ subdomains, routes database workspaceIndex subdomain endpoint = true

instance (result : Except Failure Unit) : Decidable (isInUse result) :=
  match result with
  | .ok _ => isFalse id
  | .error failure => inferInstanceAs (Decidable (¬ NotInUse failure))

/-- An operation is refused for an address that is in use, exactly if a service that is not
deleted has it. -/
def ConflictExact (objectFilter : Members Value → Option (ℕ → Bool)) (state : RelayState)
    (operation : ServiceOperation) : Prop :=
  isInUse (operate objectFilter state operation).1 ↔
    ∃ workspaceIndex serviceIndex subdomains,
      AsksFor state.hub operation workspaceIndex serviceIndex subdomains ∧
        HeldBy isAlive workspaceIndex serviceIndex subdomains state.hub.database

/-- No subdomain is asked for that only deleted services have. -/
def DeletedAsideFree (state : RelayState) (operation : ServiceOperation) : Prop :=
  ∀ workspaceIndex serviceIndex subdomains,
    AsksFor state.hub operation workspaceIndex serviceIndex subdomains →
      HeldBy isDeleted workspaceIndex serviceIndex subdomains state.hub.database →
        HeldBy isAlive workspaceIndex serviceIndex subdomains state.hub.database

/-- Every endpoint belongs to a service of its workspace and is not deleted itself. -/
def EndpointsOwned (database : Database) : Prop :=
  ∀ endpoint ∈ database.serviceEndpoints, endpoint.endpointDeletedAt = none ∧
    ∃ service ∈ database.services, service.serviceIndex = endpoint.endpointParentService ∧
      service.serviceParentWorkspace = endpoint.endpointParentWorkspace

instance (database : Database) : Decidable (EndpointsOwned database) :=
  inferInstanceAs (Decidable (∀ endpoint ∈ database.serviceEndpoints, _))

/-! ## Who has an address -/

section Holders

variable {database : Database} {workspaceIndex serviceIndex : ℕ} {subdomains : List Text}

/-- An address is taken if a service has it, deleted or not. -/
theorem taken_iff_heldBy (owned : EndpointsOwned database) :
    takenEndpoint workspaceIndex serviceIndex subdomains database ≠ none ↔
      HeldBy isAlive workspaceIndex serviceIndex subdomains database ∨
        HeldBy isDeleted workspaceIndex serviceIndex subdomains database := by
  constructor
  · intro taken
    obtain ⟨endpoint, found⟩ := Option.ne_none_iff_exists'.mp taken
    obtain ⟨inside, selected⟩ := Table.mem_of_findFirst found
    simp only [Bool.and_eq_true, beq_iff_eq, bne_iff_ne] at selected
    obtain ⟨⟨⟨workspace, other⟩, named⟩, -⟩ := selected
    obtain ⟨-, service, there, parent, same⟩ := owned endpoint inside
    have held (standing : ServiceRow → Prop) (stands : standing service) :
        HeldBy standing workspaceIndex serviceIndex subdomains database :=
      ⟨service, there, stands, same.trans workspace, parent ▸ other, endpoint, inside, parent.symm,
        named⟩
    by_cases alive : service.serviceDeletedAt = none
    · exact .inl (held _ alive)
    · exact .inr (held _ alive)
  · have taken (standing : ServiceRow → Prop) :
        HeldBy standing workspaceIndex serviceIndex subdomains database →
          takenEndpoint workspaceIndex serviceIndex subdomains database ≠ none := by
      rintro ⟨service, there, -, workspace, other, endpoint, inside, parent, named⟩ none
      obtain ⟨standing, service', there', parent', same⟩ := owned endpoint inside
      obtain rfl := Table.eq_of_key there there' (parent.symm.trans parent'.symm)
      have refused := Table.findFirst_eq_none.mp none endpoint inside
      simp [← same, workspace, parent, other, named, standing] at refused
    rintro (alive | deleted)
    · exact taken _ alive
    · exact taken _ deleted

/-- Where a service that is not deleted has an address, requests for it are routed. -/
theorem heldBy_alive_iff_routable (owned : EndpointsOwned database) :
    HeldBy isAlive workspaceIndex serviceIndex subdomains database ↔
      Routable workspaceIndex serviceIndex subdomains database := by
  constructor
  · rintro ⟨service, there, alive, workspace, other, endpoint, inside, parent, named⟩
    obtain ⟨standing, service', there', parent', same⟩ := owned endpoint inside
    obtain rfl := Table.eq_of_key there there' (parent.symm.trans parent'.symm)
    cases given : endpoint.endpointSubdomain with
    | none =>
      rw [given] at named
      cases named
    | some subdomain =>
      rw [given, Option.any_some, List.contains_iff_mem] at named
      refine ⟨endpoint, inside, parent ▸ other, subdomain, named, ?_⟩
      have found : (database.services.findFirst fun service =>
          service.serviceIndex == endpoint.endpointParentService &&
            service.serviceDeletedAt.isNone).isSome = true := by
        rw [Table.findFirst, List.find?_isSome]
        exact ⟨service, there, by simp [parent, alive]⟩
      simp [routes, ← same, workspace, given, standing, found]
  · rintro ⟨endpoint, inside, other, subdomain, named, routed⟩
    simp only [routes, Bool.and_eq_true, beq_iff_eq, Option.isNone_iff_eq_none] at routed
    obtain ⟨⟨⟨workspace, given⟩, -⟩, found⟩ := routed
    obtain ⟨service, found⟩ := Option.isSome_iff_exists.mp found
    obtain ⟨there, selected⟩ := Table.mem_of_findFirst found
    simp only [Bool.and_eq_true, beq_iff_eq, Option.isNone_iff_eq_none] at selected
    obtain ⟨parent, alive⟩ := selected
    obtain ⟨-, service', there', parent', same⟩ := owned endpoint inside
    obtain rfl := Table.eq_of_key there there' (parent.trans parent'.symm)
    refine ⟨service, there, alive, same.trans workspace, parent ▸ other, endpoint, inside,
      parent.symm, ?_⟩
    rw [given, Option.any_some, List.contains_iff_mem]
    exact named

end Holders

/-! ## Endpoints belong to services -/

section Owners

variable {before after : Database}

/-- The services keep their workspaces. -/
def KeepsParents (before after : Database) : Prop :=
  ∀ service ∈ before.services, ∃ service' ∈ after.services,
    service'.serviceIndex = service.serviceIndex ∧
      service'.serviceParentWorkspace = service.serviceParentWorkspace

theorem Rewrites.keepsParents {service changed : ServiceRow}
    (rewrites : Rewrites service changed before after) : KeepsParents before after := by
  intro row inside
  by_cases same : row.serviceIndex = service.serviceIndex
  · obtain rfl := Table.eq_of_key inside rewrites.inside same
    exact ⟨changed, (rewrites.rows _).mpr (.inl rfl), rewrites.index, rewrites.workspace⟩
  · exact ⟨row, (rewrites.rows row).mpr (.inr ⟨inside, same⟩), rfl, rfl⟩

/-- The endpoints are still owned if each comes from one that was, or belongs to a service. -/
theorem EndpointsOwned.kept (owned : EndpointsOwned before) (parents : KeepsParents before after)
    (endpoints : ∀ endpoint ∈ after.serviceEndpoints, endpoint.endpointDeletedAt = none ∧
      ((∃ older ∈ before.serviceEndpoints,
          older.endpointParentService = endpoint.endpointParentService ∧
            older.endpointParentWorkspace = endpoint.endpointParentWorkspace) ∨
        ∃ service ∈ after.services, service.serviceIndex = endpoint.endpointParentService ∧
          service.serviceParentWorkspace = endpoint.endpointParentWorkspace)) :
    EndpointsOwned after := by
  intro endpoint inside
  obtain ⟨standing, ⟨older, here, parent, workspace⟩ | belongs⟩ := endpoints endpoint inside
  · obtain ⟨-, service, there, index, same⟩ := owned older here
    obtain ⟨service', there', index', same'⟩ := parents service there
    exact ⟨standing, service', there', index'.trans (index.trans parent),
      same'.trans (same.trans workspace)⟩
  · exact ⟨standing, belongs⟩

theorem EndpointsOwned.unchanged (owned : EndpointsOwned before)
    (parents : KeepsParents before after)
    (endpoints : after.serviceEndpoints = before.serviceEndpoints) : EndpointsOwned after := by
  refine owned.kept parents fun endpoint inside => ?_
  rw [endpoints] at inside
  exact ⟨(owned endpoint inside).1, .inl ⟨endpoint, inside, rfl, rfl⟩⟩

theorem EndpointsOwned.publishes (owned : EndpointsOwned before)
    (parents : KeepsParents before after) {service : ServiceRow}
    {endpoints : List ServiceEndpoint} (there : service ∈ after.services)
    (publishes : Publishes service.serviceParentWorkspace service.serviceIndex endpoints before
      after) : EndpointsOwned after := by
  refine owned.kept parents fun endpoint inside => ?_
  rcases publishes.older endpoint inside with ⟨older, -⟩ | ⟨given, -, n, rfl⟩
  · exact ⟨(owned endpoint older).1, .inl ⟨endpoint, older, rfl, rfl⟩⟩
  · exact ⟨rfl, .inr ⟨service, there, rfl, rfl⟩⟩

/-- Every operation leaves the endpoints with their services. -/
theorem EndpointsOwned.operate {objectFilter : Members Value → Option (ℕ → Bool)}
    {state : RelayState} {operation : ServiceOperation}
    (owned : EndpointsOwned state.hub.database) :
    EndpointsOwned (operate objectFilter state operation).2.hub.database := by
  have effect := @effect_of_operation objectFilter state operation
  generalize (ServiceService.operate objectFilter state operation).2.hub.database = after at effect
  cases effect with
  | aside services endpoints =>
    rw [EndpointsOwned, services, endpoints]
    exact owned
  | created _ rows endpoints =>
    have parents : KeepsParents state.hub.database after :=
      fun service inside => ⟨service, (rows service).mpr (.inl inside), rfl, rfl⟩
    rcases endpoints with same | ⟨-, publishes⟩
    · exact owned.unchanged parents same
    · exact owned.publishes parents ((rows _).mpr (.inr rfl)) publishes
  | failed _ rewrites endpoints => exact owned.unchanged rewrites.keepsParents endpoints
  | redeployed _ written rewrites outcome =>
    subst written
    rcases outcome with ⟨-, endpoints⟩ | ⟨endpoints, -, publishes, -⟩
    · exact owned.unchanged rewrites.keepsParents endpoints
    · exact owned.publishes rewrites.keepsParents ((rewrites.rows _).mpr (.inl rfl)) publishes
  | removed _ rewrites endpoints => exact owned.unchanged rewrites.keepsParents endpoints
  | blocked _ rewrites endpoints => exact owned.unchanged rewrites.keepsParents endpoints
  | unblocked _ rewrites endpoints => exact owned.unchanged rewrites.keepsParents endpoints
  | @addressed _ _ given _ _ _ rewrites readdresses _ _ =>
    generalize normalizeServiceSubdomain given = subdomain at rewrites readdresses
    refine owned.kept rewrites.keepsParents fun endpoint inside => ?_
    cases readdresses with
    | changed primary subdomain found rows =>
      rcases (rows endpoint).mp inside with rfl | ⟨older, -⟩
      · have here := (Table.mem_of_findFirst found).1
        exact ⟨(owned primary here).1, .inl ⟨primary, here, rfl, rfl⟩⟩
      · exact ⟨(owned endpoint older).1, .inl ⟨endpoint, older, rfl, rfl⟩⟩
    | created subdomain absent rows =>
      rcases (rows endpoint).mp inside with older | rfl
      · exact ⟨(owned endpoint older).1, .inl ⟨endpoint, older, rfl, rfl⟩⟩
      · exact ⟨rfl, .inr ⟨_, (rewrites.rows _).mpr (.inl rfl), rfl, rfl⟩⟩
    | none absent same =>
      rw [same] at inside
      exact ⟨(owned endpoint inside).1, .inl ⟨endpoint, inside, rfl, rfl⟩⟩
  | published _ rewrites publishes _ =>
    exact owned.publishes rewrites.keepsParents ((rewrites.rows _).mpr (.inl rfl)) publishes
  | reported _ rewrites endpoints => exact owned.unchanged rewrites.keepsParents endpoints
  | lowered lowers =>
    obtain ⟨endpoints, change, rows, allowed⟩ := lowers
    refine owned.unchanged (fun service inside => ⟨change service, ?_, ?_⟩) endpoints
    · rw [Table.mem_def, rows]
      exact List.mem_map_of_mem inside
    · rcases allowed service with same | ⟨-, offline⟩
      · rw [same]
        exact ⟨rfl, rfl⟩
      · rw [offline]
        exact ⟨rfl, rfl⟩

end Owners

/-! ## When an operation is refused -/

section Refusals

variable {hub : Hub}

/-- An operation is not refused for an address in use. -/
abbrev Passes {α : Type} (program : HubProgram α) (hub : Hub) : Prop :=
  wp program (fun _ _ => True) (fun failure _ => NotInUse failure) hub

/-- No subdomain that an operation asks for is taken. -/
def AsksFree (operation : ServiceOperation) (hub : Hub) : Prop :=
  ∀ workspaceIndex serviceIndex subdomains,
    AsksFor hub operation workspaceIndex serviceIndex subdomains →
      takenEndpoint workspaceIndex serviceIndex subdomains hub.database = none

theorem isInUse_iff_wp {σ : Type} (program : Program σ Failure Unit) (state : σ) :
    isInUse (program.run state).1 ↔
      ¬ wp program (fun _ _ => True) (fun failure _ => NotInUse failure) state := by
  rw [wp_iff_run]
  cases program.run state with
  | mk result after => cases result <;> simp [isInUse]

/-- Only the address itself is such a reason. -/
theorem notInUse_iff : ¬ NotInUse endpointSubdomainInUse ∧ ¬ NotInUse subdomainInUse ∧
    NotInUse duplicateEndpointSubdomain ∧ NotInUse serviceNameExists ∧
    NotInUse agentIsNotConnected ∧ NotInUse .internal := by
  decide

theorem passes_failUnsent (serviceIndex workspaceIndex : ℕ) (hub : Hub)
    (post : Unit → Hub → Prop) :
    wp (failUnsent serviceIndex workspaceIndex) post (fun failure _ => NotInUse failure) hub := by
  rw [failUnsent, wp_bind, wp_rewrite]
  · exact fun _ _ _ => notInUse_iff.2.2.2.2.1
  · exact notInUse_iff.2.2.2.2.2

theorem passes_sendCommand (agentUuid : Text) (command : AgentCommand)
    (serviceIndex workspaceIndex : ℕ) (notify : Bool) :
    Passes (sendCommand agentUuid command serviceIndex workspaceIndex notify) hub := by
  rw [Passes, wp_sendCommand _ _ _ _ _ (passes_failUnsent _ _)]
  exact fun _ => trivial

/-- Replacing the endpoints of a service passes exactly if they are not taken. -/
theorem passes_replaceServiceEndpoints (serviceIndex workspaceIndex : ℕ)
    (endpoints : List ServiceEndpoint) {post : Unit → Hub → Prop} (later : ∀ after, post () after) :
    wp (replaceServiceEndpoints serviceIndex workspaceIndex endpoints) post
        (fun failure _ => NotInUse failure) hub ↔
      ((publicSubdomains endpoints).Nodup → takenEndpoint workspaceIndex serviceIndex
        (publicSubdomains endpoints) hub.database = none) := by
  simp only [wp_replaced, later, notInUse_iff, implies_true, true_and, imp_false, not_not]

theorem passes_create (owner : Int32) (body : CreateServiceBody) :
    Passes (handleCreateService owner body) hub ↔ AsksFree (.call (.create owner body)) hub := by
  have unknown : NotInUse workspaceNotFound := by decide
  have unlinked : NotInUse agentNotFound := by decide
  have unformed : ∀ failure, createDeployment body = .error failure → NotInUse failure :=
    fun failure failed => notInUse_of_noConflict (noConflict_createDeployment body failure failed)
  have deploys (agent : AgentRow) (deployment : Deployment) :
      Passes (deployNew body agent deployment) hub ↔
        ((publicSubdomains deployment.endpoints).Nodup →
          takenEndpoint body.workspaceIdx hub.database.services.next
            (publicSubdomains deployment.endpoints) hub.database = none) := by
    simp only [Passes, deployNew, createService, ensureDefaultComponent, wp_bind, wp_step]
    rw [passes_replaceServiceEndpoints]
    · exact Iff.rfl
    · intro after
      rw [wp_bind]
      exact passes_sendCommand _ _ _ _ _
  simp only [Passes, handleCreateService, prepareCreation, wp_bind, wp_look, wp_require,
    wp_orThrow, wp_fromExcept, wp_pure, unknown, unlinked, notInUse_iff, implies_true, and_true]
  constructor
  · rintro held _ _ _ (⟨accepted, distinct⟩ | _ | _ | _)
    obtain ⟨agent, found⟩ := Option.isSome_iff_exists.mp accepted.linked
    exact (deploys agent _).mp ((held accepted.owned agent found
      (Option.isNone_iff_eq_none.mpr accepted.unnamed)).1 _ accepted.normalized) distinct
  · intro free owned agent found unnamed
    refine ⟨fun deployment normalized => ?_, unformed⟩
    refine (deploys agent deployment).mpr fun distinct => free _ _ _ (.create ?_ distinct)
    exact ⟨owned, Option.isSome_iff_exists.mpr ⟨agent, found⟩, Option.isNone_iff_eq_none.mp unnamed,
      normalized⟩

/-- The write to the row of a service is no such reason. -/
theorem passes_updateService (serviceIndex : ℕ) (change : ℤ → ServiceRow → ServiceRow)
    (keyed : ∀ now row, (change now row).serviceIndex = row.serviceIndex)
    {post : ServiceRow → Hub → Prop} (later : ∀ row after, post row after) :
    wp (updateService serviceIndex change keyed) post (fun failure _ => NotInUse failure) hub := by
  rw [wp_rewrite]
  · exact fun _ _ _ => later _ _
  · exact notInUse_iff.2.2.2.2.2

theorem passes_updateEndpoints (owner : Int32) (serviceIdx : Text) (given : Value) :
    Passes (handleUpdateServiceEndpoints owner serviceIdx given) hub ↔
      AsksFree (.updateEndpoints owner serviceIdx given) hub := by
  have unformed (service : ServiceRow) : ∀ failure,
      requestedEndpoints service given = .error failure → NotInUse failure :=
    fun failure failed =>
      notInUse_of_noConflict (noConflict_requestedEndpoints service given failure failed)
  have replaces (service : ServiceRow) (endpoints : List ServiceEndpoint) :
      Passes (do
          replaceServiceEndpoints service.serviceIndex service.serviceParentWorkspace endpoints
          let updated ← updateService service.serviceIndex fun _ row =>
            { row with serviceSubdomain := primarySubdomain endpoints }
          step fun hub => ((updated, endpoints),
            hub.notifyWorkspaceUpdated (some service.serviceParentWorkspace))) hub ↔
        ((publicSubdomains endpoints).Nodup → takenEndpoint service.serviceParentWorkspace
          service.serviceIndex (publicSubdomains endpoints) hub.database = none) := by
    rw [Passes, wp_bind, passes_replaceServiceEndpoints]
    intro after
    rw [wp_bind]
    exact passes_updateService _ _ _ fun _ _ => trivial
  rw [Passes, handleUpdateServiceEndpoints, wp_bind,
    wp_findOwnedServiceAndAgent fun _ => notInUse_of_noConflict]
  constructor
  · rintro held _ _ _ (_ | _ | ⟨located, normalized, distinct⟩ | _)
    have asked := held _ located
    rw [wp_bind, wp_fromExcept] at asked
    exact (replaces _ _).mp (asked.1 _ normalized) distinct
  · intro free service located
    rw [wp_bind, wp_fromExcept]
    refine ⟨fun endpoints normalized => ?_, unformed service⟩
    exact (replaces service endpoints).mpr fun distinct =>
      free _ _ _ (.updateEndpoints located normalized distinct)

theorem passes_updateSubdomain (owner : Int32) (serviceIdx : Text) (given : Option Text) :
    Passes (handleUpdateServiceSubdomain owner serviceIdx given) hub ↔
      AsksFree (.updateSubdomain owner serviceIdx given) hub := by
  -- what follows the check
  have stores (service : ServiceRow) (after : Hub) :
      Passes (do
        storeSubdomain service (normalizeServiceSubdomain given)
        updateService service.serviceIndex fun _ row =>
          { row with serviceSubdomain := normalizeServiceSubdomain given }) after := by
    rw [Passes, wp_bind]
    apply wp_storeSubdomain
    intro endpoints _
    exact passes_updateService _ _ _ fun _ _ => trivial
  rw [Passes, handleUpdateServiceSubdomain, wp_bind,
    wp_findOwnedServiceAndAgent fun _ => notInUse_of_noConflict]
  constructor
  · rintro held _ _ _ (_ | _ | _ | ⟨located, normalized, formed⟩)
    have asked := held _ located
    rw [wp_bind, wp_fromExcept, normalized] at asked
    have checked := asked.1 () formed
    rw [wp_bind, checkSubdomainFree, wp_bind, wp_look, wp_require] at checked
    by_contra taken
    exact notInUse_iff.2.1 (checked.2 (by rwa [Option.isNone_iff_eq_none]))
  · intro free service located
    rw [wp_bind, wp_fromExcept]
    refine ⟨fun _ formed => ?_, fun failure failed => ?_⟩
    · cases normalized : normalizeServiceSubdomain given with
      | none =>
        have stored := stores service hub
        rw [normalized] at stored
        exact stored
      | some subdomain =>
        rw [normalized] at formed
        have stored := stores service hub
        rw [normalized] at stored
        rw [wp_bind, checkSubdomainFree, wp_bind, wp_look, wp_require]
        refine ⟨fun _ => stored, fun used => absurd ?_ used⟩
        rw [Option.isNone_iff_eq_none]
        exact free _ _ _ (.updateSubdomain located normalized formed)
    · exact notInUse_of_noConflict
        (noConflict_assertServiceSubdomainFormat _ failure failed)

/-- A redeployment from its first write on passes exactly if its endpoints are not taken. -/
theorem passes_deployAgain (body : RedeployService) {service : ServiceRow} (target : AgentRow)
    (repositories : List ServiceSourceRepository) (portMappings : List ServicePortMapping)
    (env : Members Text) {now : Hub} (same : now.database = hub.database)
    (inside : service ∈ hub.database.services) (alive : service.serviceDeletedAt = none) :
    Passes (deployAgain body service target repositories portMappings
        (existingPrimaryEndpoint service.serviceIndex hub.database) env) now ↔
      ∀ endpoints, redeployedEndpoints body service
          (redeployedRow body target.agentIndex repositories portMappings env service service)
          portMappings hub.database = .ok endpoints →
        (publicSubdomains endpoints).Nodup → takenEndpoint service.serviceParentWorkspace
          service.serviceIndex (publicSubdomains endpoints) hub.database = none := by
  have found : now.database.services.findFirst
      (fun row => row.serviceIndex == service.serviceIndex) = some service := by
    rw [same]
    exact Table.findFirst_of_key inside (beq_self_eq_true _) fun _ _ => beq_iff_eq.mp
  have clear : clashes now.database.services
      (redeployedRow body target.agentIndex repositories portMappings env service service) = false :=
    Bool.eq_false_iff.mpr (not_clashes alive)
  rw [Passes, deployAgain, wp_bind]
  refine (wp_rewrite _ _ _ notInUse_iff.2.2.2.2.2).trans ?_
  simp only [found, Option.some.injEq, forall_eq', clear, true_imp_iff]
  rw [wp_bind, wp_fromExcept]
  refine (and_iff_left fun failure failed => ?_).trans
    (forall_congr' fun endpoints => imp_congr_right fun _ => ?_)
  · exact notInUse_of_noConflict (noConflict_normalizeEndpoints _ _ _ _ _ failure failed)
  · rw [wp_bind, wp_ensureDefaultComponent, wp_bind, passes_replaceServiceEndpoints]
    · rw [← same]
      exact Iff.rfl
    · intro after
      rw [wp_bind]
      exact passes_sendCommand _ _ _ _ _

theorem passes_redeploy (owner : Int32) (serviceIdx : Text) (body : RedeployService) :
    Passes (handleRedeployService owner serviceIdx body) hub ↔
      AsksFree (.call (.redeploy owner serviceIdx body)) hub := by
  have untargeted : NotInUse targetAgentNotFound := by decide
  have deploys {service : ServiceRow} (target : AgentRow)
      (located : Located owner serviceIdx hub.database service) {now : Hub}
      (same : now.database = hub.database) :
      Passes (checkRedeployment body service >>= fun checked =>
          deployAgain body service target checked.1 checked.2.1 checked.2.2.1 checked.2.2.2) now ↔
        ∀ repositories portMappings env,
          Prepared body service hub.database repositories portMappings env →
          ∀ endpoints, redeployedEndpoints body service
              (redeployedRow body target.agentIndex repositories portMappings env service service)
              portMappings hub.database = .ok endpoints →
            (publicSubdomains endpoints).Nodup → takenEndpoint service.serviceParentWorkspace
              service.serviceIndex (publicSubdomains endpoints) hub.database = none := by
    obtain ⟨inside, alive⟩ := located.alive
    rw [Passes, wp_bind, wp_redeploymentChecked body service
      (fun _ => notInUse_of_noConflict) notInUse_iff.2.2.2.1, same]
    refine forall_congr' fun repositories => forall_congr' fun portMappings =>
      forall_congr' fun env => imp_congr_right fun _ => ?_
    exact passes_deployAgain body target repositories portMappings env same inside alive
  rw [Passes, handleRedeployService, wp_bind,
    wp_findOwnedServiceAndAgent fun _ => notInUse_of_noConflict]
  simp only [wp_bind, wp_look, wp_orThrow, untargeted, implies_true, and_true]
  have branches {service : ServiceRow} {target : AgentRow}
      (located : Located owner serviceIdx hub.database service) {claim : Prop}
      (same : ∀ now : Hub, now.database = hub.database →
        (Passes (checkRedeployment body service >>= fun checked =>
          deployAgain body service target checked.1 checked.2.1 checked.2.2.1 checked.2.2.2) now ↔
            claim)) :
      Passes (do
          if leavesAgent body service (agentOfService service hub.database) then do
            let _ ← handleStopService owner (decimalText service.serviceIndex)
          let checked ← checkRedeployment body service
          deployAgain body service target checked.1 checked.2.1 checked.2.2.1 checked.2.2.2) hub ↔
        ((leavesAgent body service (agentOfService service hub.database) = true →
          StopReaches hub service) → claim) := by
    cases leaves : leavesAgent body service (agentOfService service hub.database) with
    | false =>
      rw [if_neg Bool.false_ne_true, imp_iff_right fun leaving => absurd leaving Bool.false_ne_true]
      exact same hub rfl
    | true =>
      have reaches : (true = true → StopReaches hub service) ↔ StopReaches hub service :=
        imp_iff_right rfl
      rw [if_pos rfl, reaches, Passes, wp_bind]
      exact wp_handleStopService (fun _ allowed => allowed) located (passes_failUnsent _ _)
        fun after unchanged _ => same after unchanged
  constructor
  · rintro held _ _ _ (_ | ⟨redeploys, normalized, distinct⟩ | _ | _)
    have stopped := (branches redeploys.located fun now => deploys _ redeploys.located).mp
      (held _ redeploys.located _ redeploys.targeted) redeploys.stopped
    exact stopped _ _ _ redeploys.prepared _ normalized distinct
  · intro free service located target targeted
    refine (branches located fun now => deploys target located).mpr fun stopped => ?_
    intro repositories portMappings env prepared endpoints normalized distinct
    exact free _ _ _ (.redeploy ⟨located, targeted, stopped, prepared⟩ normalized distinct)

/-- The other operations are never refused for an address. -/
theorem throwsOnly_commandService (owner : Int32) (serviceIdx : Text) {removed : String}
    (command : ServiceRow → AgentCommand) (notify : Bool) (allowed : NotInUse (.conflict removed)) :
    ThrowsOnly NotInUse (commandService owner serviceIdx removed command notify) := by
  intro hub
  rw [commandService, wp_bind, wp_findOwnedServiceAndAgent fun _ => notInUse_of_noConflict]
  intro service _
  have unlinked : NotInUse .agentNotConnected := by decide
  simp only [wp_bind, wp_require, wp_orThrow, allowed, unlinked, implies_true, and_true]
  exact fun _ _ _ => passes_sendCommand _ _ _ _ _

theorem throwsOnly_handleDeleteService (owner : Int32) (serviceIdx : Text)
    (deleteScope : DeleteScope) :
    ThrowsOnly NotInUse (handleDeleteService owner serviceIdx deleteScope) := by
  intro hub
  rw [handleDeleteService, wp_bind, wp_findOwnedServiceAndAgent fun _ => notInUse_of_noConflict]
  intro service _
  have unlinked : NotInUse .agentNotConnected := by decide
  have sends (agent : AgentRow) : ThrowsOnly NotInUse
      (trySend agent.agentUuid (.delete service.serviceIndex service.serviceName
        service.serviceDeployPreset deleteScope) service.serviceParentWorkspace false) :=
    throwsOnly_step _
  rw [wp_bind, wp_orThrow]
  refine ⟨fun agent _ => ?_, fun _ => unlinked⟩
  refine (sends agent).bind (fun sent => ?_) hub
  refine (throwsOnly_require _ notInUse_iff.2.2.2.2.1).bind fun _ => ?_
  refine ThrowsOnly.bind (fun after => ?_) fun _ => throwsOnly_step _
  exact passes_updateService _ _ _ fun _ _ => trivial

theorem throwsOnly_handleBlockServiceTraffic (owner : Int32) (serviceIdx : Text)
    (options : BlockServiceTraffic) :
    ThrowsOnly NotInUse (handleBlockServiceTraffic owner serviceIdx options) := by
  intro hub
  rw [handleBlockServiceTraffic, wp_bind,
    wp_findOwnedServiceAndAgent fun _ => notInUse_of_noConflict]
  intro service _
  have removed : NotInUse (.conflict "Removed service has no traffic to block.") := by decide
  simp only [wp_bind, wp_require, removed, implies_true, and_true]
  exact fun _ => passes_updateService _ _ _ fun _ _ => trivial

theorem throwsOnly_handleUnblockServiceTraffic (owner : Int32) (serviceIdx : Text) :
    ThrowsOnly NotInUse (handleUnblockServiceTraffic owner serviceIdx) := by
  intro hub
  rw [handleUnblockServiceTraffic, wp_bind,
    wp_findOwnedServiceAndAgent fun _ => notInUse_of_noConflict]
  intro service _
  rw [wp_bind]
  exact passes_updateService _ _ _ fun _ _ => trivial

/-- A report fails at most before it is recorded, in no particular way. -/
theorem throwsOnly_relayForService {objectFilter : Members Value → Option (ℕ → Bool)}
    (event : Text) (client : ℕ) (payload : Value) {record : Members Value → HubProgram Unit}
    (records : ∀ members, ThrowsOnly NotInUse (record members)) :
    ThrowsOnly NotInUse (relayForService objectFilter event client payload record) := by
  have internal : NotInUse .internal := notInUse_iff.2.2.2.2.2
  refine (throwsOnly_step _).bind fun data => ?_
  split
  · refine (throwsOnly_orThrow _ internal).bind fun members => ?_
    refine ThrowsOnly.bind ?_ fun workspaceIndex => ?_
    · refine (throwsOnly_orThrow _ internal).bind fun indexText => ?_
      refine (throwsOnly_step _).bind fun cached => ?_
      split
      · exact throwsOnly_pure _
      · refine (throwsOnly_orThrow _ internal).bind fun selects => ?_
        refine (throwsOnly_step _).bind fun service => ?_
        split
        · exact throwsOnly_pure _
        · refine (throwsOnly_step _).bind fun agent => ?_
          split
          · exact throwsOnly_pure _
          · exact throwsOnly_step _
    · split
      · exact ((records members).zoom fun _ _ => rfl).bind fun _ => throwsOnly_step _
      · exact throwsOnly_pure _
  · exact throwsOnly_pure _

theorem throwsOnly_offlineTimer (agentUuid : Text) :
    ThrowsOnly NotInUse (AgentGateway.offlineTimer agentUuid) := by
  refine (throwsOnly_step _).bind fun gone => ?_
  split
  · refine (throwsOnly_step _).bind fun agent => (throwsOnly_step _).bind fun now => ?_
    refine (throwsOnly_step _).bind fun _ => (throwsOnly_step _).bind fun _ => ?_
    exact throwsOnly_step _
  · exact throwsOnly_pure _

theorem throwsOnly_onHubStart : ThrowsOnly NotInUse onHubStart := by
  refine ThrowsOnly.bind ?_ fun _ => throwsOnly_step _
  refine (throwsOnly_step _).bind fun now => ?_
  exact (throwsOnly_step _).bind fun _ => throwsOnly_step _

end Refusals

/-! ## The condition -/

section Exactness

variable {objectFilter : Members Value → Option (ℕ → Bool)} {state : RelayState}
  {operation : ServiceOperation}

/-- A request is about one service. -/
theorem Located.unique {owner : Int32} {serviceIdx : Text} {database : Database}
    {service other : ServiceRow} (located : Located owner serviceIdx database service)
    (located' : Located owner serviceIdx database other) : service = other := by
  obtain ⟨index, parsed, -, owned⟩ := located
  obtain ⟨index', parsed', -, owned'⟩ := located'
  obtain rfl := Except.ok.inj (parsed.symm.trans parsed')
  exact Option.some.inj (owned.symm.trans owned')

/-- An operation asks for subdomains in one way. -/
theorem AsksFor.unique {hub : Hub} {workspaceIndex serviceIndex workspaceIndex' serviceIndex' : ℕ}
    {subdomains subdomains' : List Text}
    (asks : AsksFor hub operation workspaceIndex serviceIndex subdomains)
    (asks' : AsksFor hub operation workspaceIndex' serviceIndex' subdomains') :
    workspaceIndex = workspaceIndex' ∧ serviceIndex = serviceIndex' ∧
      subdomains = subdomains' := by
  cases asks with
  | create accepted _ =>
    obtain ⟨accepted', -⟩ := asks'
    obtain rfl := Except.ok.inj (accepted.normalized.symm.trans accepted'.normalized)
    exact ⟨rfl, rfl, rfl⟩
  | redeploy redeploys normalized _ =>
    obtain - | ⟨redeploys', normalized', -⟩ := asks'
    obtain rfl := redeploys.located.unique redeploys'.located
    obtain rfl := Option.some.inj (redeploys.targeted.symm.trans redeploys'.targeted)
    obtain ⟨rfl, rfl⟩ := Prod.mk.inj (Except.ok.inj
      (redeploys.prepared.source.symm.trans redeploys'.prepared.source))
    obtain rfl := Except.ok.inj
      (redeploys.prepared.environment.symm.trans redeploys'.prepared.environment)
    obtain rfl := Except.ok.inj (normalized.symm.trans normalized')
    exact ⟨rfl, rfl, rfl⟩
  | updateEndpoints located normalized _ =>
    obtain - | - | ⟨located', normalized', -⟩ := asks'
    obtain rfl := located.unique located'
    obtain rfl := Except.ok.inj (normalized.symm.trans normalized')
    exact ⟨rfl, rfl, rfl⟩
  | updateSubdomain located normalized _ =>
    obtain - | - | - | ⟨located', normalized', -⟩ := asks'
    obtain rfl := located.unique located'
    obtain rfl := Option.some.inj (normalized.symm.trans normalized')
    exact ⟨rfl, rfl, rfl⟩

/-- An operation is refused for an address in use exactly if it asks for one that is taken. -/
theorem isInUse_operate_iff (objectFilter : Members Value → Option (ℕ → Bool))
    (state : RelayState) (operation : ServiceOperation) :
    isInUse (operate objectFilter state operation).1 ↔ ¬ AsksFree operation state.hub := by
  have onHub {α : Type} {program : HubProgram α}
      (passes : Passes program state.hub ↔ AsksFree operation state.hub) :
      isInUse ((onHub (do let _ ← program : HubProgram Unit)).run state).1 ↔
        ¬ AsksFree operation state.hub := by
    rw [run_onHub, isInUse_iff_wp, wp_bind]
    exact not_congr passes
  have free (none : ∀ {workspaceIndex serviceIndex subdomains},
      ¬ AsksFor state.hub operation workspaceIndex serviceIndex subdomains) :
      AsksFree operation state.hub := fun _ _ _ asks => absurd asks none
  have never {program : RelayProgram Unit} (throws : ThrowsOnly NotInUse program)
      (none : ∀ {workspaceIndex serviceIndex subdomains},
        ¬ AsksFor state.hub operation workspaceIndex serviceIndex subdomains) :
      isInUse (program.run state).1 ↔ ¬ AsksFree operation state.hub := by
    rw [isInUse_iff_wp]
    exact iff_of_false (fun refused => refused (throws state)) (not_not.mpr (free none))
  have neverOnHub {α : Type} {program : HubProgram α} (throws : ThrowsOnly NotInUse program)
      (none : ∀ {workspaceIndex serviceIndex subdomains},
        ¬ AsksFor state.hub operation workspaceIndex serviceIndex subdomains) :
      isInUse ((AgentGateway.onHub (do let _ ← program : HubProgram Unit)).run state).1 ↔
        ¬ AsksFree operation state.hub :=
    never ((throws.bind fun _ => throwsOnly_pure _).zoom fun _ _ => rfl) none
  cases operation with
  | call call =>
    cases call with
    | create owner body => exact onHub (passes_create owner body)
    | redeploy owner serviceIdx body => exact onHub (passes_redeploy owner serviceIdx body)
    | delete owner serviceIdx deleteScope =>
      exact neverOnHub (throwsOnly_handleDeleteService _ _ _) (by rintro _ _ _ ⟨⟩)
    | _ =>
      exact neverOnHub (throwsOnly_commandService _ _ _ _ (by decide)) (by rintro _ _ _ ⟨⟩)
  | blockTraffic owner serviceIdx options =>
    exact neverOnHub (throwsOnly_handleBlockServiceTraffic _ _ _) (by rintro _ _ _ ⟨⟩)
  | unblockTraffic owner serviceIdx =>
    exact neverOnHub (throwsOnly_handleUnblockServiceTraffic _ _) (by rintro _ _ _ ⟨⟩)
  | updateSubdomain owner serviceIdx subdomain =>
    exact onHub (passes_updateSubdomain owner serviceIdx subdomain)
  | updateEndpoints owner serviceIdx given =>
    exact onHub (passes_updateEndpoints owner serviceIdx given)
  | serviceStatus client payload =>
    refine never (throwsOnly_relayForService _ _ _ fun members => ?_) (by rintro _ _ _ ⟨⟩)
    split
    · exact throwsOnly_tryCatch _ fun _ => throwsOnly_pure _
    · exact throwsOnly_pure _
  | containerStatus client payload =>
    refine never (throwsOnly_relayForService _ _ _ fun members => ?_) (by rintro _ _ _ ⟨⟩)
    exact throwsOnly_tryCatch _ fun _ => throwsOnly_pure _
  | offlineTimer agentUuid =>
    exact never ((throwsOnly_offlineTimer agentUuid).zoom fun _ _ => rfl) (by rintro _ _ _ ⟨⟩)
  | hubStart =>
    refine never ((throwsOnly_step _).bind fun _ => ?_) (by rintro _ _ _ ⟨⟩)
    exact throwsOnly_onHubStart.zoom fun _ _ => rfl
  | elsewhere change => exact never (throwsOnly_step _) (by rintro _ _ _ ⟨⟩)

/-- In a state in which the endpoints are owned, the answer is exact if the operation asks for
nothing that only deleted services have. -/
theorem conflictExact_iff (owned : EndpointsOwned state.hub.database) :
    ConflictExact objectFilter state operation ↔ DeletedAsideFree state operation := by
  rw [ConflictExact, isInUse_operate_iff]
  constructor
  · intro exact workspaceIndex serviceIndex subdomains asks deleted
    have taken := (taken_iff_heldBy owned).mpr (.inr deleted)
    obtain ⟨_, _, _, asks', alive⟩ := exact.mp fun free => taken (free _ _ _ asks)
    obtain ⟨rfl, rfl, rfl⟩ := asks.unique asks'
    exact alive
  · intro aside
    constructor
    · intro refused
      simp only [AsksFree, not_forall] at refused
      obtain ⟨workspaceIndex, serviceIndex, subdomains, asks, taken⟩ := refused
      refine ⟨workspaceIndex, serviceIndex, subdomains, asks, ?_⟩
      rcases (taken_iff_heldBy owned).mp taken with alive | deleted
      · exact alive
      · exact aside _ _ _ asks deleted
    · rintro ⟨workspaceIndex, serviceIndex, subdomains, asks, alive⟩ free
      exact (taken_iff_heldBy owned).mpr (.inl alive) (free _ _ _ asks)

end Exactness

/-- In a run from a state in which every endpoint belongs to a service of its workspace, the
answer that an address is in use is exact in every state, exactly if no operation asks for an
address that only deleted services have. An address that a service has while it is not deleted
is one that requests are routed to. -/
theorem conflicts_exact_iff (objectFilter : Members Value → Option (ℕ → Bool))
    (start : RelayState) (operations : List ServiceOperation)
    (owned : EndpointsOwned start.hub.database) :
    (Each (operate objectFilter) (ConflictExact objectFilter) start operations ↔
      Each (operate objectFilter) DeletedAsideFree start operations) ∧
    Each (operate objectFilter) (fun state _ => ∀ workspaceIndex serviceIndex subdomains,
      HeldBy isAlive workspaceIndex serviceIndex subdomains state.hub.database ↔
        Routable workspaceIndex serviceIndex subdomains state.hub.database) start operations := by
  constructor
  · refine along_congr (fun _ state => EndpointsOwned state.hub.database) ?_ ?_ owned
    · exact fun _ state operation owned => owned.operate
    · exact fun _ state operation owned => conflictExact_iff owned
  · refine Along.safe (fun _ state => EndpointsOwned state.hub.database) ?_ ?_
      (along_trivial _ _ _) owned
    · exact fun _ state operation owned _ => owned.operate
    · exact fun _ state operation owned _ _ _ _ => heldBy_alive_iff_routable owned

/-- The owner of the first workspace creates a service under a subdomain. -/
def createsUnder (serviceName subdomain : Text) : ServiceOperation :=
  .call (.create 1 {
    workspaceIdx := 1
    serviceName := serviceName
    servicePort := some 80
    serviceEndpoints := .array [.object
      [("hostPort", .number (.finite (Decimal.ofInt 80))),
        ("containerPort", .number (.finite (Decimal.ofInt 80))), ("subdomain", .string subdomain)]]
    serviceSourceUrl := .string "https://example.org/api.git"
    serviceVersion := "1"
    serviceDeployPreset := .dockerfile
    agentIndex := 1 })

/-- A service gets a subdomain and is deleted. -/
def deletesPublished : List ServiceOperation :=
  [createsUnder "api" "a", .call (.delete 1 "1" .service)]

/-- The subdomain is asked for while the service is there, and another one after that. -/
theorem conflicts_exact_iff_published :
    (Each (operate fun _ => none) (ConflictExact fun _ => none) { hub := linkedAgentHub }
        (createsUnder "web" "a" :: deletesPublished ++ [createsUnder "api" "b"]) ↔
      Each (operate fun _ => none) DeletedAsideFree { hub := linkedAgentHub }
        (createsUnder "web" "a" :: deletesPublished ++ [createsUnder "api" "b"])) ∧
    Each (operate fun _ => none) (fun state _ => ∀ workspaceIndex serviceIndex subdomains,
      HeldBy isAlive workspaceIndex serviceIndex subdomains state.hub.database ↔
        Routable workspaceIndex serviceIndex subdomains state.hub.database)
      { hub := linkedAgentHub }
      (createsUnder "web" "a" :: deletesPublished ++ [createsUnder "api" "b"]) :=
  conflicts_exact_iff _ _ _ (by decide +kernel)

/-- Afterwards the subdomain is refused, and no service is left that could have it. -/
theorem not_conflicts_exact_deleted :
    ¬ Each (operate fun _ => none) (ConflictExact fun _ => none) { hub := linkedAgentHub }
      (deletesPublished ++ [createsUnder "web" "a"]) := by
  rintro ⟨-, -, exact, -⟩
  obtain ⟨_, _, _, -, service, there, alive, -⟩ := exact.mp (by decide +kernel)
  revert alive
  revert service
  decide +kernel

end ServiceService

end OpticsHub
