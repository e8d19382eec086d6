import OpticsHub.Services.Conflicts

/-!
# The addresses of services

The gateway takes the first endpoint that answers to a subdomain of a workspace, so there
should be no second one. Where a list of endpoints is stored, a subdomain may not stand in it
twice, and no endpoint of another service may have it. Where the subdomain of a service is
changed, only the endpoints of other services are looked at. The subdomain goes into the first
endpoint of the service, and another endpoint of the service may have it already.
-/
namespace OpticsHub

open Script Async Program Machine

namespace ServiceService

open AgentGateway TunnelService

/-- At most one endpoint answers to a subdomain of a workspace. -/
def AddressesUnique (database : Database) : Prop :=
  ∀ workspaceIndex subdomain, ∀ row ∈ database.serviceEndpoints,
    ∀ other ∈ database.serviceEndpoints, routes database workspaceIndex subdomain row = true →
      routes database workspaceIndex subdomain other = true → row = other

/-- No two endpoints of a workspace have the same subdomain, even if a service is deleted. -/
def EndpointsApart (database : Database) : Prop :=
  ∀ row ∈ database.serviceEndpoints, ∀ other ∈ database.serviceEndpoints,
    row.endpointParentWorkspace = other.endpointParentWorkspace →
      row.endpointSubdomain ≠ none → row.endpointSubdomain = other.endpointSubdomain →
        row = other

/-- A service is not given a subdomain that is free elsewhere and that one of its endpoints
other than the first has. -/
def SparesOwn (state : RelayState) : ServiceOperation → Prop
  | .updateSubdomain owner serviceIdx given =>
    ∀ service primary subdomain, Located owner serviceIdx state.hub.database service →
      primaryEndpoint service.serviceIndex state.hub.database = some primary →
      normalizeServiceSubdomain given = some subdomain →
      assertServiceSubdomainFormat (some subdomain) = .ok () →
      takenEndpoint service.serviceParentWorkspace service.serviceIndex [subdomain]
        state.hub.database = none →
      ∀ endpoint ∈ state.hub.database.serviceEndpoints,
        endpoint.endpointParentService = service.serviceIndex →
        endpoint.endpointSubdomain = some subdomain →
          endpoint.endpointIndex = primary.endpointIndex
  | _ => True

section Steps

variable {before after : Database}

/-- Endpoints that are apart are not ambiguous. -/
theorem EndpointsApart.unique (apart : EndpointsApart before) : AddressesUnique before := by
  intro workspaceIndex subdomain row inside other inside' routed routed'
  simp only [routes, Bool.and_eq_true, beq_iff_eq] at routed routed'
  obtain ⟨⟨⟨workspace, given⟩, -⟩, -⟩ := routed
  obtain ⟨⟨⟨workspace', given'⟩, -⟩, -⟩ := routed'
  refine apart row inside other inside' (workspace.trans workspace'.symm) ?_ ?_
  · rw [given]
    exact Option.some_ne_none subdomain
  · exact given.trans given'.symm

/-- An endpoint with a subdomain that is free for a service is one of the service. -/
theorem parent_of_free (owned : EndpointsOwned before) {workspaceIndex serviceIndex : ℕ}
    {subdomains : List Text}
    (free : takenEndpoint workspaceIndex serviceIndex subdomains before = none)
    {endpoint : EndpointRow} (inside : endpoint ∈ before.serviceEndpoints)
    (workspace : endpoint.endpointParentWorkspace = workspaceIndex) {subdomain : Text}
    (given : endpoint.endpointSubdomain = some subdomain) (named : subdomain ∈ subdomains) :
    endpoint.endpointParentService = serviceIndex := by
  by_contra other
  have refused := Table.findFirst_eq_none.mp free endpoint inside
  obtain ⟨standing, -⟩ := owned endpoint inside
  simp [workspace, other, given, named, standing] at refused

/-- The endpoints of a service may be replaced by ones that are free and distinct. -/
theorem EndpointsApart.publishes (apart : EndpointsApart before) (owned : EndpointsOwned before)
    {workspaceIndex serviceIndex : ℕ} {endpoints : List ServiceEndpoint}
    (publishes : Publishes workspaceIndex serviceIndex endpoints before after)
    (free : EndpointsFree workspaceIndex serviceIndex endpoints before) :
    EndpointsApart after := by
  -- an older endpoint of another service against a new one
  have differs {row : EndpointRow} (older : row ∈ before.serviceEndpoints)
      (other : row.endpointParentService ≠ serviceIndex) {endpoint : ServiceEndpoint}
      (listed : endpoint ∈ endpoints) (workspace : row.endpointParentWorkspace = workspaceIndex)
      (given : row.endpointSubdomain ≠ none) : row.endpointSubdomain ≠ endpoint.subdomain := by
    intro same
    obtain ⟨subdomain, some⟩ := Option.ne_none_iff_exists'.mp given
    refine other (parent_of_free owned free.2 older workspace some ?_)
    exact List.mem_filterMap.mpr ⟨endpoint, listed, same.symm.trans some⟩
  intro row inside other inside' workspace given same
  rcases publishes.older row inside with ⟨older, elsewhere⟩ | ⟨endpoint, listed, n, new⟩
  · rcases publishes.older other inside' with ⟨older', -⟩ | ⟨endpoint', listed', n', new'⟩
    · exact apart row older other older' workspace given same
    · subst new'
      exact absurd same (differs older elsewhere listed' workspace given)
  · rcases publishes.older other inside' with ⟨older', elsewhere'⟩ | ⟨endpoint', -, n', new'⟩
    · subst new
      exact absurd same.symm (differs older' elsewhere' listed workspace.symm (same ▸ given))
    · refine publishes.apart free.1 row inside other inside' ?_ ?_ given same
      · rw [new]
        rfl
      · rw [new']
        rfl

/-- A service may get a subdomain that is free elsewhere and that none of its endpoints other
than the first has. -/
theorem EndpointsApart.readdresses (apart : EndpointsApart before) (owned : EndpointsOwned before)
    {service : ServiceRow} (there : service ∈ before.services) {subdomain : Option Text}
    (readdresses : Readdresses service before after subdomain)
    (free : ∀ given, subdomain = some given →
      takenEndpoint service.serviceParentWorkspace service.serviceIndex [given] before = none)
    (spares : ∀ primary given, primaryEndpoint service.serviceIndex before = some primary →
      subdomain = some given → ∀ endpoint ∈ before.serviceEndpoints,
        endpoint.endpointParentService = service.serviceIndex →
        endpoint.endpointSubdomain = some given →
          endpoint.endpointIndex = primary.endpointIndex) :
    EndpointsApart after := by
  have own {endpoint : EndpointRow} (inside : endpoint ∈ before.serviceEndpoints) {given : Text}
      (workspace : endpoint.endpointParentWorkspace = service.serviceParentWorkspace)
      (asked : subdomain = some given) (same : endpoint.endpointSubdomain = some given) :
      endpoint.endpointParentService = service.serviceIndex :=
    parent_of_free owned (free given asked) inside workspace same List.mem_cons_self
  cases readdresses with
  | changed primary subdomain found rows =>
    obtain ⟨here, parent⟩ := Table.mem_of_findFirst found
    rw [beq_iff_eq] at parent
    obtain ⟨-, service', there', index, placed⟩ := owned primary here
    obtain rfl := Table.eq_of_key there' there (index.trans parent)
    -- the first endpoint against another one
    have differs {other : EndpointRow} (older : other ∈ before.serviceEndpoints)
        (another : other.endpointIndex ≠ primary.endpointIndex)
        (workspace : other.endpointParentWorkspace = primary.endpointParentWorkspace)
        (given : other.endpointSubdomain ≠ none) : other.endpointSubdomain ≠ subdomain := by
      intro same
      obtain ⟨text, some⟩ := Option.ne_none_iff_exists'.mp given
      have asked := same.symm.trans some
      exact another (spares primary text found asked other older
        (own older (workspace.trans placed.symm) asked some) some)
    intro row inside other inside' workspace given same
    rcases (rows row).mp inside with rfl | ⟨older, another⟩
    · rcases (rows other).mp inside' with rfl | ⟨older', another'⟩
      · rfl
      · exact absurd same.symm (differs older' another' workspace.symm (same ▸ given))
    · rcases (rows other).mp inside' with rfl | ⟨older', -⟩
      · exact absurd same (differs older another workspace given)
      · exact apart row older other older' workspace given same
  | created given absent rows =>
    have differs {other : EndpointRow} (older : other ∈ before.serviceEndpoints)
        (workspace : other.endpointParentWorkspace = service.serviceParentWorkspace) :
        other.endpointSubdomain ≠ some given := by
      intro same
      have refused := Table.findFirst_eq_none.mp absent other older
      simp [own older workspace rfl same] at refused
    intro row inside other inside' workspace some same
    rcases (rows row).mp inside with older | rfl
    · rcases (rows other).mp inside' with older' | rfl
      · exact apart row older other older' workspace some same
      · exact absurd same (differs older workspace)
    · rcases (rows other).mp inside' with older' | rfl
      · exact absurd same.symm (differs older' workspace.symm)
      · rfl
  | none absent same =>
    rw [EndpointsApart, same]
    exact apart

/-- A subdomain that another endpoint of the service has becomes ambiguous. -/
theorem not_addressesUnique_readdressed {service : ServiceRow}
    (owned : EndpointsOwned before) (alive : service.serviceDeletedAt = none)
    {subdomain : Text} (rewrites : Rewrites service
      { service with serviceSubdomain := some subdomain } before after)
    (readdresses : Readdresses service before after (some subdomain)) {primary : EndpointRow}
    (found : primaryEndpoint service.serviceIndex before = some primary)
    {endpoint : EndpointRow} (inside : endpoint ∈ before.serviceEndpoints)
    (parent : endpoint.endpointParentService = service.serviceIndex)
    (given : endpoint.endpointSubdomain = some subdomain)
    (another : endpoint.endpointIndex ≠ primary.endpointIndex) : ¬ AddressesUnique after := by
  intro unique
  have standing : (after.services.findFirst fun row =>
      row.serviceIndex == service.serviceIndex && row.serviceDeletedAt.isNone).isSome = true := by
    rw [Table.findFirst, List.find?_isSome]
    refine ⟨_, (rewrites.rows _).mpr (.inl rfl), ?_⟩
    simp [alive]
  -- an endpoint of the service with the subdomain answers
  have routed {row : EndpointRow} (older : row ∈ before.serviceEndpoints)
      (parent : row.endpointParentService = service.serviceIndex) :
      routes after service.serviceParentWorkspace subdomain
        { row with endpointSubdomain := some subdomain } = true := by
    obtain ⟨undeleted, service', there, index, placed⟩ := owned row older
    obtain rfl := Table.eq_of_key there rewrites.inside (index.trans parent)
    simp [routes, ← placed, undeleted, parent, standing]
  cases readdresses with
  | changed first _ found' rows =>
    obtain rfl := Option.some.inj (found'.symm.trans found)
    obtain ⟨here, parent'⟩ := Table.mem_of_findFirst found
    have same := unique service.serviceParentWorkspace subdomain _
      ((rows endpoint).mpr (.inr ⟨inside, another⟩)) _ ((rows _).mpr (.inl rfl)) ?_
      (routed here (beq_iff_eq.mp parent'))
    · exact another (by rw [same])
    · have here := routed inside parent
      rwa [← given] at here
  | created _ absent _ =>
    rw [found] at absent
    cases absent

end Steps

section Runs

variable {objectFilter : Members Value → Option (ℕ → Bool)} {state : RelayState}
  {operation : ServiceOperation}

/-- The endpoints stay apart with an operation that spares the own ones. -/
theorem EndpointsApart.operate (apart : EndpointsApart state.hub.database)
    (owned : EndpointsOwned state.hub.database) (spares : SparesOwn state operation) :
    EndpointsApart (operate objectFilter state operation).2.hub.database := by
  have effect := @effect_of_operation objectFilter state operation
  generalize (ServiceService.operate objectFilter state operation).2.hub.database = after at effect
  have unchanged (same : after.serviceEndpoints = state.hub.database.serviceEndpoints) :
      EndpointsApart after := by
    rw [EndpointsApart, same]
    exact apart
  cases effect with
  | aside _ endpoints => exact unchanged endpoints
  | created _ _ endpoints =>
    rcases endpoints with same | ⟨free, publishes⟩
    · exact unchanged same
    · exact apart.publishes owned publishes free
  | failed _ _ endpoints => exact unchanged endpoints
  | redeployed _ _ _ outcome =>
    rcases outcome with ⟨-, endpoints⟩ | ⟨endpoints, republishes, publishes, -⟩
    · exact unchanged endpoints
    · exact apart.publishes owned publishes republishes.free
  | removed _ _ endpoints => exact unchanged endpoints
  | blocked _ _ endpoints => exact unchanged endpoints
  | unblocked _ _ endpoints => exact unchanged endpoints
  | addressed located _ readdresses formed free =>
    refine apart.readdresses owned located.alive.1 readdresses free ?_
    intro primary subdomain found given
    rw [given] at formed
    exact spares _ _ _ located found given formed (free subdomain given)
  | published _ _ publishes free => exact apart.publishes owned publishes free
  | reported _ _ endpoints => exact unchanged endpoints
  | lowered lowers => exact unchanged lowers.1

/-- While the endpoints are apart, an operation leaves the addresses unique exactly if it spares
the own ones. -/
theorem addressesUnique_operate_iff (apart : EndpointsApart state.hub.database)
    (owned : EndpointsOwned state.hub.database) :
    AddressesUnique (operate objectFilter state operation).2.hub.database ↔
      SparesOwn state operation := by
  constructor
  · intro unique
    cases operation with
    | updateSubdomain owner serviceIdx given =>
      intro service primary subdomain located found normalized formed free endpoint inside parent
        taken
      by_contra another
      obtain ⟨there, alive⟩ := located.alive
      rw [operate, operationProgram, run_onHub] at unique
      have whole := (@wp_state Hub Failure _ state.hub (fun hub => AddressesUnique hub.database)
        _).mpr unique
      rw [wp_bind, handleUpdateServiceSubdomain, wp_bind,
        wp_findOwnedServiceAndAgent fun _ _ => apart.unique] at whole
      have held := whole service located
      dsimp only at held
      rw [normalized, wp_bind, wp_fromExcept] at held
      have stores := held.1 () formed
      rw [wp_bind, checkSubdomainFree, wp_bind, wp_look, wp_require, free] at stores
      -- after the two writes the addresses are not unique
      have broken := @wp_readdressed (fun _ _ => False) state.hub service there alive
        (some subdomain) (fun _ after => ¬ AddressesUnique after.database)
        fun _ after readdresses rewrites => not_addressesUnique_readdressed owned alive rewrites
          readdresses found inside parent taken another
      have kept := stores.1 rfl
      rw [wp_iff_run] at broken kept
      split at broken
      · rename_i ended
        rw [ended] at kept
        exact broken kept
      · exact broken
    | _ => exact trivial
  · exact fun spares => (apart.operate owned spares).unique

end Runs

/-- In a run from a state in which endpoints belong to services and are apart, the addresses are
unique in every state, exactly if no service is given a subdomain that another of its own
endpoints has. -/
theorem addresses_unique_iff (objectFilter : Members Value → Option (ℕ → Bool))
    (start : RelayState) (operations : List ServiceOperation)
    (owned : EndpointsOwned start.hub.database) (apart : EndpointsApart start.hub.database) :
    Each (operate objectFilter)
        (fun state operation => AddressesUnique (operate objectFilter state operation).2.hub.database)
        start operations ↔
      Each (operate objectFilter) SparesOwn start operations := by
  refine (along_agree (fun _ state =>
    EndpointsOwned state.hub.database ∧ EndpointsApart state.hub.database) ?_ ?_ ⟨owned, apart⟩).symm
  · exact fun _ state operation held spares => ⟨held.1.operate, held.2.operate held.1 spares⟩
  · exact fun _ state operation held => (addressesUnique_operate_iff held.2 held.1).symm

/-- An endpoint of a request, on a port under a subdomain. -/
def endpointOn (port : ℕ) (subdomain : Text) : Value :=
  .object [("hostPort", .number (.finite (Decimal.ofInt port))),
    ("containerPort", .number (.finite (Decimal.ofInt port))), ("subdomain", .string subdomain)]

/-- A service is created with two endpoints, and is given a subdomain. -/
def givenOne (subdomain : Text) : List ServiceOperation :=
  [.call (.create 1 {
      workspaceIdx := 1
      serviceName := "api"
      servicePort := some 80
      serviceEndpoints := .array [endpointOn 80 "a", endpointOn 81 "b"]
      serviceSourceUrl := .string "https://example.org/api.git"
      serviceVersion := "1"
      serviceDeployPreset := .dockerfile
      agentIndex := 1 }),
    .updateSubdomain 1 "1" (some subdomain)]

/-- No endpoint has the subdomain that is given. -/
theorem addresses_unique_iff_other :
    Each (operate fun _ => none)
      (fun state operation =>
        AddressesUnique (operate (fun _ => none) state operation).2.hub.database)
      { hub := linkedAgentHub } (givenOne "c") := by
  have owned : EndpointsOwned linkedAgentHub.database := by decide
  have apart : EndpointsApart linkedAgentHub.database :=
    fun _ inside => absurd inside List.not_mem_nil
  refine (addresses_unique_iff (fun _ => none) { hub := linkedAgentHub } (givenOne "c") owned
    apart).mpr ⟨trivial, ?_, trivial⟩
  intro service primary subdomain located found normalized formed free endpoint inside parent given
  have others : ∀ endpoint ∈ (operate (fun _ => none) { hub := linkedAgentHub }
      ((givenOne "c").head (by decide))).2.hub.database.serviceEndpoints,
      endpoint.endpointSubdomain ≠ normalizeServiceSubdomain (some "c") := by
    decide +kernel
  exact absurd (given.trans normalized.symm) (others endpoint inside)

/-- The second endpoint has the subdomain that is given, and then the first has it too. -/
theorem not_addresses_unique_own :
    ¬ Each (operate fun _ => none)
      (fun state operation =>
        AddressesUnique (operate (fun _ => none) state operation).2.hub.database)
      { hub := linkedAgentHub } (givenOne "b") := by
  rintro ⟨-, unique, -⟩
  let database := (final (operate fun _ => none) { hub := linkedAgentHub }
    (givenOne "b")).hub.database
  have twice : ∃ row ∈ database.serviceEndpoints.rows, ∃ other ∈ database.serviceEndpoints.rows,
      routes database 1 "b" row = true ∧ routes database 1 "b" other = true ∧
        row.endpointIndex ≠ other.endpointIndex := by
    decide +kernel
  obtain ⟨row, inside, other, inside', routed, routed', differs⟩ := twice
  have same : row = other := unique 1 "b" row inside other inside' routed routed'
  exact differs (congrArg EndpointRow.endpointIndex same)

end ServiceService

end OpticsHub
