import OpticsHub.Services.Operations

/-!
# Traffic that stays blocked

Blocking the traffic of a service writes the time into its row, and blocking it again keeps
the time that is there. No other operation but the end of the block writes the column, and
the decision where to send a request looks at it before the agent. So a block holds until
it is ended, and nothing that is looked up meanwhile is routed to the service.
-/
namespace OpticsHub

open Script Async Program Machine

namespace ServiceService

open AgentGateway TunnelService

/-- The traffic of a service has been blocked since a time. -/
def BlockedSince (serviceIndex : ℕ) (since : ℤ) (database : Database) : Prop :=
  ∃ service ∈ database.services, service.serviceIndex = serviceIndex ∧
    service.serviceTrafficBlockedAt = some since

instance (serviceIndex : ℕ) (since : ℤ) (database : Database) :
    Decidable (BlockedSince serviceIndex since database) :=
  inferInstanceAs (Decidable (∃ service ∈ database.services, _))

/-- Whether an operation ends the block of a service. -/
def unblocks (serviceIndex : ℕ) : ServiceOperation → Bool
  | .unblockTraffic _ serviceIdx =>
    (parseServiceIndex serviceIdx).toOption == some serviceIndex
  | _ => false

/-- No lookup that is not answered from the cache routes a request to a service. -/
def NotRouted (serviceIndex : ℕ) (hub : Hub) : Prop :=
  ∀ (serviceSubdomain workspaceSubdomain token : Text) (preferPooled : Bool)
    (workspace : WorkspaceRow) (routed : RoutedEndpoint),
    cachedRoute (routeKey workspaceSubdomain serviceSubdomain) hub = none →
    activeWorkspace workspaceSubdomain hub.database = some workspace →
    findEndpoint workspace.workspaceIndex (normalizeSubdomain serviceSubdomain) hub.database =
      some routed →
    routed.endpoint.endpointParentService = serviceIndex →
    ∃ failure, ((sendProxyInfo serviceSubdomain workspaceSubdomain token preferPooled).run hub).1 =
      .error failure

section Blocks

variable {serviceIndex : ℕ} {since : ℤ} {before after : Database}

/-- Writing a row keeps a block, if it keeps that of this row. -/
theorem BlockedSince.rewrites (blocked : BlockedSince serviceIndex since before)
    {service changed : ServiceRow} (rewrites : Rewrites service changed before after)
    (kept : service.serviceIndex = serviceIndex → service.serviceTrafficBlockedAt = some since →
      changed.serviceTrafficBlockedAt = some since) :
    BlockedSince serviceIndex since after := by
  obtain ⟨row, inside, named, time⟩ := blocked
  by_cases same : row.serviceIndex = service.serviceIndex
  · obtain rfl := Table.eq_of_key inside rewrites.inside same
    exact ⟨changed, (rewrites.rows changed).mpr (.inl rfl), rewrites.index.trans named,
      kept named time⟩
  · exact ⟨row, (rewrites.rows row).mpr (.inr ⟨inside, same⟩), named, time⟩

/-- A service is found by the index that the request has. -/
theorem Located.parsed {owner : Int32} {serviceIdx : Text} {service : ServiceRow}
    (located : Located owner serviceIdx before service) :
    parseServiceIndex serviceIdx = .ok service.serviceIndex := by
  obtain ⟨index, parsed, -, owned⟩ := located
  obtain ⟨-, selected⟩ := Table.mem_of_findFirst owned
  simp only [Bool.and_eq_true, beq_iff_eq] at selected
  rw [parsed, selected.1.1]

/-- Every operation but the end of the block keeps it. -/
theorem BlockedSince.operate {objectFilter : Members Value → Option (ℕ → Bool)}
    {state : RelayState} {operation : ServiceOperation}
    (blocked : BlockedSince serviceIndex since state.hub.database)
    (other : unblocks serviceIndex operation = false) :
    BlockedSince serviceIndex since (operate objectFilter state operation).2.hub.database := by
  obtain effect := @effect_of_operation objectFilter state operation
  generalize (ServiceService.operate objectFilter state operation).2.hub.database = after at effect
  cases effect with
  | aside services _ =>
    rw [BlockedSince, services]
    exact blocked
  | created _ rows _ =>
    obtain ⟨row, inside, named, time⟩ := blocked
    exact ⟨row, (rows row).mpr (.inl inside), named, time⟩
  | failed _ rewrites _ => exact blocked.rewrites rewrites fun _ time => time
  | redeployed _ written rewrites _ =>
    refine blocked.rewrites rewrites fun _ time => ?_
    rw [written]
    exact time
  | removed _ rewrites _ => exact blocked.rewrites rewrites fun _ time => time
  | blocked _ rewrites _ =>
    refine blocked.rewrites rewrites fun _ time => ?_
    rw [time, Option.getD_some]
  | unblocked located rewrites _ =>
    refine blocked.rewrites rewrites fun named _ => ?_
    rw [unblocks, located.parsed, named, Except.toOption, beq_self_eq_true] at other
    cases other
  | addressed _ rewrites _ _ _ => exact blocked.rewrites rewrites fun _ time => time
  | published _ rewrites _ _ => exact blocked.rewrites rewrites fun _ time => time
  | reported _ rewrites _ => exact blocked.rewrites rewrites fun _ time => time
  | lowered lowers =>
    obtain ⟨-, change, rows, allowed⟩ := lowers
    obtain ⟨row, inside, named, time⟩ := blocked
    refine ⟨change row, ?_, ?_⟩
    · rw [Table.mem_def, rows]
      exact List.mem_map_of_mem inside
    · rcases allowed row with same | ⟨-, offline⟩
      · rw [same]
        exact ⟨named, time⟩
      · rw [offline]
        exact ⟨named, time⟩

/-- The endpoint that is found comes with the row of its service. -/
theorem findEndpoint_service {workspaceIndex : ℕ} {subdomain : Text} {routed : RoutedEndpoint}
    (found : findEndpoint workspaceIndex subdomain before = some routed) :
    routed.service ∈ before.services ∧
      routed.service.serviceIndex = routed.endpoint.endpointParentService := by
  simp only [findEndpoint, Option.bind_eq_bind, Option.bind_eq_some_iff] at found
  obtain ⟨endpoint, -, service, parent, same⟩ := found
  obtain rfl := Option.some.inj same
  obtain ⟨inside, selected⟩ := Table.mem_of_findFirst parent
  exact ⟨inside, beq_iff_eq.mp selected⟩

/-- While a block holds, nothing is routed to its service. -/
theorem BlockedSince.notRouted {hub : Hub} (blocked : BlockedSince serviceIndex since hub.database) :
    NotRouted serviceIndex hub := by
  intro serviceSubdomain workspaceSubdomain token preferPooled workspace routed uncached active
    found named
  obtain ⟨row, inside, index, time⟩ := blocked
  obtain ⟨there, parent⟩ := findEndpoint_service found
  obtain rfl := Table.eq_of_key inside there (index.trans (named.symm.trans parent.symm))
  simp only [sendProxyInfo, run_bind, routeFromCache, run_atomically, uncached, runFrom,
    routeFromDatabase, routeWithin, active, orThrow, run_pure, found, TunnelService.decide, time, look, step]
  exact ⟨_, rfl⟩

end Blocks

/-- From a state in which the traffic of a service is blocked, every sequence of operations
that does not end the block leaves it, with its time, and nothing is routed to the service. -/
theorem traffic_block_lasts (objectFilter : Members Value → Option (ℕ → Bool)) (start : RelayState)
    (operations : List ServiceOperation) (serviceIndex : ℕ) (since : ℤ)
    (blocked : BlockedSince serviceIndex since start.hub.database)
    (kept : ∀ operation ∈ operations, unblocks serviceIndex operation = false) :
    BlockedSince serviceIndex since (final (operate objectFilter) start operations).hub.database ∧
      NotRouted serviceIndex (final (operate objectFilter) start operations).hub := by
  have lasts : BlockedSince serviceIndex since
      (final (operate objectFilter) start operations).hub.database := by
    induction operations generalizing start with
    | nil => exact blocked
    | cons operation operations ih =>
      refine ih _ (blocked.operate (kept operation List.mem_cons_self)) fun later inside => ?_
      exact kept later (List.mem_cons_of_mem _ inside)
  exact ⟨lasts, lasts.notRouted⟩

/-- The request for the first service of the first workspace. -/
def firstService : CreateServiceBody where
  workspaceIdx := 1
  serviceName := "api"
  servicePort := some 80
  serviceSourceUrl := .string "https://example.org/api.git"
  serviceVersion := "1"
  serviceDeployPreset := .dockerfile
  agentIndex := 1

/-- The Hub after its owner has created a service and blocked its traffic. -/
def blockedService : RelayState :=
  final (operate fun _ => none) { hub := linkedAgentHub }
    [.call (.create 1 firstService), .blockTraffic 1 "1" {}]

/-- Later it is deployed again and blocked in another way, and its Agent goes offline. -/
def afterBlock : List ServiceOperation :=
  [.elsewhere fun state => { state with hub := { state.hub with now := 9 } },
    .call (.redeploy 1 "1" {}), .blockTraffic 1 "1" { mode := some .hidden }, .offlineTimer "U",
    .hubStart]

theorem traffic_block_lasts_redeployed :
    BlockedSince 1 1 (final (operate fun _ => none) blockedService afterBlock).hub.database ∧
      NotRouted 1 (final (operate fun _ => none) blockedService afterBlock).hub :=
  traffic_block_lasts _ _ _ _ _ (by decide +kernel) (by decide +kernel)

end ServiceService

end OpticsHub
