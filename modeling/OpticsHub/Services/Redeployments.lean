import OpticsHub.Services.Addresses
import OpticsHub.Services.PortMappings
import OpticsHub.Services.Removals

/-!
# A redeployment that succeeds

The effects of an operation say how the tables may be after it, however it ends. A redeployment
that succeeds has got through all its checks and both of its commands: the row of the service is
the redeployed one, its endpoints are those that the request comes to, and what was sent is
`STOP` to the agent that it leaves, if it leaves one, and `REDEPLOY` to its target.
-/
namespace OpticsHub

open Script Async Program Machine

namespace ServiceService

open AgentGateway AgentService

/-- The packet of a command on the socket of an agent. -/
def commandPackets (hub : Hub) (agentUuid : Text) (command : AgentCommand) : List Outgoing :=
  (getAgentSocket hub agentUuid).toList.map fun socket => .packet socket (.command command)

/-- What a redeployment sends to the agent that it leaves. -/
def stopPackets (body : RedeployService) (service : ServiceRow) (hub : Hub) : List Outgoing :=
  if leavesAgent body service (agentOfService service hub.database) then
    (agentOfService service hub.database).elim [] fun agent =>
      commandPackets hub agent.agentUuid (.stop (runCommand service))
  else []

/-- A redeployment from the state before it to the state after it. -/
structure Redeployed (owner : Int32) (serviceIdx : Text) (body : RedeployService) (before : Hub)
    (service : ServiceRow) (target : AgentRow) (repositories : List ServiceSourceRepository)
    (portMappings : List ServicePortMapping) (env : Members Text)
    (endpoints : List ServiceEndpoint) (updated : ServiceRow) (after : Hub) : Prop where
  redeploys : Redeploys owner serviceIdx body before service target repositories portMappings env
  written : updated =
    redeployedRow body target.agentIndex repositories portMappings env service service
  rewrites : Rewrites service updated before.database after.database
  republishes : Republishes body service updated portMappings endpoints before.database
  publishes : Publishes service.serviceParentWorkspace service.serviceIndex endpoints
    before.database after.database
  reached : Reached before target.agentUuid
  sent : after.sent = before.sent ++ (stopPackets body service before ++
    commandPackets before target.agentUuid
      (.redeploy (redeployCommand updated repositories portMappings env)))

/-- However it ends, it ends there. -/
abbrev Throws : Failure → Hub → Prop := fun _ _ => True

section Parts

variable {hub : Hub}

theorem wp_failUnsent_throws (serviceIndex workspaceIndex : ℕ) (hub : Hub)
    (post : Unit → Hub → Prop) :
    wp (failUnsent serviceIndex workspaceIndex) post Throws hub := by
  rw [failUnsent, wp_bind]
  refine wp_mono _ ?_ ?_ ((@wp_state _ _ _ hub (fun _ => True) _).mpr trivial)
  · exact fun _ _ _ => trivial
  · exact fun _ _ _ => trivial

/-- A packet that is sent is the only thing that changes. -/
theorem sendToAgent_sent {agentUuid : Text} {command : AgentCommand}
    (sent : (sendToAgent agentUuid (.command command) hub).1 = true) :
    Reached hub agentUuid ∧ (sendToAgent agentUuid (.command command) hub).2 =
      { hub with sent := hub.sent ++ commandPackets hub agentUuid command } := by
  obtain ⟨socket, connected, secret⟩ := (sendToAgent_delivered _ _ _).mp sent
  refine ⟨⟨socket, connected, secret⟩, ?_⟩
  rw [sendToAgent, commandPackets, connected]
  dsimp only
  rw [if_pos secret]
  rfl

/-- A command that does not fail has been sent. -/
theorem wp_sent (agentUuid : Text) (command : AgentCommand) (serviceIndex workspaceIndex : ℕ)
    (notify : Bool) {post : Unit → Hub → Prop}
    (held : Reached hub agentUuid → ∀ console,
      post () { hub with
        sent := hub.sent ++ commandPackets hub agentUuid command, console := console }) :
    wp (sendCommand agentUuid command serviceIndex workspaceIndex notify) post Throws hub := by
  rw [wp_sendCommand _ _ _ _ _ (wp_failUnsent_throws _ _)]
  intro sent
  obtain ⟨reached, after⟩ := sendToAgent_sent sent
  rw [after]
  cases notify with
  | true => exact held reached _
  | false => exact held reached hub.console

/-- A service that is stopped has been sent `STOP`. -/
theorem wp_stopSent {owner : Int32} {serviceIdx : Text} {service : ServiceRow}
    (located : Located owner serviceIdx hub.database service) {post : ℕ → Hub → Prop}
    (held : ∀ agent, agentOfService service hub.database = some agent →
      StopReaches hub service → ∀ console, post service.serviceIndex
        { hub with
          sent := hub.sent ++ commandPackets hub agent.agentUuid (.stop (runCommand service))
          console := console }) :
    wp (handleStopService owner (decimalText service.serviceIndex)) post Throws hub := by
  rw [handleStopService, commandService, wp_bind, wp_findOwnedServiceAndAgent fun _ _ => trivial]
  simp only [located.self, forall_eq, wp_bind, wp_require, wp_orThrow, implies_true, and_true]
  intro standing agent found
  apply wp_sent
  rintro ⟨socket, connected, secret⟩ console
  exact held agent found ⟨standing, agent, found, socket, connected, secret⟩ console

end Parts

section Whole

variable {owner : Int32} {serviceIdx : Text} {body : RedeployService} {hub : Hub}

/-- What a redeployment does once its checks are passed and the stop, if any, is sent. -/
theorem wp_deployedAgain {service : ServiceRow} {target : AgentRow}
    {repositories : List ServiceSourceRepository} {portMappings : List ServicePortMapping}
    {env : Members Text}
    (redeploys : Redeploys owner serviceIdx body hub service target repositories portMappings env)
    (console : List ConsoleEvent) {post : ServiceRow → Hub → Prop}
    (held : ∀ endpoints updated after, Redeployed owner serviceIdx body hub service target
      repositories portMappings env endpoints updated after → post updated after) :
    wp (deployAgain body service target repositories portMappings
        (existingPrimaryEndpoint service.serviceIndex hub.database) env) post Throws
      { hub with sent := hub.sent ++ stopPackets body service hub, console := console } := by
  obtain ⟨inside, alive⟩ := redeploys.located.alive
  rw [deployAgain, wp_bind]
  apply wp_updateRow
  · exact inside
  · exact fun _ => trivial
  intro services rows
  simp only [ensureDefaultComponent, wp_bind, wp_fromExcept, wp_step, wp_replaced]
  refine ⟨fun endpoints normalized => ⟨fun free => ?_, fun _ => trivial, fun _ _ => trivial⟩,
    fun _ _ => trivial⟩
  apply wp_sent
  intro reached console
  refine held endpoints _ _ ⟨redeploys, rfl, ⟨inside, rfl, rfl, rows⟩, ⟨normalized, free⟩,
    publishes_published rfl, reached, ?_⟩
  exact List.append_assoc _ _ _

/-- A redeployment that succeeds. -/
theorem wp_redeployed {post : ServiceRow → Hub → Prop}
    (held : ∀ service target repositories portMappings env endpoints updated after,
      Redeployed owner serviceIdx body hub service target repositories portMappings env endpoints
        updated after → post updated after) :
    wp (handleRedeployService owner serviceIdx body) post Throws hub := by
  rw [handleRedeployService, wp_bind, wp_findOwnedServiceAndAgent fun _ _ => trivial]
  intro service located
  simp only [wp_bind, wp_look, wp_orThrow, implies_true, and_true]
  intro target targeted
  have deploys (stopped : leavesAgent body service (agentOfService service hub.database) = true →
      StopReaches hub service) (console : List ConsoleEvent) :
      wp (checkRedeployment body service >>= fun checked =>
          deployAgain body service target checked.1 checked.2.1 checked.2.2.1 checked.2.2.2)
        post Throws
        { hub with sent := hub.sent ++ stopPackets body service hub, console := console } := by
    rw [wp_bind, wp_redeploymentChecked body service (fun _ _ => trivial) trivial]
    intro repositories portMappings env prepared
    exact wp_deployedAgain ⟨located, targeted, stopped, prepared⟩ console
      fun endpoints updated after => held _ _ _ _ _ endpoints updated after
  cases leaves : leavesAgent body service (agentOfService service hub.database) with
  | false =>
    have quiet : stopPackets body service hub = [] := by
      rw [stopPackets, leaves, if_neg Bool.false_ne_true]
    have unstopped := deploys (fun leaving => by rw [leaves] at leaving; cases leaving) hub.console
    rw [quiet, List.append_nil] at unstopped
    rw [if_neg Bool.false_ne_true]
    exact unstopped
  | true =>
    rw [if_pos rfl, wp_bind]
    apply wp_stopSent located
    intro agent found reaches console
    have stops : stopPackets body service hub =
        commandPackets hub agent.agentUuid (.stop (runCommand service)) := by
      rw [stopPackets, leaves, if_pos rfl, found]
      rfl
    have stopped := deploys (fun _ => reaches) console
    rwa [stops] at stopped

/-- What is known of a redeployment that has succeeded. -/
theorem redeployed_of_isOk
    (succeeds : ((handleRedeployService owner serviceIdx body).run hub).1.isOk = true) :
    ∃ service target repositories portMappings env endpoints updated,
      Redeployed owner serviceIdx body hub service target repositories portMappings env endpoints
        updated ((handleRedeployService owner serviceIdx body).run hub).2 := by
  have ends := @wp_redeployed owner serviceIdx body hub
    (fun updated after => ∃ service target repositories portMappings env endpoints,
      Redeployed owner serviceIdx body hub service target repositories portMappings env endpoints
        updated after)
    fun service target repositories portMappings env endpoints updated after redeployed =>
      ⟨service, target, repositories, portMappings, env, endpoints, redeployed⟩
  obtain ⟨updated, service, target, repositories, portMappings, env, endpoints, redeployed⟩ :=
    exists_of_isOk ends succeeds
  exact ⟨service, target, repositories, portMappings, env, endpoints, updated, redeployed⟩

end Whole

/-! ## The addresses of a service that is deployed again -/

/-- The addresses of a service: the subdomains of its endpoint rows with their host ports. -/
def publishedAddresses (serviceIndex : ℕ) (database : Database) : Set (Text × ℤ) :=
  {address | ∃ row ∈ database.serviceEndpoints, row.endpointParentService = serviceIndex ∧
    row.endpointSubdomain = some address.1 ∧ row.endpointHostPort = address.2}

/-- A request that gives neither endpoints nor ports. -/
structure RedeployService.Silent (body : RedeployService) : Prop where
  endpoints : body.serviceEndpoints = .undefined
  port : body.servicePort = none
  containerPort : body.serviceContainerPort = none
  hostPort : body.serviceHostPort = none
  portMappings : body.servicePortMappings = none

/-- A redeployment leaves the addresses of its service as they were. -/
def KeepsAddresses (owner : Int32) (serviceIdx : Text) (body : RedeployService) (hub : Hub) :
    Prop :=
  ∀ service, Located owner serviceIdx hub.database service →
    publishedAddresses service.serviceIndex
        ((handleRedeployService owner serviceIdx body).run hub).2.database =
      publishedAddresses service.serviceIndex hub.database

/-- The mappings that are stored with a service. -/
def storedMappings (service : ServiceRow) : Except Failure (List ServicePortMapping) :=
  normalizePortMappings (service.servicePortMappings.getD .null)
    (some (service.serviceHostPort.getD service.servicePort))
    (some (service.serviceContainerPort.getD service.servicePort))

/-- A service has at most one address. It is on the host port of the first stored mapping, and in
its absence the row of the service names no subdomain either. -/
structure OneAddress (service : ServiceRow) (database : Database) : Prop where
  same : ∀ row ∈ database.serviceEndpoints, ∀ row' ∈ database.serviceEndpoints,
    row.endpointParentService = service.serviceIndex →
    row'.endpointParentService = service.serviceIndex →
    row.endpointSubdomain ≠ none → row'.endpointSubdomain ≠ none →
    row.endpointSubdomain = row'.endpointSubdomain
  port : ∀ row ∈ database.serviceEndpoints, row.endpointParentService = service.serviceIndex →
    row.endpointSubdomain ≠ none → ∀ mappings, storedMappings service = .ok mappings →
    row.endpointHostPort = (primaryPortMapping mappings).hostPort
  unnamed : (∀ row ∈ database.serviceEndpoints,
      row.endpointParentService = service.serviceIndex → row.endpointSubdomain = none) →
    service.serviceSubdomain = none

/-- The addresses are those of the endpoints that the rows are made from. -/
theorem Publishes.addresses {workspaceIndex serviceIndex : ℕ} {endpoints : List ServiceEndpoint}
    {before after : Database} (publishes : Publishes workspaceIndex serviceIndex endpoints before
      after) :
    publishedAddresses serviceIndex after = {address | ∃ endpoint ∈ endpoints,
      endpoint.subdomain = some address.1 ∧ endpoint.hostPort = address.2} := by
  ext address
  constructor
  · rintro ⟨row, inside, parent, subdomain, hostPort⟩
    rcases publishes.older row inside with ⟨-, other⟩ | ⟨endpoint, member, n, rfl⟩
    · exact absurd parent other
    · exact ⟨endpoint, member, subdomain, hostPort⟩
  · rintro ⟨endpoint, member, subdomain, hostPort⟩
    obtain ⟨n, inside⟩ := publishes.made endpoint member
    exact ⟨_, inside, rfl, subdomain, hostPort⟩

/-- Without ports in the request, the mappings are the stored ones. -/
theorem storedMappings_of_silent {body : RedeployService} (silent : body.Silent)
    {service : ServiceRow} {repositories : List ServiceSourceRepository}
    {portMappings : List ServicePortMapping}
    (prepared : redeploySourceAndPorts body service = .ok (repositories, portMappings)) :
    storedMappings service = .ok portMappings := by
  unfold redeploySourceAndPorts at prepared
  simp only [silent.port, silent.hostPort, silent.containerPort, silent.portMappings,
    bind_eq_ok_iff] at prepared
  obtain ⟨_, -, existing, stored, kept, same, ends⟩ := prepared
  cases same
  cases ends
  exact stored

/-- Without endpoints in the request, the remembered subdomain goes to the first mapping and the
others have none. -/
theorem redeployedEndpoints_of_silent {body : RedeployService} (silent : body.Silent)
    {service updated : ServiceRow} {first : ServicePortMapping} {rest : List ServicePortMapping}
    {database : Database} {endpoints : List ServiceEndpoint}
    (normalized : redeployedEndpoints body service updated (first :: rest) database =
      .ok endpoints) (address : Text × ℤ) :
    (∃ endpoint ∈ endpoints,
      endpoint.subdomain = some address.1 ∧ endpoint.hostPort = address.2) ↔
      ((existingPrimaryEndpoint service.serviceIndex database).bind
          EndpointRow.endpointSubdomain).or service.serviceSubdomain = some address.1 ∧
        first.hostPort = address.2 := by
  unfold redeployedEndpoints normalizeEndpoints at normalized
  rw [silent.endpoints] at normalized
  cases normalized
  rw [List.zipIdx_cons, List.map_cons, List.exists_mem_cons_iff, if_pos rfl]
  refine or_iff_left ?_
  rintro ⟨endpoint, inside, subdomain, -⟩
  obtain ⟨indexed, member, rfl⟩ := List.mem_map.mp inside
  have later := List.le_snd_of_mem_zipIdx member
  rw [if_neg (by omega)] at subdomain
  cases subdomain

theorem existingPrimaryEndpoint_some {serviceIndex : ℕ} {database : Database}
    {primary : EndpointRow} (found : existingPrimaryEndpoint serviceIndex database = some primary) :
    primary ∈ database.serviceEndpoints ∧ primary.endpointParentService = serviceIndex ∧
      ∃ subdomain, primary.endpointSubdomain = some subdomain := by
  obtain ⟨inside, selected⟩ := Table.mem_of_findFirst found
  rw [Bool.and_eq_true, beq_iff_eq, Option.isSome_iff_exists] at selected
  exact ⟨inside, selected⟩

theorem existingPrimaryEndpoint_none {serviceIndex : ℕ} {database : Database}
    (missing : existingPrimaryEndpoint serviceIndex database = none) :
    ∀ row ∈ database.serviceEndpoints, row.endpointParentService = serviceIndex →
      row.endpointSubdomain = none := by
  intro row inside parent
  have unselected := Table.findFirst_eq_none.mp missing row inside
  simpa [parent] using unselected

/-- The remembered subdomain on the first stored port is all that there was, exactly if the service
had at most that address. -/
theorem oneAddress_iff {service : ServiceRow} {database : Database} {first : ServicePortMapping}
    {rest : List ServicePortMapping} (stored : storedMappings service = .ok (first :: rest)) :
    {address : Text × ℤ | ((existingPrimaryEndpoint service.serviceIndex database).bind
          EndpointRow.endpointSubdomain).or service.serviceSubdomain = some address.1 ∧
        first.hostPort = address.2} = publishedAddresses service.serviceIndex database ↔
      OneAddress service database := by
  cases found : existingPrimaryEndpoint service.serviceIndex database with
  | some primary =>
    obtain ⟨inside, parent, subdomain, given⟩ := existingPrimaryEndpoint_some found
    rw [Option.bind_some, given, Option.some_or]
    constructor
    · intro same
      have only : ∀ row ∈ database.serviceEndpoints,
          row.endpointParentService = service.serviceIndex → row.endpointSubdomain ≠ none →
          row.endpointSubdomain = some subdomain ∧ row.endpointHostPort = first.hostPort := by
        intro row member parent named
        obtain ⟨other, here⟩ := Option.ne_none_iff_exists'.mp named
        have address : (other, row.endpointHostPort) ∈
            publishedAddresses service.serviceIndex database := ⟨row, member, parent, here, rfl⟩
        rw [← same] at address
        exact ⟨here.trans address.1.symm, address.2.symm⟩
      refine ⟨?_, ?_, ?_⟩
      · intro row member row' member' parent parent' named named'
        exact (only row member parent named).1.trans (only row' member' parent' named').1.symm
      · intro row member parent named mappings accepted
        obtain rfl := Except.ok.inj (stored.symm.trans accepted)
        exact (only row member parent named).2
      · intro unnamed
        rw [unnamed primary inside parent] at given
        cases given
    · intro one
      ext address
      constructor
      · rintro ⟨same, hostPort⟩
        refine ⟨primary, inside, parent, given.trans same, ?_⟩
        have port := one.port primary inside parent (by rw [given]; exact Option.some_ne_none _) _
          stored
        exact port.trans hostPort
      · rintro ⟨row, member, parent', named, hostPort⟩
        have present : row.endpointSubdomain ≠ none := by
          rw [named]
          exact Option.some_ne_none _
        have primary' : primary.endpointSubdomain ≠ none := by
          rw [given]
          exact Option.some_ne_none _
        have same := one.same primary inside row member parent parent' primary' present
        exact ⟨(given.symm.trans same).trans named,
          (one.port row member parent' present _ stored).symm.trans hostPort⟩
  | none =>
    have unnamed := existingPrimaryEndpoint_none found
    have empty : publishedAddresses service.serviceIndex database = ∅ := by
      refine Set.eq_empty_of_forall_notMem ?_
      rintro address ⟨row, inside, parent, named, -⟩
      rw [unnamed row inside parent] at named
      cases named
    rw [empty, Option.bind_none, Option.none_or]
    constructor
    · intro same
      refine ⟨?_, ?_, fun _ => ?_⟩
      · intro row inside _ _ parent _ named
        exact absurd (unnamed row inside parent) named
      · intro row inside parent named
        exact absurd (unnamed row inside parent) named
      · by_contra named
        obtain ⟨subdomain, given⟩ := Option.ne_none_iff_exists'.mp named
        have address : (subdomain, first.hostPort) ∈ (∅ : Set (Text × ℤ)) := by
          rw [← same]
          exact ⟨given, rfl⟩
        exact address
    · intro one
      rw [one.unnamed unnamed]
      refine Set.eq_empty_of_forall_notMem ?_
      rintro address ⟨named, -⟩
      cases named

/-- A redeployment that succeeds without a word on endpoints and ports keeps the addresses of its
service exactly if the service had at most one, on the host port of its first mapping, and no
subdomain of its own in the absence of one. -/
theorem redeploy_keepsAddresses_iff {owner : Int32} {serviceIdx : Text} {body : RedeployService}
    {hub : Hub} (silent : body.Silent)
    (succeeds : ((handleRedeployService owner serviceIdx body).run hub).1.isOk = true) :
    KeepsAddresses owner serviceIdx body hub ↔
      ∀ service, Located owner serviceIdx hub.database service →
        OneAddress service hub.database := by
  unfold KeepsAddresses
  obtain ⟨service, target, repositories, portMappings, env, endpoints, updated, redeployed⟩ :=
    redeployed_of_isOk succeeds
  have located := redeployed.redeploys.located
  have stored := storedMappings_of_silent silent redeployed.redeploys.prepared.source
  obtain ⟨first, rest, rfl⟩ :=
    List.exists_cons_of_ne_nil (normalizePortMappings_ne_nil stored)
  have addresses := redeployed.publishes.addresses
  simp only [redeployedEndpoints_of_silent silent redeployed.republishes.normalized] at addresses
  refine forall_congr' fun other => imp_congr_right fun located' => ?_
  obtain rfl := located.unique located'
  rw [addresses]
  exact oneAddress_iff stored

theorem redeploy_keepsAddresses_hosting :
    KeepsAddresses 1 "1" {} hostingAgentHub.hub ↔
      ∀ service, Located 1 "1" hostingAgentHub.hub.database service →
        OneAddress service hostingAgentHub.hub.database :=
  redeploy_keepsAddresses_iff ⟨rfl, rfl, rfl, rfl, rfl⟩ (by decide +kernel)

/-- A service with two endpoints under two subdomains, on an agent that is connected. -/
def twoAddresses : RelayState :=
  final (operate fun _ => none) registeredAgentHub ((givenOne "c").take 1)

theorem twoAddresses_redeploys :
    ((handleRedeployService 1 "1" {}).run twoAddresses.hub).1.isOk = true := by
  decide +kernel

/-- The second address is gone after a redeployment that asks for nothing. -/
theorem not_redeploy_keepsAddresses_two :
    ((handleRedeployService 1 "1" {}).run twoAddresses.hub).1.isOk = true ∧
      ¬ KeepsAddresses 1 "1" {} twoAddresses.hub := by
  refine ⟨twoAddresses_redeploys, fun keeps => ?_⟩
  obtain ⟨service, _, _, _, _, _, _, redeployed⟩ := redeployed_of_isOk twoAddresses_redeploys
  have located := redeployed.redeploys.located
  have index : ∀ row ∈ twoAddresses.hub.database.services, row.serviceIndex = 1 := by
    decide +kernel
  have same := keeps service located
  rw [index service located.alive.1] at same
  have second : (Text.ofString "b", 81) ∈ publishedAddresses 1 twoAddresses.hub.database := by
    change ∃ row ∈ twoAddresses.hub.database.serviceEndpoints, _
    decide +kernel
  have gone : (Text.ofString "b", 81) ∉ publishedAddresses 1
      ((handleRedeployService 1 "1" {}).run twoAddresses.hub).2.database := by
    change ¬ ∃ row ∈ ((handleRedeployService 1 "1" {}).run
      twoAddresses.hub).2.database.serviceEndpoints, _
    decide +kernel
  exact gone (same ▸ second)

end ServiceService

end OpticsHub
