import OpticsHub.Services.Redeployments

/-!
# The agent that a service is deployed to again

A redeployment looks for its target among the online agents of the workspace, by the index in the
request. Without an index the filter on it is dropped, and the target is the first agent that is
online. The decision to stop the service where it runs looks at the request and not at the target,
so a service that moves without having been asked to is not stopped on the agent that it leaves.
-/
namespace OpticsHub

open Script Async Program Machine

namespace ServiceService

open AgentGateway AgentService

/-- The packets that have been sent since. -/
def sentSince (before after : Hub) : List Outgoing := after.sent.drop before.sent.length

/-- `REDEPLOY` has been sent to the agent that hosted a service. -/
def RedeployedInPlace (service : ServiceRow) (before after : Hub) : Prop :=
  ∃ agent ∈ before.database.agents, agent.agentIndex = service.serviceParentAgent ∧
    ∃ command, ∃ packet ∈ commandPackets before agent.agentUuid (.redeploy command),
      packet ∈ sentSince before after

/-- The agent that a service is said to run on. -/
def ParentIs (service : ServiceRow) (after : Database) (agentIndex : ℕ) : Prop :=
  ∀ row ∈ after.services, row.serviceIndex = service.serviceIndex →
    row.serviceParentAgent = agentIndex

/-- The first packet sent since stops a service on an agent. -/
def StoppedFirst (service : ServiceRow) (agent : AgentRow) (before after : Hub) : Prop :=
  ∃ command packet rest, command.serviceIndex = service.serviceIndex ∧
    packet ∈ commandPackets before agent.agentUuid (.stop command) ∧
    sentSince before after = packet :: rest

/-- A redeployment without a target stays where the service is, and one that moves it away from
an agent that is linked and online stops it there first. -/
def StaysOrStops (owner : Int32) (serviceIdx : Text) (body : RedeployService) (hub : Hub) : Prop :=
  ∀ service, Located owner serviceIdx hub.database service →
    let after := ((handleRedeployService owner serviceIdx body).run hub).2
    (body.agentIndex = none → RedeployedInPlace service hub after ∧
      ParentIs service after.database service.serviceParentAgent) ∧
    (¬ ParentIs service after.database service.serviceParentAgent →
      ∀ agent, agentOfService service hub.database = some agent → agent.agentStatus = .online →
        StoppedFirst service agent hub after)

/-- Without an index in the request, the first agent that is online is the one that the service
runs on. No agent has the index 0; if one had, it would be that one, or none would be left. -/
def TargetStays (owner : Int32) (serviceIdx : Text) (body : RedeployService) (hub : Hub) : Prop :=
  ∀ service target, Located owner serviceIdx hub.database service →
    targetAgent body.agentIndex service.serviceParentWorkspace hub.database = some target →
    (body.agentIndex = none → target.agentIndex = service.serviceParentAgent) ∧
    (body.agentIndex = some 0 → target.agentIndex = service.serviceParentAgent ∨
      ∀ agent, agentOfService service hub.database = some agent → agent.agentStatus ≠ .online)

section Redeployed

variable {owner : Int32} {serviceIdx : Text} {body : RedeployService} {hub : Hub}
  {service : ServiceRow} {target : AgentRow} {repositories : List ServiceSourceRepository}
  {portMappings : List ServicePortMapping} {env : Members Text}
  {endpoints : List ServiceEndpoint} {updated : ServiceRow} {after : Hub}

theorem Redeployed.sentSince
    (redeployed : Redeployed owner serviceIdx body hub service target repositories portMappings env
      endpoints updated after) :
    sentSince hub after = stopPackets body service hub ++
      commandPackets hub target.agentUuid
        (.redeploy (redeployCommand updated repositories portMappings env)) := by
  rw [ServiceService.sentSince, redeployed.sent, List.drop_left]

/-- The service is said to run on the target. -/
theorem Redeployed.parentIs_iff
    (redeployed : Redeployed owner serviceIdx body hub service target repositories portMappings env
      endpoints updated after) (agentIndex : ℕ) :
    ParentIs service after.database agentIndex ↔ target.agentIndex = agentIndex := by
  have parent : updated.serviceParentAgent = target.agentIndex := by rw [redeployed.written]; rfl
  constructor
  · intro is
    rw [← parent]
    exact is updated ((redeployed.rewrites.rows updated).mpr (.inl rfl)) redeployed.rewrites.index
  · rintro rfl row inside same
    rcases (redeployed.rewrites.rows row).mp inside with rfl | ⟨-, other⟩
    · exact parent
    · exact absurd same other

theorem mem_commandPackets {agentUuid : Text} (reached : Reached hub agentUuid)
    (command : AgentCommand) :
    ∃ packet, commandPackets hub agentUuid command = [packet] := by
  obtain ⟨socket, connected, -⟩ := reached
  rw [commandPackets, connected]
  exact ⟨_, rfl⟩

/-- The packets of different commands are different. -/
theorem command_of_mem {agentUuid agentUuid' : Text} {command command' : AgentCommand}
    {packet : Outgoing} (inside : packet ∈ commandPackets hub agentUuid command)
    (inside' : packet ∈ commandPackets hub agentUuid' command') : command = command' := by
  obtain ⟨socket, -, rfl⟩ := List.mem_map.mp inside
  obtain ⟨socket', -, same⟩ := List.mem_map.mp inside'
  cases same
  rfl

theorem targetAgent_index {index : ℕ} {workspaceIndex : ℕ} {database : Database}
    (found : targetAgent (some index) workspaceIndex database = some target) :
    target.agentIndex = index := by
  have selected := (Table.mem_of_findFirst found).2
  simp only [Option.all_some, Bool.and_eq_true, beq_iff_eq] at selected
  exact selected.1.1.1

end Redeployed

/-- A redeployment that succeeds stays where the service is, or stops it there, exactly if the
first agent that is online is the one the service runs on whenever the request names none. -/
theorem redeploy_staysOrStops_iff {owner : Int32} {serviceIdx : Text} {body : RedeployService}
    {hub : Hub}
    (succeeds : ((handleRedeployService owner serviceIdx body).run hub).1.isOk = true) :
    StaysOrStops owner serviceIdx body hub ↔ TargetStays owner serviceIdx body hub := by
  obtain ⟨service, target, repositories, portMappings, env, endpoints, updated, redeployed⟩ :=
    redeployed_of_isOk succeeds
  have located := redeployed.redeploys.located
  have targeted := redeployed.redeploys.targeted
  have inside := (Table.mem_of_findFirst targeted).1
  have sent := redeployed.sentSince
  obtain ⟨packet, last⟩ := mem_commandPackets redeployed.reached
    (.redeploy (redeployCommand updated repositories portMappings env))
  have last' : packet ∈ commandPackets hub target.agentUuid
      (.redeploy (redeployCommand updated repositories portMappings env)) := by
    rw [last]
    exact List.mem_singleton_self packet
  constructor
  · intro stays other target' located' targeted'
    obtain rfl := located.unique located'
    obtain rfl := Option.some.inj (targeted.symm.trans targeted')
    obtain ⟨inPlace, stops⟩ := stays service located
    refine ⟨fun unasked => (redeployed.parentIs_iff _).mp (inPlace unasked).2, fun zero => ?_⟩
    by_contra moves
    rw [not_or] at moves
    obtain ⟨away, online⟩ := moves
    simp only [not_forall, not_not] at online
    obtain ⟨agent, found, here⟩ := online
    obtain ⟨command, stop, rest, -, member, first⟩ :=
      stops (fun is => away ((redeployed.parentIs_iff _).mp is)) agent found here
    have quiet : stopPackets body service hub = [] := by
      rw [stopPackets, leavesAgent, zero]
      rfl
    rw [sent, quiet, List.nil_append, last] at first
    cases first
    cases command_of_mem member last'
  · intro kept other located'
    obtain rfl := located.unique located'
    obtain ⟨unasked, zero⟩ := kept service target located targeted
    refine ⟨fun absent => ⟨?_, (redeployed.parentIs_iff _).mpr (unasked absent)⟩,
      fun moved agent found online => ?_⟩
    · refine ⟨target, inside, unasked absent, _, packet, last', ?_⟩
      rw [sent]
      exact List.mem_append_right _ last'
    · rw [redeployed.parentIs_iff] at moved
      cases asked : body.agentIndex with
      | none => exact absurd (unasked asked) moved
      | some index =>
        cases index with
        | zero =>
          rcases zero asked with same | offline
          · exact absurd same moved
          · exact absurd online (offline agent found)
        | succ index =>
          have asked' := targeted
          rw [asked] at asked'
          have leaves : leavesAgent body service (agentOfService service hub.database) = true := by
            rw [targetAgent_index asked'] at moved
            simp [leavesAgent, asked, found, online, Ne.symm moved]
          obtain ⟨-, agent', found', socket, connected, secret⟩ :=
            redeployed.redeploys.stopped leaves
          obtain rfl := Option.some.inj (found.symm.trans found')
          obtain ⟨stop, alone⟩ := mem_commandPackets ⟨socket, connected, secret⟩
            (.stop (runCommand service))
          refine ⟨runCommand service, stop, [packet], rfl, ?_, ?_⟩
          · rw [alone]
            exact List.mem_singleton_self stop
          · rw [sent, stopPackets, leaves, if_pos rfl, found, Option.elim_some, alone, last,
              List.singleton_append]

theorem redeploy_staysOrStops_hosting :
    StaysOrStops 1 "1" {} hostingAgentHub.hub ↔ TargetStays 1 "1" {} hostingAgentHub.hub :=
  redeploy_staysOrStops_iff (by decide +kernel)

/-- A second agent is linked to the workspace, and the service is created on it. -/
def secondAgentHub : RelayState :=
  (operate (fun _ => none)
    { hub :=
        { registeredAgentHub.hub with
          agentUuidToSocketId := [("U", 0), ("V", 1)]
          database :=
            { registeredAgentHub.hub.database with
              agents := registeredAgentHub.hub.database.agents.create fun index =>
                { agentIndex := index
                  agentIp := "10.0.0.2"
                  agentCode := "CC"
                  agentUuid := "V"
                  agentSigningSecret := some "secret"
                  agentName := "second"
                  agentParentWorkspace := some 1
                  agentConnection := .linked
                  agentStatus := .online
                  agentLastOnline := 0 } } } }
    (.call (.create 1 {
      workspaceIdx := 1
      serviceName := "api"
      servicePort := some 80
      serviceSourceUrl := .string "https://example.org/api.git"
      serviceVersion := "1"
      serviceDeployPreset := .dockerfile
      agentIndex := 2 }))).2

theorem secondAgentHub_redeploys :
    ((handleRedeployService 1 "1" {}).run secondAgentHub.hub).1.isOk = true := by
  decide +kernel

/-- The service moves to the first agent, and the second one is told nothing. -/
theorem not_redeploy_staysOrStops_second :
    ((handleRedeployService 1 "1" {}).run secondAgentHub.hub).1.isOk = true ∧
      ¬ StaysOrStops 1 "1" {} secondAgentHub.hub := by
  refine ⟨secondAgentHub_redeploys, fun stays => ?_⟩
  obtain ⟨service, _, _, _, _, _, _, redeployed⟩ := redeployed_of_isOk secondAgentHub_redeploys
  have located := redeployed.redeploys.located
  have hosted : ∀ row ∈ secondAgentHub.hub.database.services,
      row.serviceIndex = 1 ∧ row.serviceParentAgent = 2 := by
    decide +kernel
  obtain ⟨index, parent⟩ := hosted service located.alive.1
  have moved : ¬ ∀ row ∈ ((handleRedeployService 1 "1" {}).run
      secondAgentHub.hub).2.database.services,
      row.serviceIndex = 1 → row.serviceParentAgent = 2 := by
    decide +kernel
  have stayed := ((stays service located).1 rfl).2
  rw [parent] at stayed
  unfold ParentIs at stayed
  rw [index] at stayed
  exact moved stayed

end ServiceService

end OpticsHub
