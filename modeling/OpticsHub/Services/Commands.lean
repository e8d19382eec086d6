import OpticsHub.Agent.Sending
import OpticsHub.Services.Deploy
import OpticsHub.Workspaces.Releasable

/-!
# Where the commands for a service go

Eight operations of a user send commands for a service. Each looks up the service, or
the workspace of a new one, under the name of the user, and then the agent. The agent
that a service runs on must be linked to the workspace of the service, and so must that
of a new service. The agent that a service is moved to need not be: a workspace that has
asked for an agent is its parent already, and the query for the target does not look at
the connection.
-/
namespace OpticsHub

open Script Async Program Machine

namespace ServiceService

open AgentService AgentGateway

/-! ## The operations -/

inductive ServiceCall where
  | create (owner : Int32) (body : CreateServiceBody)
  | redeploy (owner : Int32) (serviceIdx : Text) (body : RedeployService)
  | delete (owner : Int32) (serviceIdx : Text) (deleteScope : DeleteScope)
  | start (owner : Int32) (serviceIdx : Text)
  | stop (owner : Int32) (serviceIdx : Text)
  | startContainer (owner : Int32) (serviceIdx containerName : Text)
  | stopContainer (owner : Int32) (serviceIdx containerName : Text)
  | restartContainer (owner : Int32) (serviceIdx containerName : Text)

def serviceProgram : ServiceCall → HubProgram Unit
  | .create owner body => do let _ ← handleCreateService owner body
  | .redeploy owner serviceIdx body => do let _ ← handleRedeployService owner serviceIdx body
  | .delete owner serviceIdx deleteScope => do
    let _ ← handleDeleteService owner serviceIdx deleteScope
  | .start owner serviceIdx => do let _ ← handleStartService owner serviceIdx
  | .stop owner serviceIdx => do let _ ← handleStopService owner serviceIdx
  | .startContainer owner serviceIdx containerName => do
    let _ ← handleStartContainer owner serviceIdx containerName
  | .stopContainer owner serviceIdx containerName => do
    let _ ← handleStopContainer owner serviceIdx containerName
  | .restartContainer owner serviceIdx containerName => do
    let _ ← handleRestartContainer owner serviceIdx containerName

/-- The user who makes a call. -/
def ServiceCall.owner : ServiceCall → Int32
  | .create owner _ | .redeploy owner _ _ | .delete owner _ _ | .start owner _ | .stop owner _
  | .startContainer owner _ _ | .stopContainer owner _ _ | .restartContainer owner _ _ => owner

/-- Whether a call is for a service that is not there yet. -/
def ServiceCall.isCreation : ServiceCall → Bool
  | .create _ _ => true
  | _ => false

/-- The service that a command is for. -/
def commandedService : AgentCommand → Option ℕ
  | .deploy command | .redeploy command => some command.serviceIndex
  | .delete serviceIndex _ _ _ => some serviceIndex
  | .start command | .stop command => some command.serviceIndex
  | .containerStart command | .containerStop command | .containerRestart command =>
    some command.serviceIndex
  | .disconnect => none

/-- Calls of users that interleave, while the rest of the Hub does anything. -/
abbrev servicing : Transition (Config ServiceCall Hub Failure Unit) (Move ServiceCall (Hub → Hub))
    (Shown Unit Hub) :=
  observed serviceProgram meanwhile

/-! ## Addressees -/

/-- The workspace of the service of a command: the one in the request for a new service, or
that of the service as it was at a lookup. -/
def InWorkspace (checked : Hub) (command : AgentCommand) (workspaceIdx : ℕ) : ServiceCall → Prop
  | .create _ body => workspaceIdx = body.workspaceIdx
  | _ => ∃ service ∈ checked.database.services,
      commandedService command = some service.serviceIndex ∧
        service.serviceParentWorkspace = workspaceIdx

/-- Among the states that a call has met, it found the workspace of the service to be that
of its user, and the agent to be linked to this workspace. -/
def Accepted (call : ServiceCall) (seen : List Hub) (command : AgentCommand)
    (agentUuid : Text) : Prop :=
  ∃ checked ∈ seen, ∃ looked ∈ seen, ∃ workspaceIdx,
    ownedBy checked.database call.owner workspaceIdx = true ∧
      InWorkspace checked command workspaceIdx call ∧
      ∃ agent ∈ looked.database.agents, agent.agentUuid = agentUuid ∧
        agent.agentConnection = .linked ∧ agent.agentParentWorkspace = some workspaceIdx

/-- Every command that an action sends goes to the socket of an accepted agent. -/
def ToAccepted (call : ServiceCall) : List Hub → Hub → Hub → Prop :=
  SendsOnly fun seen before packet =>
    ∀ socket command, packet = .packet socket (.command command) →
      ∃ agentUuid, Accepted call seen command agentUuid ∧
        getAgentSocket before agentUuid = some socket

/-- The target of a redeployment that its third action looks up, for the service that the
first one has found. -/
def lookedUpTarget : ServiceCall → List Hub → Hub → Option AgentRow
  | .redeploy owner serviceIdx body, [checked, _], hub =>
    (parseServiceIndex serviceIdx).toOption.bind fun serviceIndex =>
      (ownedService owner serviceIndex checked.database).bind fun service =>
        targetAgent body.agentIndex service.serviceParentWorkspace hub.database
  | _, _, _ => none

/-- The target of a redeployment is linked when it is looked up. -/
def TargetLinked (call : ServiceCall) (seen : List Hub) (hub : Hub) : Prop :=
  ∀ target, lookedUpTarget call seen hub = some target → target.agentConnection = .linked

/-! ## What the parts of the operations do -/

section Parts

variable {call : ServiceCall} {seen : List Hub} {fine : List Hub → Hub → Prop} {α : Type}

theorem Accepted.later {command : AgentCommand} {agentUuid : Text} {later : List Hub}
    (accepted : Accepted call seen command agentUuid) (longer : seen <+: later) :
    Accepted call later command agentUuid := by
  obtain ⟨checked, inside, looked, inside', accepted⟩ := accepted
  exact ⟨checked, longer.subset inside, looked, longer.subset inside', accepted⟩

theorem toAccepted_send {agentUuid : Text} {command : AgentCommand} {before after : Hub}
    (accepted : Accepted call seen command agentUuid)
    (sent : after.sent = (sendToAgent agentUuid (.command command) before).2.sent) :
    ToAccepted call seen before after := by
  refine sendsOnly_sendToAgent sent rfl rfl fun socket found other _ same => ?_
  cases same
  exact ⟨agentUuid, accepted, found⟩

/-- `update` on `services` sends nothing and returns the row with the key. -/
theorem updateService_action (serviceIndex : ℕ) (change : ℤ → ServiceRow → ServiceRow)
    (keyed : ∀ now row, (change now row).serviceIndex = row.serviceIndex) :
    ∃ action, updateService serviceIndex change keyed = atomically action ∧
      ∀ hub, (action hub).2.sent = hub.sent ∧
        ∀ row, (action hub).1 = .ok row → row.serviceIndex = serviceIndex := by
  refine ⟨_, rfl, fun hub => ?_⟩
  cases found : hub.database.services.findFirst fun row => row.serviceIndex == serviceIndex with
  | none =>
    simp only [reduceCtorEq, false_imp_iff, implies_true, and_self]
  | some row =>
    have index : row.serviceIndex = serviceIndex := beq_iff_eq.mp (Table.mem_of_findFirst found).2
    by_cases clash : clashes hub.database.services (change hub.now row) = true
    · simp only [if_pos clash, reduceCtorEq, false_imp_iff, implies_true, and_self]
    · simp only [if_neg clash]
      refine ⟨rfl, fun value same => ?_⟩
      rw [← Except.ok.inj same]
      exact (keyed hub.now row).trans index

theorem heeds_updateService {serviceIndex : ℕ} {change : ℤ → ServiceRow → ServiceRow}
    {keyed : ∀ now row, (change now row).serviceIndex = row.serviceIndex}
    {post : ServiceRow → List Hub → Prop}
    (held : ∀ hub row, row.serviceIndex = serviceIndex → post row (seen ++ [hub])) :
    Heeds fine (ToAccepted call) post seen (updateService serviceIndex change keyed) := by
  obtain ⟨action, same, spec⟩ := updateService_action serviceIndex change keyed
  rw [same]
  exact heeds_atomically fun hub _ => ⟨sendsOnly_silent (spec hub).1,
    fun row updated => held hub row ((spec hub).2 row updated)⟩

theorem heeds_failUnsent {serviceIndex workspaceIndex : ℕ} {post : Unit → List Hub → Prop} :
    Heeds fine (ToAccepted call) post seen (failUnsent serviceIndex workspaceIndex) := by
  apply Heeds.bind
  apply heeds_updateService
  intro hub row _
  exact heeds_atomically fun hub _ => ⟨sendsOnly_silent rfl, nofun⟩

theorem heeds_trySend {agentUuid : Text} {command : AgentCommand} {workspaceIndex : ℕ}
    {notify : Bool} {post : Bool → List Hub → Prop}
    (accepted : Accepted call seen command agentUuid)
    (held : ∀ hub sent, post sent (seen ++ [hub])) :
    Heeds fine (ToAccepted call) post seen (trySend agentUuid command workspaceIndex notify) := by
  apply heeds_step
  intro hub _
  refine ⟨toAccepted_send accepted ?_, held hub _⟩
  dsimp only
  split
  · rfl
  · rfl

theorem heeds_sendCommand {agentUuid : Text} {command : AgentCommand}
    {serviceIndex workspaceIndex : ℕ} {notify : Bool} {post : Unit → List Hub → Prop}
    (accepted : Accepted call seen command agentUuid)
    (held : ∀ hub, post () (seen ++ [hub])) :
    Heeds fine (ToAccepted call) post seen
      (sendCommand agentUuid command serviceIndex workspaceIndex notify) := by
  apply Heeds.bind
  apply heeds_trySend accepted
  intro hub sent
  cases sent with
  | true => exact heeds_pure (held hub)
  | false => exact heeds_failUnsent

/-- What a lookup of a service has found: it was owned by the user, and the agent with it. -/
structure LookedUp (owner : Int32) (serviceIdx : Text) (seen later : List Hub)
    (found : ServiceRow × Option AgentRow) : Prop where
  states : ∃ checked looked, later = seen ++ [checked, looked] ∧
    found.2 = agentOfService found.1 looked.database ∧
    ∃ serviceIndex, parseServiceIndex serviceIdx = .ok serviceIndex ∧
      ownedService owner serviceIndex checked.database = some found.1

theorem heeds_findOwnedServiceAndAgent {owner : Int32} {serviceIdx : Text}
    {post : ServiceRow × Option AgentRow → List Hub → Prop}
    (held : ∀ found later, LookedUp owner serviceIdx seen later found → post found later) :
    Heeds fine (ToAccepted call) post seen (findOwnedServiceAndAgent owner serviceIdx) := by
  apply Heeds.bind
  apply heeds_fromExcept
  intro serviceIndex parsed
  apply Heeds.bind
  apply heeds_require
  intro _
  apply Heeds.bind
  apply heeds_read
  intro checked _
  apply Heeds.bind
  apply heeds_orThrow
  intro service found
  apply Heeds.bind
  apply heeds_read
  intro looked _
  apply heeds_pure
  apply held
  exact ⟨checked, looked, by simp, rfl, serviceIndex, parsed, found⟩

/-- The workspace of an owned service is the user's. -/
theorem ownedService_spec {owner : Int32} {serviceIndex : ℕ} {database : Database}
    {service : ServiceRow} (found : ownedService owner serviceIndex database = some service) :
    service ∈ database.services ∧
      ownedBy database owner service.serviceParentWorkspace = true := by
  obtain ⟨inside, selected⟩ := Table.mem_of_findFirst found
  rw [Bool.and_eq_true] at selected
  exact ⟨inside, selected.2⟩

theorem agentOfService_spec {service : ServiceRow} {database : Database} {agent : AgentRow}
    (found : agentOfService service database = some agent) :
    agent ∈ database.agents ∧ agent.agentConnection = .linked ∧
      agent.agentParentWorkspace = some service.serviceParentWorkspace := by
  obtain ⟨inside, selected⟩ := Table.mem_of_findFirst found
  simp only [Bool.and_eq_true, beq_iff_eq] at selected
  exact ⟨inside, selected.1.2, selected.1.1.2⟩

/-- A command for the service that was looked up may go to the agent that was found with it. -/
theorem LookedUp.accepted {owner : Int32} {serviceIdx : Text} {later : List Hub}
    {found : ServiceRow × Option AgentRow} (lookedUp : LookedUp owner serviceIdx seen later found)
    {agent : AgentRow} (linked : found.2 = some agent) {command : AgentCommand}
    (commanded : commandedService command = some found.1.serviceIndex)
    (user : call.owner = owner) (existing : call.isCreation = false) :
    Accepted call later command agent.agentUuid := by
  obtain ⟨checked, looked, rfl, agents, serviceIndex, -, owned⟩ := lookedUp.states
  rw [linked] at agents
  obtain ⟨inside, mine⟩ := ownedService_spec owned
  obtain ⟨inside', connection, parent⟩ := agentOfService_spec agents.symm
  refine ⟨checked, by simp, looked, by simp, found.1.serviceParentWorkspace, user ▸ mine, ?_, agent,
    inside', rfl, connection, parent⟩
  cases call with
  | create owner body => cases existing
  | _ => exact ⟨found.1, inside, commanded, rfl⟩

theorem heeds_commandService {owner : Int32} {serviceIdx : Text} {removed : String}
    {command : ServiceRow → AgentCommand} {notify : Bool} {post : ℕ → List Hub → Prop}
    (commanded : ∀ service, commandedService (command service) = some service.serviceIndex)
    (user : call.owner = owner) (existing : call.isCreation = false)
    (held : ∀ index later, seen <+: later → post index later) :
    Heeds fine (ToAccepted call) post seen
      (commandService owner serviceIdx removed command notify) := by
  apply Heeds.bind
  apply heeds_findOwnedServiceAndAgent
  intro found later lookedUp
  apply Heeds.bind
  apply heeds_require
  intro _
  apply Heeds.bind
  apply heeds_orThrow
  intro agent linked
  apply Heeds.bind
  apply heeds_sendCommand (lookedUp.accepted linked (commanded found.1) user existing)
  intro hub
  apply heeds_pure
  apply held
  obtain ⟨checked, looked, rfl, -⟩ := lookedUp.states
  simp

theorem heeds_ensureDefaultComponent {serviceIndex : ℕ} {serviceName : Text}
    {deployPreset : DeployPreset} {post : Unit → List Hub → Prop}
    (held : ∀ hub, post () (seen ++ [hub])) :
    Heeds fine (ToAccepted call) post seen
      (ensureDefaultComponent serviceIndex serviceName deployPreset) :=
  heeds_write (fun _ => rfl) fun hub _ => held hub

theorem heeds_checkEndpoints {serviceIndex workspaceIndex : ℕ} {endpoints : List ServiceEndpoint}
    {post : Unit → List Hub → Prop} (held : ∀ later, seen <+: later → post () later) :
    Heeds fine (ToAccepted call) post seen
      (checkEndpoints serviceIndex workspaceIndex endpoints) := by
  apply Heeds.bind
  apply heeds_require
  intro _
  split
  · exact heeds_pure (held seen (List.prefix_refl seen))
  · apply Heeds.bind
    apply heeds_read
    intro hub _
    apply heeds_require
    intro _
    exact held _ (List.prefix_append seen [hub])

theorem heeds_replaceServiceEndpoints {serviceIndex workspaceIndex : ℕ}
    {endpoints : List ServiceEndpoint} {post : Unit → List Hub → Prop}
    (held : ∀ later, seen <+: later → post () later) :
    Heeds fine (ToAccepted call) post seen
      (replaceServiceEndpoints serviceIndex workspaceIndex endpoints) := by
  apply Heeds.bind
  apply heeds_checkEndpoints
  intro checked first
  apply Heeds.bind
  apply heeds_write (fun _ => rfl)
  intro hub _
  split
  · exact heeds_pure (held _ (first.trans (List.prefix_append checked [hub])))
  · apply heeds_write (fun _ => rfl)
    intro hub' _
    refine held _ (first.trans ?_)
    rw [List.append_assoc]
    exact List.prefix_append checked _

end Parts

/-! ## What the operations do -/

section Operations

variable {call : ServiceCall} {seen : List Hub} {fine : List Hub → Hub → Prop}

theorem heeds_prepareCreation {owner : Int32} {body : CreateServiceBody}
    {post : AgentRow × Deployment → List Hub → Prop}
    (held : ∀ agent deployment later,
      (∀ command, Accepted (.create owner body) later command agent.agentUuid) →
        post (agent, deployment) later) :
    Heeds fine (ToAccepted (.create owner body)) post seen (prepareCreation owner body) := by
  apply Heeds.bind
  apply heeds_read
  intro checked _
  apply Heeds.bind
  apply heeds_require
  intro owned
  apply Heeds.bind
  apply heeds_read
  intro looked _
  apply Heeds.bind
  apply heeds_orThrow
  intro agent found
  apply Heeds.bind
  apply heeds_read
  intro named _
  apply Heeds.bind
  apply heeds_require
  intro _
  apply Heeds.bind
  apply heeds_fromExcept
  intro deployment _
  apply heeds_pure
  apply held
  intro command
  obtain ⟨inside, selected⟩ := Table.mem_of_findFirst found
  simp only [Bool.and_eq_true, beq_iff_eq] at selected
  exact ⟨checked, by simp, looked, by simp, body.workspaceIdx, owned, rfl, agent, inside, rfl,
    selected.1.2, selected.1.1.2⟩

theorem heeds_deployNew {owner : Int32} {body : CreateServiceBody} {agent : AgentRow}
    {deployment : Deployment}
    (accepted : ∀ command, Accepted (.create owner body) seen command agent.agentUuid) :
    Heeds fine (ToAccepted (.create owner body)) (fun _ _ => True) seen
      (deployNew body agent deployment) := by
  apply Heeds.bind
  apply heeds_write (fun _ => rfl)
  intro created _
  apply Heeds.bind
  apply heeds_ensureDefaultComponent
  intro ensured
  apply Heeds.bind
  apply heeds_replaceServiceEndpoints
  intro later longer
  apply Heeds.bind
  apply heeds_sendCommand
  · refine (accepted _).later (List.IsPrefix.trans ?_ longer)
    rw [List.append_assoc]
    exact List.prefix_append seen _
  · exact fun _ => heeds_pure trivial

theorem heeds_handleCreateService (owner : Int32) (body : CreateServiceBody) :
    Heeds fine (ToAccepted (.create owner body)) (fun _ _ => True) seen
      (handleCreateService owner body) := by
  apply Heeds.bind
  apply heeds_prepareCreation
  intro agent deployment later accepted
  exact heeds_deployNew accepted

theorem heeds_handleDeleteService (owner : Int32) (serviceIdx : Text) (deleteScope : DeleteScope) :
    Heeds fine (ToAccepted (.delete owner serviceIdx deleteScope)) (fun _ _ => True) seen
      (handleDeleteService owner serviceIdx deleteScope) := by
  apply Heeds.bind
  apply heeds_findOwnedServiceAndAgent
  intro found later lookedUp
  apply Heeds.bind
  apply heeds_orThrow
  intro agent linked
  apply Heeds.bind
  apply heeds_trySend (lookedUp.accepted linked rfl rfl rfl)
  intro hub sent
  apply Heeds.bind
  apply heeds_require
  intro _
  apply Heeds.bind
  apply heeds_updateService
  intro hub' row _
  exact heeds_write (fun _ => rfl) fun _ _ => trivial

theorem heeds_checkRedeployment {body : RedeployService} {rawService : ServiceRow}
    {post : List ServiceSourceRepository × List ServicePortMapping × Option EndpointRow ×
      Members Text → List Hub → Prop}
    (held : ∀ checks later, seen <+: later → post checks later) :
    Heeds fine (ToAccepted call) post seen (checkRedeployment body rawService) := by
  apply Heeds.bind
  apply heeds_fromExcept
  intro sources _
  apply Heeds.bind
  apply heeds_read
  intro hub _
  apply Heeds.bind
  apply heeds_fromExcept
  intro env _
  have last (later : List Hub) (longer : seen <+: later) :
      Heeds fine (ToAccepted call) post later (pure (sources.1, sources.2,
        existingPrimaryEndpoint rawService.serviceIndex hub.database, env) :
          HubProgram (List ServiceSourceRepository × List ServicePortMapping ×
            Option EndpointRow × Members Text)) :=
    heeds_pure (held _ _ longer)
  split
  · split
    · exact last _ (List.prefix_append seen [hub])
    · apply Heeds.bind
      apply heeds_read
      intro named _
      apply Heeds.bind
      apply heeds_require
      intro _
      apply last
      rw [List.append_assoc]
      exact List.prefix_append seen _
  · exact last _ (List.prefix_append seen [hub])

theorem heeds_deployAgain {body : RedeployService} {rawService : ServiceRow} {target : AgentRow}
    {repositories : List ServiceSourceRepository} {portMappings : List ServicePortMapping}
    {primary : Option EndpointRow} {env : Members Text}
    (accepted : ∀ command, commandedService command = some rawService.serviceIndex →
      Accepted call seen command target.agentUuid) :
    Heeds fine (ToAccepted call) (fun _ _ => True) seen
      (deployAgain body rawService target repositories portMappings primary env) := by
  apply Heeds.bind
  apply heeds_updateService
  intro updated row index
  apply Heeds.bind
  apply heeds_fromExcept
  intro endpoints _
  apply Heeds.bind
  apply heeds_ensureDefaultComponent
  intro ensured
  apply Heeds.bind
  apply heeds_replaceServiceEndpoints
  intro later longer
  apply Heeds.bind
  apply heeds_sendCommand
  · refine (accepted (.redeploy (redeployCommand row repositories portMappings env))
      (congrArg some index)).later (List.IsPrefix.trans ?_ longer)
    rw [List.append_assoc]
    exact List.prefix_append seen _
  · exact fun _ => heeds_pure trivial

/-- The commands of a redeployment go to accepted agents if its target is linked. -/
theorem heeds_handleRedeployService (owner : Int32) (serviceIdx : Text) (body : RedeployService) :
    Heeds (TargetLinked (.redeploy owner serviceIdx body))
      (ToAccepted (.redeploy owner serviceIdx body)) (fun _ _ => True) []
      (handleRedeployService owner serviceIdx body) := by
  apply Heeds.bind
  apply heeds_findOwnedServiceAndAgent
  intro found _ lookedUp
  obtain ⟨checked, looked, rfl, -, serviceIndex, parsed, owned⟩ := lookedUp.states
  apply Heeds.bind
  apply heeds_read
  intro hub linked
  apply Heeds.bind
  apply heeds_orThrow
  intro target here
  have accepted (command : AgentCommand)
      (commanded : commandedService command = some found.1.serviceIndex) :
      Accepted (.redeploy owner serviceIdx body) [checked, looked, hub] command
        target.agentUuid := by
    obtain ⟨inside, mine⟩ := ownedService_spec owned
    obtain ⟨inside', selected⟩ := Table.mem_of_findFirst here
    simp only [Bool.and_eq_true, beq_iff_eq] at selected
    have connection : target.agentConnection = .linked := by
      apply linked
      change (parseServiceIndex serviceIdx).toOption.bind _ = _
      rw [parsed, Except.toOption, Option.bind_some, owned, Option.bind_some]
      exact here
    exact ⟨checked, by simp, hub, by simp, found.1.serviceParentWorkspace, mine,
      ⟨found.1, inside, commanded, rfl⟩, target, inside', rfl, connection, selected.1.1.2⟩
  have deploys (later : List Hub) (longer : [checked, looked, hub] <+: later) :
      Heeds (TargetLinked (.redeploy owner serviceIdx body))
        (ToAccepted (.redeploy owner serviceIdx body)) (fun _ _ => True) later (do
          let checks ← checkRedeployment body found.1
          deployAgain body found.1 target checks.1 checks.2.1 checks.2.2.1 checks.2.2.2) := by
    apply Heeds.bind
    apply heeds_checkRedeployment
    intro checks later' longer'
    apply heeds_deployAgain
    intro command commanded
    exact (accepted command commanded).later (longer.trans longer')
  split
  · apply Heeds.bind
    apply heeds_commandService (fun _ => rfl) rfl rfl
    exact fun index later longer => deploys later longer
  · exact deploys _ (List.prefix_refl _)

/-- The commands of every operation go to accepted agents. -/
theorem heeds_serviceProgram (call : ServiceCall) :
    Heeds (TargetLinked call) (ToAccepted call) (fun _ _ => True) [] (serviceProgram call) := by
  have ended {α : Type} {program : HubProgram α}
      (held : Heeds (TargetLinked call) (ToAccepted call) (fun _ _ => True) [] program) :
      Heeds (TargetLinked call) (ToAccepted call) (fun _ _ => True) []
        (do let _ ← program : HubProgram Unit) :=
    Heeds.bind (held.mono fun _ _ _ _ => heeds_pure trivial)
  cases call with
  | create owner body => exact ended (heeds_handleCreateService owner body)
  | redeploy owner serviceIdx body => exact ended (heeds_handleRedeployService owner serviceIdx body)
  | delete owner serviceIdx deleteScope =>
    exact ended (heeds_handleDeleteService owner serviceIdx deleteScope)
  | start owner serviceIdx =>
    exact ended (heeds_commandService (fun _ => rfl) rfl rfl fun _ _ _ => trivial)
  | stop owner serviceIdx =>
    exact ended (heeds_commandService (fun _ => rfl) rfl rfl fun _ _ _ => trivial)
  | startContainer owner serviceIdx containerName =>
    exact ended (heeds_commandService (fun _ => rfl) rfl rfl fun _ _ _ => trivial)
  | stopContainer owner serviceIdx containerName =>
    exact ended (heeds_commandService (fun _ => rfl) rfl rfl fun _ _ _ => trivial)
  | restartContainer owner serviceIdx containerName =>
    exact ended (heeds_commandService (fun _ => rfl) rfl rfl fun _ _ _ => trivial)

end Operations

instance (call : ServiceCall) (seen : List Hub) (hub : Hub) :
    Decidable (TargetLinked call seen hub) :=
  decidable_of_iff ((lookedUpTarget call seen hub).all (fun target =>
      target.agentConnection == .linked) = true) (by
    rw [Option.all_eq_true]
    exact forall_congr' fun target => imp_congr_right fun _ => beq_iff_eq)

/-! ## Runs -/

/-- In every run, whatever happens in between, the commands for services go to agents that
were linked to the workspace of the service when they were looked up, if each target of a
redeployment is linked when that looks it up. -/
theorem commands_to_accepted (start : Hub) (moves : List (Move ServiceCall (Hub → Hub)))
    (linked : Along servicing (Met TargetLinked) [] { state := start } moves) :
    Along servicing (Permitted serviceProgram meanwhile ToAccepted) []
      { state := start } moves :=
  permitted_along heeds_serviceProgram start moves linked

/-- An agent that is linked to the first of two workspaces. -/
def linkedAgentHub : Hub :=
  final (WorkspaceService.serve fixedPlatform) WorkspaceService.twoWorkspaces
    WorkspaceService.linkingCalls

/-- The owner of the first workspace creates a service on the agent. -/
def createsService : List (Move ServiceCall (Hub → Hub)) :=
  .start (.create 1 {
    workspaceIdx := 1
    serviceName := "api"
    servicePort := some 80
    serviceSourceUrl := .string "https://example.org/api.git"
    serviceVersion := "1"
    serviceDeployPreset := .dockerfile
    agentIndex := 1 }) :: List.replicate 8 (.resume 0)

/-- A new deployment up to its last action, which sends the command. -/
def redeploysService : List (Move ServiceCall (Hub → Hub)) :=
  .start (.redeploy 1 "1" {}) :: List.replicate 8 (.resume 1)

theorem commands_to_accepted_redeployed :
    Along servicing (Permitted serviceProgram meanwhile ToAccepted) []
      { state := linkedAgentHub } (createsService ++ (redeploysService ++ [.resume 1])) := by
  apply commands_to_accepted
  decide +kernel

/-- The workspace releases the agent, which connects again, and asks for it once more. -/
def askedAgain (hub : Hub) : Hub :=
  final (WorkspaceService.serve fixedPlatform) hub
    [.disconnectAgent 1 1 "C",
      .meanwhile (fun _ => { connected := true, data.signingSecret := some "secret" }) [("U", 0)] 2,
      .requestConnect 1 1 "C" "owner"]

/-- Whether a packet is a command. -/
def isCommand : Outgoing → Bool
  | .packet _ (.command _) => true
  | _ => false

/-- A command is not sent to an accepted agent when no agent was linked. -/
theorem not_toAccepted {call : ServiceCall} {seen : List Hub} {before after : Hub}
    (commanded : (after.sent.drop before.sent.length).any isCommand = true)
    (unlinked : ∀ looked ∈ seen, ∀ agent ∈ looked.database.agents.rows,
      agent.agentConnection ≠ .linked) : ¬ ToAccepted call seen before after := by
  intro permitted
  obtain ⟨packet, sent, kind⟩ := List.any_eq_true.mp commanded
  cases packet with
  | packet socket packet =>
    cases packet with
    | command command =>
      obtain ⟨_, ⟨_, -, looked, met, _, -, -, agent, inside, -, linked, -⟩, -⟩ :=
        permitted _ sent socket command rfl
      exact unlinked looked met agent inside linked
    | _ => cases kind
  | _ => cases kind

/-- The service is deployed again on the agent that has not accepted. -/
theorem not_commands_to_accepted_asked :
    ¬ Along servicing (Permitted serviceProgram meanwhile ToAccepted) []
      { state := linkedAgentHub }
      ((createsService ++ .event askedAgain :: redeploysService) ++ [.resume 1]) := by
  intro permitted
  have last := ((along_append _ _).mp permitted).2.1
  refine not_toAccepted ?_ ?_ (last (Option.get _ (by decide +kernel)) (Option.some_get _).symm
    (Option.isNone_iff_eq_none.mp (by decide +kernel)))
  · decide +kernel
  · decide +kernel

end ServiceService

end OpticsHub
