import OpticsHub.Script.Whole
import OpticsHub.Services.Commands

/-!
# What a rejected deployment leaves behind

A deployment is rejected by a check with one of three statuses. Most checks come before
the first write, and a call that they reject leaves no trace. The checks of the endpoints
come after the row of the service is written and its default component made, and when a
redeployment leaves its agent, all checks but the first two come after the command that
stops the service there. So a rejection is without effect exactly if it does not come from
these, or if what was written before it was there already.
-/
namespace OpticsHub

open Script Async Program

namespace Failure

/-- The status of a request that is refused for what it asks: 400, 404 or 409. -/
def isRejection : Failure → Bool
  | .http status _ | .tunnel status _ _ => status == 400 || status == 404 || status == 409
  | .internal => false

/-- The status of a request that is refused for what another one has: 409. -/
def isConflict : Failure → Bool
  | .http status _ | .tunnel status _ _ => status == 409
  | .internal => false

end Failure

namespace ServiceService

open AgentGateway AgentService

/-! ## The property and its condition -/

/-- The services, their components and their endpoints are as before, and nothing was sent. -/
def Unchanged (before after : Hub) : Prop :=
  after.database.services.rows = before.database.services.rows ∧
    after.database.serviceComponents.rows = before.database.serviceComponents.rows ∧
    after.database.serviceEndpoints.rows = before.database.serviceEndpoints.rows ∧
    after.sent = before.sent

/-- Whether a call ends with a rejection. -/
def isRejected {α : Type} : Except Failure α → Bool
  | .ok _ => false
  | .error failure => failure.isRejection

/-- The subdomains of endpoints are distinct, and no other service of the workspace has one
of them. -/
def EndpointsFree (workspaceIndex serviceIndex : ℕ) (endpoints : List ServiceEndpoint)
    (database : Database) : Prop :=
  (publicSubdomains endpoints).Nodup ∧
    takenEndpoint workspaceIndex serviceIndex (publicSubdomains endpoints) database = none

/-- A request for a new service passes the checks before its row is written. -/
structure CreationAccepted (owner : Int32) (body : CreateServiceBody) (database : Database)
    (deployment : Deployment) : Prop where
  owned : ownedBy database owner body.workspaceIdx = true
  linked : (linkedAgent body.agentIndex body.workspaceIdx database).isSome = true
  unnamed : namesake body.workspaceIdx body.serviceName none database = none
  normalized : createDeployment body = .ok deployment

/-- The service that a request is about. -/
def Located (owner : Int32) (serviceIdx : Text) (database : Database) (service : ServiceRow) :
    Prop :=
  ∃ index, parseServiceIndex serviceIdx = .ok index ∧ index < 2 ^ 31 ∧
    ownedService owner index database = some service

/-- `STOP` reaches the agent of a service. -/
def StopReaches (hub : Hub) (service : ServiceRow) : Prop :=
  service.serviceStatus ≠ .removed ∧ ∃ agent, agentOfService service hub.database = some agent ∧
    ∃ socket, getAgentSocket hub agent.agentUuid = some socket ∧
      hasSecret (hub.sockets socket).data.signingSecret = true

/-- A redeployment asks for another name, and it is taken. -/
def NameTaken (body : RedeployService) (service : ServiceRow) (database : Database) : Prop :=
  ∃ name, body.serviceName = some name ∧ name ≠ [] ∧ name ≠ service.serviceName ∧
    namesake service.serviceParentWorkspace name (some service.serviceIndex) database ≠ none

/-- The environment of a redeployment. -/
def redeployedEnv (body : RedeployService) (service : ServiceRow) :
    Except Failure (Members Text) :=
  normalizeEnv (body.env.getD (service.serviceEnv.getD .null))

/-- A redeployment passes the checks before the row of its service is written. -/
structure Prepared (body : RedeployService) (service : ServiceRow) (database : Database)
    (repositories : List ServiceSourceRepository) (portMappings : List ServicePortMapping)
    (env : Members Text) : Prop where
  source : redeploySourceAndPorts body service = .ok (repositories, portMappings)
  environment : redeployedEnv body service = .ok env
  unnamed : ¬ NameTaken body service database

/-- The endpoints of a redeployment, for the row that it writes. -/
def redeployedEndpoints (body : RedeployService) (service updated : ServiceRow)
    (portMappings : List ServicePortMapping) (database : Database) :
    Except Failure (List ServiceEndpoint) :=
  normalizeEndpoints body.serviceEndpoints portMappings updated.serviceName
    updated.serviceDeployPreset
    (((existingPrimaryEndpoint service.serviceIndex database).bind
      EndpointRow.endpointSubdomain).or service.serviceSubdomain)

section Parts

variable {kept : Hub → Prop} {hub : Hub}

/-- Without a subdomain there is nothing to be taken. -/
theorem takenEndpoint_nil (workspaceIndex serviceIndex : ℕ) (database : Database) :
    takenEndpoint workspaceIndex serviceIndex [] database = none := by
  rw [takenEndpoint, Table.findFirst_eq_none]
  intro row _
  cases row.endpointSubdomain <;> simp

/-- The three ways in which the check of endpoints ends. -/
theorem wp_checked (serviceIndex workspaceIndex : ℕ) (endpoints : List ServiceEndpoint)
    {post : Unit → Hub → Prop} {fail : Failure → Hub → Prop} :
    wp (checkEndpoints serviceIndex workspaceIndex endpoints) post fail hub ↔
      (EndpointsFree workspaceIndex serviceIndex endpoints hub.database → post () hub) ∧
      (¬ (publicSubdomains endpoints).Nodup → fail duplicateEndpointSubdomain hub) ∧
      ((publicSubdomains endpoints).Nodup → takenEndpoint workspaceIndex serviceIndex
        (publicSubdomains endpoints) hub.database ≠ none → fail endpointSubdomainInUse hub) := by
  have free := takenEndpoint_nil workspaceIndex serviceIndex hub.database
  rw [checkEndpoints, wp_bind, wp_require, EndpointsFree]
  by_cases distinct : (publicSubdomains endpoints).Nodup
  · by_cases empty : publicSubdomains endpoints = []
    · simp [empty, free]
    · simp [distinct, empty]
  · simp [distinct]

theorem keyed_now (change : ℤ → ServiceRow → ServiceRow)
    (keyed : ∀ now row, (change now row).serviceIndex = row.serviceIndex) (hub : Hub) :
    ∀ row, (change hub.now row).serviceIndex = row.serviceIndex :=
  keyed hub.now

/-- The row of a service after a write. -/
def rewritten (serviceIndex : ℕ) (change : ℤ → ServiceRow → ServiceRow)
    (keyed : ∀ now row, (change now row).serviceIndex = row.serviceIndex) (hub : Hub) : Hub :=
  hub.write fun database =>
    { database with
      services := database.services.updateMany (fun other => other.serviceIndex == serviceIndex)
        (change hub.now) (keyed_now change keyed hub) }

/-- The write to the row of a service is made if it is there and takes no address of another. -/
theorem wp_rewrite (serviceIndex : ℕ) (change : ℤ → ServiceRow → ServiceRow)
    (keyed : ∀ now row, (change now row).serviceIndex = row.serviceIndex)
    {post : ServiceRow → Hub → Prop} {fail : Failure → Hub → Prop} (here : fail .internal hub) :
    wp (updateService serviceIndex change keyed) post fail hub ↔
      ∀ row, hub.database.services.findFirst (fun row => row.serviceIndex == serviceIndex) =
          some row →
        clashes hub.database.services (change hub.now row) = false →
        post (change hub.now row) (rewritten serviceIndex change keyed hub) := by
  cases found : hub.database.services.findFirst fun row => row.serviceIndex == serviceIndex with
  | none =>
    rw [updateService, wp_atomically_error (by rw [found])]
    simp [here]
  | some row =>
    by_cases clash : clashes hub.database.services (change hub.now row) = true
    · rw [updateService, wp_atomically_error (by rw [found]; exact if_pos clash)]
      simp [here, clash]
    · rw [updateService, wp_atomically_ok (by rw [found]; exact if_neg clash)]
      simp [clash, rewritten]

/-- A command is sent, or the call fails in a way that asks for nothing. -/
theorem wp_sendCommand {fail : Failure → Hub → Prop} (agentUuid : Text) (command : AgentCommand)
    (serviceIndex workspaceIndex : ℕ) (notify : Bool) {post : Unit → Hub → Prop}
    (unsent : ∀ hub post, wp (failUnsent serviceIndex workspaceIndex) post fail hub) :
    wp (sendCommand agentUuid command serviceIndex workspaceIndex notify) post fail hub ↔
      ((sendToAgent agentUuid (.command command) hub).1 = true →
        post () (if notify then
          (sendToAgent agentUuid (.command command) hub).2.notifyWorkspaceUpdated
            (some workspaceIndex)
          else (sendToAgent agentUuid (.command command) hub).2)) := by
  rw [sendCommand, wp_bind, trySend, wp_step]
  cases sent : (sendToAgent agentUuid (.command command) hub).1 with
  | false => simp [unsent]
  | true => simp [sent]

end Parts

/-! ## Requests that cannot be normalised -/

/-- A failure that does not say that an address is taken. -/
def NotInUse (failure : Failure) : Prop :=
  failure ≠ endpointSubdomainInUse ∧ failure ≠ subdomainInUse

instance (failure : Failure) : Decidable (NotInUse failure) := inferInstanceAs (Decidable (_ ∧ _))

theorem notInUse_of_noConflict {failure : Failure} (allowed : failure.isConflict = false) :
    NotInUse failure := by
  refine ⟨?_, ?_⟩ <;> rintro rfl <;> cases allowed

/-- A computation is never refused for what another service has. -/
abbrev NoConflict {α : Type} (result : Except Failure α) : Prop :=
  FailsAs (fun failure => failure.isConflict = false) result

theorem failsAs_textOf {ways : Failure → Prop} (internal : ways .internal) (value : Value) :
    FailsAs ways (textOf value) := by
  rw [textOf]
  split
  · exact failsAs_ok _
  · exact failsAs_error internal

theorem failsAs_normalizeEnv {ways : Failure → Prop} (internal : ways .internal) (env : Value) :
    FailsAs ways (normalizeEnv env) := by
  cases env with
  | object members =>
    exact failsAs_mapM _ fun entry => (failsAs_textOf internal _).bind fun _ => failsAs_ok _
  | _ => exact failsAs_ok _

theorem noConflict_textOf (value : Value) : NoConflict (textOf value) := by
  apply failsAs_textOf
  rfl

theorem noConflict_normalizeRootDirectory (rootDirectory : Value) :
    NoConflict (normalizeRootDirectory rootDirectory) := by
  rw [normalizeRootDirectory]
  exact (noConflict_textOf _).bind fun _ => failsAs_ok _

theorem noConflict_sourceEntry (entry : Value) : NoConflict (sourceEntry entry) := by
  rw [sourceEntry.eq_def]
  split
  · exact failsAs_ok _
  · split
    · refine (noConflict_textOf _).bind fun _ => ?_
      exact (noConflict_normalizeRootDirectory _).bind fun _ => failsAs_ok _
    · exact failsAs_ok _

theorem noConflict_normalizeSourceRepositories (input fallbackRootDirectory : Value) :
    NoConflict (normalizeSourceRepositories input fallbackRootDirectory) := by
  have trimmed (entries : List ServiceSourceRepository) : NoConflict (do
      let normalized ← entries.mapM fun entry => do
        let rootDirectory ← normalizeRootDirectory (nullable entry.rootDirectory)
        return ({ url := entry.url.trim, rootDirectory := rootDirectory } : ServiceSourceRepository)
      let normalized := normalized.filter fun entry => !entry.url.isEmpty
      if normalized.isEmpty then throw (.badRequest "At least one source repository is required.")
      return normalized) := by
    refine FailsAs.bind (failsAs_mapM _ fun entry => ?_) fun normalized => ?_
    · exact (noConflict_normalizeRootDirectory _).bind fun _ => failsAs_ok _
    · dsimp only
      split
      · exact failsAs_error rfl
      · exact failsAs_ok _
  rw [normalizeSourceRepositories.eq_def]
  dsimp only
  split
  · exact (noConflict_normalizeRootDirectory _).bind fun _ => trimmed _
  · exact FailsAs.bind (failsAs_mapM _ noConflict_sourceEntry) fun _ => trimmed _
  · exact trimmed []

theorem noConflict_portOf (value : Value) : NoConflict (portOf value) := by
  refine FailsAs.bind ?_ fun _ => failsAs_ok _
  rw [numberOf]
  split
  · exact failsAs_ok _
  · exact failsAs_error rfl

theorem noConflict_portMapping (entry : Value) : NoConflict (portMapping entry) := by
  rw [portMapping]
  split
  · exact failsAs_ok _
  · refine (noConflict_portOf _).bind fun _ => (noConflict_portOf _).bind fun _ => ?_
    split <;> exact failsAs_ok _

theorem noConflict_checkDuplicates (before mappings : List ServicePortMapping) :
    NoConflict (checkDuplicates before mappings) := by
  induction mappings generalizing before with
  | nil => exact failsAs_ok _
  | cons mapping rest ih =>
    rw [checkDuplicates]
    split
    · exact failsAs_error rfl
    · split
      · exact failsAs_error rfl
      · exact ih _

theorem noConflict_normalizePortMappings (input : Value)
    (fallbackHostPort fallbackContainerPort : Option ℤ) :
    NoConflict (normalizePortMappings input fallbackHostPort fallbackContainerPort) := by
  refine (failsAs_mapM _ noConflict_portMapping).bind fun entries => ?_
  generalize entries.reduceOption = given
  dsimp only
  have checked (mappings : List ServicePortMapping) : NoConflict (do
      if mappings.isEmpty then throw (.badRequest "At least one port mapping is required.")
      checkDuplicates [] mappings
      return mappings) := by
    split
    · exact failsAs_error rfl
    · exact (noConflict_checkDuplicates _ _).bind fun _ => failsAs_ok _
  split <;> exact checked _

theorem noConflict_assertServiceSubdomainFormat (subdomain : Option Text) :
    NoConflict (assertServiceSubdomainFormat subdomain) := by
  rw [assertServiceSubdomainFormat.eq_def]
  split
  · exact failsAs_ok _
  · exact failsAs_ok _
  · split
    · exact failsAs_ok _
    · exact failsAs_error rfl

theorem noConflict_endpointOf (defaultName : Text) (entry : Value) :
    NoConflict (endpointOf defaultName entry) := by
  rw [endpointOf]
  split
  · exact failsAs_ok _
  · refine (noConflict_portOf _).bind fun _ => (noConflict_portOf _).bind fun _ => ?_
    split
    · dsimp only
      split
      · refine FailsAs.bind (failsAs_ok _) fun given => ?_
        refine (noConflict_assertServiceSubdomainFormat _).bind fun _ => ?_
        exact (noConflict_textOf _).bind fun _ => failsAs_ok _
      · refine FailsAs.bind ((noConflict_textOf _).map _) fun given => ?_
        refine (noConflict_assertServiceSubdomainFormat _).bind fun _ => ?_
        exact (noConflict_textOf _).bind fun _ => failsAs_ok _
    · exact failsAs_ok _

theorem noConflict_normalizeEndpoints (input : Value) (portMappings : List ServicePortMapping)
    (serviceName : Text) (deployPreset : DeployPreset) (existingPrimarySubdomain : Option Text) :
    NoConflict (normalizeEndpoints input portMappings serviceName deployPreset
      existingPrimarySubdomain) := by
  refine (failsAs_mapM _ (noConflict_endpointOf _)).bind fun entries => ?_
  dsimp only
  split <;> exact failsAs_ok _

theorem noConflict_createDeployment (body : CreateServiceBody) :
    NoConflict (createDeployment body) := by
  refine (noConflict_normalizeSourceRepositories _ _).bind fun _ => ?_
  refine (noConflict_normalizePortMappings _ _ _).bind fun _ => ?_
  refine (noConflict_normalizeEndpoints _ _ _ _ _).bind fun _ => ?_
  refine FailsAs.bind ?_ fun _ => failsAs_ok _
  apply failsAs_normalizeEnv
  rfl

theorem noConflict_requestedEndpoints (service : ServiceRow) (given : Value) :
    NoConflict (requestedEndpoints service given) :=
  (noConflict_normalizePortMappings _ _ _).bind fun _ => noConflict_normalizeEndpoints _ _ _ _ _

theorem noConflict_redeploySourceAndPorts (body : RedeployService) (service : ServiceRow) :
    NoConflict (redeploySourceAndPorts body service) := by
  refine (noConflict_normalizeSourceRepositories _ _).bind fun _ => ?_
  refine (noConflict_normalizePortMappings _ _ _).bind fun _ => ?_
  dsimp only
  split
  · exact (noConflict_normalizePortMappings _ _ _).bind fun _ => failsAs_ok _
  · exact failsAs_ok _

theorem noConflict_parseServiceIndex (serviceIdx : Text) :
    NoConflict (parseServiceIndex serviceIdx) := by
  rw [parseServiceIndex]
  split
  · split
    · exact failsAs_ok _
    · exact failsAs_error rfl
  · exact failsAs_error rfl

/-! ## Creation -/

/-- The lookup of a service and its agent. -/
theorem wp_findOwnedServiceAndAgent {fail : Failure → Hub → Prop} {hub : Hub}
    (here : ∀ failure, failure.isConflict = false → fail failure hub) (owner : Int32) (serviceIdx : Text)
    {post : ServiceRow × Option AgentRow → Hub → Prop} :
    wp (findOwnedServiceAndAgent owner serviceIdx) post fail hub ↔
      ∀ service, Located owner serviceIdx hub.database service →
        post (service, agentOfService service hub.database) hub := by
  have parse : ∀ failure, parseServiceIndex serviceIdx = .error failure → fail failure hub :=
    fun failure failed => here failure (noConflict_parseServiceIndex serviceIdx failure failed)
  have bound : fail .internal hub := here _ rfl
  have missing : fail serviceNotFound hub := here _ rfl
  simp only [findOwnedServiceAndAgent, wp_bind, wp_fromExcept, wp_require, wp_look, wp_orThrow,
    wp_pure, bound, missing, implies_true, and_true, Located]
  constructor
  · rintro ⟨held, -⟩ service ⟨index, parsed, bounded, owned⟩
    exact held index parsed bounded service owned
  · intro held
    exact ⟨fun index parsed bounded service owned => held service ⟨index, parsed, bounded, owned⟩,
      parse⟩

/-- A service that is found is found by its own index. -/
theorem Located.self {owner : Int32} {serviceIdx : Text} {database : Database}
    {service : ServiceRow} (located : Located owner serviceIdx database service)
    (other : ServiceRow) :
    Located owner (decimalText service.serviceIndex) database other ↔ other = service := by
  obtain ⟨index, parsed, bounded, owned⟩ := located
  have same : service.serviceIndex = index := by
    obtain ⟨-, selected⟩ := Table.mem_of_findFirst owned
    simp only [Bool.and_eq_true, beq_iff_eq] at selected
    exact selected.1.1
  have positive : 1 ≤ index := by
    rw [parseServiceIndex] at parsed
    split at parsed
    · split at parsed
      · obtain rfl := Except.ok.inj parsed
        omega
      · cases parsed
    · cases parsed
  have read : parseServiceIndex (decimalText service.serviceIndex) = .ok index := by
    rw [parseServiceIndex, toInteger?_decimalText (by omega) (by omega), same]
    simp only [Int.toNat_natCast, ite_eq_left_iff]
    omega
  constructor
  · rintro ⟨index', parsed', -, owned'⟩
    obtain rfl := Except.ok.inj (read.symm.trans parsed')
    exact Option.some.inj (owned'.symm.trans owned)
  · rintro rfl
    exact ⟨index, read, bounded, owned⟩

theorem Located.alive {owner : Int32} {serviceIdx : Text} {database : Database}
    {service : ServiceRow} (located : Located owner serviceIdx database service) :
    service ∈ database.services ∧ service.serviceDeletedAt = none := by
  obtain ⟨index, -, -, owned⟩ := located
  obtain ⟨inside, selected⟩ := Table.mem_of_findFirst owned
  simp only [Bool.and_eq_true, Option.isNone_iff_eq_none] at selected
  exact ⟨inside, selected.1.2⟩

/-- A packet to an agent goes to its socket, if that has a secret. -/
theorem sendToAgent_delivered (agentUuid : Text) (packet : AgentPacket) (hub : Hub) :
    (sendToAgent agentUuid packet hub).1 = true ↔
      ∃ socket, getAgentSocket hub agentUuid = some socket ∧
        hasSecret (hub.sockets socket).data.signingSecret = true := by
  rw [sendToAgent]
  cases found : getAgentSocket hub agentUuid with
  | none => simp
  | some socket => cases secret : hasSecret (hub.sockets socket).data.signingSecret <;> simp [secret]

/-- A packet that is delivered is all that sending it adds to the state. -/
theorem sendToAgent_adds {agentUuid : Text} {packet : AgentPacket} {hub : Hub}
    (delivered : (sendToAgent agentUuid packet hub).1 = true) :
    (sendToAgent agentUuid packet hub).2.database = hub.database ∧
      (sendToAgent agentUuid packet hub).2.sent ≠ hub.sent := by
  rw [sendToAgent] at delivered ⊢
  split at delivered
  · cases delivered
  · split at delivered
    · rename_i secret
      rw [if_pos secret]
      exact ⟨rfl, fun same => by simpa using congrArg List.length same⟩
    · cases delivered

/-- Stopping the service on its agent goes on exactly if the command reaches it. -/
theorem wp_handleStopService {fail : Failure → Hub → Prop} {hub : Hub}
    (here : ∀ failure, NotInUse failure → fail failure hub) {owner : Int32} {serviceIdx : Text}
    {service : ServiceRow} (located : Located owner serviceIdx hub.database service)
    (unsent : ∀ hub post,
      wp (failUnsent service.serviceIndex service.serviceParentWorkspace) post fail hub)
    {post : ℕ → Hub → Prop} {claim : Prop}
    (later : ∀ after, after.database = hub.database → after.sent ≠ hub.sent →
      (post service.serviceIndex after ↔ claim)) :
    wp (handleStopService owner (decimalText service.serviceIndex)) post fail hub ↔
      (StopReaches hub service → claim) := by
  have removed : fail (.conflict "Removed service cannot be stopped.") hub :=
    here _ (by decide)
  have unlinked : fail .agentNotConnected hub := here _ (by decide)
  rw [handleStopService, commandService, wp_bind,
    wp_findOwnedServiceAndAgent fun failure allowed => here failure (notInUse_of_noConflict allowed)]
  simp only [located.self, forall_eq, wp_bind, wp_require, wp_orThrow, removed, unlinked,
    implies_true, and_true, wp_sendCommand _ _ _ _ _ unsent, wp_pure, sendToAgent_delivered,
    if_true]
  constructor
  · rintro held ⟨present, agent, found, socket, connected, secret⟩
    have delivered := (sendToAgent_delivered agent.agentUuid
      (.command (.stop (runCommand service))) hub).mpr ⟨socket, connected, secret⟩
    obtain ⟨same, sent⟩ := sendToAgent_adds delivered
    refine (later _ ?_ ?_).mp (held present agent found ⟨socket, connected, secret⟩)
    · exact same
    · exact sent
  · rintro held present agent found ⟨socket, connected, secret⟩
    have delivered := (sendToAgent_delivered agent.agentUuid
      (.command (.stop (runCommand service))) hub).mpr ⟨socket, connected, secret⟩
    obtain ⟨same, sent⟩ := sendToAgent_adds delivered
    refine (later _ ?_ ?_).mpr (held ⟨present, agent, found, socket, connected, secret⟩)
    · exact same
    · exact sent

/-- A value without a text is the only reason not to normalise an environment. -/
theorem redeployedEnv_internal {body : RedeployService} {service : ServiceRow}
    {failure : Failure} (failed : redeployedEnv body service = .error failure) :
    failure = .internal :=
  (failsAs_normalizeEnv rfl _ failure failed).symm

theorem wp_ensureDefaultComponent (serviceIndex : ℕ) (serviceName : Text)
    (deployPreset : DeployPreset) {post : Unit → Hub → Prop} {fail : Failure → Hub → Prop}
    (hub : Hub) :
    wp (ensureDefaultComponent serviceIndex serviceName deployPreset) post fail hub ↔
      post () ((ensureDefaultComponent serviceIndex serviceName deployPreset).run hub).2 :=
  Iff.rfl

end ServiceService

end OpticsHub
