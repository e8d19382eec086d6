import OpticsHub.Async.Actions
import OpticsHub.Services.Operations

/-!
# The actions of the calls of users on services

A user's call reads, sends a packet to an Agent, makes a service, writes the row of one, or
writes components and endpoints. Most writes leave the status of a service, one removes it, and
the one after a command that could not be sent says that it failed. These are all the actions of
these calls. So what is true of the kinds of actions is true of every action of every call,
whatever else happens between two of them.
-/
namespace OpticsHub

open Script Async Program Machine

namespace ServiceService

open AgentGateway AgentService ConsoleGateway

theorem keyed_failed (_ : ℤ) (row : ServiceRow) :
    { row with serviceStatus := .failed }.serviceIndex = row.serviceIndex :=
  rfl

/-- The write of the status of a service whose command could not be sent. -/
def writeFailed (serviceIndex : ℕ) : HubProgram ServiceRow :=
  updateService serviceIndex (fun _ row => { row with serviceStatus := .failed }) keyed_failed

/-- Services, agents and workspaces are as before. -/
structure Unwritten (before after : Database) : Prop where
  services : after.services = before.services
  agents : after.agents = before.agents
  workspaces : after.workspaces = before.workspaces

theorem unwritten_refl (database : Database) : Unwritten database database := ⟨rfl, rfl, rfl⟩

/-- The kinds of actions of the calls of users are allowed. -/
structure AllowsUsers (allowed : (Hub → Hub) → Prop) : Prop where
  aside : ∀ effect, (∀ hub, Unwritten hub.database (effect hub).database) → allowed effect
  created : ∀ row keyed, allowed (createService row keyed).effect
  written : ∀ index change keyed,
    (∀ now row, (change now row).serviceStatus = row.serviceStatus ∨
      (change now row).serviceStatus = .removed) →
    allowed (updateService index change keyed).effect
  failed : ∀ index, allowed (writeFailed index).effect

section Parts

variable {allowed : (Hub → Hub) → Prop}

theorem consists_fromExcept {α : Type} (result : Except Failure α) :
    Consists allowed (fromExcept result : HubProgram α) :=
  trivial

variable (users : AllowsUsers allowed)
include users

theorem consists_aside {α : Type} {action : Hub → α × Hub}
    (same : ∀ hub, Unwritten hub.database (action hub).2.database) :
    Consists allowed (step action : HubProgram α) :=
  consists_step (users.aside _ same)

theorem consists_look {α : Type} (view : Hub → α) :
    Consists allowed (look view : HubProgram α) :=
  consists_aside users fun hub => unwritten_refl hub.database

theorem consists_updateService {index : ℕ} {change : ℤ → ServiceRow → ServiceRow}
    {keyed : ∀ now row, (change now row).serviceIndex = row.serviceIndex}
    (kept : ∀ now row, (change now row).serviceStatus = row.serviceStatus ∨
      (change now row).serviceStatus = .removed) :
    Consists allowed (updateService index change keyed) :=
  consists_atomically (users.written index change keyed kept)

/-- A write that leaves the status of its service. -/
theorem consists_write {index : ℕ} {change : ℤ → ServiceRow → ServiceRow}
    {keyed : ∀ now row, (change now row).serviceIndex = row.serviceIndex}
    (kept : ∀ now row, (change now row).serviceStatus = row.serviceStatus) :
    Consists allowed (updateService index change keyed) :=
  consists_updateService users fun now row => .inl (kept now row)

theorem consists_notify (workspaceIndex : ℕ) {α : Type} (value : α) :
    Consists allowed
      (step fun hub => (value, hub.notifyWorkspaceUpdated (some workspaceIndex)) :
        HubProgram α) :=
  consists_aside users fun hub => unwritten_refl hub.database

theorem consists_trySend (agentUuid : Text) (command : AgentCommand) (workspaceIndex : ℕ)
    (notify : Bool) : Consists allowed (trySend agentUuid command workspaceIndex notify) := by
  apply consists_aside users
  intro hub
  have sent : Unwritten hub.database (sendToAgent agentUuid (.command command) hub).2.database := by
    rw [WorkspaceService.sendToAgent_database]
    exact unwritten_refl hub.database
  dsimp only
  split
  · exact sent
  · exact sent

theorem consists_sendCommand (agentUuid : Text) (command : AgentCommand)
    (index workspaceIndex : ℕ) (notify : Bool) :
    Consists allowed (sendCommand agentUuid command index workspaceIndex notify) := by
  refine (consists_trySend users agentUuid command workspaceIndex notify).bind fun sent => ?_
  cases sent with
  | true => exact consists_pure _
  | false =>
    refine Consists.bind (consists_atomically (users.failed index)) fun _ => ?_
    exact consists_atomically (users.aside _ fun hub => unwritten_refl hub.database)

theorem consists_findOwnedServiceAndAgent (owner : Int32) (serviceIdx : Text) :
    Consists allowed (findOwnedServiceAndAgent owner serviceIdx) := by
  refine (consists_fromExcept _).bind fun index => ?_
  refine (consists_require _ _).bind fun _ => ?_
  refine (consists_look users _).bind fun found => ?_
  refine (consists_orThrow _ _).bind fun service => ?_
  exact (consists_look users _).bind fun _ => consists_pure _

theorem consists_commandService (owner : Int32) (serviceIdx : Text) (removed : String)
    (command : ServiceRow → AgentCommand) (notify : Bool) :
    Consists allowed (commandService owner serviceIdx removed command notify) := by
  refine (consists_findOwnedServiceAndAgent users owner serviceIdx).bind fun found => ?_
  refine (consists_require _ _).bind fun _ => ?_
  refine (consists_orThrow _ _).bind fun agent => ?_
  exact (consists_sendCommand users _ _ _ _ _).bind fun _ => consists_pure _

theorem consists_ensureDefaultComponent (index : ℕ) (serviceName : Text)
    (deployPreset : DeployPreset) :
    Consists allowed (ensureDefaultComponent index serviceName deployPreset) :=
  consists_aside users fun _ => ⟨rfl, rfl, rfl⟩

theorem consists_replaceServiceEndpoints (index workspaceIndex : ℕ)
    (endpoints : List ServiceEndpoint) :
    Consists allowed (replaceServiceEndpoints index workspaceIndex endpoints) := by
  have checked : Consists allowed (checkEndpoints index workspaceIndex endpoints) := by
    refine (consists_require _ _).bind fun _ => ?_
    split
    · exact consists_pure _
    · exact (consists_look users _).bind fun _ => consists_require _ _
  refine checked.bind fun _ => ?_
  refine Consists.bind (consists_aside users fun _ => ⟨rfl, rfl, rfl⟩) fun _ => ?_
  split
  · exact consists_pure _
  · exact consists_aside users fun _ => ⟨rfl, rfl, rfl⟩

end Parts

/-! ## The calls -/

section Calls

variable {allowed : (Hub → Hub) → Prop} (users : AllowsUsers allowed)
include users

theorem consists_handleCreateService (owner : Int32) (body : CreateServiceBody) :
    Consists allowed (handleCreateService owner body) := by
  have prepares : Consists allowed (prepareCreation owner body) := by
    refine (consists_look users _).bind fun owned => ?_
    refine (consists_require _ _).bind fun _ => ?_
    refine (consists_look users _).bind fun agent => ?_
    refine (consists_orThrow _ _).bind fun agent => ?_
    refine (consists_look users _).bind fun duplicated => ?_
    refine (consists_require _ _).bind fun _ => ?_
    exact (consists_fromExcept _).bind fun _ => consists_pure _
  refine prepares.bind fun prepared => ?_
  refine Consists.bind (consists_step (users.created _ _)) fun raw => ?_
  refine (consists_ensureDefaultComponent users _ _ _).bind fun _ => ?_
  refine (consists_replaceServiceEndpoints users _ _ _).bind fun _ => ?_
  exact (consists_sendCommand users _ _ _ _ _).bind fun _ => consists_pure _

theorem consists_handleRedeployService (owner : Int32) (serviceIdx : Text)
    (body : RedeployService) :
    Consists allowed (handleRedeployService owner serviceIdx body) := by
  have checks (service : ServiceRow) : Consists allowed (checkRedeployment body service) := by
    refine (consists_fromExcept _).bind fun sources => ?_
    refine (consists_look users _).bind fun primary => ?_
    refine (consists_fromExcept _).bind fun env => ?_
    split
    · split
      · exact consists_pure _
      · refine (consists_look users _).bind fun duplicated => ?_
        exact (consists_require _ _).bind fun _ => consists_pure _
    · exact consists_pure _
  have deploys (service : ServiceRow) (target : AgentRow)
      (repositories : List ServiceSourceRepository) (portMappings : List ServicePortMapping)
      (primary : Option EndpointRow) (env : Members Text) :
      Consists allowed
        (deployAgain body service target repositories portMappings primary env) := by
    refine Consists.bind (consists_write users fun _ _ => rfl) fun updated => ?_
    refine (consists_fromExcept _).bind fun endpoints => ?_
    refine (consists_ensureDefaultComponent users _ _ _).bind fun _ => ?_
    refine (consists_replaceServiceEndpoints users _ _ _).bind fun _ => ?_
    exact (consists_sendCommand users _ _ _ _ _).bind fun _ => consists_pure _
  refine (consists_findOwnedServiceAndAgent users owner serviceIdx).bind fun found => ?_
  refine (consists_look users _).bind fun target => ?_
  refine (consists_orThrow _ _).bind fun target => ?_
  have later := (checks found.1).bind fun checked =>
    deploys found.1 target checked.1 checked.2.1 checked.2.2.1 checked.2.2.2
  dsimp only
  split
  · exact (consists_commandService users _ _ _ _ _).bind fun _ => later
  · exact later

theorem consists_handleDeleteService (owner : Int32) (serviceIdx : Text)
    (deleteScope : DeleteScope) :
    Consists allowed (handleDeleteService owner serviceIdx deleteScope) := by
  refine (consists_findOwnedServiceAndAgent users owner serviceIdx).bind fun found => ?_
  refine (consists_orThrow _ _).bind fun agent => ?_
  refine (consists_trySend users _ _ _ _).bind fun sent => ?_
  refine (consists_require _ _).bind fun _ => ?_
  refine Consists.bind (consists_updateService users ?_) fun updated => consists_notify users _ _
  exact fun _ _ => .inr rfl

theorem consists_serviceProgram (call : ServiceCall) :
    Consists allowed (serviceProgram call) := by
  cases call with
  | create owner body =>
    exact (consists_handleCreateService users owner body).bind fun _ => consists_pure _
  | redeploy owner serviceIdx body =>
    exact (consists_handleRedeployService users owner serviceIdx body).bind
      fun _ => consists_pure _
  | delete owner serviceIdx deleteScope =>
    exact (consists_handleDeleteService users owner serviceIdx deleteScope).bind
      fun _ => consists_pure _
  | _ => exact (consists_commandService users _ _ _ _ _).bind fun _ => consists_pure _

theorem consists_handleBlockServiceTraffic (owner : Int32) (serviceIdx : Text)
    (options : BlockServiceTraffic) :
    Consists allowed (handleBlockServiceTraffic owner serviceIdx options) := by
  refine (consists_findOwnedServiceAndAgent users owner serviceIdx).bind fun found => ?_
  refine (consists_require _ _).bind fun _ => ?_
  refine Consists.bind (consists_write users fun _ _ => rfl) fun updated => ?_
  exact consists_aside users fun _ => ⟨rfl, rfl, rfl⟩

theorem consists_handleUnblockServiceTraffic (owner : Int32) (serviceIdx : Text) :
    Consists allowed (handleUnblockServiceTraffic owner serviceIdx) := by
  refine (consists_findOwnedServiceAndAgent users owner serviceIdx).bind fun found => ?_
  refine Consists.bind (consists_write users fun _ _ => rfl) fun updated => ?_
  exact consists_aside users fun _ => ⟨rfl, rfl, rfl⟩

theorem consists_handleUpdateServiceSubdomain (owner : Int32) (serviceIdx : Text)
    (subdomain : Option Text) :
    Consists allowed (handleUpdateServiceSubdomain owner serviceIdx subdomain) := by
  have checks (service : ServiceRow) (subdomain : Option Text) :
      Consists allowed (checkSubdomainFree service subdomain) := by
    cases subdomain with
    | none => exact consists_pure _
    | some subdomain => exact (consists_look users _).bind fun _ => consists_require _ _
  have stores (service : ServiceRow) (subdomain : Option Text) :
      Consists allowed (storeSubdomain service subdomain) := by
    refine (consists_look users _).bind fun primary => ?_
    split
    · refine consists_atomically (users.aside _ fun hub => ?_)
      split
      · exact unwritten_refl hub.database
      · exact ⟨rfl, rfl, rfl⟩
    · exact consists_aside users fun _ => ⟨rfl, rfl, rfl⟩
    · exact consists_pure _
  refine (consists_findOwnedServiceAndAgent users owner serviceIdx).bind fun found => ?_
  refine (consists_fromExcept _).bind fun _ => ?_
  refine (checks found.1 _).bind fun _ => ?_
  refine (stores found.1 _).bind fun _ => ?_
  exact consists_write users fun _ _ => rfl

theorem consists_handleUpdateServiceEndpoints (owner : Int32) (serviceIdx : Text)
    (serviceEndpoints : Value) :
    Consists allowed (handleUpdateServiceEndpoints owner serviceIdx serviceEndpoints) := by
  refine (consists_findOwnedServiceAndAgent users owner serviceIdx).bind fun found => ?_
  refine (consists_fromExcept _).bind fun endpoints => ?_
  refine (consists_replaceServiceEndpoints users _ _ _).bind fun _ => ?_
  refine Consists.bind (consists_write users fun _ _ => rfl) fun updated => ?_
  exact consists_notify users _ _

end Calls

end ServiceService

end OpticsHub
