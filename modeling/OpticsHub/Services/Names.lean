import OpticsHub.Services.Operations

/-!
# The names of services

A new service may not have the name of another service of its workspace, and a service may
not be renamed to such a name; a service that is removed does not count. But a service that
is removed keeps its name, and it can come back without another look at the names: when an
Agent reports another status for it, and when it is deployed again and the command does not
reach the agent. A name that is empty is not looked at either.
-/
namespace OpticsHub

open Script Async Program Machine

namespace ServiceService

open AgentGateway

/-- A service that counts: it is neither deleted nor removed. -/
def Living (service : ServiceRow) : Prop :=
  service.serviceDeletedAt = none ∧ service.serviceStatus ≠ .removed

instance (service : ServiceRow) : Decidable (Living service) :=
  inferInstanceAs (Decidable (_ ∧ _))

/-- No two living services of a workspace have the same name. -/
def NamesUnique (database : Database) : Prop :=
  ∀ service ∈ database.services, ∀ other ∈ database.services, Living service → Living other →
    service.serviceParentWorkspace = other.serviceParentWorkspace →
    service.serviceName = other.serviceName → service.serviceIndex = other.serviceIndex

instance (database : Database) : Decidable (NamesUnique database) :=
  inferInstanceAs (Decidable (∀ service ∈ database.services, ∀ other ∈ database.services, _))

/-- No other living service of its workspace has the name that a service is to have. -/
def Unrivalled (service : ServiceRow) (serviceName : Text) (database : Database) : Prop :=
  namesake service.serviceParentWorkspace serviceName (some service.serviceIndex) database = none

/-- A removed service comes back only if its name is still free, and an empty name is given
only if it is free. -/
def KeepsNames (objectFilter : Members Value → Option (ℕ → Bool)) (state : RelayState) :
    ServiceOperation → Prop
  | .call (.redeploy owner serviceIdx body) =>
    ∀ service target repositories portMappings env updated,
      Redeploys owner serviceIdx body state.hub service target repositories portMappings env →
      updated = redeployedRow body target.agentIndex repositories portMappings env service service →
      (service.serviceStatus ≠ .removed → body.serviceName = some [] →
        Unrivalled service [] state.hub.database) ∧
      (service.serviceStatus = .removed → ¬ Reached state.hub target.agentUuid →
        ∀ endpoints, Republishes body service updated portMappings endpoints state.hub.database →
          Unrivalled service updated.serviceName state.hub.database)
  | .serviceStatus client payload =>
    ∀ service status, reportedStatus objectFilter client payload state = some (service, status) →
      service.serviceDeletedAt = none → service.serviceStatus = .removed → status ≠ .removed →
      Unrivalled service service.serviceName state.hub.database
  | _ => True

section Steps

variable {before after : Database}

/-- Every living service with the name is the service itself. -/
theorem Unrivalled.only {service other : ServiceRow} {serviceName : Text}
    (unrivalled : Unrivalled service serviceName before) (inside : other ∈ before.services)
    (living : Living other)
    (workspace : other.serviceParentWorkspace = service.serviceParentWorkspace)
    (named : other.serviceName = serviceName) : other.serviceIndex = service.serviceIndex := by
  by_contra differs
  have refused := Table.findFirst_eq_none.mp unrivalled other inside
  obtain ⟨alive, standing⟩ := living
  simp [workspace, named, alive, standing, differs] at refused

/-- A row may be written if it does not live then, if its name is free, or if it has lived
with this name before. -/
theorem NamesUnique.rewrites (unique : NamesUnique before) {service changed : ServiceRow}
    (rewrites : Rewrites service changed before after)
    (free : Living changed → Unrivalled service changed.serviceName before ∨
      Living service ∧ changed.serviceName = service.serviceName) : NamesUnique after := by
  -- the written row against any other
  have apart {other : ServiceRow} (older : other ∈ before.services) (living : Living other)
      (living' : Living changed)
      (workspace : other.serviceParentWorkspace = changed.serviceParentWorkspace)
      (named : other.serviceName = changed.serviceName) :
      other.serviceIndex = changed.serviceIndex := by
    rw [rewrites.index]
    rcases free living' with unrivalled | ⟨lived, same⟩
    · exact unrivalled.only older living (workspace.trans rewrites.workspace) named
    · exact unique other older service rewrites.inside living lived
        (workspace.trans rewrites.workspace) (named.trans same)
  intro row inside other inside' living living' workspace named
  rcases (rewrites.rows row).mp inside with rfl | ⟨older, -⟩
  · rcases (rewrites.rows other).mp inside' with rfl | ⟨older', -⟩
    · rfl
    · exact (apart older' living' living workspace.symm named.symm).symm
  · rcases (rewrites.rows other).mp inside' with rfl | ⟨older', -⟩
    · exact apart older living living' workspace named
    · exact unique row older other older' living living' workspace named

/-- The name that a redeployment writes is free, or the service has had it. -/
theorem redeployedName_free {owner : Int32} {serviceIdx : Text} {body : RedeployService}
    {hub : Hub} {service : ServiceRow} {target : AgentRow}
    {repositories : List ServiceSourceRepository} {portMappings : List ServicePortMapping}
    {env : Members Text}
    (redeploys : Redeploys owner serviceIdx body hub service target repositories portMappings env)
    (filled : body.serviceName = some [] → Unrivalled service [] hub.database) :
    Unrivalled service (body.serviceName.getD service.serviceName) hub.database ∨
      body.serviceName.getD service.serviceName = service.serviceName := by
  cases asked : body.serviceName with
  | none => exact .inr rfl
  | some name =>
    rw [Option.getD_some]
    by_cases same : name = service.serviceName
    · exact .inr same
    · by_cases empty : name = []
      · subst empty
        exact .inl (filled asked)
      · refine .inl (by_contra fun used => ?_)
        exact redeploys.prepared.unnamed ⟨name, asked, empty, same, used⟩

/-- The names stay unique with an operation that keeps them. -/
theorem NamesUnique.operate {objectFilter : Members Value → Option (ℕ → Bool)}
    {state : RelayState} {operation : ServiceOperation}
    (unique : NamesUnique state.hub.database)
    (keeps : KeepsNames objectFilter state operation) :
    NamesUnique (operate objectFilter state operation).2.hub.database := by
  have effect := @effect_of_operation objectFilter state operation
  generalize (ServiceService.operate objectFilter state operation).2.hub.database = after at effect
  cases effect with
  | aside services _ =>
    rw [NamesUnique, services]
    exact unique
  | created accepted rows _ =>
    have free {other : ServiceRow} (older : other ∈ state.hub.database.services)
        (living : Living other) {index : ℕ} {status : ServiceStatus} {deployment : Deployment}
        {body : CreateServiceBody}
        (unnamed : namesake body.workspaceIdx body.serviceName none state.hub.database = none)
        (workspace : other.serviceParentWorkspace = ({ serviceRow body deployment index with
          serviceStatus := status } : ServiceRow).serviceParentWorkspace) :
        other.serviceName ≠ body.serviceName := by
      intro named
      have refused := Table.findFirst_eq_none.mp unnamed other older
      obtain ⟨alive, standing⟩ := living
      have workspace : other.serviceParentWorkspace = body.workspaceIdx := workspace
      simp [workspace, named, alive, standing] at refused
    intro row inside other inside' living living' workspace named
    rcases (rows row).mp inside with older | rfl
    · rcases (rows other).mp inside' with older' | rfl
      · exact unique row older other older' living living' workspace named
      · exact absurd named (free older living accepted.unnamed workspace)
    · rcases (rows other).mp inside' with older' | rfl
      · exact absurd named.symm (free older' living' accepted.unnamed workspace.symm)
      · rfl
  | failed standing rewrites _ =>
    exact unique.rewrites rewrites fun living => .inr ⟨⟨living.1, standing⟩, rfl⟩
  | @redeployed _ _ _ service _ _ _ _ _ _ _ redeploys written rewrites outcome =>
    obtain ⟨filled, revived⟩ := keeps _ _ _ _ _ _ redeploys written
    subst written
    refine unique.rewrites rewrites fun living => ?_
    obtain ⟨-, alive⟩ := redeploys.located.alive
    by_cases removed : service.serviceStatus = .removed
    · rcases outcome with ⟨same, -⟩ | ⟨endpoints, republishes, -, same | ⟨-, unreached⟩⟩
      · exact absurd (same.trans removed) living.2
      · exact absurd (same.trans removed) living.2
      · exact .inl (revived removed unreached endpoints republishes)
    · refine (redeployedName_free redeploys (filled removed)).imp_right fun same => ?_
      exact ⟨⟨alive, removed⟩, same⟩
  | removed _ rewrites _ => exact unique.rewrites rewrites fun living => absurd rfl living.2
  | blocked _ rewrites _ => exact unique.rewrites rewrites fun living => .inr ⟨living, rfl⟩
  | unblocked _ rewrites _ => exact unique.rewrites rewrites fun living => .inr ⟨living, rfl⟩
  | addressed _ rewrites _ _ _ => exact unique.rewrites rewrites fun living => .inr ⟨living, rfl⟩
  | published _ rewrites _ _ => exact unique.rewrites rewrites fun living => .inr ⟨living, rfl⟩
  | @reported _ _ service _ _ reports rewrites _ =>
    refine unique.rewrites rewrites fun living => ?_
    by_cases removed : service.serviceStatus = .removed
    · exact .inl (keeps _ _ reports living.1 removed living.2)
    · exact .inr ⟨⟨living.1, removed⟩, rfl⟩
  | lowered lowers =>
    obtain ⟨-, change, rows, allowed⟩ := lowers
    have earlier {row : ServiceRow} (inside : row ∈ after.services) (living : Living row) :
        ∃ older ∈ state.hub.database.services, Living older ∧
          older.serviceParentWorkspace = row.serviceParentWorkspace ∧
          older.serviceName = row.serviceName ∧ older.serviceIndex = row.serviceIndex := by
      rw [Table.mem_def, rows] at inside
      obtain ⟨older, here, rfl⟩ := List.mem_map.mp inside
      rcases allowed older with same | ⟨standing, offline⟩
      · rw [same] at living ⊢
        exact ⟨older, here, living, rfl, rfl, rfl⟩
      · rw [offline] at living ⊢
        exact ⟨older, here, ⟨living.1, standing⟩, rfl, rfl, rfl⟩
    intro row inside other inside' living living' workspace named
    obtain ⟨older, here, lived, workspaces, names, index⟩ := earlier inside living
    obtain ⟨older', here', lived', workspaces', names', index'⟩ := earlier inside' living'
    rw [← index, ← index']
    exact unique older here older' here' lived lived'
      (workspaces.trans (workspace.trans workspaces'.symm)) (names.trans (named.trans names'.symm))

end Steps

/-- In a run in which no removed service comes back to a name that is taken, and no empty name
is given twice, the names of living services are unique in every state. -/
theorem names_unique (objectFilter : Members Value → Option (ℕ → Bool)) (start : RelayState)
    (operations : List ServiceOperation) (unique : NamesUnique start.hub.database)
    (keeps : Each (operate objectFilter) (KeepsNames objectFilter) start operations) :
    Each (operate objectFilter)
      (fun state operation => NamesUnique (operate objectFilter state operation).2.hub.database)
      start operations := by
  refine Along.safe (fun _ state => NamesUnique state.hub.database) ?_ ?_ keeps unique
  · exact fun _ state operation unique keeps => unique.operate keeps
  · exact fun _ state operation unique keeps => unique.operate keeps

/-- The linked Agent is registered on its socket. -/
def registeredAgentHub : RelayState where
  hub :=
    { linkedAgentHub with
      sockets := fun _ =>
        { connected := true
          data := { agentUuid := some "U", signingSecret := some "secret" } } }

/-- The request for a service with the name of the first one. -/
def namedService : ServiceOperation :=
  .call (.create 1 {
    workspaceIdx := 1
    serviceName := "api"
    servicePort := some 80
    serviceSourceUrl := .string "https://example.org/api.git"
    serviceVersion := "1"
    serviceDeployPreset := .dockerfile
    agentIndex := 1 })

/-- The Agent reports that the first service runs. -/
def reportsRunning : ServiceOperation :=
  .serviceStatus 0 (.object
    [("serviceIndex", .number (.finite (Decimal.ofInt 1))), ("status", .string "running")])

/-- A service runs and is removed, and another one gets its name. -/
def nameGivenAgain : List ServiceOperation :=
  [namedService, reportsRunning, .call (.delete 1 "1" .containers), namedService]

theorem names_unique_given :
    Each (operate fun _ => none)
      (fun state operation =>
        NamesUnique (operate (fun _ => none) state operation).2.hub.database)
      registeredAgentHub nameGivenAgain := by
  refine names_unique _ _ _ (by decide +kernel) ⟨trivial, ?_, trivial, trivial, trivial⟩
  intro service status reports _ removed
  have standing : ∀ service ∈ (operate (fun _ => none) registeredAgentHub
      namedService).2.hub.database.services, service.serviceStatus ≠ .removed := by
    decide +kernel
  exact absurd removed (standing service (mem_of_reportedStatus reports))

/-- The report was still on its way, and brings the removed service back. -/
theorem not_names_unique_reported :
    ¬ Each (operate fun _ => none)
      (fun state operation =>
        NamesUnique (operate (fun _ => none) state operation).2.hub.database)
      registeredAgentHub (nameGivenAgain ++ [reportsRunning]) := by
  decide +kernel

end ServiceService

end OpticsHub
