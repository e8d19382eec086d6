import OpticsHub.Services.Operations

/-!
# The subdomain that stands for a service

The row of a service keeps a copy of the subdomain of one of its endpoints. Setting the
subdomain or the endpoints writes the copy anew. A redeployment replaces the endpoints and
leaves the copy, which it only falls back on when the request has no endpoints of its own.
So the copy goes stale with a redeployment whose endpoints do not have it any more.
-/
namespace OpticsHub

open Script Async Program Machine

namespace ServiceService

open AgentGateway

/-- The subdomain of every service that is not deleted is none, or that of an endpoint. -/
def Represented (database : Database) : Prop :=
  ∀ service ∈ database.services, service.serviceDeletedAt = none →
    service.serviceSubdomain = none ∨
      ∃ endpoint ∈ database.serviceEndpoints,
        endpoint.endpointParentService = service.serviceIndex ∧
          endpoint.endpointSubdomain = service.serviceSubdomain

instance (database : Database) : Decidable (Represented database) :=
  inferInstanceAs (Decidable (∀ service ∈ database.services, _))

/-- A redeployment that replaces the endpoints of its service keeps the subdomain among them. -/
def KeepsRepresentative (hub : Hub) : ServiceOperation → Prop
  | .call (.redeploy owner serviceIdx body) =>
    ∀ service target repositories portMappings env,
      Redeploys owner serviceIdx body hub service target repositories portMappings env →
      ∀ endpoints, Republishes body service
          (redeployedRow body target.agentIndex repositories portMappings env service service)
          portMappings endpoints hub.database →
        ∀ subdomain, service.serviceSubdomain = some subdomain →
          subdomain ∈ publicSubdomains endpoints
  | _ => True

section Steps

variable {before after : Database}

/-- A row may be written while its subdomain is not, and the endpoints stay. -/
theorem Represented.rewrites (represented : Represented before) {service changed : ServiceRow}
    (rewrites : Rewrites service changed before after)
    (endpoints : after.serviceEndpoints = before.serviceEndpoints)
    (subdomain : changed.serviceSubdomain = service.serviceSubdomain)
    (alive : changed.serviceDeletedAt = none → service.serviceDeletedAt = none) :
    Represented after := by
  intro row inside standing
  rw [endpoints]
  rcases (rewrites.rows row).mp inside with rfl | ⟨older, -⟩
  · rw [subdomain, rewrites.index]
    exact represented service rewrites.inside (alive standing)
  · exact represented row older standing

/-- The endpoints of one service are replaced, and those of the others stay. -/
theorem Represented.publishes (represented : Represented before) {service changed : ServiceRow}
    {endpoints : List ServiceEndpoint} (rewrites : Rewrites service changed before after)
    (publishes : Publishes service.serviceParentWorkspace service.serviceIndex endpoints before
      after)
    (among : ∀ subdomain, changed.serviceSubdomain = some subdomain →
      subdomain ∈ publicSubdomains endpoints) : Represented after := by
  intro row inside standing
  rcases (rewrites.rows row).mp inside with rfl | ⟨older, other⟩
  · cases given : row.serviceSubdomain with
    | none => exact .inl rfl
    | some subdomain =>
      obtain ⟨endpoint, member, named⟩ := List.mem_filterMap.mp (among subdomain given)
      obtain ⟨n, made⟩ := publishes.made endpoint member
      exact .inr ⟨_, made, rewrites.index.symm, named⟩
  · rcases represented row older standing with none | ⟨endpoint, here, parent, named⟩
    · exact .inl none
    · exact .inr ⟨endpoint, publishes.kept endpoint here (parent ▸ other), parent, named⟩

/-- The subdomain goes into the row and into an endpoint. -/
theorem Represented.readdresses (represented : Represented before)
    {service changed : ServiceRow} {subdomain : Option Text}
    (rewrites : Rewrites service changed before after)
    (written : changed.serviceSubdomain = subdomain)
    (readdresses : Readdresses service before after subdomain) : Represented after := by
  intro row inside standing
  rcases (rewrites.rows row).mp inside with rfl | ⟨older, other⟩
  · rw [written, rewrites.index]
    cases readdresses with
    | changed primary subdomain found rows =>
      obtain ⟨-, parent⟩ := Table.mem_of_findFirst found
      exact .inr ⟨_, (rows _).mpr (.inl rfl), beq_iff_eq.mp parent, rfl⟩
    | created subdomain absent rows => exact .inr ⟨_, (rows _).mpr (.inr rfl), rfl, rfl⟩
    | none absent same => exact .inl rfl
  · refine (represented row older standing).imp_right ?_
    rintro ⟨endpoint, here, parent, named⟩
    refine ⟨endpoint, ?_, parent, named⟩
    cases readdresses with
    | changed primary subdomain found rows =>
      obtain ⟨there, owner⟩ := Table.mem_of_findFirst found
      refine (rows endpoint).mpr (.inr ⟨here, fun same => other ?_⟩)
      obtain rfl := Table.eq_of_key here there same
      exact parent.symm.trans (beq_iff_eq.mp owner)
    | created subdomain absent rows => exact (rows endpoint).mpr (.inl here)
    | none absent same =>
      rw [same]
      exact here

/-- The subdomains still stand for endpoints after an operation that keeps them. -/
theorem Represented.operate {objectFilter : Members Value → Option (ℕ → Bool)}
    {state : RelayState} {operation : ServiceOperation}
    (represented : Represented state.hub.database)
    (keeps : KeepsRepresentative state.hub operation) :
    Represented (operate objectFilter state operation).2.hub.database := by
  have effect := @effect_of_operation objectFilter state operation
  generalize (ServiceService.operate objectFilter state operation).2.hub.database = after at effect
  cases effect with
  | aside services endpoints =>
    rw [Represented, services, endpoints]
    exact represented
  | created _ rows endpoints =>
    intro row inside standing
    rcases (rows row).mp inside with older | rfl
    · refine (represented row older standing).imp_right ?_
      rintro ⟨endpoint, here, parent, named⟩
      refine ⟨endpoint, ?_, parent, named⟩
      rcases endpoints with same | ⟨-, publishes⟩
      · rwa [same]
      · refine publishes.kept endpoint here fun fresh => ?_
        exact absurd (parent.symm.trans fresh)
          (Nat.ne_of_lt (state.hub.database.services.below row older))
    · exact .inl rfl
  | failed _ rewrites endpoints => exact represented.rewrites rewrites endpoints rfl id
  | redeployed redeploys written rewrites outcome =>
    subst written
    rcases outcome with ⟨-, endpoints⟩ | ⟨endpoints, republishes, publishes, -⟩
    · exact represented.rewrites rewrites endpoints rfl id
    · exact represented.publishes rewrites publishes
        (keeps _ _ _ _ _ redeploys endpoints republishes)
  | removed located rewrites endpoints =>
    exact represented.rewrites rewrites endpoints rfl fun _ => located.alive.2
  | blocked _ rewrites endpoints => exact represented.rewrites rewrites endpoints rfl id
  | unblocked _ rewrites endpoints => exact represented.rewrites rewrites endpoints rfl id
  | addressed _ rewrites endpoints _ _ => exact represented.readdresses rewrites rfl endpoints
  | published _ rewrites publishes _ =>
    exact represented.publishes rewrites publishes fun _ => List.mem_of_mem_head?
  | reported _ rewrites endpoints => exact represented.rewrites rewrites endpoints rfl id
  | lowered lowers =>
    obtain ⟨endpoints, change, rows, allowed⟩ := lowers
    intro row inside standing
    rw [Table.mem_def, rows] at inside
    obtain ⟨older, here, rfl⟩ := List.mem_map.mp inside
    rw [endpoints]
    rcases allowed older with same | ⟨-, offline⟩
    · rw [same] at standing ⊢
      exact represented older here standing
    · rw [offline] at standing ⊢
      exact represented older here standing

end Steps

/-- In a run in which no redeployment drops the subdomain of its service, the subdomains stand
for endpoints in every state. -/
theorem representatives_real (objectFilter : Members Value → Option (ℕ → Bool))
    (start : RelayState) (operations : List ServiceOperation)
    (represented : Represented start.hub.database)
    (keeps : Each (operate objectFilter)
      (fun state operation => KeepsRepresentative state.hub operation) start operations) :
    Each (operate objectFilter)
      (fun state operation => Represented (operate objectFilter state operation).2.hub.database)
      start operations := by
  refine Along.safe (fun _ state => Represented state.hub.database) ?_ ?_ keeps represented
  · exact fun _ state operation represented keeps => represented.operate keeps
  · exact fun _ state operation represented keeps => represented.operate keeps

/-- The list of one endpoint on port 80 with a subdomain. -/
def endpointWith (subdomain : Text) : Value :=
  .array [.object
    [("hostPort", .number (.finite (Decimal.ofInt 80))),
      ("containerPort", .number (.finite (Decimal.ofInt 80))), ("subdomain", .string subdomain)]]

/-- A service is created, deployed again and given a subdomain. -/
def givenSubdomain : List ServiceOperation :=
  [.call (.create 1 {
      workspaceIdx := 1
      serviceName := "api"
      servicePort := some 80
      serviceSourceUrl := .string "https://example.org/api.git"
      serviceVersion := "1"
      serviceDeployPreset := .dockerfile
      agentIndex := 1 }),
    .call (.redeploy 1 "1" {}), .updateSubdomain 1 "1" (some "a")]

theorem representatives_real_given :
    Each (operate fun _ => none)
      (fun state operation => Represented (operate (fun _ => none) state operation).2.hub.database)
      { hub := linkedAgentHub } givenSubdomain := by
  refine representatives_real _ _ _ (by decide +kernel) ⟨trivial, ?_, trivial, trivial⟩
  intro service target repositories portMappings env redeploys endpoints _ subdomain given
  have none : ∀ service ∈ (operate (fun _ => none) { hub := linkedAgentHub }
      (givenSubdomain.head (by decide))).2.hub.database.services,
      service.serviceSubdomain = none := by
    decide +kernel
  rw [none service redeploys.located.alive.1] at given
  cases given

/-- The next deployment has another subdomain, and the one before still stands for it. -/
theorem not_representatives_real_redeployed :
    ¬ Each (operate fun _ => none)
      (fun state operation => Represented (operate (fun _ => none) state operation).2.hub.database)
      { hub := linkedAgentHub }
      (givenSubdomain ++ [.call (.redeploy 1 "1" { serviceEndpoints := endpointWith "b" })]) := by
  decide +kernel

end ServiceService

end OpticsHub
