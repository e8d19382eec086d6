import OpticsHub.Gateway.Pages
import OpticsHub.Gateway.Server
import OpticsHub.Tunnel.Routes

/-!
# What the gateway hears and shows

An exception of the Hub comes to the gateway as a status and a body. One that carries the outcome
of a request has it in its body, and the gateway shows the page of that outcome. A hidden block is
told as a service that is not there: the gateway hears and shows the same in both cases.
-/
namespace OpticsHub

open Script Async Program Machine

namespace TunnelService

/-! ## Answers of the Hub -/

def outcomeName : TunnelOutcome → Text
  | .success => "success"
  | .workspaceNotFound => "workspace_not_found"
  | .serviceNotFound => "service_not_found"
  | .serviceBlocked => "service_blocked"
  | .agentNotFound => "agent_not_found"
  | .agentOffline => "agent_offline"
  | .dbError => "db_error"

/-- The page of an outcome, unless it is success. -/
def pageOf : TunnelOutcome → Option Gateway.PageOutcome
  | .success => none
  | .workspaceNotFound => some .workspaceNotFound
  | .serviceNotFound => some .serviceNotFound
  | .serviceBlocked => some .serviceBlocked
  | .agentNotFound => some .agentNotFound
  | .agentOffline => some .agentOffline
  | .dbError => some .dbError

structure HubResponse where
  status : ℕ
  body : Value

/-- The body of the answer to what is not an HTTP exception. It has no outcome. -/
abbrev InternalBody := { body : Value // Gateway.member "outcome" (some body) = none }

def statusValue (status : ℕ) : Value := .number (.finite (Decimal.ofInt status))

/-- `HttpExceptionFilter`: the body of the exception, with its message and its status. -/
def exceptionResponse (internalBody : InternalBody) : Failure → HubResponse
  | .tunnel status outcome message =>
    { status := status
      body := .object [("outcome", .string (outcomeName outcome)),
        ("message", .string (Text.ofString message)), ("error", statusValue status)] }
  | .http status message =>
    { status := status
      body := .object [("message", .string (Text.ofString message)),
        ("error", statusValue status), ("statusCode", statusValue status)] }
  | .internal => { status := 500, body := internalBody.val }

/-- The answer to a routing request, with the times that were measured. -/
def connectResponse (internalBody : InternalBody) (requestId : Text) (timings : Members Value) :
    Except Failure TunnelRoute → HubResponse
  | .error failure => exceptionResponse internalBody failure
  | .ok route =>
    { status := 201
      body := .object (("outcome", .string (outcomeName .success)) ::
        ("request_id", .string requestId) :: ("agent_uuid", .string route.agentUuid) ::
        ("service_port", .number (.finite (Decimal.ofInt route.servicePort))) :: timings) }

/-- The gateway hears the answer for a client. -/
def hear (identifiers : Gateway.Identifiers) (client : ℕ) (response : HubResponse)
    (gateway : Gateway.State) : Gateway.State :=
  final (Gateway.step identifiers) gateway
    [.answer client (some response.status), .body client (some response.body)]

/-- The outcome whose page the gateway shows for an exception. -/
def shownPage (internalBody : InternalBody) (failure : Failure) : Gateway.PageOutcome :=
  Gateway.readHubOutcome (exceptionResponse internalBody failure).status
    (some (exceptionResponse internalBody failure).body)

/-- An exception with an outcome is shown as that outcome. -/
theorem shownPage_tunnel (internalBody : InternalBody) (status : ℕ) (outcome : TunnelOutcome)
    (message : String) {page : Gateway.PageOutcome} (named : pageOf outcome = some page) :
    shownPage internalBody (.tunnel status outcome message) = page := by
  have read : Gateway.PageOutcome.ofName (outcomeName outcome) = some page := by
    cases outcome <;> cases named <;> decide
  change (Gateway.PageOutcome.ofName (outcomeName outcome)).getD _ = page
  rw [read, Option.getD_some]

/-- What is not an HTTP exception is shown as a refusal of the Hub. -/
theorem shownPage_internal (internalBody : InternalBody) :
    shownPage internalBody .internal = .hubRejected := by
  rw [shownPage, exceptionResponse, Gateway.readHubOutcome, internalBody.property]
  rfl

/-! ## Hidden blocks -/

/-- Where there is such a workspace, the address belongs to a service whose traffic is blocked
without notice. -/
def HiddenAt (workspaceSubdomain subdomain : Text) (database : Database) : Prop :=
  ∀ workspace ∈ activeWorkspace workspaceSubdomain database,
    ∃ routed ∈ findEndpoint workspace.workspaceIndex subdomain database,
      routed.service.serviceTrafficBlockedAt ≠ none ∧
        routed.service.serviceTrafficBlockMode = .hidden

instance (workspaceSubdomain subdomain : Text) (database : Database) :
    Decidable (HiddenAt workspaceSubdomain subdomain database) :=
  inferInstanceAs (Decidable (∀ workspace ∈ activeWorkspace workspaceSubdomain database,
    ∃ routed ∈ findEndpoint workspace.workspaceIndex subdomain database,
      routed.service.serviceTrafficBlockedAt ≠ none ∧
        routed.service.serviceTrafficBlockMode = .hidden))

/-- No endpoint of the workspace has the address. -/
def AbsentAt (workspaceSubdomain subdomain : Text) (database : Database) : Prop :=
  ∀ workspace ∈ activeWorkspace workspaceSubdomain database,
    ∀ endpoint ∈ database.serviceEndpoints,
      endpoint.endpointParentWorkspace = workspace.workspaceIndex →
        endpoint.endpointSubdomain ≠ some subdomain

/-- What a request comes to where no service can be shown. -/
def unseen (workspaceSubdomain : Text) (database : Database) : Except Failure TunnelRoute :=
  match activeWorkspace workspaceSubdomain database with
  | none => .error workspaceNotFound
  | some _ => .error serviceNotFound

theorem HiddenAt.resolve {workspaceSubdomain subdomain : Text} {database : Database}
    (hidden : HiddenAt workspaceSubdomain subdomain database) :
    resolve workspaceSubdomain subdomain database = unseen workspaceSubdomain database := by
  rw [TunnelService.resolve, unseen]
  cases active : activeWorkspace workspaceSubdomain database with
  | none => rfl
  | some workspace =>
    obtain ⟨routed, found, blocked, mode⟩ := hidden workspace active
    obtain ⟨since, time⟩ := Option.ne_none_iff_exists'.mp blocked
    dsimp only
    rw [Option.mem_def.mp found]
    dsimp only [routeOf]
    rw [time, mode]
    rfl

theorem AbsentAt.resolve {workspaceSubdomain subdomain : Text} {database : Database}
    (absent : AbsentAt workspaceSubdomain subdomain database) :
    resolve workspaceSubdomain subdomain database = unseen workspaceSubdomain database := by
  rw [TunnelService.resolve, unseen]
  cases active : activeWorkspace workspaceSubdomain database with
  | none => rfl
  | some workspace =>
    have nothing : findEndpoint workspace.workspaceIndex subdomain database = none := by
      have none : database.serviceEndpoints.findFirst
          (routes database workspace.workspaceIndex subdomain) = none := by
        refine Table.findFirst_eq_none.mpr fun endpoint inside => ?_
        rw [routes]
        by_cases here : endpoint.endpointParentWorkspace = workspace.workspaceIndex
        · have other := absent workspace active endpoint inside here
          simp [beq_eq_false_iff_ne.mpr other]
        · simp [beq_eq_false_iff_ne.mpr here]
      rw [findEndpoint, none]
      rfl
    dsimp only
    rw [nothing]
    rfl

/-- Without a route that is kept, a request for such an address comes to that. -/
theorem run_sendProxyInfo_unseen {serviceSubdomain workspaceSubdomain token : Text}
    {preferPooled : Bool} {hub : Hub}
    (missed : cachedRoute (routeKey workspaceSubdomain serviceSubdomain) hub = none)
    (resolved : resolve workspaceSubdomain (normalizeSubdomain serviceSubdomain) hub.database =
      unseen workspaceSubdomain hub.database) :
    ((sendProxyInfo serviceSubdomain workspaceSubdomain token preferPooled).run hub).1 =
      unseen workspaceSubdomain hub.database := by
  rw [run_sendProxyInfo_missed missed, resolved, unseen]
  cases activeWorkspace workspaceSubdomain hub.database with
  | none => rfl
  | some workspace => rfl

/-- With the same workspaces, an address of a hidden service and one that no endpoint has get the
same answer of the Hub, and the gateway writes the same bytes to the client. -/
theorem hidden_block_indistinguishable (internalBody : InternalBody) (requestId : Text)
    (timings : Members Value) (serviceSubdomain workspaceSubdomain token : Text)
    (preferPooled : Bool) (veiled missing : Hub)
    (workspaces : veiled.database.workspaces = missing.database.workspaces)
    (hidden : HiddenAt workspaceSubdomain (normalizeSubdomain serviceSubdomain) veiled.database)
    (absent : AbsentAt workspaceSubdomain (normalizeSubdomain serviceSubdomain) missing.database)
    (missed : cachedRoute (routeKey workspaceSubdomain serviceSubdomain) veiled = none)
    (missed' : cachedRoute (routeKey workspaceSubdomain serviceSubdomain) missing = none) :
    let response (hub : Hub) := connectResponse internalBody requestId timings
      ((sendProxyInfo serviceSubdomain workspaceSubdomain token preferPooled).run hub).1
    response veiled = response missing ∧
      ∀ templates timestamp identifiers client gateway,
        Gateway.responseBytes templates timestamp client
            (hear identifiers client (response veiled) gateway) =
          Gateway.responseBytes templates timestamp client
            (hear identifiers client (response missing) gateway) := by
  have same : unseen workspaceSubdomain veiled.database =
      unseen workspaceSubdomain missing.database := by
    rw [unseen, unseen, activeWorkspace, activeWorkspace, workspaces]
  dsimp only
  rw [run_sendProxyInfo_unseen missed hidden.resolve, run_sendProxyInfo_unseen missed' absent.resolve,
    same]
  exact ⟨rfl, fun _ _ _ _ _ => rfl⟩

/-- The service of the first address is blocked without notice. -/
def veiledHub : Hub :=
  ambiguousHub.write fun database =>
    { database with
      services := database.services.updateMany (fun _ => true) fun service =>
        { service with
          serviceTrafficBlockedAt := some 0
          serviceTrafficBlockMode := .hidden } }

/-- There are no endpoints. -/
def missingHub : Hub :=
  ambiguousHub.write fun database => { database with serviceEndpoints := Table.empty }

/-- The body that Nest gives to any other error. -/
def internalError : InternalBody :=
  ⟨.object [("statusCode", statusValue 500), ("message", .string "Internal server error")], rfl⟩

theorem hidden_block_indistinguishable_first :
    connectResponse internalError "id" []
        ((sendProxyInfo "b/c" "a" "token" true).run veiledHub).1 =
      connectResponse internalError "id" []
        ((sendProxyInfo "b/c" "a" "token" true).run missingHub).1 := by
  refine (hidden_block_indistinguishable internalError "id" [] "b/c" "a" "token" true veiledHub
    missingHub rfl ?_ ?_ rfl rfl).1
  · decide +kernel
  · intro workspace _ endpoint inside
    exact absurd inside List.not_mem_nil

end TunnelService

end OpticsHub
