import OpticsHub.Tunnel.Responses

/-!
# Outcomes that are logged and shown

A routing request keeps its outcome in a variable, which is logged when the request ends, however
it ends. Until something else is known the outcome is an error of the database. Every exception
that the request throws itself carries the outcome at that point, so that the gateway shows what
was logged. An exception of a query carries none: the log has an error of the database, and the
gateway shows that the Hub has refused the request.
-/
namespace OpticsHub

open Script Async Program Machine

namespace TunnelService

/-- The Hub with the outcome that a request keeps. -/
structure RoutingState where
  hub : Hub
  outcome : TunnelOutcome := .dbError

abbrev RoutingProgram := Program RoutingState Failure

/-- Which of the queries throw. -/
structure QueryFaults where
  workspace : Bool := false
  endpoint : Bool := false

/-- A query that may throw. -/
def query {α : Type} (fails : Bool) (view : Database → α) : RoutingProgram α :=
  if fails then throw .internal else look fun routing => view routing.hub.database

/-- Set the outcome, and throw. -/
def refuse {α : Type} (outcome : TunnelOutcome) (failure : Failure) : RoutingProgram α :=
  atomically fun routing => (.error failure, { routing with outcome := outcome })

/-- Tell the agent, and keep what came of it. -/
def answerLogged (route : TunnelRoute) (token : Text) (preferPooled : Bool) :
    RoutingProgram TunnelRoute :=
  atomically fun routing =>
    let dispatched := dispatchToAgent route.agentUuid route.servicePort token preferPooled
      routing.hub
    (if dispatched.1 = .success then .ok route else .error agentOffline,
      { hub := dispatched.2, outcome := dispatched.1 })

/-- What follows the two queries. -/
def decideLogged (key token : Text) (preferPooled : Bool) :
    Option RoutedEndpoint → RoutingProgram TunnelRoute
  | none => refuse .serviceNotFound serviceNotFound
  | some routed =>
    match routed.service.serviceTrafficBlockedAt with
    | some _ =>
      if routed.service.serviceTrafficBlockMode = .hidden then
        refuse .serviceNotFound serviceNotFound
      else refuse .serviceBlocked serviceBlocked
    | none =>
      match routed.agent with
      | none => refuse .agentNotFound agentNotFound
      | some agent =>
        if agent.agentConnection = .linked ∧ agent.agentDeletedAt = none then do
          let route : TunnelRoute :=
            { agentUuid := agent.agentUuid
              servicePort := routed.endpoint.endpointHostPort }
          step fun routing => ((), { routing with hub := keepRoute key route routing.hub })
          answerLogged route token preferPooled
        else refuse .agentNotFound agentNotFound

/-- What follows the query for the workspace. -/
def routeWithinLogged (faults : QueryFaults) (key subdomain token : Text) (preferPooled : Bool) :
    Option WorkspaceRow → RoutingProgram TunnelRoute
  | none => refuse .workspaceNotFound workspaceNotFound
  | some workspace => do
    let found ← query faults.endpoint (findEndpoint workspace.workspaceIndex subdomain)
    decideLogged key token preferPooled found

/-- What follows the look into the cache. -/
def routeLogged (faults : QueryFaults) (workspaceSubdomain key subdomain token : Text)
    (preferPooled : Bool) : Option TunnelRoute → RoutingProgram TunnelRoute
  | some route => answerLogged route token preferPooled
  | none => do
    let workspace ← query faults.workspace (activeWorkspace workspaceSubdomain)
    routeWithinLogged faults key subdomain token preferPooled workspace

/-- Find the agent and the port for an address, with queries that may throw. -/
def sendProxyInfoLogged (faults : QueryFaults)
    (serviceSubdomain workspaceSubdomain token : Text) (preferPooled : Bool) :
    RoutingProgram TunnelRoute := do
  let key := routeKey workspaceSubdomain serviceSubdomain
  let cached ← look fun routing => cachedRoute key routing.hub
  routeLogged faults workspaceSubdomain key (normalizeSubdomain serviceSubdomain) token
    preferPooled cached

section Requests

variable (internalBody : InternalBody) (faults : QueryFaults)
  (serviceSubdomain workspaceSubdomain token : Text) (preferPooled : Bool) (hub : Hub)

/-- How a request ends, with the outcome that is logged then. -/
def loggedRun : Except Failure TunnelRoute × RoutingState :=
  (sendProxyInfoLogged faults serviceSubdomain workspaceSubdomain token preferPooled).run
    { hub := hub }

/-- If a request fails, the gateway shows the page of the outcome that is logged. -/
def PageAsLogged : Prop :=
  ∀ failure,
    (loggedRun faults serviceSubdomain workspaceSubdomain token preferPooled hub).1 =
        .error failure →
      some (shownPage internalBody failure) =
        pageOf (loggedRun faults serviceSubdomain workspaceSubdomain token preferPooled
          hub).2.outcome

/-- No query throws that the request comes to. -/
def QueriesAnswer : Prop :=
  cachedRoute (routeKey workspaceSubdomain serviceSubdomain) hub = none →
    faults.workspace = false ∧
      (activeWorkspace workspaceSubdomain hub.database ≠ none → faults.endpoint = false)

end Requests

variable {serviceSubdomain workspaceSubdomain token : Text} {preferPooled : Bool} {hub : Hub}
  {internalBody : InternalBody} {faults : QueryFaults} {routing : RoutingState}

/-! ## How a request runs -/

theorem loggedRun_kept {route : TunnelRoute}
    (kept : cachedRoute (routeKey workspaceSubdomain serviceSubdomain) hub = some route) :
    loggedRun faults serviceSubdomain workspaceSubdomain token preferPooled hub =
      (answerLogged route token preferPooled).run { hub := hub } := by
  rw [loggedRun, sendProxyInfoLogged, run_bind]
  change runFrom _ (.ok (cachedRoute _ hub), _) = _
  rw [kept]
  rfl

/-- Without a route that is kept, the workspace is read. -/
theorem loggedRun_missed
    (missed : cachedRoute (routeKey workspaceSubdomain serviceSubdomain) hub = none) :
    loggedRun faults serviceSubdomain workspaceSubdomain token preferPooled hub =
      if faults.workspace then (.error .internal, { hub := hub })
      else (routeWithinLogged faults (routeKey workspaceSubdomain serviceSubdomain)
        (normalizeSubdomain serviceSubdomain) token preferPooled
        (activeWorkspace workspaceSubdomain hub.database)).run { hub := hub } := by
  rw [loggedRun, sendProxyInfoLogged, run_bind]
  change runFrom _ (.ok (cachedRoute _ hub), _) = _
  rw [missed, runFrom, routeLogged, query]
  split <;> rfl

/-- With a workspace, the endpoint is read. -/
theorem run_routeWithinLogged (key subdomain token : Text) (preferPooled : Bool)
    (workspace : WorkspaceRow) (routing : RoutingState) :
    (routeWithinLogged faults key subdomain token preferPooled (some workspace)).run routing =
      if faults.endpoint then (.error .internal, routing)
      else (decideLogged key token preferPooled
        (findEndpoint workspace.workspaceIndex subdomain routing.hub.database)).run routing := by
  rw [routeWithinLogged, query]
  split <;> rfl

/-! ## Without faults -/

theorem run_answerLogged (route : TunnelRoute) (token : Text) (preferPooled : Bool)
    (routing : RoutingState) :
    ((answerLogged route token preferPooled).run routing).1 =
        (answer route token preferPooled routing.hub).1 ∧
      ((answerLogged route token preferPooled).run routing).2.hub =
        (answer route token preferPooled routing.hub).2 :=
  ⟨rfl, rfl⟩

theorem run_decideLogged (key token : Text) (preferPooled : Bool) (found : Option RoutedEndpoint)
    (routing : RoutingState) :
    ((decideLogged key token preferPooled found).run routing).1 =
        ((TunnelService.decide key token preferPooled found).run routing.hub).1 ∧
      ((decideLogged key token preferPooled found).run routing).2.hub =
        ((TunnelService.decide key token preferPooled found).run routing.hub).2 := by
  rw [run_decide]
  cases found with
  | none => exact ⟨rfl, rfl⟩
  | some routed =>
    rw [decideLogged, routeOf]
    cases routed.service.serviceTrafficBlockedAt with
    | some since =>
      dsimp only
      split <;> exact ⟨rfl, rfl⟩
    | none =>
      cases routed.agent with
      | none => exact ⟨rfl, rfl⟩
      | some agent =>
        dsimp only
        split <;> exact ⟨rfl, rfl⟩

/-- If no query throws, a request does what it does without the log. -/
theorem loggedRun_eq (serviceSubdomain workspaceSubdomain token : Text) (preferPooled : Bool)
    (hub : Hub) :
    (loggedRun {} serviceSubdomain workspaceSubdomain token preferPooled hub).1 =
        ((sendProxyInfo serviceSubdomain workspaceSubdomain token preferPooled).run hub).1 ∧
      (loggedRun {} serviceSubdomain workspaceSubdomain token preferPooled hub).2.hub =
        ((sendProxyInfo serviceSubdomain workspaceSubdomain token preferPooled).run hub).2 := by
  cases kept : cachedRoute (routeKey workspaceSubdomain serviceSubdomain) hub with
  | some route =>
    rw [run_sendProxyInfo_kept kept, loggedRun_kept kept]
    exact run_answerLogged route token preferPooled _
  | none =>
    rw [run_sendProxyInfo_missed kept, loggedRun_missed kept, if_neg Bool.false_ne_true, resolve]
    cases activeWorkspace workspaceSubdomain hub.database with
    | none => exact ⟨rfl, rfl⟩
    | some workspace =>
      rw [run_routeWithinLogged, if_neg Bool.false_ne_true]
      have decided := run_decideLogged (routeKey workspaceSubdomain serviceSubdomain) token
        preferPooled (findEndpoint workspace.workspaceIndex
          (normalizeSubdomain serviceSubdomain) hub.database) { hub := hub }
      rw [run_decide] at decided
      exact decided

/-! ## What is shown -/

/-- A failure is shown as the outcome that is kept. -/
def Shown (internalBody : InternalBody) (failure : Failure) (routing : RoutingState) : Prop :=
  some (shownPage internalBody failure) = pageOf routing.outcome

/-- A request that throws itself throws with the outcome that it keeps. -/
theorem wp_refuse {α : Type} {outcome : TunnelOutcome} {page : Gateway.PageOutcome}
    (named : pageOf outcome = some page) (status : ℕ) (message : String) :
    wp (refuse outcome (.tunnel status outcome message) : RoutingProgram α) (fun _ _ => True)
      (Shown internalBody) routing := by
  refine (wp_atomically_error rfl).mpr ?_
  rw [Shown, shownPage_tunnel internalBody status outcome message named]
  exact named.symm

/-- An agent is told, or is offline. -/
theorem dispatch_outcome (agentUuid : Text) (servicePort : ℤ) (token : Text) (preferPooled : Bool)
    (hub : Hub) :
    (dispatchToAgent agentUuid servicePort token preferPooled hub).1 = .success ∨
      (dispatchToAgent agentUuid servicePort token preferPooled hub).1 = .agentOffline := by
  rw [dispatchToAgent]
  split
  · exact .inl rfl
  · dsimp only
    split
    · exact .inl rfl
    · exact .inr rfl

theorem wp_answerLogged (route : TunnelRoute) (token : Text) (preferPooled : Bool) :
    wp (answerLogged route token preferPooled) (fun _ _ => True) (Shown internalBody) routing := by
  rw [answerLogged, wp_atomically]
  refine ⟨fun _ _ => trivial, fun failure failed => ?_⟩
  dsimp only at failed ⊢
  rcases dispatch_outcome route.agentUuid route.servicePort token preferPooled routing.hub with
    success | offline
  · rw [if_pos success] at failed
    cases failed
  · rw [offline, if_neg (by decide)] at failed
    cases failed
    rw [Shown, offline]
    exact congrArg some (shownPage_tunnel internalBody 503 .agentOffline _ rfl)

theorem wp_decideLogged (key token : Text) (preferPooled : Bool)
    (found : Option RoutedEndpoint) :
    wp (decideLogged key token preferPooled found) (fun _ _ => True) (Shown internalBody)
      routing := by
  cases found with
  | none => exact wp_refuse rfl 404 _
  | some routed =>
    rw [decideLogged]
    split
    · split
      · exact wp_refuse rfl 404 _
      · exact wp_refuse rfl 503 _
    · split
      · exact wp_refuse rfl 404 _
      · split
        · simp only [wp_bind, wp_step]
          exact wp_answerLogged _ _ _
        · exact wp_refuse rfl 404 _

/-- What ends well is shown as it is logged. -/
theorem pageAsLogged_of_wp {program : RoutingProgram TunnelRoute} {start : RoutingState}
    (runs : loggedRun faults serviceSubdomain workspaceSubdomain token preferPooled hub =
      program.run start)
    (held : wp program (fun _ _ => True) (Shown internalBody) start) :
    PageAsLogged internalBody faults serviceSubdomain workspaceSubdomain token preferPooled
      hub := by
  intro failure failed
  rw [runs] at failed ⊢
  have ended := (wp_iff_run program).mp held
  cases ran : program.run start with
  | mk result after =>
    rw [ran] at failed ended
    dsimp only at failed
    subst failed
    exact ended

/-- What a query throws is logged as an error of the database, and shown as a refusal. -/
theorem not_pageAsLogged_of_internal {start : RoutingState} (fresh : start.outcome = .dbError)
    (runs : loggedRun faults serviceSubdomain workspaceSubdomain token preferPooled hub =
      (.error .internal, start)) :
    ¬ PageAsLogged internalBody faults serviceSubdomain workspaceSubdomain token preferPooled
      hub := by
  intro logged
  have shown := logged .internal (by rw [runs])
  rw [runs, shownPage_internal, fresh] at shown
  cases shown

/-- The gateway shows the page of the outcome that is logged, for every failed request, exactly if
no query throws that the request comes to. -/
theorem page_as_logged_iff (internalBody : InternalBody) (faults : QueryFaults)
    (serviceSubdomain workspaceSubdomain token : Text) (preferPooled : Bool) (hub : Hub) :
    PageAsLogged internalBody faults serviceSubdomain workspaceSubdomain token preferPooled hub ↔
      QueriesAnswer faults serviceSubdomain workspaceSubdomain hub := by
  rw [QueriesAnswer]
  cases kept : cachedRoute (routeKey workspaceSubdomain serviceSubdomain) hub with
  | some route =>
    refine iff_of_true ?_ fun none => by cases none
    exact pageAsLogged_of_wp (loggedRun_kept kept) (wp_answerLogged route token preferPooled)
  | none =>
    rw [imp_iff_right rfl]
    have missed : loggedRun faults serviceSubdomain workspaceSubdomain token preferPooled hub = _ :=
      loggedRun_missed kept
    cases first : faults.workspace with
    | true =>
      rw [if_pos first] at missed
      exact iff_of_false (not_pageAsLogged_of_internal rfl missed) fun answers => by
        cases answers.1
    | false =>
      rw [if_neg (by simp [first])] at missed
      rw [and_iff_right rfl]
      cases active : activeWorkspace workspaceSubdomain hub.database with
      | none =>
        rw [active] at missed
        exact iff_of_true (pageAsLogged_of_wp missed (wp_refuse rfl 404 _))
          fun some => absurd rfl some
      | some workspace =>
        rw [active, run_routeWithinLogged] at missed
        rw [imp_iff_right (Option.some_ne_none workspace)]
        cases second : faults.endpoint with
        | true =>
          rw [if_pos second] at missed
          exact iff_of_false (not_pageAsLogged_of_internal rfl missed) Bool.noConfusion
        | false =>
          rw [if_neg (by simp [second])] at missed
          exact iff_of_true (pageAsLogged_of_wp missed (wp_decideLogged _ _ _ _)) rfl

/-- The query for the workspace throws: an error of the database is logged, and the gateway says
that the Hub has refused. -/
theorem not_page_as_logged_failing :
    ¬ PageAsLogged internalError { workspace := true } [] "a" "token" true ambiguousHub := by
  intro logged
  have shown := logged .internal rfl
  revert shown
  decide +kernel

end TunnelService

end OpticsHub
