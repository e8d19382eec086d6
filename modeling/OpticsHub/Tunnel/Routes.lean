import OpticsHub.Machine.Run
import OpticsHub.Tunnel.TunnelService

/-!
# Routes that are kept

The route of an address is a matter of the database alone. A route that is kept repeats what was
read for an address with the same key. The key joins the two subdomains with a slash: if no
workspace subdomain that is asked for has a slash, two addresses with one key are the same, and as
long as the database stays, nobody can tell whether routes are kept.
-/
namespace OpticsHub

open Script Async Program Machine

namespace TunnelService

/-! ## What the database says -/

/-- The route to an endpoint that was read. -/
def routeOf : Option RoutedEndpoint → Except Failure TunnelRoute
  | none => .error serviceNotFound
  | some routed =>
    match routed.service.serviceTrafficBlockedAt with
    | some _ =>
      .error (if routed.service.serviceTrafficBlockMode = .hidden then serviceNotFound
        else serviceBlocked)
    | none =>
      match routed.agent with
      | none => .error agentNotFound
      | some agent =>
        if agent.agentConnection = .linked ∧ agent.agentDeletedAt = none then
          .ok { agentUuid := agent.agentUuid, servicePort := routed.endpoint.endpointHostPort }
        else .error agentNotFound

/-- The route of an address. -/
def resolve (workspaceSubdomain subdomain : Text) (database : Database) :
    Except Failure TunnelRoute :=
  match activeWorkspace workspaceSubdomain database with
  | none => .error workspaceNotFound
  | some workspace => routeOf (findEndpoint workspace.workspaceIndex subdomain database)

/-- Answer with what the database says. -/
def answerWith (resolved : Except Failure TunnelRoute) (token : Text) (preferPooled : Bool)
    (hub : Hub) : Except Failure TunnelRoute × Hub :=
  match resolved with
  | .error failure => (.error failure, hub)
  | .ok route => answer route token preferPooled hub

/-- Find the agent and the port for an address, and keep nothing. -/
def sendProxyInfoUncached (serviceSubdomain workspaceSubdomain token : Text)
    (preferPooled : Bool) : HubProgram TunnelRoute := do
  let workspace ← look fun hub => activeWorkspace workspaceSubdomain hub.database
  let workspace ← orThrow workspace workspaceNotFound
  let found ← look fun hub =>
    findEndpoint workspace.workspaceIndex (normalizeSubdomain serviceSubdomain) hub.database
  atomically (answerWith (routeOf found) token preferPooled)

theorem run_sendProxyInfoUncached (serviceSubdomain workspaceSubdomain token : Text)
    (preferPooled : Bool) (hub : Hub) :
    (sendProxyInfoUncached serviceSubdomain workspaceSubdomain token preferPooled).run hub =
      answerWith (resolve workspaceSubdomain (normalizeSubdomain serviceSubdomain) hub.database)
        token preferPooled hub := by
  rw [sendProxyInfoUncached, resolve, run_bind]
  change runFrom _ (.ok (activeWorkspace workspaceSubdomain hub.database), hub) = _
  rw [runFrom, run_bind]
  cases activeWorkspace workspaceSubdomain hub.database with
  | none => rfl
  | some workspace => rfl

/-- Keep a route, if there is one. -/
def keepResolved (key : Text) (resolved : Except Failure TunnelRoute) (hub : Hub) : Hub :=
  match resolved with
  | .error _ => hub
  | .ok route => keepRoute key route hub

theorem run_decide (key token : Text) (preferPooled : Bool) (found : Option RoutedEndpoint)
    (hub : Hub) :
    (TunnelService.decide key token preferPooled found).run hub =
      answerWith (routeOf found) token preferPooled (keepResolved key (routeOf found) hub) := by
  rw [TunnelService.decide, run_atomically]
  cases found with
  | none => rfl
  | some routed =>
    dsimp only [routeOf]
    cases routed.service.serviceTrafficBlockedAt with
    | some since => rfl
    | none =>
      cases routed.agent with
      | none => rfl
      | some agent =>
        dsimp only
        split <;> rfl

section Requests

variable {serviceSubdomain workspaceSubdomain token : Text} {preferPooled : Bool} {hub : Hub}

/-- A route that is kept is answered. -/
theorem run_sendProxyInfo_kept {route : TunnelRoute}
    (kept : cachedRoute (routeKey workspaceSubdomain serviceSubdomain) hub = some route) :
    (sendProxyInfo serviceSubdomain workspaceSubdomain token preferPooled).run hub =
      answer route token preferPooled hub := by
  rw [sendProxyInfo, run_bind, routeFromCache, run_atomically, kept]
  dsimp only [answer]
  split <;> rfl

/-- Without one, what the database says is kept and answered. -/
theorem run_sendProxyInfo_missed
    (missed : cachedRoute (routeKey workspaceSubdomain serviceSubdomain) hub = none) :
    (sendProxyInfo serviceSubdomain workspaceSubdomain token preferPooled).run hub =
      answerWith (resolve workspaceSubdomain (normalizeSubdomain serviceSubdomain) hub.database)
        token preferPooled
        (keepResolved (routeKey workspaceSubdomain serviceSubdomain)
          (resolve workspaceSubdomain (normalizeSubdomain serviceSubdomain) hub.database) hub) := by
  rw [sendProxyInfo, run_bind, routeFromCache, run_atomically, missed, resolve]
  dsimp only
  rw [runFrom, routeFromDatabase, run_bind]
  change runFrom _ (.ok (activeWorkspace workspaceSubdomain hub.database), hub) = _
  rw [runFrom, routeWithin, run_bind]
  cases activeWorkspace workspaceSubdomain hub.database with
  | none => rfl
  | some workspace => exact run_decide _ _ _ _ hub

end Requests

/-! ## Sequences of requests -/

/-- A request of the gateway, at a time. -/
structure RouteCall where
  serviceSubdomain : Text
  workspaceSubdomain : Text
  token : Text
  preferPooled : Bool
  time : ℤ

/-- The answer to a request, and what is sent to the Agents for it. -/
abbrev RouteAnswer := Except Failure TunnelRoute × List Outgoing

/-- Requests that are answered one after another. -/
def routing (send : Text → Text → Text → Bool → HubProgram TunnelRoute) :
    Transition Hub RouteCall RouteAnswer := fun hub call =>
  let answered := (send call.serviceSubdomain call.workspaceSubdomain call.token
    call.preferPooled).run { hub with now := call.time }
  ((answered.1, answered.2.sent.drop hub.sent.length), answered.2)

def slash : CodeUnit := 0x2F

theorem routeKey_eq (workspaceSubdomain serviceSubdomain : Text) :
    routeKey workspaceSubdomain serviceSubdomain =
      workspaceSubdomain ++ slash :: normalizeSubdomain serviceSubdomain := by
  rw [routeKey, List.append_assoc]
  rfl

/-- Two Hubs that differ at most in the time and in the routes that are kept. -/
structure SameRouting (first second : Hub) : Prop where
  database : first.database = second.database
  sockets : first.sockets = second.sockets
  agentUuidToSocketId : first.agentUuidToSocketId = second.agentUuidToSocketId
  sent : first.sent = second.sent

/-- Every route that is kept is the one of the database for an address with that key. -/
def RoutesTrue (hub : Hub) : Prop :=
  ∀ key cached, Members.own hub.routeCache key = some cached →
    ∃ workspaceSubdomain subdomain, slash ∉ workspaceSubdomain ∧
      key = workspaceSubdomain ++ slash :: subdomain ∧
      resolve workspaceSubdomain subdomain hub.database =
        .ok { agentUuid := cached.agentUuid, servicePort := cached.servicePort }

variable {hub first second : Hub}

/-- A packet reaches an Agent from both or from neither. -/
theorem SameRouting.sendToAgent (same : SameRouting first second) (agentUuid : Text)
    (packet : AgentPacket) :
    (AgentGateway.sendToAgent agentUuid packet first).1 =
        (AgentGateway.sendToAgent agentUuid packet second).1 ∧
      SameRouting (AgentGateway.sendToAgent agentUuid packet first).2
        (AgentGateway.sendToAgent agentUuid packet second).2 := by
  obtain ⟨database, sockets, maps, sent⟩ := same
  have found : AgentGateway.getAgentSocket first agentUuid =
      AgentGateway.getAgentSocket second agentUuid := by
    rw [AgentGateway.getAgentSocket, AgentGateway.getAgentSocket, sockets, maps]
  rw [AgentGateway.sendToAgent, AgentGateway.sendToAgent, found, sockets]
  cases AgentGateway.getAgentSocket second agentUuid with
  | none => exact ⟨rfl, database, sockets, maps, sent⟩
  | some socket =>
    dsimp only
    split
    · exact ⟨rfl, database, sockets, maps, by rw [Hub.emit_sent, Hub.emit_sent, sent]⟩
    · exact ⟨rfl, database, sockets, maps, sent⟩

/-- A route is answered in the same way by both. -/
theorem SameRouting.answer (same : SameRouting first second) (route : TunnelRoute) (token : Text)
    (preferPooled : Bool) :
    (answer route token preferPooled first).1 = (answer route token preferPooled second).1 ∧
      SameRouting (answer route token preferPooled first).2
        (answer route token preferPooled second).2 := by
  cases preferPooled with
  | true => exact ⟨rfl, same⟩
  | false =>
    obtain ⟨delivered, after⟩ := same.sendToAgent route.agentUuid
      (.tunnelConnect token route.servicePort tunnelPort)
    rw [TunnelService.answer, TunnelService.answer, dispatchToAgent, dispatchToAgent]
    simp only [Bool.false_eq_true, if_false, delivered]
    exact ⟨trivial, after⟩

theorem SameRouting.answerWith (same : SameRouting first second)
    (resolved : Except Failure TunnelRoute) (token : Text) (preferPooled : Bool) :
    (answerWith resolved token preferPooled first).1 =
        (answerWith resolved token preferPooled second).1 ∧
      SameRouting (answerWith resolved token preferPooled first).2
        (answerWith resolved token preferPooled second).2 := by
  cases resolved with
  | error failure => exact ⟨rfl, same⟩
  | ok route => exact same.answer route token preferPooled

/-- Nothing but the packets changes when a route is answered. -/
theorem answer_keeps (route : TunnelRoute) (token : Text) (preferPooled : Bool) (hub : Hub) :
    (answer route token preferPooled hub).2.database = hub.database ∧
      (answer route token preferPooled hub).2.routeCache = hub.routeCache := by
  cases preferPooled with
  | true => exact ⟨rfl, rfl⟩
  | false =>
    rw [answer, dispatchToAgent]
    simp only [Bool.false_eq_true, if_false, AgentGateway.sendToAgent]
    split
    · exact ⟨rfl, rfl⟩
    · split <;> exact ⟨rfl, rfl⟩

theorem RoutesTrue.of_eq (routes : RoutesTrue first) (database : second.database = first.database)
    (routeCache : second.routeCache = first.routeCache) : RoutesTrue second := by
  rw [RoutesTrue, database, routeCache]
  exact routes

theorem RoutesTrue.answer (routes : RoutesTrue hub) (route : TunnelRoute) (token : Text)
    (preferPooled : Bool) : RoutesTrue (answer route token preferPooled hub).2 :=
  routes.of_eq (answer_keeps route token preferPooled hub).1
    (answer_keeps route token preferPooled hub).2

/-- A route that the database gives for an address may be kept for it. -/
theorem RoutesTrue.keepRoute (routes : RoutesTrue hub) {workspaceSubdomain subdomain : Text}
    (slashless : slash ∉ workspaceSubdomain) {route : TunnelRoute}
    (resolved : resolve workspaceSubdomain subdomain hub.database = .ok route) :
    RoutesTrue (keepRoute (workspaceSubdomain ++ slash :: subdomain) route hub) := by
  intro key cached found
  by_cases here : key = workspaceSubdomain ++ slash :: subdomain
  · subst here
    rw [TunnelService.keepRoute, Members.own_define, Option.some.injEq] at found
    subst found
    exact ⟨workspaceSubdomain, subdomain, slashless, rfl, resolved⟩
  · rw [TunnelService.keepRoute, Members.own_define_ne _ here] at found
    exact routes key cached found

/-- A route that is kept for an address is the one that the database gives. -/
theorem RoutesTrue.resolve_eq (routes : RoutesTrue hub) {workspaceSubdomain subdomain : Text}
    (slashless : slash ∉ workspaceSubdomain) {route : TunnelRoute}
    (kept : cachedRoute (workspaceSubdomain ++ slash :: subdomain) hub = some route) :
    resolve workspaceSubdomain subdomain hub.database = .ok route := by
  obtain ⟨cached, held, rfl⟩ := Option.map_eq_some_iff.mp kept
  obtain ⟨found, -⟩ := Option.filter_eq_some_iff.mp held
  obtain ⟨workspace, service, slashless', key, resolved⟩ := routes _ cached found
  obtain ⟨rfl, rfl⟩ := separator_append_cancel slashless slashless' key
  exact resolved

/-- One request has the same answer, and leaves the Hubs as alike as before. -/
theorem SameRouting.send (same : SameRouting first second) (routes : RoutesTrue first)
    {workspaceSubdomain : Text} (slashless : slash ∉ workspaceSubdomain)
    (serviceSubdomain token : Text) (preferPooled : Bool) :
    let cached := (sendProxyInfo serviceSubdomain workspaceSubdomain token preferPooled).run first
    let direct := (sendProxyInfoUncached serviceSubdomain workspaceSubdomain token
      preferPooled).run second
    cached.1 = direct.1 ∧ SameRouting cached.2 direct.2 ∧ RoutesTrue cached.2 := by
  rw [run_sendProxyInfoUncached, ← same.database]
  dsimp only
  cases kept : cachedRoute (routeKey workspaceSubdomain serviceSubdomain) first with
  | some route =>
    rw [run_sendProxyInfo_kept kept, routes.resolve_eq slashless (by rwa [← routeKey_eq])]
    obtain ⟨answers, after⟩ := same.answer route token preferPooled
    exact ⟨answers, after, routes.answer route token preferPooled⟩
  | none =>
    rw [run_sendProxyInfo_missed kept, routeKey_eq]
    cases resolved : resolve workspaceSubdomain (normalizeSubdomain serviceSubdomain)
        first.database with
    | error failure => exact ⟨rfl, same, routes⟩
    | ok route =>
      have alike : SameRouting (keepRoute (workspaceSubdomain ++ slash ::
          normalizeSubdomain serviceSubdomain) route first) second :=
        ⟨same.database, same.sockets, same.agentUuidToSocketId, same.sent⟩
      obtain ⟨answers, after⟩ := alike.answer route token preferPooled
      exact ⟨answers, after, (routes.keepRoute slashless resolved).answer route token preferPooled⟩

/-- From Hubs that are alike, the same requests have the same answers. -/
theorem SameRouting.trace_eq (same : SameRouting first second) (routes : RoutesTrue first)
    (calls : List RouteCall) (slashless : ∀ call ∈ calls, slash ∉ call.workspaceSubdomain) :
    trace (routing sendProxyInfo) first calls =
      trace (routing sendProxyInfoUncached) second calls := by
  induction calls generalizing first second with
  | nil => rfl
  | cons call rest ih =>
    have alike : SameRouting { first with now := call.time } { second with now := call.time } :=
      ⟨same.database, same.sockets, same.agentUuidToSocketId, same.sent⟩
    have kept : RoutesTrue { first with now := call.time } := routes
    obtain ⟨answers, after, routes'⟩ := alike.send kept (slashless call List.mem_cons_self)
      call.serviceSubdomain call.token call.preferPooled
    rw [trace, trace]
    have observed : (routing sendProxyInfo first call).1 =
        (routing sendProxyInfoUncached second call).1 := by
      rw [routing, routing]
      dsimp only at answers after ⊢
      rw [answers, after.sent, same.sent]
    rw [observed]
    exact congrArg (List.cons _)
      (ih after routes' fun later inside => slashless later (List.mem_cons_of_mem _ inside))

/-- From an empty cache, requests for workspace subdomains without a slash are answered as if no
route was kept. -/
theorem route_cache_transparent (hub : Hub) (empty : hub.routeCache = [])
    (calls : List RouteCall) (slashless : ∀ call ∈ calls, slash ∉ call.workspaceSubdomain) :
    trace (routing sendProxyInfo) hub calls = trace (routing sendProxyInfoUncached) hub calls := by
  have routes : RoutesTrue hub := by
    intro key cached found
    rw [empty] at found
    cases found
  exact SameRouting.trace_eq ⟨rfl, rfl, rfl, rfl⟩ routes calls slashless

/-- A service with an address in each of two workspaces, where the two addresses have one key. -/
def ambiguousHub : Hub where
  now := 0
  database :=
    { workspaces := (Table.empty.create fun index =>
        { workspaceIndex := index
          workspaceOwner := 1
          workspaceName := "first"
          workspaceSubdomain := some "a"
          workspaceSubdomainActive := true
          workspaceCreatedAt := 0 }).create fun index =>
        { workspaceIndex := index
          workspaceOwner := 1
          workspaceName := "second"
          workspaceSubdomain := some "a/b"
          workspaceSubdomainActive := true
          workspaceCreatedAt := 0 }
      agents := Table.empty.create fun index =>
        { agentIndex := index
          agentIp := "127.0.0.1"
          agentCode := "CODE"
          agentUuid := "agent"
          agentName := "CODE"
          agentConnection := .linked
          agentLastOnline := 0 }
      services := Table.empty.create fun index =>
        { serviceIndex := index
          serviceName := "api"
          servicePort := 80
          serviceSourceUrl := "https://example.org/api.git"
          serviceParentWorkspace := 1
          serviceParentAgent := 1
          serviceVersion := "1" }
      serviceEndpoints := (Table.empty.create fun index =>
        { endpointIndex := index
          endpointParentWorkspace := 1
          endpointParentService := 1
          endpointSubdomain := some "b/c"
          endpointHostPort := 80
          endpointContainerPort := 80 }).create fun index =>
        { endpointIndex := index
          endpointParentWorkspace := 2
          endpointParentService := 1
          endpointSubdomain := some "c"
          endpointHostPort := 81
          endpointContainerPort := 81 } }

/-- A request for an address, which takes an open tunnel. -/
def asksFor (serviceSubdomain workspaceSubdomain : Text) (time : ℤ) : RouteCall where
  serviceSubdomain := serviceSubdomain
  workspaceSubdomain := workspaceSubdomain
  token := "token"
  preferPooled := true
  time := time

theorem route_cache_transparent_twice :
    trace (routing sendProxyInfo) ambiguousHub [asksFor "b/c" "a" 1, asksFor " B/C " "a" 2] =
      trace (routing sendProxyInfoUncached) ambiguousHub
        [asksFor "b/c" "a" 1, asksFor " B/C " "a" 2] :=
  route_cache_transparent ambiguousHub rfl _ (by decide)

/-- The route of the first address is answered for the second one. -/
theorem not_route_cache_transparent_slash :
    ambiguousHub.routeCache = [] ∧
      trace (routing sendProxyInfo) ambiguousHub [asksFor "b/c" "a" 1, asksFor "c" "a/b" 2] ≠
        trace (routing sendProxyInfoUncached) ambiguousHub
          [asksFor "b/c" "a" 1, asksFor "c" "a/b" 2] := by
  refine ⟨rfl, fun same => ?_⟩
  have routes := congrArg (List.map fun event => event.2.1.toOption) same
  revert routes
  decide +kernel

end TunnelService

end OpticsHub
