import OpticsHub.Async.Ghosts
import OpticsHub.Services.Operations
import OpticsHub.Tunnel.Routes

/-!
# Where a route comes from

A request is answered with the route of an endpoint that was read for it, or with one that is kept,
and then another request has read the endpoint. To speak of the service whose route it is, the Hub
is taken together with the services that the kept routes were read for. The answers, and all that
happens to the Hub, are the same as without.
-/
namespace OpticsHub

open Script Async Program Machine

namespace TunnelService

open ServiceService

/-! ## Requests -/

/-- For every key the service whose route is kept under it. -/
abbrev Origins := Members ℕ

abbrev TracedProgram := Program (Hub × Origins) Failure

/-- The service of the endpoint that was read. -/
def originOf (found : Option RoutedEndpoint) : Option ℕ :=
  found.map fun routed => routed.endpoint.endpointParentService

/-- The origin of a route is kept with it. -/
def keepOrigin (key : Text) (found : Option RoutedEndpoint) (origins : Origins) : Origins :=
  match routeOf found, originOf found with
  | .ok _, some service => Members.define origins key service
  | _, _ => origins

def decideTraced (key token : Text) (preferPooled : Bool) (found : Option RoutedEndpoint) :
    TracedProgram (TunnelRoute × Option ℕ) :=
  atomically fun traced =>
    let decided := (TunnelService.decide key token preferPooled found).run traced.1
    (decided.1.map fun route => (route, originOf found), decided.2, keepOrigin key found traced.2)

def routeWithinTraced (workspace : Option WorkspaceRow) (key subdomain token : Text)
    (preferPooled : Bool) : TracedProgram (TunnelRoute × Option ℕ) := do
  let workspace ← orThrow workspace workspaceNotFound
  let found ← look fun traced => findEndpoint workspace.workspaceIndex subdomain traced.1.database
  decideTraced key token preferPooled found

def routeFromDatabaseTraced (workspaceSubdomain key subdomain token : Text) (preferPooled : Bool) :
    TracedProgram (TunnelRoute × Option ℕ) := do
  let workspace ← look fun traced => activeWorkspace workspaceSubdomain traced.1.database
  routeWithinTraced workspace key subdomain token preferPooled

def routeFromCacheTraced (key token : Text) (preferPooled : Bool) :
    TracedProgram (Option (TunnelRoute × Option ℕ)) :=
  atomically fun traced =>
    let answered := (routeFromCache key token preferPooled).run traced.1
    (answered.1.map (Option.map fun route => (route, Members.own traced.2 key)), answered.2,
      traced.2)

/-- What follows the look at the cache. -/
def routeUnlessCachedTraced (cached : Option (TunnelRoute × Option ℕ))
    (workspaceSubdomain key subdomain token : Text) (preferPooled : Bool) :
    TracedProgram (TunnelRoute × Option ℕ) :=
  match cached with
  | some route => pure route
  | none => routeFromDatabaseTraced workspaceSubdomain key subdomain token preferPooled

def sendProxyInfoTraced (serviceSubdomain workspaceSubdomain token : Text) (preferPooled : Bool) :
    TracedProgram (TunnelRoute × Option ℕ) := do
  let key := routeKey workspaceSubdomain serviceSubdomain
  let cached ← routeFromCacheTraced key token preferPooled
  routeUnlessCachedTraced cached workspaceSubdomain key (normalizeSubdomain serviceSubdomain) token
    preferPooled

theorem follows_decideTraced (key token : Text) (preferPooled : Bool)
    (found : Option RoutedEndpoint) :
    Follows Prod.fst (decideTraced key token preferPooled found)
      (TunnelService.decide key token preferPooled found) := by
  refine follows_atomically (fun _ => rfl) fun traced => ?_
  change (((TunnelService.decide key token preferPooled found).run traced.1).1.map _).map _ =
    ((TunnelService.decide key token preferPooled found).run traced.1).1
  cases ((TunnelService.decide key token preferPooled found).run traced.1).1 <;> rfl

theorem follows_routeFromDatabaseTraced (workspaceSubdomain key subdomain token : Text)
    (preferPooled : Bool) :
    Follows Prod.fst
      (routeFromDatabaseTraced workspaceSubdomain key subdomain token preferPooled)
      (routeFromDatabase workspaceSubdomain key subdomain token preferPooled) := by
  have reads {α : Type} (read : Database → α) :
      Follows id (look fun traced => read traced.1.database : TracedProgram α)
        (look fun hub => read hub.database : HubProgram α) :=
    follows_look fun _ => rfl
  refine (reads (activeWorkspace workspaceSubdomain)).bind fun workspace => ?_
  cases workspace with
  | none => exact follows_throw workspaceNotFound
  | some workspace =>
    refine (reads (findEndpoint workspace.workspaceIndex subdomain)).bind fun found => ?_
    exact follows_decideTraced key token preferPooled found

/-- A request is answered as without the origins. -/
theorem follows_sendProxyInfoTraced (serviceSubdomain workspaceSubdomain token : Text)
    (preferPooled : Bool) :
    Follows Prod.fst (sendProxyInfoTraced serviceSubdomain workspaceSubdomain token preferPooled)
      (sendProxyInfo serviceSubdomain workspaceSubdomain token preferPooled) := by
  have cached (key : Text) : Follows (Option.map Prod.fst)
      (routeFromCacheTraced key token preferPooled) (routeFromCache key token preferPooled) := by
    refine follows_atomically (fun _ => rfl) fun traced => ?_
    change (((routeFromCache key token preferPooled).run traced.1).1.map _).map _ =
      ((routeFromCache key token preferPooled).run traced.1).1
    cases ((routeFromCache key token preferPooled).run traced.1).1 with
    | error failure => rfl
    | ok route => cases route <;> rfl
  refine (cached _).bind fun route => ?_
  cases route with
  | some route => exact follows_pure route
  | none => exact follows_routeFromDatabaseTraced _ _ _ _ _

/-! ## Requests and blocks -/

inductive TrafficCall where
  | sendProxyInfo (serviceSubdomain workspaceSubdomain token : Text) (preferPooled : Bool)
  | blockTraffic (owner : Int32) (serviceIdx : Text) (options : BlockServiceTraffic)
  | unblockTraffic (owner : Int32) (serviceIdx : Text)

/-- What a call returns. -/
inductive TrafficReply where
  | route (route : TunnelRoute)
  | service (service : ServiceRow)

def trafficProgram : TrafficCall → HubProgram TrafficReply
  | .sendProxyInfo serviceSubdomain workspaceSubdomain token preferPooled => do
    let route ← sendProxyInfo serviceSubdomain workspaceSubdomain token preferPooled
    return .route route
  | .blockTraffic owner serviceIdx options => do
    let service ← handleBlockServiceTraffic owner serviceIdx options
    return .service service
  | .unblockTraffic owner serviceIdx => do
    let service ← handleUnblockServiceTraffic owner serviceIdx
    return .service service

/-- A request returns a route with its origin. -/
def answering (program : TracedProgram (TunnelRoute × Option ℕ)) :
    TracedProgram (TrafficReply × Option ℕ) := do
  let routed ← program
  return (.route routed.1, routed.2)

/-- A block, or the end of one, returns the row of a service. -/
def writing (program : HubProgram ServiceRow) : TracedProgram (TrafficReply × Option ℕ) := do
  let service ← program.beside
  return (.service service, none)

def tracedProgram : TrafficCall → TracedProgram (TrafficReply × Option ℕ)
  | .sendProxyInfo serviceSubdomain workspaceSubdomain token preferPooled =>
    answering (sendProxyInfoTraced serviceSubdomain workspaceSubdomain token preferPooled)
  | .blockTraffic owner serviceIdx options =>
    writing (handleBlockServiceTraffic owner serviceIdx options)
  | .unblockTraffic owner serviceIdx => writing (handleUnblockServiceTraffic owner serviceIdx)

/-- Whatever else happens in the Hub: none of it writes to services or to the routes that are
kept. -/
structure Unrelated where
  change : Hub → Hub
  services : ∀ hub, (change hub).database.services = hub.database.services
  routeCache : ∀ hub, (change hub).routeCache = hub.routeCache

abbrev TrafficConfig := Config TrafficCall (Hub × Origins) Failure (TrafficReply × Option ℕ)

abbrev TrafficThread := Thread TrafficCall (Hub × Origins) Failure (TrafficReply × Option ℕ)

/-- Requests, blocks and their ends interleave. -/
def traffic : Transition TrafficConfig (Move TrafficCall Unrelated) (Async.Shown Unit Unit) :=
  Async.move tracedProgram (fun traced event => ((), event.change traced.1, traced.2))
    fun _ _ => ()

/-- The same without the origins. -/
def untracedTraffic : Transition (Config TrafficCall Hub Failure TrafficReply)
    (Move TrafficCall Unrelated) (Async.Shown Unit Unit) :=
  Async.move trafficProgram (fun hub event => ((), event.change hub)) fun _ _ => ()

theorem follows_tracedProgram (call : TrafficCall) :
    Follows Prod.fst (tracedProgram call) (trafficProgram call) := by
  have written (program : HubProgram ServiceRow) : Follows Prod.fst (writing program)
      (do let service ← program; return .service service) :=
    (follows_beside program).bind fun service => follows_pure (TrafficReply.service service, none)
  cases call with
  | sendProxyInfo serviceSubdomain workspaceSubdomain token preferPooled =>
    exact (follows_sendProxyInfoTraced _ _ _ _).bind fun routed =>
      follows_pure (TrafficReply.route routed.1, routed.2)
  | blockTraffic owner serviceIdx options => exact written _
  | unblockTraffic owner serviceIdx => exact written _

/-- A run with the origins is one of the Hub: this ends in the same state, and every call returns
the same. -/
theorem traffic_follows (start : Hub) (origins : Origins)
    (moves : List (Move TrafficCall Unrelated)) :
    (final untracedTraffic { state := start } moves).state =
        (final traffic { state := (start, origins) } moves).state.1 ∧
      (final untracedTraffic { state := start } moves).threads.map Thread.result =
        (final traffic { state := (start, origins) } moves).threads.map fun thread =>
          thread.result.map (Except.map Prod.fst) := by
  have follows : (final traffic { state := (start, origins) } moves).Follows Prod.fst
      (final untracedTraffic { state := start } moves) :=
    Config.Follows.final ⟨rfl, rfl, .nil⟩ follows_tracedProgram (fun _ _ => rfl) moves
  exact ⟨follows.state.symm, follows.results⟩

end TunnelService

end OpticsHub
