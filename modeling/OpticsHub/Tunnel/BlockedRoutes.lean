import OpticsHub.Async.Precedence
import OpticsHub.Services.TrafficBlocks
import OpticsHub.Tunnel.Origins

/-!
# A block and the requests that are under way

A block writes the row of the service and then forgets every route that is kept. A request that
has read the row before, and is to decide on it, keeps its route afterwards, and the requests that
come next are answered with it. So a block takes effect at once only if no request that was under
way when it returned goes on with a route of the service. Then, until an end of the block starts,
the row says that the traffic is blocked, and no route of the service is kept.
-/
namespace OpticsHub

open Script Async Program Machine

namespace TunnelService

open ServiceService

/-! ## The property and its condition -/

def TrafficCall.blocks (serviceIndex : ℕ) : TrafficCall → Bool
  | .blockTraffic _ serviceIdx _ => (parseServiceIndex serviceIdx).toOption == some serviceIndex
  | _ => false

def TrafficCall.unblocks (serviceIndex : ℕ) : TrafficCall → Bool
  | .unblockTraffic _ serviceIdx => (parseServiceIndex serviceIdx).toOption == some serviceIndex
  | _ => false

/-- What a call requires of the rows that it writes. -/
def TrafficCall.written : TrafficCall → ServiceRow → Prop
  | .blockTraffic _ _ _, row => row.serviceTrafficBlockedAt.isSome = true
  | _, _ => True

def returned (thread : TrafficThread) : Bool :=
  match thread.result with
  | some (.ok _) => true
  | _ => false

/-- A request was answered with a route of an endpoint of a service. -/
def routedTo (serviceIndex : ℕ) (thread : TrafficThread) : Bool :=
  match thread.result with
  | some (.ok (.route _, some service)) => service == serviceIndex
  | _ => false

/-- After a block has returned, no request that starts is answered with a route of the service,
unless an end of the block has started that is not over before the block. -/
def TakesEffect (serviceIndex : ℕ) (config : TrafficConfig) : Prop :=
  ∀ block ∈ config.threads, block.call.blocks serviceIndex = true → returned block = true →
    ∀ request ∈ config.threads, block.Precedes request → routedTo serviceIndex request = true →
      ∃ unblock ∈ config.threads, unblock.call.unblocks serviceIndex = true ∧
        ¬ unblock.Precedes block ∧ ¬ request.Precedes unblock

instance (serviceIndex : ℕ) (config : TrafficConfig) :
    Decidable (TakesEffect serviceIndex config) :=
  inferInstanceAs (Decidable (∀ block ∈ config.threads, _))

/-- Every end of the block of a service was over before a call. -/
def Undisputed (serviceIndex : ℕ) (block : TrafficThread) (config : TrafficConfig) : Prop :=
  ∀ other ∈ config.threads, other.call.unblocks serviceIndex = true → other.Precedes block

/-- A block has returned, and every end of it was over before. -/
structure InForce (serviceIndex : ℕ) (block : TrafficThread) (config : TrafficConfig) : Prop where
  inside : block ∈ config.threads
  blocks : block.call.blocks serviceIndex = true
  returned : returned block = true
  undisputed : Undisputed serviceIndex block config

/-- A request is to decide on a route of an endpoint of a service. -/
def HoldsRoute (serviceIndex : ℕ) (program : TracedProgram (TrafficReply × Option ℕ)) : Prop :=
  ∃ key token preferPooled found route,
    program = answering (decideTraced key token preferPooled found) ∧
      routeOf found = .ok route ∧ originOf found = some serviceIndex

/-- A request that was under way when a block returned does not go on with a route of the service
while the block is in force. -/
def UpToDate (config : TrafficConfig) : Move TrafficCall Unrelated → Prop
  | .resume index => ∀ request, config.threads[index]? = some request →
    ∀ serviceIndex, HoldsRoute serviceIndex request.program →
      ∀ block, InForce serviceIndex block config → block.Precedes request
  | _ => True

/-! ## What a block does -/

/-- What is left of a call that looks up the row of a service and writes it, up to the write. The
rows that it writes are as required. -/
inductive Writing (written : ServiceRow → Prop) (serviceIndex : ℕ) :
    HubProgram ServiceRow → Prop where
  | failed (failure : Failure) : Writing written serviceIndex (.done (.error failure))
  | reads {effect : Hub → Hub} {next : Hub → HubProgram ServiceRow}
      (silent : ∀ hub, effect hub = hub) (later : ∀ hub, Writing written serviceIndex (next hub)) :
      Writing written serviceIndex (.act effect next)
  | writes {rawService : ServiceRow} (named : rawService.serviceIndex = serviceIndex)
      (change : ℤ → ServiceRow → ServiceRow)
      (keyed : ∀ now row, (change now row).serviceIndex = row.serviceIndex)
      (parent : ∀ now row,
        (change now row).serviceParentWorkspace = row.serviceParentWorkspace)
      (required : ∀ now row, written (change now row)) :
      Writing written serviceIndex
        (updateService rawService.serviceIndex change keyed >>= publishTraffic rawService)

section Writes

variable {written : ServiceRow → Prop} {serviceIndex : ℕ} {program : HubProgram ServiceRow}

theorem refused_findOwned {owner : Int32} {serviceIdx : Text} {failure : Failure}
    {rest : ServiceRow × Option AgentRow → HubProgram ServiceRow}
    (parsed : parseServiceIndex serviceIdx = .error failure) :
    findOwnedServiceAndAgent owner serviceIdx >>= rest = .done (.error failure) := by
  rw [findOwnedServiceAndAgent, parsed]
  rfl

/-- The row that is looked up for a user. -/
theorem writing_findOwned {owner : Int32} {serviceIdx : Text}
    {rest : ServiceRow → HubProgram ServiceRow}
    (parsed : parseServiceIndex serviceIdx = .ok serviceIndex)
    (later : ∀ rawService : ServiceRow, rawService.serviceIndex = serviceIndex →
      Writing written serviceIndex (rest rawService)) :
    Writing written serviceIndex
      (findOwnedServiceAndAgent owner serviceIdx >>= fun found => rest found.1) := by
  rw [findOwnedServiceAndAgent, parsed]
  change Writing written serviceIndex
    ((require (serviceIndex < 2 ^ 31) Failure.internal >>= _) >>= _)
  rw [require]
  split
  · refine .reads (fun _ => rfl) fun hub => ?_
    change Writing written serviceIndex
      ((orThrow (ownedService owner serviceIndex hub.database) ServiceService.serviceNotFound >>=
        _) >>= _)
    cases found : ownedService owner serviceIndex hub.database with
    | none => exact .failed _
    | some rawService =>
      obtain ⟨-, selected⟩ := Table.mem_of_findFirst found
      simp only [Bool.and_eq_true, beq_iff_eq] at selected
      exact .reads (fun _ => rfl) fun _ => later rawService selected.1.1
  · exact .failed _

theorem writing_block {owner : Int32} {serviceIdx : Text} (options : BlockServiceTraffic)
    (parsed : parseServiceIndex serviceIdx = .ok serviceIndex) :
    Writing (TrafficCall.written (.blockTraffic owner serviceIdx options)) serviceIndex
      (handleBlockServiceTraffic owner serviceIdx options) := by
  refine @writing_findOwned _ _ owner serviceIdx (fun rawService => do
    require (rawService.serviceStatus ≠ .removed)
      (.conflict "Removed service has no traffic to block.")
    let updated ← updateService rawService.serviceIndex fun now row =>
      { row with
        serviceTrafficBlockedAt := some (rawService.serviceTrafficBlockedAt.getD now)
        serviceTrafficBlockMode := options.mode.getD .notice
        serviceTrafficBlockReason := trimmed options.reason }
    publishTraffic rawService updated) parsed fun rawService named => ?_
  rw [require_bind]
  split
  · refine .writes named _ _ ?_ ?_
    · exact fun _ _ => rfl
    · exact fun _ _ => rfl
  · exact .failed _

theorem writing_unblock {owner : Int32} {serviceIdx : Text}
    (parsed : parseServiceIndex serviceIdx = .ok serviceIndex) :
    Writing (TrafficCall.written (.unblockTraffic owner serviceIdx)) serviceIndex
      (handleUnblockServiceTraffic owner serviceIdx) := by
  refine @writing_findOwned _ _ owner serviceIdx (fun rawService => do
    let updated ← updateService rawService.serviceIndex fun _ row =>
      { row with
        serviceTrafficBlockedAt := none
        serviceTrafficBlockReason := none
        serviceTrafficBlockMode := .notice }
    publishTraffic rawService updated) parsed fun rawService named => ?_
  exact .writes named _ _ (fun _ _ => rfl) fun _ _ => trivial

/-- `update` on `services` is one action, which fails or writes the row with the key. -/
theorem updateService_cases (index : ℕ) (change : ℤ → ServiceRow → ServiceRow)
    (keyed : ∀ now row, (change now row).serviceIndex = row.serviceIndex) :
    ∃ action, updateService index change keyed = atomically action ∧
      ∀ hub, action hub = (.error .internal, hub) ∨
        ∃ service ∈ hub.database.services, service.serviceIndex = index ∧
          ∃ services : Table ServiceRow,
            (∀ row, row ∈ services ↔ row = change hub.now service ∨
              row ∈ hub.database.services ∧ row.serviceIndex ≠ service.serviceIndex) ∧
            action hub = (.ok (change hub.now service),
              hub.write fun database => { database with services := services }) := by
  refine ⟨_, rfl, fun hub => ?_⟩
  cases found : hub.database.services.findFirst fun row => row.serviceIndex == index with
  | none => exact .inl rfl
  | some service =>
    obtain ⟨inside, named⟩ := Table.mem_of_findFirst found
    obtain rfl := beq_iff_eq.mp named
    by_cases clash : clashes hub.database.services (change hub.now service) = true
    · exact .inl (if_pos clash)
    · exact .inr ⟨service, inside, rfl, _, fun _ => Table.mem_updateMany_key inside, if_neg clash⟩

/-- The next action of such a call changes nothing, or it is the write. -/
theorem Writing.next (stage : Writing written serviceIndex program) (hub : Hub) :
    program.effect hub = hub ∧ Writing written serviceIndex (program.next hub) ∨
      (∃ rawService updated, program.next hub = publishTraffic rawService updated) ∧
        (program.effect hub).routeCache = hub.routeCache ∧
        ∃ service changed, service.serviceIndex = serviceIndex ∧ written changed ∧
          Rewrites service changed hub.database (program.effect hub).database := by
  cases stage with
  | failed failure => exact .inl ⟨rfl, .failed failure⟩
  | reads silent later => exact .inl ⟨silent hub, later hub⟩
  | @writes rawService named change keyed parent required =>
    obtain ⟨action, same, cases⟩ := updateService_cases rawService.serviceIndex change keyed
    rw [same]
    rcases cases hub with outcome | ⟨service, inside, index, services, rows, outcome⟩
    · obtain ⟨effect, next⟩ := next_atomically outcome (publishTraffic rawService)
      rw [effect, next]
      exact .inl ⟨rfl, .failed _⟩
    · obtain ⟨effect, next⟩ := next_atomically outcome (publishTraffic rawService)
      rw [effect, next]
      refine .inr ⟨⟨rawService, _, rfl⟩, rfl, service, _, index.trans named,
        required hub.now service, inside, keyed hub.now service, parent hub.now service, rows⟩

end Writes

/-! ## The stages of a call -/

/-- What is left of the program of a call: services of which it may hold a route, and services whose
row it has written. -/
inductive Stage (mayHold settled : ℕ → Prop) :
    TrafficCall → TracedProgram (TrafficReply × Option ℕ) → Prop where
  | ended (call : TrafficCall) (result : Except Failure (TrafficReply × Option ℕ)) :
      Stage mayHold settled call (.done result)
  | asks (serviceSubdomain workspaceSubdomain token : Text) (preferPooled : Bool) :
      Stage mayHold settled
        (.sendProxyInfo serviceSubdomain workspaceSubdomain token preferPooled)
        (answering
          (sendProxyInfoTraced serviceSubdomain workspaceSubdomain token preferPooled))
  | missed (serviceSubdomain workspaceSubdomain key subdomain token : Text) (preferPooled : Bool) :
      Stage mayHold settled
        (.sendProxyInfo serviceSubdomain workspaceSubdomain token preferPooled)
        (answering (routeFromDatabaseTraced workspaceSubdomain key subdomain token preferPooled))
  | looks (serviceSubdomain workspaceSubdomain key subdomain token : Text) (preferPooled : Bool)
      (workspace : WorkspaceRow) :
      Stage mayHold settled
        (.sendProxyInfo serviceSubdomain workspaceSubdomain token preferPooled)
        (answering (routeWithinTraced (some workspace) key subdomain token preferPooled))
  | decides (serviceSubdomain workspaceSubdomain key token : Text) (preferPooled : Bool)
      (found : Option RoutedEndpoint)
      (held : ∀ serviceIndex route, routeOf found = .ok route →
        originOf found = some serviceIndex → mayHold serviceIndex) :
      Stage mayHold settled
        (.sendProxyInfo serviceSubdomain workspaceSubdomain token preferPooled)
        (answering (decideTraced key token preferPooled found))
  | writes {call : TrafficCall} {serviceIndex : ℕ} {program : HubProgram ServiceRow}
      (named : call.blocks serviceIndex = true ∨ call.unblocks serviceIndex = true)
      (stage : Writing call.written serviceIndex program) :
      Stage mayHold settled call (writing program)
  | publishes {call : TrafficCall} (rawService updated : ServiceRow)
      (known : ∀ serviceIndex, call.blocks serviceIndex = true → settled serviceIndex) :
      Stage mayHold settled call (writing (publishTraffic rawService updated))

/-- The traffic of a service is blocked. -/
def Blocked (serviceIndex : ℕ) (database : Database) : Prop :=
  ∃ since, BlockedSince serviceIndex since database

/-- No route of a service is kept. -/
def Unrouted (serviceIndex : ℕ) (traced : Hub × Origins) : Prop :=
  ∀ key, (Members.own traced.1.routeCache key).isSome = true →
    Members.own traced.2 key ≠ some serviceIndex

theorem stage_tracedProgram {mayHold settled : ℕ → Prop} (call : TrafficCall) :
    Stage mayHold settled call (tracedProgram call) := by
  cases call with
  | sendProxyInfo serviceSubdomain workspaceSubdomain token preferPooled => exact .asks _ _ _ _
  | blockTraffic owner serviceIdx options =>
    cases parsed : parseServiceIndex serviceIdx with
    | error failure =>
      rw [tracedProgram, handleBlockServiceTraffic, refused_findOwned parsed]
      exact .ended _ _
    | ok serviceIndex =>
      refine .writes (.inl ?_) (writing_block options parsed)
      rw [TrafficCall.blocks, parsed, Except.toOption, beq_self_eq_true]
  | unblockTraffic owner serviceIdx =>
    cases parsed : parseServiceIndex serviceIdx with
    | error failure =>
      rw [tracedProgram, handleUnblockServiceTraffic, refused_findOwned parsed]
      exact .ended _ _
    | ok serviceIndex =>
      refine .writes (.inr ?_) (writing_unblock parsed)
      rw [TrafficCall.unblocks, parsed, Except.toOption, beq_self_eq_true]

section Stages

variable {call : TrafficCall} {program : TracedProgram (TrafficReply × Option ℕ)}
  {mayHold settled : ℕ → Prop} {serviceIndex : ℕ} {state : Hub × Origins}

/-- A call that writes returns the row that is written. -/
theorem writing_ended {program : HubProgram ServiceRow} {reply : TrafficReply × Option ℕ}
    (ends : writing program = .done (.ok reply)) :
    ∃ row, program = .done (.ok row) ∧ reply = (.service row, none) := by
  cases program with
  | done result =>
    cases result with
    | ok row =>
      cases ends
      exact ⟨row, rfl, rfl⟩
    | error failure => cases ends
  | act effect next => cases ends

/-- Nothing is returned before the write. -/
theorem Writing.not_returned {written : ServiceRow → Prop} {program : HubProgram ServiceRow}
    {row : ServiceRow} (stage : Writing written serviceIndex program) :
    program ≠ .done (.ok row) := by
  intro ends
  have finished := congrArg Program.finished ends
  cases stage with
  | failed failure => cases ends
  | reads silent later => cases ends
  | writes named change keyed parent required => cases finished

/-- The same with the origins, which it knows nothing of. -/
theorem Writing.traced_next {written : ServiceRow → Prop} {program : HubProgram ServiceRow}
    (stage : Writing written serviceIndex program) (state : Hub × Origins) :
    ((writing program).effect state).2 = state.2 ∧
      (((writing program).effect state).1 = state.1 ∧
          (∃ later, (writing program).next state = writing later ∧
            Writing written serviceIndex later) ∨
        (∃ rawService updated,
            (writing program).next state = writing (publishTraffic rawService updated)) ∧
          ((writing program).effect state).1.routeCache = state.1.routeCache ∧
          ∃ service changed, service.serviceIndex = serviceIndex ∧ written changed ∧
            Rewrites service changed state.1.database
              ((writing program).effect state).1.database) := by
  have next := stage.next state.1
  cases program with
  | done result =>
    cases result with
    | ok row => exact absurd rfl stage.not_returned
    | error failure => exact ⟨rfl, .inl ⟨rfl, .done (.error failure), rfl, stage⟩⟩
  | act effect rest =>
    refine ⟨rfl, ?_⟩
    rcases next with ⟨same, later⟩ | ⟨⟨rawService, updated, same⟩, writes⟩
    · exact .inl ⟨same, _, rfl, later⟩
    · exact .inr ⟨⟨rawService, updated, congrArg writing same⟩, writes⟩

/-- A look at the cache writes nothing, and what it finds is kept. -/
theorem run_routeFromCache (key token : Text) (preferPooled : Bool) (hub : Hub) :
    (((routeFromCache key token preferPooled).run hub).2.database = hub.database ∧
      ((routeFromCache key token preferPooled).run hub).2.routeCache = hub.routeCache) ∧
    ∀ route, ((routeFromCache key token preferPooled).run hub).1 = .ok (some route) →
      (Members.own hub.routeCache key).isSome = true := by
  rw [routeFromCache, run_atomically]
  cases kept : cachedRoute key hub with
  | none => exact ⟨⟨rfl, rfl⟩, fun route same => by cases same⟩
  | some route =>
    refine ⟨answer_keeps route token preferPooled hub, fun _ _ => ?_⟩
    obtain ⟨cached, held, -⟩ := Option.map_eq_some_iff.mp kept
    rw [(Option.filter_eq_some_iff.mp held).1]
    rfl

/-- A decision writes no services, and keeps at most the route of the endpoint that was read. -/
theorem run_decide_keeps (key token : Text) (preferPooled : Bool) (found : Option RoutedEndpoint)
    (hub : Hub) :
    ((TunnelService.decide key token preferPooled found).run hub).2.database = hub.database ∧
      ((∃ route, routeOf found = .ok route ∧
          ((TunnelService.decide key token preferPooled found).run hub).2.routeCache =
            (keepRoute key route hub).routeCache) ∨
        (∃ failure, routeOf found = .error failure ∧
          ((TunnelService.decide key token preferPooled found).run hub).1 = .error failure) ∧
        ((TunnelService.decide key token preferPooled found).run hub).2.routeCache =
          hub.routeCache) := by
  rw [run_decide]
  cases decided : routeOf found with
  | error failure => exact ⟨rfl, .inr ⟨⟨failure, rfl, rfl⟩, rfl⟩⟩
  | ok route =>
    obtain ⟨database, routeCache⟩ := answer_keeps route token preferPooled (keepRoute key route hub)
    exact ⟨database, .inl ⟨route, rfl, routeCache⟩⟩

/-- The service of a route that is found. -/
theorem exists_originOf {found : Option RoutedEndpoint} {route : TunnelRoute}
    (decided : routeOf found = .ok route) : ∃ service, originOf found = some service := by
  cases found with
  | none => cases decided
  | some routed => exact ⟨_, rfl⟩

/-- The row of a service with a block is written. -/
theorem blocked_of_rewrites {service changed : ServiceRow} {before after : Database}
    (rewrites : Rewrites service changed before after) (named : service.serviceIndex = serviceIndex)
    (block : changed.serviceTrafficBlockedAt.isSome = true) : Blocked serviceIndex after := by
  obtain ⟨since, time⟩ := Option.isSome_iff_exists.mp block
  exact ⟨since, changed, (rewrites.rows changed).mpr (.inl rfl), rewrites.index.trans named, time⟩

theorem Blocked.rewrites {service changed : ServiceRow} {before after : Database}
    (blocked : Blocked serviceIndex before) (rewrites : Rewrites service changed before after)
    (kept : service.serviceIndex = serviceIndex →
      changed.serviceTrafficBlockedAt.isSome = true) : Blocked serviceIndex after := by
  obtain ⟨since, row, inside, named, time⟩ := blocked
  by_cases same : row.serviceIndex = service.serviceIndex
  · exact blocked_of_rewrites rewrites (same.symm.trans named) (kept (same.symm.trans named))
  · exact ⟨since, row, (rewrites.rows row).mpr (.inr ⟨inside, same⟩), named, time⟩

theorem written_of_blocks {row : ServiceRow} (blocks : call.blocks serviceIndex = true)
    (written : call.written row) : row.serviceTrafficBlockedAt.isSome = true := by
  cases call with
  | blockTraffic owner serviceIdx options => exact written
  | sendProxyInfo serviceSubdomain workspaceSubdomain token preferPooled => cases blocks
  | unblockTraffic owner serviceIdx => cases blocks

/-- A block is one of a single service. -/
theorem eq_of_blocks {index : ℕ} (blocks : call.blocks serviceIndex = true)
    (named : call.blocks index = true ∨ call.unblocks index = true) : index = serviceIndex := by
  cases call with
  | blockTraffic owner serviceIdx options =>
    rcases named with blocks' | unblocks
    · rw [TrafficCall.blocks, beq_iff_eq] at blocks blocks'
      exact Option.some.inj (blocks'.symm.trans blocks)
    · cases unblocks
  | sendProxyInfo serviceSubdomain workspaceSubdomain token preferPooled => cases blocks
  | unblockTraffic owner serviceIdx => cases blocks

/-- A route is only read for a service whose traffic is not blocked. -/
theorem not_blocked_of_route {workspaceIndex : ℕ} {subdomain : Text} {database : Database}
    {route : TunnelRoute}
    (decided : routeOf (findEndpoint workspaceIndex subdomain database) = .ok route)
    (named : originOf (findEndpoint workspaceIndex subdomain database) = some serviceIndex) :
    ¬ Blocked serviceIndex database := by
  rintro ⟨since, row, inside, index, time⟩
  cases found : findEndpoint workspaceIndex subdomain database with
  | none =>
    rw [found] at decided
    cases decided
  | some routed =>
    rw [found] at decided named
    obtain ⟨there, parent⟩ := findEndpoint_service found
    have same : row.serviceIndex = routed.service.serviceIndex := by
      rw [index, parent]
      exact (Option.some.inj named).symm
    obtain rfl := Table.eq_of_key inside there same
    rw [routeOf, time] at decided
    cases decided

/-! ## What one action does -/

theorem Stage.mono {mayHold' settled' : ℕ → Prop} (stage : Stage mayHold settled call program)
    (holds : ∀ serviceIndex, mayHold serviceIndex → mayHold' serviceIndex)
    (settles : ∀ serviceIndex, settled serviceIndex → settled' serviceIndex) :
    Stage mayHold' settled' call program := by
  cases stage with
  | ended call result => exact .ended call result
  | asks _ _ _ _ => exact .asks _ _ _ _
  | missed _ _ _ _ _ _ => exact .missed _ _ _ _ _ _
  | looks _ _ _ _ _ _ _ => exact .looks _ _ _ _ _ _ _
  | decides _ _ _ _ _ _ held =>
    exact .decides _ _ _ _ _ _ fun service route decided named =>
      holds service (held service route decided named)
  | writes named stage => exact .writes named stage
  | publishes rawService updated known =>
    exact .publishes rawService updated fun service blocks => settles service (known service blocks)

/-- A stage is followed by a stage. -/
theorem Stage.next {mayHold' settled' : ℕ → Prop} (stage : Stage mayHold settled call program)
    (state : Hub × Origins)
    (holds : ∀ serviceIndex, ¬ Blocked serviceIndex state.1.database → mayHold' serviceIndex)
    (settles : ∀ serviceIndex, call.blocks serviceIndex = true →
      Blocked serviceIndex (program.effect state).1.database → settled' serviceIndex) :
    Stage mayHold' settled' call (program.next state) := by
  cases stage with
  | ended call result => exact .ended call result
  | asks serviceSubdomain workspaceSubdomain token preferPooled =>
    change Stage _ _ _ ((Program.done (((routeFromCache
      (routeKey workspaceSubdomain serviceSubdomain) token preferPooled).run state.1).1.map _) >>=
        _) >>= _)
    cases ((routeFromCache (routeKey workspaceSubdomain serviceSubdomain) token
        preferPooled).run state.1).1 with
    | error failure => exact .ended _ _
    | ok cached =>
      cases cached with
      | none => exact .missed _ _ _ _ _ _
      | some route => exact .ended _ _
  | missed serviceSubdomain workspaceSubdomain key subdomain token preferPooled =>
    change Stage _ _ _ (answering (routeWithinTraced
      (activeWorkspace workspaceSubdomain state.1.database) key subdomain token preferPooled))
    cases activeWorkspace workspaceSubdomain state.1.database with
    | none => exact .ended _ _
    | some workspace => exact .looks _ _ _ _ _ _ _
  | looks serviceSubdomain workspaceSubdomain key subdomain token preferPooled workspace =>
    refine .decides _ _ _ _ _ _ fun service route decided named => holds service ?_
    exact not_blocked_of_route decided named
  | decides serviceSubdomain workspaceSubdomain key token preferPooled found held =>
    change Stage _ _ _ (Program.done (((TunnelService.decide key token preferPooled found).run
      state.1).1.map _) >>= _)
    cases ((TunnelService.decide key token preferPooled found).run state.1).1 with
    | error failure => exact .ended _ _
    | ok route => exact .ended _ _
  | writes named stage =>
    obtain ⟨-, ⟨-, later, same, stage'⟩ |
      ⟨⟨rawService, updated, same⟩, -, service, changed, here, written, rewrites⟩⟩ :=
        stage.traced_next state
    · rw [same]
      exact .writes named stage'
    · rw [same]
      refine .publishes rawService updated fun other blocks => settles other blocks ?_
      obtain rfl := eq_of_blocks blocks named
      exact blocked_of_rewrites rewrites here (written_of_blocks blocks written)
  | publishes rawService updated known => exact .ended _ _

/-- A block lasts under every action but those of its ends. -/
theorem Stage.keeps_blocked (stage : Stage mayHold settled call program)
    (other : call.unblocks serviceIndex = false) (state : Hub × Origins)
    (blocked : Blocked serviceIndex state.1.database) :
    Blocked serviceIndex (program.effect state).1.database := by
  have kept (same : (program.effect state).1.database = state.1.database) :
      Blocked serviceIndex (program.effect state).1.database := by rwa [same]
  cases stage with
  | ended call result => exact blocked
  | asks serviceSubdomain workspaceSubdomain token preferPooled =>
    exact kept (run_routeFromCache _ token preferPooled state.1).1.1
  | missed _ _ _ _ _ _ => exact blocked
  | looks _ _ _ _ _ _ _ => exact blocked
  | decides _ _ key token preferPooled found =>
    exact kept (run_decide_keeps key token preferPooled found state.1).1
  | writes named stage =>
    obtain ⟨-, ⟨same, -⟩ | ⟨-, -, service, changed, here, written, rewrites⟩⟩ :=
      stage.traced_next state
    · exact kept (congrArg Hub.database same)
    · refine blocked.rewrites rewrites fun there => ?_
      obtain rfl := here.symm.trans there
      rcases named with blocks | unblocks
      · exact written_of_blocks blocks written
      · rw [unblocks] at other
        cases other
  | publishes rawService updated known => exact blocked

/-- An action keeps no route of a service, unless it is the decision on one. -/
theorem Stage.keeps_unrouted (stage : Stage mayHold settled call program)
    (free : HoldsRoute serviceIndex program → ¬ mayHold serviceIndex) (state : Hub × Origins)
    (unrouted : Unrouted serviceIndex state) : Unrouted serviceIndex (program.effect state) := by
  have kept {after : Hub × Origins} (cache : after.1.routeCache = state.1.routeCache)
      (origins : after.2 = state.2) : Unrouted serviceIndex after := by
    rw [Unrouted, cache, origins]
    exact unrouted
  cases stage with
  | ended call result => exact unrouted
  | asks serviceSubdomain workspaceSubdomain token preferPooled =>
    exact kept (run_routeFromCache _ token preferPooled state.1).1.2 rfl
  | missed _ _ _ _ _ _ => exact unrouted
  | looks _ _ _ _ _ _ _ => exact unrouted
  | decides _ _ key token preferPooled found held =>
    obtain ⟨-, outcome⟩ := run_decide_keeps key token preferPooled found state.1
    rcases outcome with ⟨route, decided, cache⟩ | ⟨⟨failure, refused, -⟩, cache⟩
    · obtain ⟨service, named⟩ := exists_originOf decided
      have origins : keepOrigin key found state.2 = Members.define state.2 key service := by
        rw [keepOrigin, decided, named]
      intro other listed
      change Members.own (keepOrigin key found state.2) other ≠ some serviceIndex
      rw [origins]
      by_cases same : other = key
      · subst same
        rw [Members.own_define]
        intro here
        have mine := named.trans here
        exact free ⟨_, _, _, found, route, rfl, decided, mine⟩ (held _ route decided mine)
      · rw [Members.own_define_ne _ same]
        refine unrouted other ?_
        have listed' :
            (Members.own (keepRoute key route state.1).routeCache other).isSome = true := by
          rw [← cache]
          exact listed
        rwa [keepRoute, Members.own_define_ne _ same] at listed'
    · refine kept cache ?_
      change keepOrigin key found state.2 = state.2
      rw [keepOrigin, refused]
  | writes named stage =>
    obtain ⟨origins, ⟨same, -⟩ | ⟨-, cache, -⟩⟩ := stage.traced_next state
    · exact kept (congrArg Hub.routeCache same) origins
    · exact kept cache origins
  | publishes rawService updated known =>
    intro key held
    cases held

/-- A request that is answered with a route of a service was to decide on one, or has found one
that was kept. -/
theorem Stage.not_routed (stage : Stage mayHold settled call program)
    (running : program.finished = false)
    (free : HoldsRoute serviceIndex program → ¬ mayHold serviceIndex) (state : Hub × Origins)
    (unrouted : Unrouted serviceIndex state)
    {reply : TrafficReply × Option ℕ} (ends : program.next state = .done (.ok reply)) :
    reply.2 ≠ some serviceIndex := by
  cases stage with
  | ended call result => cases running
  | asks serviceSubdomain workspaceSubdomain token preferPooled =>
    have kept := (run_routeFromCache (routeKey workspaceSubdomain serviceSubdomain) token
      preferPooled state.1).2
    change ((Program.done (((routeFromCache
      (routeKey workspaceSubdomain serviceSubdomain) token preferPooled).run state.1).1.map _) >>=
        _) >>= _) = _ at ends
    cases cached : ((routeFromCache (routeKey workspaceSubdomain serviceSubdomain) token
        preferPooled).run state.1).1 with
    | error failure =>
      rw [cached] at ends
      cases ends
    | ok cached' =>
      rw [cached] at ends
      cases cached' with
      | none => cases ends
      | some route =>
        cases ends
        exact unrouted _ (kept route cached)
  | missed serviceSubdomain workspaceSubdomain key subdomain token preferPooled =>
    change answering (routeWithinTraced
      (activeWorkspace workspaceSubdomain state.1.database) key subdomain token preferPooled) = _
      at ends
    cases active : activeWorkspace workspaceSubdomain state.1.database with
    | none =>
      rw [active] at ends
      cases ends
    | some workspace =>
      rw [active] at ends
      cases ends
  | looks serviceSubdomain workspaceSubdomain key subdomain token preferPooled workspace =>
    cases ends
  | decides serviceSubdomain workspaceSubdomain key token preferPooled found held =>
    obtain ⟨-, outcome⟩ := run_decide_keeps key token preferPooled found state.1
    change (Program.done (((TunnelService.decide key token preferPooled found).run
      state.1).1.map _) >>= _) = _ at ends
    cases answered : ((TunnelService.decide key token preferPooled found).run state.1).1 with
    | error failure =>
      rw [answered] at ends
      cases ends
    | ok answer =>
      rw [answered] at ends
      cases ends
      rcases outcome with ⟨route, decided, -⟩ | ⟨⟨failure, -, refused⟩, -⟩
      · intro here
        exact free ⟨_, _, _, found, route, rfl, decided, here⟩ (held _ route decided here)
      · rw [answered] at refused
        cases refused
  | writes named stage =>
    have unnamed {later : HubProgram ServiceRow} (ends : writing later = .done (.ok reply)) :
        reply.2 ≠ some serviceIndex := by
      obtain ⟨row, -, rfl⟩ := writing_ended ends
      exact Option.some_ne_none serviceIndex ∘ Eq.symm
    obtain ⟨-, ⟨-, later, same, -⟩ | ⟨⟨rawService, updated, same⟩, -⟩⟩ := stage.traced_next state
    · exact unnamed (same.symm.trans ends)
    · exact unnamed (same.symm.trans ends)
  | publishes rawService updated known =>
    cases ends
    exact Option.some_ne_none serviceIndex ∘ Eq.symm

/-- A block that returns has been written before, and forgets the routes. -/
theorem Stage.returned (stage : Stage mayHold settled call program)
    (running : program.finished = false) (blocks : call.blocks serviceIndex = true)
    (state : Hub × Origins) {reply : TrafficReply × Option ℕ}
    (ends : program.next state = .done (.ok reply)) :
    settled serviceIndex ∧ (program.effect state).1.database = state.1.database ∧
      (program.effect state).1.routeCache = [] := by
  cases stage with
  | ended call result => cases running
  | asks _ _ _ _ => cases blocks
  | missed _ _ _ _ _ _ => cases blocks
  | looks _ _ _ _ _ _ _ => cases blocks
  | decides _ _ _ _ _ _ => cases blocks
  | writes named stage =>
    obtain ⟨-, ⟨-, later, same, stage'⟩ | ⟨⟨rawService, updated, same⟩, -⟩⟩ :=
      stage.traced_next state
    · obtain ⟨row, returned, -⟩ := writing_ended (same.symm.trans ends)
      exact absurd returned stage'.not_returned
    · cases same.symm.trans ends
  | publishes rawService updated known => exact ⟨known serviceIndex blocks, rfl, rfl⟩

end Stages

/-! ## What every move keeps -/

/-- A block of a service in force before a call. -/
def Precluded (serviceIndex : ℕ) (thread : TrafficThread) (config : TrafficConfig) : Prop :=
  ∃ block, InForce serviceIndex block config ∧ block.Precedes thread

/-- What is known between moves. A request that started under a block holds no route of the
service; a block has been written before it forgets the routes, unless an end of it came in
between; and while a block is in force, the row of the service says so, and no route is kept. -/
structure Kept (config : TrafficConfig) : Prop where
  timed : config.Timed
  stages : ∀ thread ∈ config.threads,
    Stage (fun serviceIndex => ¬ Precluded serviceIndex thread config)
      (fun serviceIndex => Undisputed serviceIndex thread config →
        Blocked serviceIndex config.state.1.database) thread.call thread.program
  inForce : ∀ serviceIndex block, InForce serviceIndex block config →
    Blocked serviceIndex config.state.1.database ∧ Unrouted serviceIndex config.state
  takesEffect : ∀ serviceIndex, TakesEffect serviceIndex config

theorem returned_iff {thread : TrafficThread} :
    returned thread = true ↔ ∃ reply, thread.program = .done (.ok reply) := by
  obtain ⟨call, program, started, ended⟩ := thread
  cases program with
  | done result => cases result <;> simp [returned, Thread.result]
  | act effect next => simp [returned, Thread.result]

theorem exists_of_routedTo {serviceIndex : ℕ} {thread : TrafficThread}
    (routed : routedTo serviceIndex thread = true) :
    ∃ reply, thread.program = .done (.ok reply) ∧ reply.2 = some serviceIndex := by
  obtain ⟨call, program, started, ended⟩ := thread
  cases program with
  | act effect next => cases routed
  | done result =>
    cases result with
    | error failure => cases routed
    | ok reply =>
      obtain ⟨answer, origin⟩ := reply
      refine ⟨_, rfl, ?_⟩
      cases origin with
      | none => cases answer <;> cases routed
      | some service =>
        cases answer with
        | service row => cases routed
        | route route => exact congrArg some (beq_iff_eq.mp routed)

/-- No call has returned when it starts. -/
theorem tracedProgram_ne (call : TrafficCall) (reply : TrafficReply × Option ℕ) :
    tracedProgram call ≠ .done (.ok reply) := by
  intro ends
  have unwritten {written : ServiceRow → Prop} {serviceIndex : ℕ} {program : HubProgram ServiceRow}
      (stage : Writing written serviceIndex program) : writing program ≠ .done (.ok reply) := by
    intro ends
    obtain ⟨row, returned, -⟩ := writing_ended ends
    exact stage.not_returned returned
  cases call with
  | sendProxyInfo serviceSubdomain workspaceSubdomain token preferPooled => cases ends
  | blockTraffic owner serviceIdx options =>
    cases parsed : parseServiceIndex serviceIdx with
    | error failure =>
      rw [tracedProgram, handleBlockServiceTraffic, refused_findOwned parsed] at ends
      cases ends
    | ok serviceIndex => exact unwritten (writing_block options parsed) ends
  | unblockTraffic owner serviceIdx =>
    cases parsed : parseServiceIndex serviceIdx with
    | error failure =>
      rw [tracedProgram, handleUnblockServiceTraffic, refused_findOwned parsed] at ends
      cases ends
    | ok serviceIndex => exact unwritten (writing_unblock parsed) ends

section Moves

variable {config : TrafficConfig} {input : Move TrafficCall Unrelated} {serviceIndex index : ℕ}
  {before after block : TrafficThread}

/-- Every end of a block that was over before a call was so before the move. -/
theorem Undisputed.of_move (timed : config.Timed) (here : config.threads[index]? = some before)
    (changed : Changed config input index before after)
    (undisputed : Undisputed serviceIndex after (traffic config input).2) :
    Undisputed serviceIndex before config := by
  intro other inside unblocks
  obtain ⟨place, found⟩ := List.mem_iff_getElem?.mp inside
  obtain ⟨other', found', changed'⟩ := exists_after found
  have precedes := undisputed other' (List.mem_of_getElem? found')
    (by rwa [changed'.call])
  exact (changed'.precedes_iff changed (timed other inside)
    (timed before (List.mem_of_getElem? here))).mp precedes

/-- A block in force was so before the move, or it has returned by the move. -/
theorem InForce.of_move (timed : config.Timed)
    (inForce : InForce serviceIndex after (traffic config input).2) :
    InForce serviceIndex after config ∨
      ∃ index before reply, config.threads[index]? = some before ∧ input = .resume index ∧
        before.result = none ∧ before.program.next config.state = .done (.ok reply) ∧
        before.call.blocks serviceIndex = true ∧ Undisputed serviceIndex before config ∧
        after.ended = some config.moves := by
  obtain ⟨index, found⟩ := List.mem_iff_getElem?.mp inForce.inside
  rcases exists_changed found with ⟨before, here, changed⟩ | ⟨call, -, rfl⟩
  · have undisputed := inForce.undisputed.of_move timed here changed
    have blocks : before.call.blocks serviceIndex = true := by
      rw [← changed.call]
      exact inForce.blocks
    cases changed with
    | kept same =>
      subst same
      exact .inl ⟨List.mem_of_getElem? here, blocks, inForce.returned, undisputed⟩
    | resumed resumes running next =>
      obtain ⟨reply, ends⟩ := returned_iff.mp inForce.returned
      rw [next] at ends
      refine .inr ⟨index, before, reply, here, resumes, running, ends, blocks, undisputed, ?_⟩
      rw [next]
      exact if_pos (congrArg Program.finished ends)
  · obtain ⟨reply, ends⟩ := returned_iff.mp inForce.returned
    exact absurd ends (tracedProgram_ne call reply)

/-- A move takes the next action of a call that has not ended, or leaves the services and the
routes as they are. -/
theorem traffic_cases (config : TrafficConfig) (input : Move TrafficCall Unrelated) :
    (∃ index thread, config.threads[index]? = some thread ∧ input = .resume index ∧
      thread.result = none ∧
      (traffic config input).2.state = thread.program.effect config.state) ∨
    (traffic config input).2.state.1.database.services = config.state.1.database.services ∧
      (traffic config input).2.state.1.routeCache = config.state.1.routeCache ∧
      (traffic config input).2.state.2 = config.state.2 := by
  cases input with
  | start call => exact .inr ⟨rfl, rfl, rfl⟩
  | event event => exact .inr ⟨event.services _, event.routeCache _, rfl⟩
  | resume index =>
    by_cases open' : ∃ thread, config.threads[index]? = some thread ∧ thread.result = none
    · obtain ⟨thread, here, running⟩ := open'
      exact .inl ⟨index, thread, here, rfl, running, (move_resume here running).1⟩
    · have idle (thread : TrafficThread) (here : config.threads[index]? = some thread) :
          thread.result ≠ none := fun running => open' ⟨thread, here, running⟩
      have same : (traffic config (.resume index)).2.state = config.state := (move_idle idle).1
      rw [same]
      exact .inr ⟨rfl, rfl, rfl⟩

/-- A call that has not ended is none of the ends of a block that were over before. -/
theorem Undisputed.not_unblocks (undisputed : Undisputed serviceIndex block config)
    (timed : config.Timed) {thread : TrafficThread} (inside : thread ∈ config.threads)
    (running : thread.result = none) : thread.call.unblocks serviceIndex = false := by
  refine Bool.eq_false_iff.mpr fun unblocks => ?_
  obtain ⟨ended, same, -⟩ := undisputed thread inside unblocks
  rw [(timed thread inside).running.mpr running] at same
  cases same

/-- A service stays blocked while no end of the block is under way. -/
theorem Kept.blocked (kept : Kept config) (undisputed : Undisputed serviceIndex block config)
    (blocked : Blocked serviceIndex config.state.1.database) :
    Blocked serviceIndex (traffic config input).2.state.1.database := by
  rcases traffic_cases config input with
    ⟨index, thread, here, -, running, after⟩ | ⟨services, -, -⟩
  · have inside := List.mem_of_getElem? here
    rw [after]
    exact (kept.stages thread inside).keeps_blocked
      (undisputed.not_unblocks kept.timed inside running) config.state blocked
  · obtain ⟨since, row, listed, named, time⟩ := blocked
    refine ⟨since, row, ?_, named, time⟩
    rwa [services]

theorem finished_of_running {thread : TrafficThread} (running : thread.result = none) :
    thread.program.finished = false := by
  obtain ⟨call, program, started, ended⟩ := thread
  cases program with
  | done result => cases running
  | act effect next => rfl

/-- The next decision is on no route of a service whose block is in force. -/
theorem free_of_upToDate (upToDate : UpToDate config input)
    (inForce : InForce serviceIndex block config) {thread : TrafficThread}
    (here : config.threads[index]? = some thread) (resumes : input = .resume index)
    (holds : HoldsRoute serviceIndex thread.program) :
    ¬ ¬ Precluded serviceIndex thread config := by
  subst resumes
  exact fun free => free ⟨block, inForce, upToDate thread here serviceIndex holds block inForce⟩

/-- While a block is in force, no route of the service comes to be kept. -/
theorem Kept.unrouted (kept : Kept config) (upToDate : UpToDate config input)
    (inForce : InForce serviceIndex block config) :
    Unrouted serviceIndex (traffic config input).2.state := by
  have before := (kept.inForce serviceIndex block inForce).2
  rcases traffic_cases config input with
    ⟨index, thread, here, resumes, -, after⟩ | ⟨-, cache, origins⟩
  · rw [after]
    exact (kept.stages thread (List.mem_of_getElem? here)).keeps_unrouted
      (free_of_upToDate upToDate inForce here resumes) config.state before
  · rw [Unrouted, cache, origins]
    exact before

/-- A call that was there was precluded before a move, if it is after it. -/
theorem Precluded.of_move (timed : config.Timed) (here : config.threads[index]? = some before)
    (changed : Changed config input index before after)
    (precluded : Precluded serviceIndex after (traffic config input).2) :
    Precluded serviceIndex before config := by
  obtain ⟨block, inForce, precedes⟩ := precluded
  obtain ⟨inside, precedes'⟩ :=
    changed.preceding (timed before (List.mem_of_getElem? here)) inForce.inside precedes
  rcases inForce.of_move timed with held | ⟨-, -, -, -, -, -, -, -, -, late⟩
  · exact ⟨block, held, precedes'⟩
  · have early := (timed block inside).ended config.moves late
    exact absurd early (Nat.lt_irrefl _)

theorem Kept.stages_move (kept : Kept config) :
    ∀ after ∈ (traffic config input).2.threads,
      Stage (fun serviceIndex => ¬ Precluded serviceIndex after (traffic config input).2)
        (fun serviceIndex => Undisputed serviceIndex after (traffic config input).2 →
          Blocked serviceIndex (traffic config input).2.state.1.database)
        after.call after.program := by
  intro after inside
  obtain ⟨index, found⟩ := List.mem_iff_getElem?.mp inside
  rcases exists_changed found with ⟨before, here, changed⟩ | ⟨call, -, rfl⟩
  · have stage := kept.stages before (List.mem_of_getElem? here)
    have free (serviceIndex : ℕ) (open' : ¬ Precluded serviceIndex before config) :
        ¬ Precluded serviceIndex after (traffic config input).2 :=
      fun precluded => open' (precluded.of_move kept.timed here changed)
    cases changed with
    | kept same =>
      subst same
      refine stage.mono free fun serviceIndex settled undisputed => ?_
      have undisputed' := undisputed.of_move kept.timed here (.kept rfl)
      exact kept.blocked undisputed' (settled undisputed')
    | resumed resumes running next =>
      have moved : (traffic config input).2.state = before.program.effect config.state := by
        subst resumes
        exact (move_resume here running).1
      rw [next]
      rw [next] at free
      refine stage.next config.state (fun serviceIndex unblocked => free serviceIndex ?_)
        fun serviceIndex _ blocked _ => ?_
      · rintro ⟨block, inForce, -⟩
        exact unblocked (kept.inForce serviceIndex block inForce).1
      · rw [moved]
        exact blocked
  · exact stage_tracedProgram call

theorem Kept.inForce_move (kept : Kept config) (upToDate : UpToDate config input)
    (inForce : InForce serviceIndex block (traffic config input).2) :
    Blocked serviceIndex (traffic config input).2.state.1.database ∧
      Unrouted serviceIndex (traffic config input).2.state := by
  rcases inForce.of_move kept.timed with
    held | ⟨index, before, reply, here, resumes, running, ends, blocks, undisputed, -⟩
  · exact ⟨kept.blocked held.undisputed (kept.inForce serviceIndex block held).1,
      kept.unrouted upToDate held⟩
  · have stage := kept.stages before (List.mem_of_getElem? here)
    obtain ⟨settled, database, cache⟩ :=
      stage.returned (finished_of_running running) blocks config.state ends
    have moved : (traffic config input).2.state = before.program.effect config.state := by
      subst resumes
      exact (move_resume here running).1
    rw [moved, database, Unrouted, cache]
    exact ⟨settled undisputed, fun key held => by cases held⟩

theorem Kept.takesEffect_move (kept : Kept config) (upToDate : UpToDate config input)
    (serviceIndex : ℕ) : TakesEffect serviceIndex (traffic config input).2 := by
  intro block inside blocks isReturned request inside' precedes routed
  by_contra none
  obtain ⟨place, found⟩ := List.mem_iff_getElem?.mp inside'
  obtain ⟨reply, ends, origin⟩ := exists_of_routedTo routed
  rcases exists_changed found with ⟨before, here, changed⟩ | ⟨call, -, rfl⟩
  · have timed := kept.timed before (List.mem_of_getElem? here)
    obtain ⟨known, precedes'⟩ := changed.preceding timed inside precedes
    obtain ⟨where', there⟩ := List.mem_iff_getElem?.mp known
    have same : Changed config input where' block block := .kept rfl
    cases changed with
    | kept unchanged =>
      subst unchanged
      obtain ⟨other, listed, unblocks, overlaps, overlaps'⟩ := kept.takesEffect serviceIndex block
        known blocks isReturned request (List.mem_of_getElem? here) precedes' routed
      obtain ⟨at', found'⟩ := List.mem_iff_getElem?.mp listed
      obtain ⟨after, found'', changed'⟩ := exists_after found'
      have timed' := kept.timed other listed
      refine none ⟨after, List.mem_of_getElem? found'', by rwa [changed'.call], ?_, ?_⟩
      · rwa [changed'.precedes_iff same timed' (kept.timed block known)]
      · have unchanged : Changed config input place request request := .kept rfl
        rwa [unchanged.precedes_iff changed' timed timed']
    | resumed resumes running next =>
      have undisputed : Undisputed serviceIndex block (traffic config input).2 := by
        intro other listed unblocks
        by_contra overlaps
        refine none ⟨other, listed, unblocks, overlaps, ?_⟩
        rintro ⟨ended, last, less⟩
        rw [next, Thread.continue, Option.mem_def, Option.ite_none_right_eq_some] at last
        obtain rfl := Option.some.inj last.2
        have early := (Config.Timed.move kept.timed other listed).started
        rw [move_moves] at early
        exact absurd less (Nat.not_lt.mpr (Nat.le_of_lt_succ early))
      have inForce : InForce serviceIndex block config :=
        ⟨known, blocks, isReturned, undisputed.of_move kept.timed there same⟩
      rw [next] at ends
      exact (kept.stages before (List.mem_of_getElem? here)).not_routed
        (finished_of_running running) (free_of_upToDate upToDate inForce here resumes) config.state
        (kept.inForce serviceIndex block inForce).2 ends origin
  · exact tracedProgram_ne call reply ends

theorem Kept.move (kept : Kept config) (upToDate : UpToDate config input) :
    Kept (traffic config input).2 where
  timed := Config.Timed.move kept.timed
  stages := kept.stages_move
  inForce _ _ inForce := kept.inForce_move upToDate inForce
  takesEffect := kept.takesEffect_move upToDate

end Moves

theorem kept_start (state : Hub × Origins) : Kept { state := state } where
  timed _ inside := absurd inside List.not_mem_nil
  stages _ inside := absurd inside List.not_mem_nil
  inForce _ _ inForce := absurd inForce.inside List.not_mem_nil
  takesEffect _ _ inside := absurd inside List.not_mem_nil

/-- In every run in which requests go on with routes only as far as they are up to date, every
block takes effect at once. -/
theorem blocks_take_effect (start : Hub) (origins : Origins)
    (moves : List (Move TrafficCall Unrelated))
    (upToDate : Each traffic UpToDate { state := (start, origins) } moves) (serviceIndex : ℕ) :
    TakesEffect serviceIndex (final traffic { state := (start, origins) } moves) := by
  have kept := Along.invariant (fun _ => Kept) (fun _ _ _ kept upToDate => kept.move upToDate)
    upToDate (kept_start (start, origins))
  exact kept.takesEffect serviceIndex

/-- Calls go on after all that have returned were over before they started. -/
def OneByOne (config : TrafficConfig) : Move TrafficCall Unrelated → Prop
  | .resume index => ∀ request ∈ config.threads[index]?, ∀ block ∈ config.threads,
    returned block = true → block.Precedes request
  | .start _ | .event _ => True

instance (config : TrafficConfig) : DecidablePred (OneByOne config)
  | .resume index => inferInstanceAs (Decidable (∀ request ∈ config.threads[index]?, _))
  | .start _ => inferInstanceAs (Decidable True)
  | .event _ => inferInstanceAs (Decidable True)

theorem upToDate_of_oneByOne {config : TrafficConfig} {input : Move TrafficCall Unrelated}
    (after : OneByOne config input) : UpToDate config input := by
  cases input with
  | resume index =>
    exact fun request here _ _ block inForce =>
      after request here block inForce.inside inForce.returned
  | start call => exact trivial
  | event event => exact trivial

/-- A service with an address in the workspace of its owner. -/
def servedHub : Hub :=
  ambiguousHub.write fun database =>
    { database with
      serviceEndpoints := database.serviceEndpoints.updateMany (fun _ => true) fun endpoint =>
        { endpoint with endpointSubdomain := some "api" } }

def asksApi : TrafficCall := .sendProxyInfo "api" "a" "token" true

def blocksApi : TrafficCall := .blockTraffic 1 "1" {}

/-- A request, a block, and another request, one after the other. -/
def oneByOne : List (Move TrafficCall Unrelated) :=
  .start asksApi :: List.replicate 4 (.resume 0) ++
    (.start blocksApi :: List.replicate 4 (.resume 1) ++
      (.start asksApi :: List.replicate 4 (.resume 2)))

theorem blocks_take_effect_oneByOne :
    TakesEffect 1 (final traffic { state := (servedHub, []) } oneByOne) := by
  have ordered : Each traffic OneByOne { state := (servedHub, []) } oneByOne := by decide +kernel
  exact blocks_take_effect servedHub [] oneByOne
    (ordered.mono fun _ _ _ after => upToDate_of_oneByOne after) 1

/-- A request that has read the endpoint decides on it when the block has returned, and another
one starts. -/
def outdated : List (Move TrafficCall Unrelated) :=
  .start asksApi :: List.replicate 3 (.resume 0) ++
    (.start blocksApi :: List.replicate 4 (.resume 1) ++
      [.resume 0, .start asksApi, .resume 2])

/-- The later request is answered with the route that the earlier one has kept. -/
theorem not_blocks_take_effect_outdated :
    ¬ TakesEffect 1 (final traffic { state := (servedHub, []) } outdated) := by
  decide +kernel

end TunnelService

end OpticsHub
