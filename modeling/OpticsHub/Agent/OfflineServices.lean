import OpticsHub.Agent.AgentEvents
import OpticsHub.Agent.Packets
import OpticsHub.Agent.RemoteUpdate

/-!
# Services of Agents that are offline

An Agent is set offline in three places: for all Agents when the Hub starts, by the offline
timer of one Agent, and by the timeout of its update. The first two lower the services of
the Agent with it, the third does not. The status of a service is raised again by the
reports of an Agent, on any socket that carries its UUID, whether or not the Agent is set
offline meanwhile. Here every handler runs to its end before the next begins, so that each
of them is one step, and the steps that break the agreement of Agents and services can be
named exactly.
-/
namespace OpticsHub

open Script Async Program Machine

namespace AgentGateway

open AgentService AgentUpdateService ReleaseCatalogService ConsoleGateway

/-! ## Handlers one after another -/

inductive StatusEvent where
  /-- The process of the Hub starts anew, with the database as it is. -/
  | start
  | opened (client : ℕ) (forwardedFor : Option Text) (address : Text)
      (handshakeAgentUuid : Option Text)
  | closed (client : ℕ)
  | register (client : ℕ) (payload : Value)
  | disconnected (client : ℕ)
  | offlineTimer (agentUuid : Text)
  | requestUpdate (agentUuid : Text) (version : Value)
  | updateTimer (agentUuid : Text)
  | serviceStatus (client : ℕ) (payload : Value)
  | clock (now : ℤ)

/-- The Hub with the Agents that count as offline: set offline by a step, and not
registered since. They are given by their indexes. -/
structure StatusState where
  relay : RelayState
  setOffline : List ℕ := []

/-- What is left of a Hub whose process has ended: the database, and what went out. -/
def freshProcess (state : RelayState) : RelayState where
  hub :=
    { database := state.hub.database
      now := state.hub.now
      drawn := state.hub.drawn
      sent := state.hub.sent
      console := state.hub.console }
  relayed := state.relayed

/-- Both services prepare the database when the Hub starts. -/
def onHubStart : HubProgram Unit := do
  AgentService.onModuleInit
  resetStalePhases

/-- The Agent that is forgotten when a socket closes. -/
def leavingAgent (client : ℕ) (hub : Hub) : Option Text :=
  match (hub.sockets client).data.agentCode,
    (hub.sockets client).data.agentUuid.or (hub.sockets client).handshakeAgentUuid with
  | some (_ :: _), some (unit :: units) =>
    if Members.own hub.agentUuidToSocketId (unit :: units) = some client then some (unit :: units)
    else none
  | _, _ => none

/-- Whether a packet gets through the middleware. -/
def Arrival.handled : Arrival → Bool
  | .passed _ => true
  | .judged _ .ok => true
  | _ => false

section Steps

variable (platform : Platform) (release : Hub → Text → Option AgentRelease)
  (objectFilter : Members Value → Option (ℕ → Bool))

/-- A handler on the rest of the Hub, from beginning to end. -/
def ranOnHub {α : Type} (program : HubProgram α) (state : RelayState) : RelayState :=
  { state with hub := (program.run state.hub).2 }

/-- What an event does to the Hub. -/
def afterEvent (state : RelayState) : StatusEvent → RelayState
  | .start => ranOnHub onHubStart (freshProcess state)
  | .opened client forwardedFor address handshakeAgentUuid =>
    { state with
      hub := (react platform state.hub
        (.opened client forwardedFor address handshakeAgentUuid)).2 }
  | .closed client => { state with hub := state.hub.disconnect client }
  | .register client payload => ranOnHub (handler platform (.register client payload)) state
  | .disconnected client =>
    let forgets := (leavingAgent client state.hub).elim state fun agentUuid =>
      forgetWorkspaces agentUuid state
    ranOnHub (handleDisconnect client) forgets
  | .offlineTimer agentUuid => ranOnHub (AgentGateway.offlineTimer agentUuid) state
  | .requestUpdate agentUuid version =>
    ranOnHub (AgentUpdateService.requestUpdate release agentUuid version) state
  | .updateTimer agentUuid => ranOnHub (AgentUpdateService.updateTimer agentUuid) state
  | .serviceStatus client payload =>
    let arrived := receive platform state.hub client "service-status" payload
    let received := { state with hub := arrived.2 }
    if arrived.1.handled then ((handleServiceStatus objectFilter client payload).run received).2
    else received
  | .clock now => { state with hub := { state.hub with now := now } }

/-- The Agents that an event sets offline, among those there are. -/
def lowersAgent (hub : Hub) : StatusEvent → AgentRow → Bool
  | .start, agent => agent.agentDeletedAt.isNone
  | .offlineTimer agentUuid, agent =>
    agent.agentUuid == agentUuid && hub.offlineTimers.contains agentUuid &&
      !isAgentConnected agentUuid hub
  | .updateTimer agentUuid, agent =>
    agent.agentUuid == agentUuid && hub.updateTimers.contains agentUuid &&
      underWay agentUuid hub.database && !isAgentConnected agentUuid hub
  | _, _ => false

/-- The indexes of the Agents that an event sets offline. -/
def loweredAgents (hub : Hub) (event : StatusEvent) : List ℕ :=
  (hub.database.agents.rows.filter (lowersAgent hub event)).map AgentRow.agentIndex

/-- Whether a packet answers the registration of an Agent with an index. -/
def registersAgent (database : Database) (index : ℕ) : Outgoing → Bool
  | .registered _ agent => database.agents.rows.any fun row =>
    row.agentIndex == index && row.agentUuid == agent.uuid
  | _ => false

/-- One event: what it does to the Hub, and which Agents count as offline after it. -/
def statusStep : Transition StatusState StatusEvent Unit := fun state event =>
  let after := afterEvent platform release objectFilter state.relay event
  ((),
    { relay := after
      setOffline := (state.setOffline ++ loweredAgents state.relay.hub event).filter fun index =>
        !(sentBetween state.relay.hub after.hub).any
          (registersAgent state.relay.hub.database index) })

/-! ## The agreement and its condition -/

/-- No service runs that is not deleted and belongs to one of some Agents. -/
def NoneRunning (agents : List ℕ) (database : Database) : Prop :=
  ∀ service ∈ database.services.rows, service.serviceParentAgent ∈ agents →
    service.serviceDeletedAt = none → service.serviceStatus ≠ .running

/-- No service of an Agent that counts as offline is running. -/
def OfflineAgree (state : StatusState) : Prop :=
  NoneRunning state.setOffline state.relay.hub.database

instance (agents : List ℕ) (database : Database) : Decidable (NoneRunning agents database) :=
  inferInstanceAs (Decidable (∀ service ∈ database.services.rows, _))

instance (state : StatusState) : Decidable (OfflineAgree state) :=
  inferInstanceAs (Decidable (NoneRunning _ _))

/-- The workspace lookup of a report succeeds. -/
def reportAllowed (state : RelayState) (agentUuid : Text) (serviceIndex : Value) : Bool :=
  match ((getWorkspaceIndexForAgentService objectFilter agentUuid serviceIndex).run state).1 with
  | .ok (some (_ + 1)) => true
  | _ => false

/-- The service that an index of a packet names. -/
def serviceAt (serviceIndex : Value) (database : Database) : Option ServiceRow :=
  (numberColumn (some serviceIndex)).bind fun index =>
    database.services.findFirst fun row => (row.serviceIndex : ℤ) == index

/-- The service to which a report writes a status, and the status. -/
def reportedStatus (client : ℕ) (payload : Value) (state : RelayState) :
    Option (ServiceRow × ServiceStatus) := do
  let agentUuid ← (state.hub.sockets client).data.agentUuid
  let members ← packetMembers payload
  let status ← dbStatus (member members "status")
  let service ← serviceAt (member members "serviceIndex") state.hub.database
  if !agentUuid.isEmpty && reportAllowed objectFilter state agentUuid (member members "serviceIndex")
  then return (service, status) else none

/-- A timeout that sets the Agent offline finds none of its services running, and a report
that a service runs is not taken for one of an Agent that counts as offline. -/
def LowersServices (state : StatusState) : StatusEvent → Prop
  | .updateTimer agentUuid =>
    NoneRunning (loweredAgents state.relay.hub (.updateTimer agentUuid)) state.relay.hub.database
  | .serviceStatus client payload =>
    let arrived := receive platform state.relay.hub client "service-status" payload
    arrived.1.handled = true → ∀ service,
      reportedStatus objectFilter client payload { state.relay with hub := arrived.2 } =
        some (service, .running) →
      service.serviceDeletedAt = none → service.serviceParentAgent ∉ state.setOffline
  | _ => True

end Steps

/-! ## What leaves the services as they are -/

section Kept

variable {before after : Hub} {hub : Hub}

/-- Nothing is written to the services. -/
def KeepsServices (before after : Hub) : Prop := after.database.services = before.database.services

theorem keepsServices_refl (hub : Hub) : KeepsServices hub hub := rfl

theorem keepsServices_run {α : Type} {program : HubProgram α}
    (keeps : Always KeepsServices program) (hub : Hub) :
    (program.run hub).2.database.services = hub.database.services :=
  keeps.run keepsServices_refl (fun first second => second.trans first) hub

theorem keepsServices_findAgent (selected : AgentRow → Bool) :
    Always KeepsServices (findAgent selected) :=
  always_look keepsServices_refl _

theorem keepsServices_updateAgents (selected : AgentRow → Bool) (change : AgentRow → AgentRow)
    (keyed : ∀ row, (change row).agentIndex = row.agentIndex) :
    Always KeepsServices (updateAgents selected change keyed) :=
  always_step fun _ => rfl

theorem keepsServices_recordPhase (agentUuid : Text) (phase : AgentUpdatePhase)
    (fields : AgentRow → AgentRow) (keyed : ∀ row, (fields row).agentIndex = row.agentIndex) :
    Always KeepsServices (recordPhase agentUuid phase fields keyed) := by
  refine (keepsServices_updateAgents _ _ _).bind fun _ => ?_
  refine (keepsServices_findAgent _).bind fun agent => ?_
  apply always_step
  intro hub
  cases agent with
  | none => rfl
  | some agent =>
    dsimp only
    split <;> rfl

theorem keepsServices_transition (agentUuid : Text) (phase : AgentUpdatePhase) (message : Text) :
    Always KeepsServices (transition agentUuid phase message) := by
  rw [transition_eq]
  exact keepsServices_recordPhase _ _ _ _

theorem keepsServices_handleReconnect (agentUuid : Text) (reportedVersion : Option Text) :
    Always KeepsServices (handleReconnect agentUuid reportedVersion) := by
  refine (keepsServices_findAgent _).bind fun agent => ?_
  cases agent with
  | none => exact always_pure _
  | some agent =>
    dsimp only
    split
    · refine Always.bind (always_step fun _ => rfl) fun _ => ?_
      split
      · split <;> exact keepsServices_transition _ _ _
      · exact keepsServices_transition _ _ _
    · exact always_pure _

theorem keepsServices_isExpectedRestart (agentUuid : Text) :
    Always KeepsServices (isExpectedRestart agentUuid) := by
  refine (keepsServices_findAgent _).bind fun agent => ?_
  cases agent with
  | none => exact always_pure _
  | some agent =>
    dsimp only
    split
    · refine (keepsServices_updateAgents _ _ _).bind fun _ => ?_
      exact (keepsServices_transition _ _ _).bind fun _ => always_pure _
    · exact always_pure _

theorem keepsServices_updateTimer (agentUuid : Text) :
    Always KeepsServices (AgentUpdateService.updateTimer agentUuid) := by
  refine Always.bind (always_step fun _ => rfl) fun armed => ?_
  split
  · refine (keepsServices_findAgent _).bind fun agent => ?_
    cases agent with
    | none => exact always_pure _
    | some agent =>
      dsimp only
      split
      · refine (keepsServices_transition _ _ _).bind fun _ => ?_
        refine Always.bind (always_look keepsServices_refl _) fun connected => ?_
        split
        · exact always_pure _
        · exact keepsServices_updateAgents _ _ _
      · exact always_pure _
  · exact always_pure _

theorem keepsServices_requestUpdate (release : Hub → Text → Option AgentRelease)
    (agentUuid : Text) (version : Value) :
    Always KeepsServices (requestUpdate release agentUuid version) := by
  refine (always_orThrow _ _).bind fun text => ?_
  refine (always_require _ _).bind fun _ => ?_
  refine (always_updatableAgent keepsServices_refl agentUuid).bind fun agent => ?_
  split
  · refine (always_assertInstallable keepsServices_refl release _).bind fun _ => ?_
    refine Always.bind (always_step fun hub => ?_) fun sent => ?_
    · rw [sendToAgent_frame]
      rfl
    · refine (always_require _ _).bind fun _ => ?_
      refine (keepsServices_recordPhase _ _ _ _).bind fun _ => ?_
      exact always_step fun _ => rfl
  · exact always_throw _

theorem keepsServices_proveIdentity (platform : Platform) (client : ℕ)
    (payload agentUuid : Value) :
    Always KeepsServices (proveIdentity platform client payload agentUuid) := by
  rw [proveIdentity]
  split
  · refine (always_orThrow _ _).bind fun selects => ?_
    refine Always.bind (always_look keepsServices_refl _) fun knownSecret => ?_
    split
    · apply always_step
      intro hub
      split <;> rfl
    · exact always_pure _
  · exact always_pure _

theorem keepsServices_registerAgent (platform : Platform) (ip : Text)
    (agentUuid agentVersion protocolVersion : Option Value) :
    Always KeepsServices
      (registerAgent platform ip agentUuid agentVersion protocolVersion) := by
  have found : Always KeepsServices (findExist platform (agentUuid.getD .undefined)) := by
    rw [findExist]
    split
    · exact (always_orThrow _ _).bind fun _ => keepsServices_findAgent _
    · exact always_pure _
  refine found.bind fun exist => ?_
  refine (always_orThrow _ _).bind fun version => ?_
  refine (always_orThrow _ _).bind fun protocol => ?_
  split
  · apply always_atomically
    intro hub
    split <;> rfl
  · exact always_throw _
  · apply always_atomically
    intro hub
    dsimp only
    split <;> rfl

theorem keepsServices_bindAndAttach (client : ℕ) (agent : RegisteredAgent) :
    Always KeepsServices (bindAndAttach client agent) := by
  rw [bindAndAttach]
  split
  · exact always_step fun _ => rfl
  · refine Always.bind (always_step fun _ => rfl) fun _ => ?_
    exact Always.bind (always_look keepsServices_refl _) fun _ => always_step fun _ => rfl

theorem keepsServices_handleValidation (platform : Platform) (client : ℕ) (payload : Value) :
    Always KeepsServices (handleValidation platform client payload) := by
  refine (always_orThrow _ _).bind fun members => ?_
  refine (always_fromExcept _).bind fun refusal => ?_
  refine (always_orThrow _ _).bind fun _ => ?_
  cases refusal with
  | some refusal => exact always_step fun _ => rfl
  | none =>
    refine (keepsServices_proveIdentity platform client payload _).bind fun proved => ?_
    split
    · refine Always.bind (always_look keepsServices_refl _) fun ip => ?_
      refine (keepsServices_registerAgent platform _ _ _ _).bind fun agent => ?_
      refine (keepsServices_bindAndAttach client agent).bind fun _ => ?_
      exact (keepsServices_handleReconnect _ _).bind fun _ => always_step fun _ => rfl
    · exact always_pure _

theorem keepsServices_register (platform : Platform) (client : ℕ) (payload : Value) :
    Always KeepsServices (handler platform (.register client payload)) := by
  refine Always.bind (always_look keepsServices_refl _) fun connected => ?_
  split
  · exact keepsServices_handleValidation platform client payload
  · exact always_pure _

theorem keepsServices_handleDisconnect (client : ℕ) :
    Always KeepsServices (handleDisconnect client) := by
  refine Always.bind (always_step fun hub => ?_) fun agentUuid => ?_
  · dsimp only
    split
    · split <;> rfl
    · rfl
  · cases agentUuid with
    | none => exact always_pure _
    | some agentUuid =>
      refine (keepsServices_isExpectedRestart _).bind fun expected => ?_
      split
      · exact always_pure _
      · exact always_step fun _ => rfl

end Kept

/-! ## What writes to the services -/

section Written

variable {hub : Hub} {agents lowered : List ℕ} {before after : Database}

theorem noneRunning_of_eq (same : after.services = before.services) :
    NoneRunning agents after ↔ NoneRunning agents before := by
  rw [NoneRunning, NoneRunning, same]

theorem noneRunning_append :
    NoneRunning (agents ++ lowered) before ↔
      NoneRunning agents before ∧ NoneRunning lowered before := by
  constructor
  · intro none
    refine ⟨fun service inside owned => ?_, fun service inside owned => ?_⟩
    · exact none service inside (List.mem_append_left _ owned)
    · exact none service inside (List.mem_append_right _ owned)
  · rintro ⟨old, new⟩ service inside owned
    rcases List.mem_append.mp owned with first | second
    · exact old service inside first
    · exact new service inside second

/-- Services that are lowered do not run any more, and no other service is changed. -/
theorem noneRunning_markServicesOffline {agentWhere : AgentRow → Bool}
    (old : NoneRunning agents hub.database)
    (selected : ∀ index ∈ lowered, ∃ agent ∈ hub.database.agents, agent.agentIndex = index ∧
      agentWhere agent = true) :
    NoneRunning (agents ++ lowered) ((markServicesOffline agentWhere).run hub).2.database := by
  intro service written owned live running
  obtain ⟨service, inside, rfl⟩ := List.mem_map.mp written
  dsimp only at owned live running
  split at running
  · cases running
  · rename_i untouched
    rw [if_neg untouched] at live owned
    rcases List.mem_append.mp owned with first | second
    · exact old service inside first live running
    · obtain ⟨agent, there, named, wanted⟩ := selected _ second
      apply untouched
      have host : (hub.database.agents.findFirst fun agent =>
          agent.agentIndex == service.serviceParentAgent && agentWhere agent).isSome = true := by
        rw [Table.findFirst, List.find?_isSome]
        exact ⟨agent, there, by rw [named, wanted, beq_self_eq_true, Bool.and_self]⟩
      rw [host, live, running]
      rfl

/-- A status that is written to one service. -/
theorem noneRunning_updateService {service : ServiceRow} {status : ServiceStatus}
    (there : service ∈ before.services) (old : NoneRunning agents before)
    (written : after.services = before.services.updateMany
      (fun row => row.serviceIndex == service.serviceIndex)
      (fun row => { row with serviceStatus := status })) :
    NoneRunning agents after ↔ (status = .running → service.serviceDeletedAt = none →
      service.serviceParentAgent ∉ agents) := by
  have here {row : ServiceRow} (inside : row ∈ before.services) :
      (row.serviceIndex == service.serviceIndex) = true ↔ row = service := by
    rw [beq_iff_eq]
    exact ⟨fun same => Table.eq_of_key inside there same, fun same => congrArg _ same⟩
  constructor
  · rintro none rfl live owned
    refine none { service with serviceStatus := .running } ?_ owned live rfl
    rw [← Table.mem_def, written, Table.mem_updateMany]
    exact ⟨service, there, by rw [if_pos (beq_self_eq_true _)]⟩
  · intro allowed row inside owned live running
    rw [← Table.mem_def, written] at inside
    obtain ⟨row, before, rfl⟩ := Table.mem_updateMany.mp inside
    by_cases same : row = service
    · rw [if_pos ((here before).mpr same)] at owned live running
      subst same
      exact allowed running live owned
    · rw [if_neg (mt (here before).mp same)] at owned live running
      exact old row before owned live running

end Written

/-! ## Reports -/

section Reports

variable {hub : Hub} {state : RelayState} {objectFilter : Members Value → Option (ℕ → Bool)}

/-- Nothing happens to the Hub apart from the cache of workspaces. -/
def KeepsHub (before after : RelayState) : Prop := after.hub = before.hub

theorem keepsHub_refl (state : RelayState) : KeepsHub state state := rfl

/-- Looking up the workspace of a service changes at most the cache. -/
theorem hub_getWorkspaceIndex (agentUuid : Text) (serviceIndex : Value) :
    (((getWorkspaceIndexForAgentService objectFilter agentUuid serviceIndex).run state).2).hub =
      state.hub := by
  have keeps : Always KeepsHub
      (getWorkspaceIndexForAgentService objectFilter agentUuid serviceIndex) := by
    refine (always_orThrow _ _).bind fun indexText => ?_
    refine Always.bind (always_look keepsHub_refl _) fun cached => ?_
    cases cached with
    | some entry => exact always_pure _
    | none =>
      refine (always_orThrow _ _).bind fun selects => ?_
      refine Always.bind (always_look keepsHub_refl _) fun service => ?_
      cases service with
      | none => exact always_pure _
      | some service =>
        refine Always.bind (always_look keepsHub_refl _) fun agent => ?_
        cases agent with
        | none => exact always_pure _
        | some agent => exact always_step fun _ => rfl
  exact keeps.run keepsHub_refl (fun first second => second.trans first) state

theorem run_onHub {α : Type} (program : HubProgram α) :
    (onHub program).run state =
      ((program.run state.hub).1, { state with hub := (program.run state.hub).2 }) := by
  rw [onHub, run_zoom]
  · exact fun _ _ => rfl
  · exact fun _ _ _ => rfl
  · exact fun _ => rfl

theorem keyed_status (status : ServiceStatus) (row : ServiceRow) :
    { row with serviceStatus := status }.serviceIndex = row.serviceIndex :=
  rfl

/-- The status of one service is written. -/
def writeStatus (service : ServiceRow) (status : ServiceStatus) (hub : Hub) : Hub :=
  hub.write fun database =>
    { database with
      services := database.services.updateMany
        (fun row => row.serviceIndex == service.serviceIndex)
        (fun row => { row with serviceStatus := status }) (keyed_status status) }

/-- A status is written to the service that the index names, if there is one. -/
theorem run_updateServiceStatus (serviceIndex : Value) (status : ServiceStatus) :
    (loggingFailure (updateServiceStatus serviceIndex status)).run hub =
      (.ok (), (serviceAt serviceIndex hub.database).elim hub fun service =>
        writeStatus service status hub) := by
  rw [loggingFailure, MonadExcept.tryCatch, serviceAt]
  change (Program.tryCatch _ _).run hub = _
  rw [run_tryCatch, updateServiceStatus, run_bind]
  cases numberColumn (some serviceIndex) with
  | none => rfl
  | some index =>
    rw [Option.bind_some, orThrow, run_pure, runFrom, run_atomically]
    cases hub.database.services.findFirst fun row => (row.serviceIndex : ℤ) == index with
    | none => rfl
    | some service => rfl

/-- The status of a report that comes under an identity and has members. -/
theorem reportedStatus_eq {client : ℕ} {payload : Value} {unit : CodeUnit} {units : Text}
    {members : Members Value}
    (named : (state.hub.sockets client).data.agentUuid = some (unit :: units))
    (given : packetMembers payload = some members) :
    reportedStatus objectFilter client payload state =
      if reportAllowed objectFilter state (unit :: units) (member members "serviceIndex") then
        (dbStatus (member members "status")).bind fun status =>
          (serviceAt (member members "serviceIndex") state.hub.database).map fun service =>
            (service, status)
      else none := by
  simp only [reportedStatus, named, given, Option.bind_eq_bind, Option.bind_some]
  cases dbStatus (member members "status") with
  | none => simp
  | some status =>
    cases serviceAt (member members "serviceIndex") state.hub.database with
    | none => simp
    | some service => simp

theorem mem_of_reportedStatus {client : ℕ} {payload : Value} {service : ServiceRow}
    {status : ServiceStatus}
    (reported : reportedStatus objectFilter client payload state = some (service, status)) :
    service ∈ state.hub.database.services := by
  simp only [reportedStatus, serviceAt, Option.bind_eq_bind, Option.bind_eq_some_iff] at reported
  obtain ⟨agentUuid, -, members, -, written, -, there, ⟨index, -, found⟩, returned⟩ := reported
  split at returned
  · cases returned
    exact (Table.mem_of_findFirst found).1
  · cases returned

/-- What a report leaves of the Hub: a status is written if it may be. -/
theorem hub_handleServiceStatus (client : ℕ) (payload : Value) :
    ((handleServiceStatus objectFilter client payload).run state).2.hub =
      (reportedStatus objectFilter client payload state).elim state.hub fun written =>
        writeStatus written.1 written.2 state.hub := by
  refine @run_of_wp RelayState Failure _ state (fun after => after.hub = _)
    (handleServiceStatus objectFilter client payload) ?_
  simp only [handleServiceStatus, relayForService, wp_bind, wp_look]
  cases named : (state.hub.sockets client).data.agentUuid with
  | none => simp [reportedStatus, named]
  | some agentUuid =>
    cases agentUuid with
    | nil =>
      have refused : reportedStatus objectFilter client payload state = none := by
        simp [reportedStatus, named]
      simp only [refused, Option.elim_none, wp_pure]
    | cons unit units =>
      simp only [wp_bind, wp_orThrow]
      refine ⟨fun members given => ?_, fun missing => ?_⟩
      · rw [reportedStatus_eq named given, reportAllowed, wp_iff_run]
        have same := @hub_getWorkspaceIndex state objectFilter (unit :: units)
          (member members "serviceIndex")
        cases outcome : (getWorkspaceIndexForAgentService objectFilter (unit :: units)
            (member members "serviceIndex")).run state with
        | mk result looked =>
          rw [outcome] at same
          cases result with
          | error error => exact same
          | ok workspaceIndex =>
            cases workspaceIndex with
            | none => exact same
            | some index =>
              cases index with
              | zero => exact same
              | succ index =>
                simp only [wp_bind]
                rw [wp_iff_run, run_onHub, same]
                cases dbStatus (member members "status") with
                | none => rfl
                | some status =>
                  rw [run_updateServiceStatus]
                  cases serviceAt (member members "serviceIndex") state.hub.database with
                  | none => rfl
                  | some service => rfl
      · have refused : reportedStatus objectFilter client payload state = none := by
          simp [reportedStatus, named, missing]
        rw [refused, Option.elim_none]

end Reports

/-! ## The steps that keep the agreement -/

section Agreement

variable {platform : Platform} {release : Hub → Text → Option AgentRelease}
  {objectFilter : Members Value → Option (ℕ → Bool)} {state : StatusState}

theorem noneRunning_mono {agents fewer : List ℕ} {database : Database}
    (none : NoneRunning agents database) (among : ∀ index ∈ fewer, index ∈ agents) :
    NoneRunning fewer database :=
  fun service inside owned => none service inside (among _ owned)

/-- After a step that lowers enough, whoever registers with it. -/
theorem offlineAgree_of_noneRunning {event : StatusEvent}
    (none : NoneRunning (state.setOffline ++ loweredAgents state.relay.hub event)
      (afterEvent platform release objectFilter state.relay event).hub.database) :
    OfflineAgree (statusStep platform release objectFilter state event).2 :=
  noneRunning_mono none fun _ inside => (List.mem_filter.mp inside).1

theorem loweredAgents_of_none {hub : Hub} {event : StatusEvent}
    (none : ∀ agent, lowersAgent hub event agent = false) : loweredAgents hub event = [] := by
  rw [loweredAgents, List.map_eq_nil_iff, List.filter_eq_nil_iff]
  exact fun agent _ => by rw [none]; exact Bool.false_ne_true

/-- A step that sets no Agent offline and leaves the services as they are. -/
theorem offlineAgree_of_kept {event : StatusEvent} (agree : OfflineAgree state)
    (none : ∀ agent, lowersAgent state.relay.hub event agent = false)
    (kept : (afterEvent platform release objectFilter state.relay event).hub.database.services =
      state.relay.hub.database.services) :
    OfflineAgree (statusStep platform release objectFilter state event).2 := by
  apply offlineAgree_of_noneRunning
  rw [loweredAgents_of_none none, List.append_nil, noneRunning_of_eq kept]
  exact agree

/-- A step that sends nothing to an Agent registers none. -/
theorem setOffline_of_silent {event : StatusEvent}
    (silent : (afterEvent platform release objectFilter state.relay event).hub.sent =
      state.relay.hub.sent) :
    (statusStep platform release objectFilter state event).2.setOffline =
      state.setOffline ++ loweredAgents state.relay.hub event := by
  rw [statusStep, sentBetween]
  dsimp only
  rw [silent, List.drop_length, List.filter_eq_self]
  exact fun _ _ => rfl

/-- An offline timer that is pending sets the Agent offline if it is not in the map. -/
theorem run_offlineTimer {hub : Hub} {agentUuid : Text}
    (pending : hub.offlineTimers.contains agentUuid = true) :
    (AgentGateway.offlineTimer agentUuid).run hub =
      if Members.own hub.agentUuidToSocketId agentUuid = none then
        (markAgentOffline agentUuid).run (clearOfflineTimer agentUuid hub)
      else (.ok (), clearOfflineTimer agentUuid hub) := by
  rw [AgentGateway.offlineTimer, run_bind, Program.step, run_atomically, if_pos pending, runFrom]
  cases Members.own hub.agentUuidToSocketId agentUuid with
  | none => rfl
  | some client => rfl

/-- One that is not does nothing. -/
theorem run_offlineTimer_idle {hub : Hub} {agentUuid : Text}
    (idle : ¬ hub.offlineTimers.contains agentUuid = true) :
    (AgentGateway.offlineTimer agentUuid).run hub = (.ok (), hub) := by
  rw [AgentGateway.offlineTimer, run_bind, Program.step, run_atomically, if_neg idle]
  rfl

/-- An Agent has been set offline. -/
def SetOffline (index : ℕ) (database : Database) : Prop :=
  ∃ agent ∈ database.agents.rows, agent.agentIndex = index ∧ agent.agentStatus = .offline

/-- A write of the status to the rows that are selected. -/
theorem setOffline_of_write {before after : Database} {agent : AgentRow}
    {selected : AgentRow → Bool} {change : AgentRow → AgentRow}
    (there : agent ∈ before.agents.rows) (here : selected agent = true)
    (written : change agent = { agent with
      agentStatus := .offline, agentLastOnline := (change agent).agentLastOnline })
    (agents : after.agents.rows = before.agents.rows.map fun row =>
      if selected row then change row else row) : SetOffline agent.agentIndex after := by
  refine ⟨change agent, ?_, by rw [written], by rw [written]⟩
  rw [agents]
  exact List.mem_map.mpr ⟨agent, there, if_pos here⟩

/-- A write of other columns. -/
theorem SetOffline.rest {before after : Database} {index : ℕ} (set : SetOffline index before)
    {change : AgentRow → AgentRow}
    (kept : ∀ row, (change row).agentIndex = row.agentIndex ∧
      (change row).agentStatus = row.agentStatus)
    (agents : after.agents.rows = before.agents.rows.map change) : SetOffline index after := by
  obtain ⟨agent, there, named, status⟩ := set
  refine ⟨change agent, ?_, (kept agent).1.trans named, (kept agent).2.trans status⟩
  rw [agents]
  exact List.mem_map_of_mem there

/-- The Agents that a step counts as set offline have that status after it. -/
theorem setOffline_of_lowersAgent {event : StatusEvent} {agent : AgentRow}
    (there : agent ∈ state.relay.hub.database.agents.rows)
    (lowered : lowersAgent state.relay.hub event agent = true) :
    SetOffline agent.agentIndex
      (afterEvent platform release objectFilter state.relay event).hub.database := by
  cases event with
  | start =>
    have set : SetOffline agent.agentIndex
        ((AgentService.onModuleInit.run (freshProcess state.relay).hub).2).database :=
      setOffline_of_write there lowered rfl rfl
    refine set.rest (fun row => ?_) rfl
    split <;> exact ⟨rfl, rfl⟩
  | offlineTimer agentUuid =>
    simp only [lowersAgent, isAgentConnected, Bool.and_eq_true, Bool.not_eq_true',
      Option.isSome_eq_false_iff, Option.isNone_iff_eq_none] at lowered
    obtain ⟨⟨named, pending⟩, gone⟩ := lowered
    rw [afterEvent, ranOnHub, run_offlineTimer pending, if_pos gone]
    exact setOffline_of_write there named rfl rfl
  | updateTimer agentUuid =>
    simp only [lowersAgent, isAgentConnected, Bool.and_eq_true, Bool.not_eq_true',
      Option.isSome_eq_false_iff, Option.isNone_iff_eq_none] at lowered
    obtain ⟨⟨⟨named, armed⟩, flying⟩, gone⟩ := lowered
    refine @run_of_wp Hub Failure _ _ (fun after => SetOffline agent.agentIndex after.database)
      (AgentUpdateService.updateTimer agentUuid) ?_
    simp only [AgentUpdateService.updateTimer, wp_bind, wp_step, armed, if_true, expire, findAgent,
      wp_look]
    cases found : state.relay.hub.database.agents.findFirst fun row => row.agentUuid == agentUuid with
    | none => simp [underWay, updateOf, found] at flying
    | some row =>
      rw [underWay, updateOf, found, Option.map_some, Option.any_some] at flying
      simp only [flying, if_true, wp_bind, transition_eq]
      apply wp_recordPhase
      intro after _ map agents
      have still : isAgentConnected agentUuid after = false := by
        rw [isAgentConnected, map]
        exact Option.isSome_eq_false_iff.mpr (Option.isNone_iff_eq_none.mpr gone)
      rw [wp_bind, wp_look, still]
      have member : ∃ agent' ∈ after.database.agents.rows,
          agent'.agentIndex = agent.agentIndex ∧ (agent'.agentUuid == agentUuid) = true := by
        rw [agents]
        refine ⟨_, List.mem_map_of_mem there, ?_⟩
        dsimp only
        rw [if_pos named]
        exact ⟨rfl, named⟩
      obtain ⟨agent', there', same, named'⟩ := member
      rw [← same]
      exact setOffline_of_write there' named' rfl rfl
  | _ => exact absurd lowered Bool.false_ne_true

/-- When the Hub starts, the services are lowered with their Agents. -/
theorem offlineAgree_start (agree : OfflineAgree state) :
    OfflineAgree (statusStep platform release objectFilter state .start).2 := by
  apply offlineAgree_of_noneRunning
  let lowered := ((updateAgents (fun row => row.agentDeletedAt.isNone) fun row =>
    { row with agentStatus := .offline, agentLastOnline := state.relay.hub.now }).run
      (freshProcess state.relay).hub).2
  have same : (afterEvent platform release objectFilter state.relay .start).hub.database.services =
      ((markServicesOffline fun row => row.agentDeletedAt.isNone).run
        lowered).2.database.services := rfl
  rw [noneRunning_of_eq same]
  apply noneRunning_markServicesOffline
  · exact agree
  · intro index inside
    obtain ⟨agent, member, rfl⟩ := List.mem_map.mp inside
    obtain ⟨there, kept⟩ := List.mem_filter.mp member
    refine ⟨_, List.mem_map_of_mem there, ?_⟩
    dsimp only
    split <;> exact ⟨rfl, kept⟩

/-- The offline timer lowers the services with the Agent. -/
theorem offlineAgree_offlineTimer (agentUuid : Text) (agree : OfflineAgree state) :
    OfflineAgree (statusStep platform release objectFilter state (.offlineTimer agentUuid)).2 := by
  by_cases fires : state.relay.hub.offlineTimers.contains agentUuid = true ∧
      Members.own state.relay.hub.agentUuidToSocketId agentUuid = none
  · obtain ⟨pending, gone⟩ := fires
    apply offlineAgree_of_noneRunning
    let lowered := ((updateAgents (fun row => row.agentUuid == agentUuid) fun row =>
      { row with agentStatus := .offline, agentLastOnline := state.relay.hub.now }).run
        (clearOfflineTimer agentUuid state.relay.hub)).2
    have same : (afterEvent platform release objectFilter state.relay
        (.offlineTimer agentUuid)).hub.database.services =
        ((markServicesOffline fun row => row.agentUuid == agentUuid).run
          lowered).2.database.services := by
      rw [afterEvent, ranOnHub, run_offlineTimer pending, gone]
      rfl
    rw [noneRunning_of_eq same]
    apply noneRunning_markServicesOffline
    · exact agree
    · intro index inside
      obtain ⟨agent, member, rfl⟩ := List.mem_map.mp inside
      obtain ⟨there, kept⟩ := List.mem_filter.mp member
      refine ⟨_, List.mem_map_of_mem there, ?_⟩
      simp only [lowersAgent, Bool.and_eq_true] at kept
      dsimp only
      rw [if_pos kept.1.1]
      exact ⟨rfl, kept.1.1⟩
  · refine offlineAgree_of_kept agree (fun agent => ?_) ?_
    · rw [lowersAgent, isAgentConnected, Bool.and_assoc, Bool.and_eq_false_iff]
      refine .inr (Bool.not_eq_true _ ▸ fun both => fires ?_)
      simpa using both
    · rw [afterEvent, ranOnHub]
      by_cases pending : state.relay.hub.offlineTimers.contains agentUuid = true
      · rw [run_offlineTimer pending, if_neg fun gone => fires ⟨pending, gone⟩]
        rfl
      · rw [run_offlineTimer_idle pending]

theorem aside_updateTimer (agentUuid : Text) :
    Always Aside (AgentUpdateService.updateTimer agentUuid) := by
  refine Always.bind (always_step fun _ => aside_of_eq rfl rfl rfl rfl) fun armed => ?_
  split
  · refine (aside_findAgent _).bind fun agent => ?_
    cases agent with
    | none => exact always_pure _
    | some agent =>
      dsimp only
      split
      · refine (aside_transition _ _ _).bind fun _ => ?_
        refine Always.bind (always_look aside_refl _) fun connected => ?_
        split
        · exact always_pure _
        · exact aside_updateAgents _ _ _
      · exact always_pure _
  · exact always_pure _

/-- The timeout of an update leaves the services as they are. -/
theorem offlineAgree_updateTimer_iff (agentUuid : Text) (agree : OfflineAgree state) :
    OfflineAgree (statusStep platform release objectFilter state (.updateTimer agentUuid)).2 ↔
      NoneRunning (loweredAgents state.relay.hub (.updateTimer agentUuid))
        state.relay.hub.database := by
  have sends : Always (fun before after : Hub => after.sent = before.sent)
      (AgentUpdateService.updateTimer agentUuid) :=
    (aside_updateTimer agentUuid).mono fun _ _ step => step.background.2.1
  have silent : (afterEvent platform release objectFilter state.relay
      (.updateTimer agentUuid)).hub.sent = state.relay.hub.sent :=
    sends.run (fun _ => rfl) (fun first second => second.trans first) state.relay.hub
  have kept : (statusStep platform release objectFilter state
      (.updateTimer agentUuid)).2.relay.hub.database.services =
        state.relay.hub.database.services :=
    keepsServices_run (keepsServices_updateTimer agentUuid) state.relay.hub
  rw [OfflineAgree, setOffline_of_silent silent, noneRunning_of_eq kept, noneRunning_append]
  exact and_iff_right agree

/-- A report raises the service that it is about. -/
theorem offlineAgree_serviceStatus_iff (client : ℕ) (payload : Value) (agree : OfflineAgree state) :
    OfflineAgree
        (statusStep platform release objectFilter state (.serviceStatus client payload)).2 ↔
      LowersServices platform objectFilter state (.serviceStatus client payload) := by
  let arrived := receive platform state.relay.hub client "service-status" payload
  obtain ⟨database, sent, -⟩ := receive_frame platform state.relay.hub client "service-status"
    payload
  by_cases handled : arrived.1.handled = true
  · have after : (afterEvent platform release objectFilter state.relay
        (.serviceStatus client payload)).hub =
        (reportedStatus objectFilter client payload { state.relay with hub := arrived.2 }).elim
          arrived.2 fun written => writeStatus written.1 written.2 arrived.2 := by
      rw [afterEvent, if_pos handled, hub_handleServiceStatus]
    cases reported : reportedStatus objectFilter client payload
        { state.relay with hub := arrived.2 } with
    | none =>
      rw [reported] at after
      refine iff_of_true (offlineAgree_of_kept agree (fun _ => rfl) ?_) fun _ service found => ?_
      · rw [after]
        exact congrArg Database.services database
      · rw [reported] at found
        cases found
    | some written =>
      obtain ⟨service, status⟩ := written
      rw [reported] at after
      have silent : (afterEvent platform release objectFilter state.relay
          (.serviceStatus client payload)).hub.sent = state.relay.hub.sent := by
        rw [after]
        exact sent
      have there := mem_of_reportedStatus reported
      rw [show arrived.2.database = state.relay.hub.database from database] at there
      have updated := @noneRunning_updateService state.setOffline state.relay.hub.database
        (afterEvent platform release objectFilter state.relay
          (.serviceStatus client payload)).hub.database service status there agree ?_
      · rw [OfflineAgree, setOffline_of_silent silent, loweredAgents_of_none fun _ => rfl,
          List.append_nil]
        refine updated.trans ?_
        constructor
        · intro allowed _ service' found live
          rw [reported] at found
          cases found
          exact allowed rfl live
        · rintro allowed rfl live
          exact allowed handled service reported live
      · rw [after]
        exact congrArg (fun database : Database => database.services.updateMany
          (fun row => row.serviceIndex == service.serviceIndex)
          fun row => { row with serviceStatus := status }) database
  · refine iff_of_true (offlineAgree_of_kept agree (fun _ => rfl) ?_)
      fun handled' => absurd handled' handled
    rw [afterEvent, if_neg handled]
    exact congrArg Database.services database

/-- A step keeps the agreement exactly if it lowers the services that it has to. -/
theorem offlineAgree_step_iff (event : StatusEvent) (agree : OfflineAgree state) :
    OfflineAgree (statusStep platform release objectFilter state event).2 ↔
      LowersServices platform objectFilter state event := by
  cases event with
  | start => exact iff_of_true (offlineAgree_start agree) trivial
  | opened client forwardedFor address handshakeAgentUuid =>
    refine iff_of_true (offlineAgree_of_kept agree (fun _ => rfl) ?_) trivial
    simp only [afterEvent, react]
    split <;> rfl
  | closed client => exact iff_of_true (offlineAgree_of_kept agree (fun _ => rfl) rfl) trivial
  | register client payload =>
    refine iff_of_true (offlineAgree_of_kept agree (fun _ => rfl) ?_) trivial
    exact keepsServices_run (keepsServices_register platform client payload) _
  | disconnected client =>
    refine iff_of_true (offlineAgree_of_kept agree (fun _ => rfl) ?_) trivial
    refine (keepsServices_run (keepsServices_handleDisconnect client) _).trans ?_
    cases leavingAgent client state.relay.hub with
    | none => rfl
    | some agentUuid => rfl
  | offlineTimer agentUuid =>
    exact iff_of_true (offlineAgree_offlineTimer agentUuid agree) trivial
  | requestUpdate agentUuid version =>
    refine iff_of_true (offlineAgree_of_kept agree (fun _ => rfl) ?_) trivial
    exact keepsServices_run (keepsServices_requestUpdate release agentUuid version) _
  | updateTimer agentUuid => exact offlineAgree_updateTimer_iff agentUuid agree
  | serviceStatus client payload => exact offlineAgree_serviceStatus_iff client payload agree
  | clock now => exact iff_of_true (offlineAgree_of_kept agree (fun _ => rfl) rfl) trivial

/-- In a run from a state in which no Agent counts as offline, the services of Agents that do
never run, exactly if every step lowers the services that it has to. -/
theorem offline_services_agree_iff (platform : Platform)
    (release : Hub → Text → Option AgentRelease)
    (objectFilter : Members Value → Option (ℕ → Bool)) (start : RelayState)
    (events : List StatusEvent) :
    Each (statusStep platform release objectFilter)
        (fun state event =>
          OfflineAgree (statusStep platform release objectFilter state event).2)
        { relay := start } events ↔
      Each (statusStep platform release objectFilter) (LowersServices platform objectFilter)
        { relay := start } events := by
  apply each_kept_iff
  · exact fun state event agree => offlineAgree_step_iff event agree
  · exact fun service _ owned => absurd owned List.not_mem_nil

end Agreement

/-- An Agent that is linked to the first workspace, and its service with the index of the
fixed vector. -/
def hostingHub : Hub where
  database :=
    { agents := knownAgents.updateMany (fun _ => true) fun agent =>
        { agent with agentConnection := .linked, agentParentWorkspace := some 1 }
      services :=
        { rows := [
            { serviceIndex := 7
              serviceName := "api"
              servicePort := 80
              serviceSourceUrl := "https://example.org/api.git"
              serviceParentWorkspace := 1
              serviceParentAgent := 1
              serviceVersion := "1" }]
          next := 8
          sorted := List.pairwise_singleton _ _
          below := fun row inside => by
            obtain rfl := List.mem_singleton.mp inside
            exact Nat.lt_succ_self 7 } }
  now := fixedTime

/-- The service is reported to run, the Agent leaves for an update and does not come back. -/
def lostUpdate : List StatusEvent :=
  [.start, .opened 0 none "127.0.0.1" none, .register 0 registerPacket,
    .serviceStatus 0 (.object Hash.fixedPacket.members), .requestUpdate "agent" (.string "1.1.0"),
    .closed 0, .disconnected 0, .updateTimer "agent"]

/-- The timeout sets the Agent offline and leaves the service running. -/
theorem not_offline_services_agree_lost :
    ¬ Each (statusStep fixedPlatform everyRelease fun _ => none)
      (fun state event =>
        OfflineAgree (statusStep fixedPlatform everyRelease (fun _ => none) state event).2)
      { relay := { hub := hostingHub } } lostUpdate := by
  decide +kernel

end AgentGateway

end OpticsHub
