import OpticsHub.Agent.Issuing
import OpticsHub.Agent.OfflineServices
import OpticsHub.Agent.UpdateRuns

/-!
# Changes to the status of an Agent

The status in the row of an Agent is written by its registration, and by whoever sets it offline or
restarting. Only a registration writes online, and only a registration binds an Agent to a socket.
Everything else leaves sockets, map and timers as they are, or touches them in one action of its
own; so most programs are described by one relation, which every action of theirs keeps to.
-/
namespace OpticsHub

open Script Async Program Machine

namespace AgentGateway

open AgentService AgentUpdateService ReleaseCatalogService

/-! ## What is said of an Agent -/

/-- What the row of an Agent says of it: its status, and when it was deleted. -/
def standing (hub : Hub) (agentUuid : Text) : Option (AgentStatus × Option ℤ) :=
  (rowOf hub.database agentUuid).map fun row => (row.agentStatus, row.agentDeletedAt)

/-- A socket that has been open and is not connected any more. -/
def ClosedSocket (hub : Hub) (client : ℕ) : Prop :=
  (hub.sockets client).opened = true ∧ (hub.sockets client).connected = false

instance (hub : Hub) (client : ℕ) : Decidable (ClosedSocket hub client) :=
  inferInstanceAs (Decidable (_ ∧ _))

/-! ## Changes -/

/-- No socket is opened or connected, and no identity is bound. -/
structure BindsNone (before after : Hub) : Prop where
  opened : ∀ client, (after.sockets client).opened = (before.sockets client).opened
  connected : ∀ client, (after.sockets client).connected = true →
    (before.sockets client).connected = true
  identities : ∀ client, identityOf after client = identityOf before client

/-- Nothing happens to the map and the timers, and a status is written at most if it is not
online. -/
structure RaisesNone (before after : Hub) : Prop extends BindsNone before after where
  map : after.agentUuidToSocketId = before.agentUuidToSocketId
  timers : after.offlineTimers = before.offlineTimers
  standings : ∀ agentUuid, standing after agentUuid = standing before agentUuid ∨
    ∀ deleted, standing after agentUuid ≠ some (.online, deleted)
  coded : Coded before → Coded after

/-! ## What most actions keep -/

section Raising

variable {before after hub : Hub} {client : ℕ} {agentUuid : Text}

theorem bindsNone_of_eq (sockets : after.sockets = before.sockets) : BindsNone before after :=
  ⟨fun client => by rw [sockets], fun client held => by rwa [sockets] at held,
    fun client => by rw [identityOf, sockets, identityOf]⟩

theorem bindsNone_disconnect (hub : Hub) (client : ℕ) : BindsNone hub (hub.disconnect client) := by
  refine ⟨fun other => ?_, fun other held => ?_, fun other => ?_⟩
  · by_cases same : other = client
    · simp only [same, Hub.disconnect, Function.update_self]
    · simp only [Hub.disconnect, Function.update_of_ne same]
  · by_cases same : other = client
    · simp [same, Hub.disconnect] at held
    · simpa only [Hub.disconnect, Function.update_of_ne same] using held
  · simp [identityOf]

/-- What is kept on a socket does not tell whether it is open. -/
theorem setData_opened (hub : Hub) (client : ℕ) (change : SocketData → SocketData) (other : ℕ) :
    ((hub.setData client change).sockets other).opened = (hub.sockets other).opened := by
  by_cases here : other = client
  · simp only [here, Hub.setData, Function.update_self]
  · rw [Hub.setData_of_ne _ _ _ here]

theorem setData_connected (hub : Hub) (client : ℕ) (change : SocketData → SocketData)
    (other : ℕ) :
    ((hub.setData client change).sockets other).connected = (hub.sockets other).connected := by
  by_cases here : other = client
  · simp only [here, Hub.setData, Function.update_self]
  · rw [Hub.setData_of_ne _ _ _ here]

theorem bindsNone_setData {change : SocketData → SocketData}
    (same : ∀ data, (change data).agentCode = data.agentCode ∧
      (change data).agentUuid = data.agentUuid) : BindsNone hub (hub.setData client change) :=
  ⟨fun other => setData_opened _ _ _ other, fun other held => setData_connected _ _ _ other ▸ held,
    (sheds_setData same).identities⟩

theorem standing_congr (agents : after.database.agents = before.database.agents)
    (agentUuid : Text) : standing after agentUuid = standing before agentUuid := by
  rw [standing, rowOf, agents, standing, rowOf]

/-- A change to rows that keeps their UUIDs, as it shows in what they say. -/
theorem standing_updateMany {selected : AgentRow → Bool} {change : AgentRow → AgentRow}
    (keyed : ∀ row, (change row).agentIndex = row.agentIndex)
    (same : ∀ row, (change row).agentUuid = row.agentUuid)
    (agents : after.database.agents = before.database.agents.updateMany selected change keyed)
    (agentUuid : Text) :
    standing after agentUuid = (rowOf before.database agentUuid).map fun row =>
      if selected row then ((change row).agentStatus, (change row).agentDeletedAt)
      else (row.agentStatus, row.agentDeletedAt) := by
  rw [standing, rowOf, agents, Table.findFirst_updateMany fun row => by rw [same], Option.map_map]
  refine congrArg (Option.map · _) (funext fun row => ?_)
  rw [Function.comp_apply]
  split <;> rfl

/-- What a write to its row leaves of an Agent. -/
theorem standing_updateMany_key {row : AgentRow} {change : AgentRow → AgentRow}
    (keyed : ∀ row, (change row).agentIndex = row.agentIndex)
    (same : ∀ row, (change row).agentUuid = row.agentUuid)
    (found : rowOf before.database row.agentUuid = some row)
    (agents : after.database.agents = before.database.agents.updateMany
      (fun other => other.agentIndex == row.agentIndex) change keyed) :
    standing after row.agentUuid =
      some ((change row).agentStatus, (change row).agentDeletedAt) := by
  rw [standing_updateMany keyed same agents, found, Option.map_some, if_pos (beq_self_eq_true _)]

theorem raisesNone_of_bindsNone (binds : BindsNone before after)
    (map : after.agentUuidToSocketId = before.agentUuidToSocketId)
    (timers : after.offlineTimers = before.offlineTimers)
    (agents : after.database.agents = before.database.agents) : RaisesNone before after :=
  ⟨binds, map, timers, fun agentUuid => .inl (standing_congr agents agentUuid),
    fun coded row inside => coded row (agents ▸ inside)⟩

theorem raisesNone_of_eq (sockets : after.sockets = before.sockets)
    (map : after.agentUuidToSocketId = before.agentUuidToSocketId)
    (timers : after.offlineTimers = before.offlineTimers)
    (agents : after.database.agents = before.database.agents) : RaisesNone before after :=
  raisesNone_of_bindsNone (bindsNone_of_eq sockets) map timers agents

theorem raisesNone_refl (hub : Hub) : RaisesNone hub hub := raisesNone_of_eq rfl rfl rfl rfl

/-- A change to rows keeps what they say, or writes a status other than online. -/
theorem raisesNone_updateMany {selected : AgentRow → Bool} {change : AgentRow → AgentRow}
    (keyed : ∀ row, (change row).agentIndex = row.agentIndex)
    (same : ∀ row, (change row).agentCode = row.agentCode ∧
      (change row).agentUuid = row.agentUuid ∧ (change row).agentDeletedAt = row.agentDeletedAt)
    (lower : ∀ row, (change row).agentStatus = row.agentStatus ∨
      (change row).agentStatus ≠ .online)
    (sockets : after.sockets = before.sockets)
    (map : after.agentUuidToSocketId = before.agentUuidToSocketId)
    (timers : after.offlineTimers = before.offlineTimers)
    (agents : after.database.agents = before.database.agents.updateMany selected change keyed) :
    RaisesNone before after := by
  refine ⟨bindsNone_of_eq sockets, map, timers, fun agentUuid => ?_, fun coded row inside => ?_⟩
  · rw [standing_updateMany keyed (fun row => (same row).2.1) agents, standing]
    cases rowOf before.database agentUuid with
    | none => exact .inl rfl
    | some row =>
      rw [Option.map_some, Option.map_some]
      split
      · rcases lower row with kept | lowered
        · rw [kept, (same row).2.2]
          exact .inl rfl
        · refine .inr fun deleted online => lowered ?_
          exact congrArg Prod.fst (Option.some.inj online)
      · exact .inl rfl
  · rw [agents] at inside
    obtain ⟨row', inside', rfl⟩ := Table.mem_updateMany.mp inside
    split
    · rw [(same row').1]
      exact coded row' inside'
    · exact coded row' inside'

theorem RaisesNone.sheds (raises : RaisesNone before after) : Sheds before after :=
  ⟨fun _ _ found => raises.map ▸ found, raises.identities, raises.coded⟩

end Raising

/-! ## What the calls do besides -/

section Besides

variable (platform : Platform) (release : Hub → Text → Option AgentRelease)

theorem raisesNone_look {α : Type} (view : Hub → α) :
    Always RaisesNone (look view : HubProgram α) :=
  always_look raisesNone_refl view

/-- A status other than online is written to the rows of an Agent. -/
theorem raisesNone_updateStatus (selected : AgentRow → Bool) {status : AgentStatus}
    (lower : status ≠ .online) :
    Always RaisesNone (updateAgents selected fun row => { row with agentStatus := status }) := by
  refine always_step fun hub => raisesNone_updateMany ?_ ?_ ?_ rfl rfl rfl rfl
  · exact fun _ => rfl
  · exact fun _ => ⟨rfl, rfl, rfl⟩
  · exact fun _ => .inr lower

theorem raisesNone_recordPhase (agentUuid : Text) (phase : AgentUpdatePhase)
    (fields : AgentRow → AgentRow) (keyed : ∀ row, (fields row).agentIndex = row.agentIndex)
    (same : ∀ row, (fields row).agentCode = row.agentCode ∧
      (fields row).agentUuid = row.agentUuid ∧ (fields row).agentDeletedAt = row.agentDeletedAt)
    (kept : ∀ row, (fields row).agentStatus = row.agentStatus) :
    Always RaisesNone (recordPhase agentUuid phase fields keyed) := by
  rw [recordPhase_eq]
  refine Always.bind (always_step fun hub => ?_) fun _ => ?_
  · refine raisesNone_updateMany ?_ ?_ ?_ rfl rfl rfl rfl
    · exact keyed
    · exact same
    · exact fun row => .inl (kept row)
  · refine (always_announce agentUuid phase).mono fun before after announces => ?_
    obtain ⟨console, rfl⟩ := announces
    exact raisesNone_of_eq rfl rfl rfl rfl

theorem raisesNone_transition (agentUuid : Text) (phase : AgentUpdatePhase) (message : Text) :
    Always RaisesNone (transition agentUuid phase message) := by
  rw [transition_eq]
  apply raisesNone_recordPhase
  · exact fun _ => ⟨rfl, rfl, rfl⟩
  · exact fun _ => rfl

theorem raisesNone_handleReconnect (agentUuid : Text) (reportedVersion : Option Text) :
    Always RaisesNone (handleReconnect agentUuid reportedVersion) := by
  refine (raisesNone_look _).bind fun agent => ?_
  cases agent with
  | none => exact always_pure _
  | some agent =>
    dsimp only
    split
    · refine Always.bind (always_step fun _ => raisesNone_of_eq rfl rfl rfl rfl) fun _ => ?_
      split
      · split <;> exact raisesNone_transition _ _ _
      · exact raisesNone_transition _ _ _
    · exact always_pure _

theorem raisesNone_isExpectedRestart (agentUuid : Text) :
    Always RaisesNone (isExpectedRestart agentUuid) := by
  refine (raisesNone_look _).bind fun agent => ?_
  cases agent with
  | none => exact always_pure _
  | some agent =>
    dsimp only
    split
    · refine (raisesNone_updateStatus _ (by decide)).bind fun _ => ?_
      exact (raisesNone_transition _ _ _).bind fun _ => always_pure _
    · exact always_pure _

theorem raisesNone_markAgentOffline (agentUuid : Text) :
    Always RaisesNone (markAgentOffline agentUuid) := by
  refine (raisesNone_look _).bind fun agent => ?_
  refine (raisesNone_look _).bind fun now => ?_
  refine Always.bind (always_step fun _ => ?_) fun _ => ?_
  · refine raisesNone_updateMany ?_ ?_ ?_ rfl rfl rfl rfl
    · exact fun _ => rfl
    · exact fun _ => ⟨rfl, rfl, rfl⟩
    · exact fun _ => .inr fun wrong => by cases wrong
  · refine Always.bind (always_step fun _ => raisesNone_of_eq rfl rfl rfl rfl) fun _ => ?_
    exact always_step fun _ => raisesNone_of_eq rfl rfl rfl rfl

/-- A write to the row of an Agent that leaves its status alone. -/
theorem raisesNone_updateAgent (selected : AgentRow → Bool) (change : AgentRow → AgentRow)
    (keyed : ∀ row, (change row).agentIndex = row.agentIndex)
    (same : ∀ row, (change row).agentCode = row.agentCode ∧
      (change row).agentUuid = row.agentUuid ∧ (change row).agentDeletedAt = row.agentDeletedAt)
    (kept : ∀ row, (change row).agentStatus = row.agentStatus) :
    Always RaisesNone (updateAgent selected change keyed) := by
  apply always_atomically
  intro hub
  split
  · exact raisesNone_refl hub
  · refine raisesNone_updateMany keyed same ?_ rfl rfl rfl rfl
    exact fun row => .inl (kept row)

theorem raisesNone_handleAcceptConnectRequest (agentCode agentUuid : Text) :
    Always RaisesNone (handleAcceptConnectRequest agentCode agentUuid) := by
  refine (raisesNone_look _).bind fun rawAgent => ?_
  refine (always_orThrow _ _).bind fun _ => ?_
  refine Always.bind (raisesNone_updateAgent _ _ _ ?_ ?_) fun _ => ?_
  · exact fun _ => ⟨rfl, rfl, rfl⟩
  · exact fun _ => rfl
  · exact always_step fun _ => raisesNone_of_eq rfl rfl rfl rfl

theorem raisesNone_handleRejectConnectRequest (agentCode agentUuid : Text) :
    Always RaisesNone (handleRejectConnectRequest agentCode agentUuid) := by
  refine (raisesNone_look _).bind fun rawAgent => ?_
  refine (always_orThrow _ _).bind fun _ => ?_
  refine Always.bind (raisesNone_updateAgent _ _ _ ?_ ?_) fun _ => ?_
  · exact fun _ => ⟨rfl, rfl, rfl⟩
  · exact fun _ => rfl
  · exact always_step fun _ => raisesNone_of_eq rfl rfl rfl rfl

theorem raisesNone_refuse (client : ℕ) (refusal : RegisterRefusal) (hub : Hub) :
    RaisesNone hub (refuse client refusal hub) := by
  have closed := bindsNone_disconnect (hub.emit (.refused client refusal)) client
  exact raisesNone_of_bindsNone ⟨closed.opened, closed.connected, closed.identities⟩ rfl rfl rfl

theorem raisesNone_proveIdentity (client : ℕ) (payload agentUuid : Value) :
    Always RaisesNone (proveIdentity platform client payload agentUuid) := by
  rw [proveIdentity]
  split
  · refine (always_orThrow _ _).bind fun selects => ?_
    refine (raisesNone_look _).bind fun knownSecret => ?_
    split
    · apply always_step
      intro hub
      split
      · exact raisesNone_refl hub
      · exact raisesNone_refuse client _ hub
    · exact always_pure _
  · exact always_pure _

/-- The row that a packet names is only looked for. -/
theorem raisesNone_findExist (uuid : Value) : Always RaisesNone (findExist platform uuid) := by
  rw [findExist]
  split
  · exact (always_orThrow _ _).bind fun _ => raisesNone_look _
  · exact always_pure _

/-- What a registration does when the Agent is bound. -/
theorem raisesNone_afterBinding (agent : RegisteredAgent) (version : Option Text) :
    Always RaisesNone (do
      handleReconnect agent.uuid version
      step fun hub => ((), hub.notifyWorkspaceUpdated agent.parentWorkspace)) := by
  refine (raisesNone_handleReconnect _ _).bind fun _ => ?_
  exact always_step fun _ => raisesNone_of_eq rfl rfl rfl rfl

theorem raisesNone_attachSecret (client : ℕ) (agent : RegisteredAgent) (secret : Option Text)
    (hub : Hub) : RaisesNone hub (attachSecret client agent secret hub) := by
  refine raisesNone_of_bindsNone ?_ rfl rfl rfl
  have data : BindsNone hub (hub.setData client fun data =>
      { data with
        signingSecret := secret
        replayGuard := some {}
        packetGuardInstalled := true }) := bindsNone_setData fun _ => ⟨rfl, rfl⟩
  exact ⟨data.opened, data.connected, data.identities⟩

/-- The update service binds nobody, and writes at most that an Agent restarts or is offline. -/
theorem raisesNone_lifecycle (call : LifecycleCall) :
    Always RaisesNone (lifecycle release call) := by
  cases call with
  | requestUpdate agentUuid version =>
    refine (always_orThrow _ _).bind fun text => ?_
    refine (always_require _ _).bind fun _ => ?_
    refine (always_updatableAgent raisesNone_refl agentUuid).bind fun agent => ?_
    split
    · refine (always_assertInstallable raisesNone_refl release _).bind fun _ => ?_
      refine Always.bind (always_step fun hub => ?_) fun sent => ?_
      · rw [sendToAgent_frame]
        exact raisesNone_of_eq rfl rfl rfl rfl
      · refine (always_require _ _).bind fun _ => ?_
        refine Always.bind (raisesNone_recordPhase _ _ _ _ ?_ ?_) fun _ => ?_
        · exact fun _ => ⟨rfl, rfl, rfl⟩
        · exact fun _ => rfl
        · exact always_step fun _ => raisesNone_of_eq rfl rfl rfl rfl
    · exact always_throw _
  | recordProgress agentUuid line =>
    refine (raisesNone_look _).bind fun agent => ?_
    cases agent with
    | none => exact always_pure _
    | some agent =>
      dsimp only
      split
      · exact raisesNone_transition _ _ _
      · exact always_pure _
  | recordFailure agentUuid message =>
    refine (raisesNone_look _).bind fun agent => ?_
    cases agent with
    | none => exact always_pure _
    | some agent =>
      dsimp only
      split
      · refine Always.bind (always_step fun _ => raisesNone_of_eq rfl rfl rfl rfl) fun _ => ?_
        exact raisesNone_transition _ _ _
      · exact always_pure _
  | isExpectedRestart agentUuid =>
    exact (raisesNone_isExpectedRestart agentUuid).bind fun _ => always_pure _
  | handleReconnect agentUuid reportedVersion => exact raisesNone_handleReconnect _ _
  | acknowledge agentUuid =>
    apply raisesNone_recordPhase
    · exact fun _ => ⟨rfl, rfl, rfl⟩
    · exact fun _ => rfl
  | updateTimer agentUuid =>
    refine Always.bind (always_step fun _ => raisesNone_of_eq rfl rfl rfl rfl) fun armed => ?_
    split
    · refine (raisesNone_look _).bind fun agent => ?_
      cases agent with
      | none => exact always_pure _
      | some agent =>
        dsimp only
        split
        · refine (raisesNone_transition _ _ _).bind fun _ => ?_
          refine (raisesNone_look _).bind fun connected => ?_
          split
          · exact always_pure _
          · exact raisesNone_updateStatus _ (by decide)
        · exact always_pure _
    · exact always_pure _

end Besides

end AgentGateway

end OpticsHub
