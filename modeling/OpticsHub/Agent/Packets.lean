import OpticsHub.Agent.AgentGateway
import OpticsHub.Global.Replay

/-!
# Runs of the gateway

Sockets open and close, packets arrive on them at any time, and the handlers that
have waits interleave. Every packet other than a registration is taken through the
middleware at once. Of all the actions a handler takes, only one touches what the
middleware reads: it attaches a secret and a fresh replay guard to one socket, and
in the same action it sends the answer to the registration. So the answers that the
Hub sends tell an observer when a socket got a new guard, and for which Agent.
-/
namespace OpticsHub

open Script Async Program Machine

namespace AgentGateway

inductive Call where
  | register (client : ℕ) (payload : Value)
  | disconnected (client : ℕ)
  | offlineTimer (agentUuid : Text)
  | acceptConnectRequest (agentCode agentUuid : Text)
  | rejectConnectRequest (agentCode agentUuid : Text)

inductive Event where
  | opened (client : ℕ) (forwardedFor : Option Text) (address : Text)
      (handshakeAgentUuid : Option Text)
  | closed (client : ℕ)
  | packet (client : ℕ) (event : Text) (payload : Value)
  | disconnectAgent (agentUuid : Text)
  | clock (now : ℤ)

section Gateway

variable (platform : Platform)

/-- The handler of a call. A packet that arrives on a closed socket starts none. -/
def handler : Call → HubProgram Unit
  | .register client payload => do
    let connected ← look fun hub => (hub.sockets client).connected
    if connected then handleValidation platform client payload else pure ()
  | .disconnected client => handleDisconnect client
  | .offlineTimer agentUuid => offlineTimer agentUuid
  | .acceptConnectRequest agentCode agentUuid => do
    let _ ← AgentService.handleAcceptConnectRequest agentCode agentUuid
  | .rejectConnectRequest agentCode agentUuid => do
    let _ ← AgentService.handleRejectConnectRequest agentCode agentUuid

/-- What an event does at once. A socket is opened once. -/
def react (hub : Hub) : Event → Option Arrival × Hub
  | .opened client forwardedFor address handshakeAgentUuid =>
    if (hub.sockets client).opened then (none, hub)
    else (none, { hub with
      sockets := Function.update hub.sockets client
        { opened := true
          connected := true
          forwardedFor := forwardedFor
          address := address
          handshakeAgentUuid := handshakeAgentUuid
          data := (hub.sockets client).data } })
  | .closed client => (none, hub.disconnect client)
  | .packet client event payload =>
    let arrived := receive platform hub client event payload
    (some arrived.1, arrived.2)
  | .disconnectAgent agentUuid => (none, (disconnectAgent agentUuid hub).2)
  | .clock now => (none, { hub with now := now })

/-- The packets that a step has sent. -/
def sentBetween (before after : Hub) : List Outgoing := after.sent.drop before.sent.length

abbrev Input := Move Call Event

abbrev Output := Shown (Option Arrival) (List Outgoing)

abbrev State := Config Call Hub Failure Unit

/-- The gateway with its handlers. -/
def gateway : Transition State Input Output := Async.move (handler platform) (react platform)
  sentBetween

end Gateway

/-! ## What an action does to the sockets -/

/-- What the middleware reads of a socket. -/
def guardOf (hub : Hub) (client : ℕ) : Option Text × Option Hash.ReplayGuard × Bool :=
  ((hub.sockets client).data.signingSecret, (hub.sockets client).data.replayGuard,
    (hub.sockets client).data.packetGuardInstalled)

/-- Whether a packet answers a registration. -/
def isRegistered : Outgoing → Bool
  | .registered _ _ => true
  | _ => false

/-- Nothing changes for the middleware, and no registration is answered. -/
def Kept (before after : Hub) : Prop :=
  guardOf after = guardOf before ∧
    ∃ sent, after.sent = before.sent ++ sent ∧ ∀ packet ∈ sent, isRegistered packet = false

/-- One socket gets a secret and a fresh guard for an Agent, and the answer is sent. -/
def Attaches (client : ℕ) (agent : RegisteredAgent) (secret : Option Text) (before after : Hub) :
    Prop :=
  guardOf after = Function.update (guardOf before) client (secret, some {}, true) ∧
    after.sent = before.sent ++ [.registered client agent]

/-- Every action keeps the sockets or attaches a secret to one. -/
def Tends (before after : Hub) : Prop :=
  Kept before after ∨ ∃ client agent secret, Attaches client agent secret before after

/-- Nothing happens to the sockets, to the map of the Agents or to their codes, and nothing is
sent. -/
def Background (before after : Hub) : Prop :=
  after.sockets = before.sockets ∧ after.sent = before.sent ∧
    after.agentUuidToSocketId = before.agentUuidToSocketId ∧
    ∀ row ∈ after.database.agents, ∃ row' ∈ before.database.agents,
      row'.agentCode = row.agentCode

variable {before after hub : Hub} {client : ℕ}

theorem kept_refl (hub : Hub) : Kept hub hub := ⟨rfl, [], by simp, by simp⟩

theorem Kept.trans {middle : Hub} (first : Kept before middle) (second : Kept middle after) :
    Kept before after := by
  obtain ⟨guards, sent, appended, foreign⟩ := first
  obtain ⟨guards', sent', appended', foreign'⟩ := second
  refine ⟨guards'.trans guards, sent ++ sent', ?_, ?_⟩
  · rw [appended', appended, List.append_assoc]
  · intro packet inside
    exact (List.mem_append.mp inside).elim (foreign packet) (foreign' packet)

/-- An action that touches neither the sockets nor what was sent. -/
theorem kept_of_eq (sockets : after.sockets = before.sockets) (sent : after.sent = before.sent) :
    Kept before after := by
  refine ⟨?_, [], by rw [sent, List.append_nil], by simp⟩
  funext client
  rw [guardOf, guardOf, sockets]

theorem kept_disconnect (hub : Hub) (client : ℕ) : Kept hub (hub.disconnect client) := by
  refine ⟨?_, [], by simp, by simp⟩
  funext other
  simp [guardOf]

theorem kept_refuse (hub : Hub) (client : ℕ) (refusal : RegisterRefusal) :
    Kept hub (refuse client refusal hub) := by
  refine ⟨?_, [.refused client refusal], rfl, by simp [isRegistered]⟩
  funext other
  simp [guardOf, refuse]

theorem kept_setData {change : SocketData → SocketData}
    (same : ∀ data, (change data).signingSecret = data.signingSecret ∧
      (change data).replayGuard = data.replayGuard ∧
      (change data).packetGuardInstalled = data.packetGuardInstalled) :
    guardOf (hub.setData client change) = guardOf hub := by
  funext other
  by_cases here : other = client
  · subst here
    obtain ⟨secret, replays, installed⟩ := same (hub.sockets other).data
    simp only [guardOf, Hub.setData_self, secret, replays, installed]
  · simp only [guardOf, Hub.setData_of_ne _ _ _ here]

theorem kept_bindIdentity (hub : Hub) (client : ℕ) (agent : RegisteredAgent) :
    Kept hub (bindIdentity client agent hub) := by
  have guards : guardOf (bindIdentity client agent hub) = guardOf (hub.setData client fun data =>
      { data with
        agentCode := some agent.code
        agentUuid := some agent.uuid
        agentIp := some agent.ip
        workspaceIndex := agent.parentWorkspace }) := rfl
  refine ⟨guards.trans (kept_setData ?_), [], (List.append_nil _).symm, by simp⟩
  exact fun _ => ⟨rfl, rfl, rfl⟩

theorem attaches_attachSecret (hub : Hub) (client : ℕ) (agent : RegisteredAgent)
    (secret : Option Text) :
    Attaches client agent secret hub (attachSecret client agent secret hub) := by
  refine ⟨?_, rfl⟩
  funext other
  by_cases here : other = client
  · subst here
    simp [guardOf, attachSecret]
  · simp [guardOf, attachSecret, Hub.setData_of_ne _ _ _ here, Function.update_of_ne here]

theorem attaches_bound (hub : Hub) (client : ℕ) (agent : RegisteredAgent)
    (secret : Option Text) :
    Attaches client agent secret hub
      (attachSecret client agent secret (bindIdentity client agent hub)) := by
  have attached := attaches_attachSecret (bindIdentity client agent hub) client agent secret
  rw [Attaches, (kept_bindIdentity hub client agent).1] at attached
  exact attached

/-! ## What goes on beside the sockets -/

section Background

theorem kept_of_background (background : Background before after) : Kept before after :=
  kept_of_eq background.1 background.2.1

theorem background_refl (hub : Hub) : Background hub hub :=
  ⟨rfl, rfl, rfl, fun row inside => ⟨row, inside, rfl⟩⟩

/-- An action that touches neither the sockets nor the agents. -/
theorem background_of_eq (sockets : after.sockets = before.sockets)
    (sent : after.sent = before.sent)
    (map : after.agentUuidToSocketId = before.agentUuidToSocketId)
    (agents : after.database.agents = before.database.agents) : Background before after :=
  ⟨sockets, sent, map, fun row inside => ⟨row, agents ▸ inside, rfl⟩⟩

/-- A write to rows of the agents that keeps their codes. -/
theorem background_updateMany {selected : AgentRow → Bool} {change : AgentRow → AgentRow}
    (keyed : ∀ row, (change row).agentIndex = row.agentIndex)
    (coded : ∀ row, (change row).agentCode = row.agentCode)
    (sockets : after.sockets = before.sockets) (sent : after.sent = before.sent)
    (map : after.agentUuidToSocketId = before.agentUuidToSocketId)
    (agents : after.database.agents = before.database.agents.updateMany selected change keyed) :
    Background before after := by
  refine ⟨sockets, sent, map, fun row inside => ?_⟩
  rw [agents] at inside
  obtain ⟨row', inside', rfl⟩ := Table.mem_updateMany.mp inside
  refine ⟨row', inside', ?_⟩
  split
  · exact (coded row').symm
  · rfl

/-- What a row proves its Agent by. -/
def credentials (row : AgentRow) : Text × Text × Option Text :=
  (row.agentCode, row.agentUuid, row.agentSigningSecret)

/-- Such an action, and it keeps the credentials of every Agent too. -/
structure Aside (before after : Hub) : Prop where
  background : Background before after
  credentials : after.database.agents.rows.map credentials =
    before.database.agents.rows.map credentials

theorem aside_refl (hub : Hub) : Aside hub hub := ⟨background_refl hub, rfl⟩

theorem aside_of_eq (sockets : after.sockets = before.sockets) (sent : after.sent = before.sent)
    (map : after.agentUuidToSocketId = before.agentUuidToSocketId)
    (agents : after.database.agents = before.database.agents) : Aside before after :=
  ⟨background_of_eq sockets sent map agents, by rw [agents]⟩

/-- A write to rows of the agents that keeps their credentials. -/
theorem aside_updateMany {selected : AgentRow → Bool} {change : AgentRow → AgentRow}
    (keyed : ∀ row, (change row).agentIndex = row.agentIndex)
    (kept : ∀ row, AgentGateway.credentials (change row) = AgentGateway.credentials row)
    (sockets : after.sockets = before.sockets) (sent : after.sent = before.sent)
    (map : after.agentUuidToSocketId = before.agentUuidToSocketId)
    (agents : after.database.agents = before.database.agents.updateMany selected change keyed) :
    Aside before after := by
  refine ⟨background_updateMany keyed (fun row => congrArg Prod.fst (kept row)) sockets sent map
    agents, ?_⟩
  rw [agents]
  change (List.map _ _).map _ = _
  rw [List.map_map]
  refine List.map_congr_left fun row _ => ?_
  rw [Function.comp_apply]
  split
  · exact kept row
  · rfl

theorem aside_findAgent (selected : AgentRow → Bool) :
    Always Aside (AgentService.findAgent selected) :=
  always_look aside_refl _

theorem aside_updateAgents (selected : AgentRow → Bool) (change : AgentRow → AgentRow)
    (keyed : ∀ row, (change row).agentIndex = row.agentIndex)
    (kept : ∀ row, AgentGateway.credentials (change row) = AgentGateway.credentials row := by
      intro; rfl) :
    Always Aside (AgentService.updateAgents selected change keyed) :=
  always_step fun _ => aside_updateMany keyed kept rfl rfl rfl rfl

theorem aside_updateAgent (selected : AgentRow → Bool) (change : AgentRow → AgentRow)
    (keyed : ∀ row, (change row).agentIndex = row.agentIndex)
    (kept : ∀ row, AgentGateway.credentials (change row) = AgentGateway.credentials row := by
      intro; rfl) :
    Always Aside (AgentService.updateAgent selected change keyed) := by
  apply always_atomically
  intro hub
  split
  · exact aside_refl hub
  · exact aside_updateMany keyed kept rfl rfl rfl rfl

theorem aside_transition (agentUuid : Text) (phase : AgentUpdatePhase) (message : Text) :
    Always Aside (AgentUpdateService.transition agentUuid phase message) := by
  refine (aside_updateAgents _ _ _).bind fun _ => ?_
  apply (aside_findAgent _).bind
  intro agent
  apply always_step
  intro hub
  cases agent with
  | none => exact aside_refl hub
  | some agent =>
    dsimp only
    split
    · exact aside_refl hub
    · exact aside_of_eq rfl rfl rfl rfl

theorem aside_handleReconnect (agentUuid : Text) (reportedVersion : Option Text) :
    Always Aside (AgentUpdateService.handleReconnect agentUuid reportedVersion) := by
  apply (aside_findAgent _).bind
  intro agent
  cases agent with
  | none => exact always_pure _
  | some agent =>
    dsimp only
    split
    · refine Always.bind (always_step fun _ => aside_of_eq rfl rfl rfl rfl) fun _ => ?_
      split
      · split <;> exact aside_transition _ _ _
      · exact aside_transition _ _ _
    · exact always_pure _

theorem aside_isExpectedRestart (agentUuid : Text) :
    Always Aside (AgentUpdateService.isExpectedRestart agentUuid) := by
  apply (aside_findAgent _).bind
  intro agent
  cases agent with
  | none => exact always_pure _
  | some agent =>
    dsimp only
    split
    · refine (aside_updateAgents _ _ _).bind fun _ => ?_
      apply (aside_transition _ _ _).bind
      exact fun _ => always_pure _
    · exact always_pure _

theorem aside_offlineTimer (agentUuid : Text) :
    Always Aside (offlineTimer agentUuid) := by
  apply Always.bind
  · apply always_step
    intro hub
    split
    · exact aside_of_eq rfl rfl rfl rfl
    · exact aside_refl hub
  · intro gone
    split
    · apply (aside_findAgent _).bind
      intro agent
      refine Always.bind (always_look aside_refl _) fun now => ?_
      refine (aside_updateAgents _ _ _).bind fun _ => ?_
      refine Always.bind (always_step fun _ => aside_of_eq rfl rfl rfl rfl) fun _ => ?_
      exact always_step fun _ => aside_of_eq rfl rfl rfl rfl
    · exact always_pure _

theorem aside_handleAcceptConnectRequest (agentCode agentUuid : Text) :
    Always Aside (AgentService.handleAcceptConnectRequest agentCode agentUuid) := by
  apply (aside_findAgent _).bind
  intro rawAgent
  apply (always_orThrow _ _).bind
  intro _
  refine (aside_updateAgent _ _ _).bind ?_
  exact fun _ => always_step fun _ => aside_of_eq rfl rfl rfl rfl

theorem aside_handleRejectConnectRequest (agentCode agentUuid : Text) :
    Always Aside (AgentService.handleRejectConnectRequest agentCode agentUuid) := by
  apply (aside_findAgent _).bind
  intro rawAgent
  apply (always_orThrow _ _).bind
  intro _
  refine (aside_updateAgent _ _ _).bind ?_
  exact fun _ => always_step fun _ => aside_of_eq rfl rfl rfl rfl

/-- Where the credentials do not matter, it goes on in the background. -/
theorem always_background {α : Type} {program : HubProgram α} (aside : Always Aside program) :
    Always Background program :=
  aside.mono fun _ _ step => step.background

end Background

/-! ## What the handlers do to the sockets -/

section Handlers

variable (platform : Platform)

/-- What goes on beside the sockets keeps them. -/
theorem always_kept {α : Type} {program : HubProgram α} (aside : Always Aside program) :
    Always Kept program :=
  aside.mono fun _ _ step => kept_of_background step.background

theorem always_handleDisconnect (client : ℕ) : Always Kept (handleDisconnect client) := by
  apply Always.bind
  · apply always_step
    intro hub
    dsimp only
    split
    · split
      · exact kept_of_eq rfl rfl
      · exact kept_refl hub
    · exact kept_refl hub
  · intro agentUuid
    cases agentUuid with
    | none => exact always_pure _
    | some agentUuid =>
      apply (always_kept (aside_isExpectedRestart _)).bind
      intro expected
      split
      · exact always_pure _
      · exact always_step fun _ => kept_of_eq rfl rfl

theorem always_proveIdentity (client : ℕ) (payload agentUuid : Value) :
    Always Kept (proveIdentity platform client payload agentUuid) := by
  rw [proveIdentity]
  split
  · apply (always_orThrow _ _).bind
    intro selects
    apply Always.bind (always_look kept_refl _)
    intro knownSecret
    split
    · apply always_step
      intro hub
      split
      · exact kept_refl hub
      · exact kept_refuse hub client _
    · exact always_pure _
  · exact always_pure _

theorem aside_findExist (uuid : Value) :
    Always Aside (AgentService.findExist platform uuid) := by
  rw [AgentService.findExist]
  split
  · apply (always_orThrow _ _).bind
    exact fun _ => aside_findAgent _
  · exact always_pure _

theorem always_registerAgent (ip : Text) (agentUuid agentVersion protocolVersion : Option Value) :
    Always Kept
      (AgentService.registerAgent platform ip agentUuid agentVersion protocolVersion) := by
  apply (always_kept (aside_findExist platform _)).bind
  intro exist
  apply (always_orThrow _ _).bind
  intro version
  apply (always_orThrow _ _).bind
  intro protocol
  split
  · apply always_atomically
    intro hub
    split
    · exact kept_refl hub
    · exact kept_of_eq rfl rfl
  · exact always_throw _
  · apply always_atomically
    intro hub
    dsimp only
    split
    · exact kept_refl hub
    · exact kept_of_eq rfl rfl

theorem always_bindAndAttach (client : ℕ) (agent : RegisteredAgent) :
    Always Tends (bindAndAttach client agent) := by
  rw [bindAndAttach]
  split
  · exact always_step fun hub => .inr ⟨client, agent, _, attaches_bound hub client agent _⟩
  · apply Always.bind (always_step fun hub => .inl (kept_bindIdentity hub client agent))
    intro _
    apply Always.bind (always_look (fun hub => .inl (kept_refl hub)) _)
    intro secret
    exact always_step fun hub => .inr ⟨client, agent, secret, attaches_attachSecret hub _ _ _⟩

theorem always_handleValidation (client : ℕ) (payload : Value) :
    Always Tends (handleValidation platform client payload) := by
  have tends {before after : Hub} : Kept before after → Tends before after := .inl
  apply (always_orThrow _ _).bind
  intro members
  apply (always_fromExcept _).bind
  intro refusal
  apply (always_orThrow _ _).bind
  intro _
  cases refusal with
  | some refusal => exact always_step fun hub => .inl (kept_refuse hub client refusal)
  | none =>
    apply ((always_proveIdentity platform client payload _).mono fun _ _ => tends).bind
    intro proved
    split
    · apply Always.bind (always_look (fun hub => tends (kept_refl hub)) _)
      intro ip
      apply ((always_registerAgent platform _ _ _ _).mono fun _ _ => tends).bind
      intro agent
      apply (always_bindAndAttach client agent).bind
      intro _
      apply ((always_kept (aside_handleReconnect _ _)).mono fun _ _ => tends).bind
      exact fun _ => always_step fun _ => tends (kept_of_eq rfl rfl)
    · exact always_pure _

/-- Whatever a handler does, the sockets keep their guards or one gets a new one with
the answer to its registration. -/
theorem always_handler (call : Call) : Always Tends (handler platform call) := by
  have tends {before after : Hub} : Kept before after → Tends before after := .inl
  cases call with
  | register client payload =>
    apply Always.bind (always_look (fun hub => tends (kept_refl hub)) _)
    intro connected
    split
    · exact always_handleValidation platform client payload
    · exact always_pure _
  | disconnected client => exact (always_handleDisconnect client).mono fun _ _ => tends
  | offlineTimer agentUuid => exact (always_kept (aside_offlineTimer agentUuid)).mono fun _ _ => tends
  | acceptConnectRequest agentCode agentUuid =>
    apply ((always_kept (aside_handleAcceptConnectRequest _ _)).mono fun _ _ => tends).bind
    exact fun _ => always_pure _
  | rejectConnectRequest agentCode agentUuid =>
    apply ((always_kept (aside_handleRejectConnectRequest _ _)).mono fun _ _ => tends).bind
    exact fun _ => always_pure _

end Handlers

/-! ## What the events do to the sockets -/

section Events

variable (platform : Platform)

/-- A packet that is handed over under an identity was either not checked at all, or
accepted under the secret of the socket. -/
theorem receive_handledFor {event : Text} {payload : Value} {uuid : Text}
    (handled : (receive platform hub client event payload).1.handledFor = some uuid) :
    (hub.sockets client).connected = true ∧
    (hub.sockets client).data.agentUuid = some uuid ∧
    (((hub.sockets client).data.packetGuardInstalled = false ∨ event = registerEvent) ∨
      (Hash.verify platform.mac event payload (hub.sockets client).data.signingSecret
          { now := hub.now } (hub.sockets client).data.replayGuard).1 = .ok ∧
        (receive platform hub client event payload).1 = .judged (some uuid) .ok) := by
  simp only [receive] at handled ⊢
  split_ifs at handled ⊢ with closed unchecked has
  · cases handled
  · refine ⟨by simpa using closed, handled, .inl ?_⟩
    simpa using unchecked
  · cases judged : (Hash.verify platform.mac event payload (hub.sockets client).data.signingSecret
      { now := hub.now } (hub.sockets client).data.replayGuard).1 with
    | failed reason => simp [judged, Arrival.handledFor] at handled
    | ok =>
      rw [judged, Arrival.handledFor] at handled
      exact ⟨by simpa using closed, handled, .inr ⟨rfl, by rw [handled]⟩⟩
  · cases handled

/-- A packet on a socket with a guard is taken as a delivery to that guard. -/
theorem receive_armed {event : Text} {payload : Value} {secret : Option Text}
    {guard : Hash.ReplayGuard} (connected : (hub.sockets client).connected = true)
    (other : event ≠ registerEvent) (has : AgentService.hasSecret secret = true)
    (armed : guardOf hub client = (secret, some guard, true)) :
    receive platform hub client event payload =
      (.judged (hub.sockets client).data.agentUuid
          (Hash.deliver platform.mac guard ⟨event, payload, secret, hub.now⟩).1,
        hub.setData client fun data =>
          { data with
            replayGuard := some
              (Hash.deliver platform.mac guard ⟨event, payload, secret, hub.now⟩).2 }) := by
  obtain ⟨secrets, guards, installed⟩ :
      (hub.sockets client).data.signingSecret = secret ∧
      (hub.sockets client).data.replayGuard = some guard ∧
      (hub.sockets client).data.packetGuardInstalled = true := by
    simpa [guardOf] using armed
  simp only [receive, connected, installed, secrets, guards, has, beq_eq_false_iff_ne.mpr other,
    Hash.deliver, Bool.not_true, Bool.or_self, Bool.false_eq_true, if_true, if_false]
  rw [← Hash.verify_guarded]

/-- The guard of the socket has taken the delivery. -/
theorem guardOf_receive {event : Text} {payload : Value} {secret : Option Text}
    {guard : Hash.ReplayGuard} (connected : (hub.sockets client).connected = true)
    (other : event ≠ registerEvent) (has : AgentService.hasSecret secret = true)
    (armed : guardOf hub client = (secret, some guard, true)) :
    guardOf (receive platform hub client event payload).2 client =
      (secret, some (Hash.deliver platform.mac guard ⟨event, payload, secret, hub.now⟩).2, true)
    := by
  rw [receive_armed platform connected other has armed]
  simp only [guardOf, Prod.mk.injEq, Hub.setData_self] at armed ⊢
  exact ⟨armed.1, trivial, armed.2.2⟩

/-- A packet that is not checked changes nothing. -/
theorem receive_unchecked {event : Text} {payload : Value}
    (unchecked : (hub.sockets client).connected = false ∨ event = registerEvent ∨
      (hub.sockets client).data.packetGuardInstalled = false) :
    (receive platform hub client event payload).2 = hub := by
  simp only [receive]
  split_ifs with closed passed has
  · rfl
  · rfl
  · simp_all
  · rfl

theorem kept_disconnectAgent (agentUuid : Text) (hub : Hub) :
    Kept hub (disconnectAgent agentUuid hub).2 := by
  rw [disconnectAgent]
  split
  · exact kept_refl hub
  · rw [sendToAgent]
    split
    · exact kept_of_eq rfl rfl
    · rename_i socket _
      split
      · refine ⟨rfl, [.packet socket (.command .disconnect)], rfl, by simp [isRegistered]⟩
      · exact kept_of_eq rfl rfl

/-- An event other than a packet keeps the sockets. -/
theorem kept_react {event : Event} (other : ∀ client name payload,
    event ≠ .packet client name payload) : Kept hub (react platform hub event).2 := by
  cases event with
  | opened client forwardedFor address handshakeAgentUuid =>
    rw [react]
    split
    · exact kept_refl hub
    · refine ⟨?_, [], (List.append_nil _).symm, by simp⟩
      funext socket
      by_cases here : socket = client
      · subst here
        simp [guardOf]
      · simp [guardOf, Function.update_of_ne here]
  | closed client => exact kept_disconnect hub client
  | packet client name payload => exact absurd rfl (other client name payload)
  | disconnectAgent agentUuid => exact kept_disconnectAgent agentUuid hub
  | clock now => exact kept_of_eq rfl rfl

/-- A packet changes nothing but the guard of its socket, if that is there. -/
theorem receive_frame (hub : Hub) (client : ℕ) (event : Text) (payload : Value) :
    (receive platform hub client event payload).2.database = hub.database ∧
    (receive platform hub client event payload).2.sent = hub.sent ∧
    ∀ other, other ≠ client →
      guardOf (receive platform hub client event payload).2 other = guardOf hub other := by
  simp only [receive]
  split_ifs with closed unchecked has
  · exact ⟨rfl, rfl, fun _ _ => rfl⟩
  · exact ⟨rfl, rfl, fun _ _ => rfl⟩
  · refine ⟨rfl, rfl, fun other elsewhere => ?_⟩
    simp only [guardOf, Hub.setData_of_ne _ _ _ elsewhere]
  · exact ⟨rfl, rfl, fun _ _ => rfl⟩

end Events

end AgentGateway

end OpticsHub
