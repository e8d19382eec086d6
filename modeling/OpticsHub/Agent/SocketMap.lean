import OpticsHub.Agent.Authenticated
import OpticsHub.Async.History

/-!
# The map from Agents to sockets

`agentUuidToSocketId` is written by a registration after it has waited for the database,
and cleaned by the handler of the closed socket, which looks only at the identity that the
socket has then. So an entry is cleaned with its socket when it was made before the
clean-up began, and when the socket was in the map for no other Agent. Every action of a
handler either takes entries away and leaves the identities alone, or makes one entry for
the socket of its call together with the identity on it; from this the entries are
followed along a run.
-/
namespace OpticsHub

open Script Async Program Machine

namespace AgentGateway

open AgentService

/-! ## The property and its condition -/

/-- Whether a call is the clean-up of a closed socket. -/
def Call.cleansUp : Call → ℕ → Bool
  | .disconnected socket, client => socket == client
  | _, _ => false

/-- Whether the clean-up of a socket has begun. -/
def cleanUpBegun (config : State) (client : ℕ) : Bool :=
  config.threads.any fun thread => thread.call.cleansUp client

/-- No handler is running: every call has ended, and no closed socket in the map still waits
for its clean-up. -/
def Quiet (config : State) : Prop :=
  (∀ thread ∈ config.threads, thread.result ≠ none) ∧
    ∀ uuid client, Members.own config.state.agentUuidToSocketId uuid = some client →
      (config.state.sockets client).connected = false → cleanUpBegun config client = true

/-- Every Agent in the map is there with a connected socket that carries its UUID. -/
def MapsToLive (hub : Hub) : Prop :=
  ∀ uuid client, Members.own hub.agentUuidToSocketId uuid = some client →
    (hub.sockets client).connected = true ∧ (hub.sockets client).data.agentUuid = some uuid

/-- The gateway as it shows its states. -/
abbrev gatewayStates (platform : Platform) : Transition State Input (Shown (Option Arrival) Hub) :=
  observed (handler platform) (react platform)

/-- A move that makes an entry finds the clean-up of the socket not begun, and no entry for
the socket under another Agent. -/
def EntersUncleaned (platform : Platform) (config : State) (input : Input) : Prop :=
  ∀ uuid client,
    Members.own (gatewayStates platform config input).2.state.agentUuidToSocketId uuid = some client →
    Members.own config.state.agentUuidToSocketId uuid ≠ some client →
    cleanUpBegun config client = false ∧
      ∀ other, Members.own config.state.agentUuidToSocketId other = some client → other = uuid

/-- In every state of a run in which no handler is running, the map is live. -/
def MapsToLiveWhenQuiet (platform : Platform) (database : Database) (now : ℤ)
    (moves : List Input) : Prop :=
  Each (gatewayStates platform)
    (fun config input => Quiet (gatewayStates platform config input).2 →
      MapsToLive (gatewayStates platform config input).2.state)
    (started database now) moves

/-! ## What an action does to the map -/

/-- The Agent that is bound to a socket. -/
def identityOf (hub : Hub) (client : ℕ) : Option Text × Option Text :=
  ((hub.sockets client).data.agentCode, (hub.sockets client).data.agentUuid)

/-- Every Agent in the database has a code. -/
def Coded (hub : Hub) : Prop := ∀ row ∈ hub.database.agents, row.agentCode ≠ []

/-- Entries may go, and nothing else happens to the map and to the identities. -/
structure Sheds (before after : Hub) : Prop where
  entries : ∀ uuid client, Members.own after.agentUuidToSocketId uuid = some client →
    Members.own before.agentUuidToSocketId uuid = some client
  identities : ∀ client, identityOf after client = identityOf before client
  coded : Coded before → Coded after

/-- A socket is entered for an Agent and gets its identity. -/
structure Enters (client : ℕ) (before after : Hub) : Prop where
  entry : ∃ code uuid, code ≠ [] ∧ uuid ≠ [] ∧
    after.agentUuidToSocketId = Members.define before.agentUuidToSocketId uuid client ∧
    identityOf after client = (some code, some uuid)
  identities : ∀ other, other ≠ client → identityOf after other = identityOf before other
  coded : Coded before → Coded after

/-- What a call may do to the map. -/
def Handles : Call → List Hub → Hub → Hub → Prop
  | .register client _, _, before, after => Sheds before after ∨ Enters client before after
  | _, _, before, after => Sheds before after

variable {before after hub : Hub} {client : ℕ}

theorem sheds_refl (hub : Hub) : Sheds hub hub :=
  ⟨fun _ _ found => found, fun _ => rfl, fun coded => coded⟩

theorem sheds_of_background (background : Background before after) : Sheds before after := by
  obtain ⟨sockets, -, map, rows⟩ := background
  refine ⟨fun uuid client found => map ▸ found, fun client => ?_, fun coded row inside => ?_⟩
  · rw [identityOf, identityOf, sockets]
  · obtain ⟨row', inside', same⟩ := rows row inside
    exact same ▸ coded row' inside'

/-- An action that keeps the map and the agents, and changes no identity. -/
theorem sheds_of_eq (map : after.agentUuidToSocketId = before.agentUuidToSocketId)
    (agents : after.database.agents = before.database.agents)
    (identities : ∀ client, identityOf after client = identityOf before client) :
    Sheds before after :=
  ⟨fun _ _ found => map ▸ found, identities, fun coded row inside => coded row (agents ▸ inside)⟩

theorem sheds_disconnect (hub : Hub) (client : ℕ) : Sheds hub (hub.disconnect client) :=
  sheds_of_eq rfl rfl fun other => by simp [identityOf]

theorem sheds_setData {change : SocketData → SocketData}
    (same : ∀ data, (change data).agentCode = data.agentCode ∧
      (change data).agentUuid = data.agentUuid) : Sheds hub (hub.setData client change) := by
  refine sheds_of_eq rfl rfl fun other => ?_
  by_cases here : other = client
  · subst here
    obtain ⟨code, uuid⟩ := same (hub.sockets other).data
    rw [identityOf, Hub.setData_self, code, uuid, identityOf]
  · rw [identityOf, Hub.setData_of_ne _ _ _ here, identityOf]

theorem sheds_erase (hub : Hub) (uuid : Text) :
    Sheds hub { hub with agentUuidToSocketId := Members.erase hub.agentUuidToSocketId uuid } := by
  refine ⟨fun other client found => ?_, fun _ => rfl, fun coded => coded⟩
  rw [Members.own_erase] at found
  split at found
  · cases found
  · exact found

theorem enters_bindIdentity {agent : RegisteredAgent} (code : agent.code ≠ [])
    (uuid : agent.uuid ≠ []) : Enters client hub (bindIdentity client agent hub) := by
  refine ⟨⟨agent.code, agent.uuid, code, uuid, rfl, ?_⟩, fun other here => ?_, fun coded => coded⟩
  · simp [identityOf, bindIdentity]
  · simp [identityOf, bindIdentity, Hub.setData_of_ne _ _ _ here]

/-- Two actions at once, of which the second keeps entries. -/
theorem Enters.sheds {middle : Hub} (enters : Enters client before middle)
    (map : after.agentUuidToSocketId = middle.agentUuidToSocketId)
    (sheds : Sheds middle after) : Enters client before after := by
  obtain ⟨⟨code, uuid, coded, named, entered, identity⟩, others, kept⟩ := enters
  refine ⟨⟨code, uuid, coded, named, map.trans entered, ?_⟩, fun other here => ?_, ?_⟩
  · rw [sheds.identities, identity]
  · rw [sheds.identities, others other here]
  · exact fun before => sheds.coded (kept before)

theorem sheds_attachSecret (client : ℕ) (agent : RegisteredAgent) (secret : Option Text)
    (hub : Hub) : Sheds hub (attachSecret client agent secret hub) := by
  have data : Sheds hub (hub.setData client fun data =>
      { data with
        signingSecret := secret
        replayGuard := some {}
        packetGuardInstalled := true }) := sheds_setData fun _ => ⟨rfl, rfl⟩
  exact ⟨data.entries, data.identities, data.coded⟩

/-! ## What the handlers do to the map -/

section Handlers

variable (platform : Platform) {seen : List Hub} {fine : List Hub → Hub → Prop} {payload : Value}

/-- What goes on beside the sockets may be done by any call. -/
theorem handles_of_sheds {call : Call} (sheds : Sheds before after) :
    Handles call seen before after := by
  cases call with
  | register client payload => exact .inl sheds
  | _ => exact sheds

theorem heeds_background {α : Type} {call : Call} {program : HubProgram α}
    (background : Always Background program) :
    Heeds fine (Handles call) (fun _ _ => True) seen program :=
  background.heeds fun _ _ _ step => handles_of_sheds (sheds_of_background step)

theorem always_sheds_proveIdentity (client : ℕ) (payload agentUuid : Value) :
    Always Sheds (proveIdentity platform client payload agentUuid) := by
  rw [proveIdentity]
  split
  · apply (always_orThrow _ _).bind
    intro selects
    apply Always.bind (always_look sheds_refl _)
    intro knownSecret
    split
    · apply always_step
      intro hub
      split
      · exact sheds_refl hub
      · have closed := sheds_disconnect hub client
        exact ⟨closed.entries, closed.identities, closed.coded⟩
    · exact always_pure _
  · exact always_pure _

/-- The row that a packet names is looked for only by a text that is not empty. -/
theorem heeds_findExist {allowed : List Hub → Hub → Hub → Prop}
    (silent : ∀ hub, allowed seen hub hub) (uuid : Value) :
    Heeds fine allowed (fun exist _ => exist.isSome = true → uuid.truthy = true) seen
      (findExist platform uuid) := by
  rw [findExist]
  split
  · rename_i named
    apply Heeds.bind
    apply heeds_orThrow
    intro selects _
    exact heeds_look silent fun _ _ _ => named
  · apply heeds_pure
    intro found
    cases found

/-- A registered Agent has a code and a UUID, if every Agent in the database has a code and
the new ones have both. -/
theorem heeds_registerAgent {call : Call} (codes : ∀ n, platform.randomCode n ≠ [])
    (uuids : ∀ n, platform.randomUuid n ≠ []) (ip : Text)
    (agentUuid agentVersion protocolVersion : Option Value) :
    Heeds (fun _ => Coded) (Handles call) (fun agent _ => agent.code ≠ [] ∧ agent.uuid ≠ []) seen
      (registerAgent platform ip agentUuid agentVersion protocolVersion) := by
  rw [registerAgent]
  apply Heeds.bind
  apply (heeds_findExist platform (fun hub => handles_of_sheds (sheds_refl hub)) _).mono
  intro exist seen _ named
  apply Heeds.bind
  apply heeds_orThrow
  intro version _
  apply Heeds.bind
  apply heeds_orThrow
  intro protocol _
  split
  · rename_i exist uuid same
    apply heeds_atomically
    intro hub coded
    split
    · exact ⟨handles_of_sheds (sheds_refl hub), fun agent result => by cases result⟩
    · rename_i row found
      obtain ⟨inside, selected⟩ := Table.mem_of_findFirst found
      refine ⟨handles_of_sheds (sheds_of_background (background_updateMany ?_ ?_ rfl rfl rfl rfl)),
        fun agent result => ?_⟩
      · exact fun _ => rfl
      · exact fun _ => rfl
      · obtain rfl := Except.ok.inj result
        refine ⟨coded row inside, ?_⟩
        obtain rfl : row.agentUuid = uuid := beq_iff_eq.mp selected
        rintro empty
        have truthy := named rfl
        rw [same] at truthy
        rw [show row.agentUuid = [] from empty] at truthy
        cases truthy
  · exact trivial
  · apply heeds_atomically
    intro hub coded
    dsimp only
    split
    · exact ⟨handles_of_sheds (sheds_refl hub), fun agent result => by cases result⟩
    · refine ⟨handles_of_sheds ⟨fun _ _ found => found, fun _ => rfl,
        fun coded row inside => ?_⟩, fun agent result => ?_⟩
      · rcases Table.mem_create.mp inside with before | rfl
        · exact coded row before
        · exact codes _
      · obtain rfl := Except.ok.inj result
        exact ⟨codes _, uuids _⟩

theorem heeds_bindAndAttach {agent : RegisteredAgent} (code : agent.code ≠ [])
    (uuid : agent.uuid ≠ []) :
    Heeds fine (Handles (.register client payload)) (fun _ _ => True) seen
      (bindAndAttach client agent) := by
  rw [bindAndAttach]
  split
  · refine heeds_step fun hub _ => ⟨.inr ?_, trivial⟩
    exact (enters_bindIdentity code uuid).sheds rfl (sheds_attachSecret _ _ _ _)
  · apply Heeds.bind
    refine heeds_step fun hub _ => ⟨.inr (enters_bindIdentity code uuid), ?_⟩
    apply Heeds.bind
    refine heeds_look (fun hub => .inl (sheds_refl hub)) fun hub _ => ?_
    exact heeds_step fun hub _ => ⟨.inl (sheds_attachSecret _ _ _ _), trivial⟩

theorem heeds_handleValidation (codes : ∀ n, platform.randomCode n ≠ [])
    (uuids : ∀ n, platform.randomUuid n ≠ []) (client : ℕ) (payload : Value) :
    Heeds (fun _ => Coded) (Handles (.register client payload)) (fun _ _ => True) seen
      (handleValidation platform client payload) := by
  apply Heeds.bind
  apply heeds_orThrow
  intro members _
  apply Heeds.bind
  apply heeds_fromExcept
  intro refusal _
  apply Heeds.bind
  apply heeds_orThrow
  intro _ _
  cases refusal with
  | some refusal =>
    have closed (hub : Hub) := sheds_disconnect (hub.emit (.refused client refusal)) client
    exact heeds_step fun hub _ => ⟨.inl ⟨(closed hub).entries, (closed hub).identities,
      (closed hub).coded⟩, trivial⟩
  | none =>
    apply Heeds.bind
    apply ((always_sheds_proveIdentity platform client payload _).heeds fun _ _ _ => .inl).mono
    intro proved seen _ _
    split
    · apply Heeds.bind
      refine heeds_look (fun hub => .inl (sheds_refl hub)) fun hub _ => ?_
      apply Heeds.bind
      apply (heeds_registerAgent platform codes uuids _ _ _ _).mono
      rintro agent seen - ⟨code, uuid⟩
      apply Heeds.bind
      apply (heeds_bindAndAttach code uuid).mono
      intro _ seen _ _
      apply Heeds.bind
      apply (heeds_background (always_background (aside_handleReconnect _ _))).mono
      intro _ seen _ _
      exact heeds_step fun hub _ => ⟨.inl (sheds_of_eq rfl rfl fun _ => rfl), trivial⟩
    · exact heeds_pure trivial

theorem always_sheds_handleDisconnect (client : ℕ) : Always Sheds (handleDisconnect client) := by
  apply Always.bind
  · apply always_step
    intro hub
    dsimp only
    split
    · rename_i unit units _ _
      split
      · have erased := sheds_erase hub (unit :: units)
        exact ⟨erased.entries, erased.identities, erased.coded⟩
      · exact sheds_refl hub
    · exact sheds_refl hub
  · intro agentUuid
    cases agentUuid with
    | none => exact always_pure _
    | some agentUuid =>
      apply ((aside_isExpectedRestart _).mono fun _ _ step => sheds_of_background step.background).bind
      intro expected
      split
      · exact always_pure _
      · exact always_step fun _ => sheds_of_eq rfl rfl fun _ => rfl

/-- Every handler does to the map what its call may do. -/
theorem heeds_handler (codes : ∀ n, platform.randomCode n ≠ [])
    (uuids : ∀ n, platform.randomUuid n ≠ []) (call : Call) :
    Heeds (fun _ => Coded) (Handles call) (fun _ _ => True) [] (handler platform call) := by
  cases call with
  | register client payload =>
    apply Heeds.bind
    refine heeds_look (fun hub => .inl (sheds_refl hub)) fun hub _ => ?_
    split
    · exact heeds_handleValidation platform codes uuids client payload
    · exact heeds_pure trivial
  | disconnected client =>
    exact (always_sheds_handleDisconnect client).heeds fun _ _ _ => handles_of_sheds
  | offlineTimer agentUuid => exact heeds_background (always_background (aside_offlineTimer agentUuid))
  | acceptConnectRequest agentCode agentUuid =>
    apply Heeds.bind
    apply (heeds_background (always_background (aside_handleAcceptConnectRequest _ _))).mono
    exact fun _ _ _ _ => heeds_pure trivial
  | rejectConnectRequest agentCode agentUuid =>
    apply Heeds.bind
    apply (heeds_background (always_background (aside_handleRejectConnectRequest _ _))).mono
    exact fun _ _ _ _ => heeds_pure trivial

theorem sheds_react (hub : Hub) (event : Event) : Sheds hub (react platform hub event).2 := by
  cases event with
  | opened client forwardedFor address handshakeAgentUuid =>
    rw [react]
    split
    · exact sheds_refl hub
    · refine sheds_of_eq rfl rfl fun other => ?_
      by_cases here : other = client
      · subst here
        simp [identityOf]
      · simp [identityOf, Function.update_of_ne here]
  | closed client => exact sheds_disconnect hub client
  | packet client name payload =>
    rw [react]
    simp only [receive]
    split_ifs
    · exact sheds_refl hub
    · exact sheds_refl hub
    · dsimp only
      exact sheds_setData fun _ => ⟨rfl, rfl⟩
    · exact sheds_refl hub
  | disconnectAgent agentUuid =>
    rw [react, disconnectAgent]
    split
    · exact sheds_refl hub
    · rw [sendToAgent]
      split
      · have erased := sheds_erase hub agentUuid
        exact ⟨erased.entries, erased.identities, erased.coded⟩
      · split <;>
        · have erased := sheds_erase hub agentUuid
          exact ⟨erased.entries, erased.identities, erased.coded⟩
  | clock now => exact sheds_of_eq rfl rfl fun _ => rfl

end Handlers

/-! ## What holds along a run -/

/-- Every entry is for a socket that carries the identity, and no socket is left in the map
by its clean-up. -/
structure Traced (config : State) : Prop where
  coded : Coded config.state
  entries : ∀ uuid client, Members.own config.state.agentUuidToSocketId uuid = some client →
    uuid ≠ [] ∧ ∃ code, code ≠ [] ∧ identityOf config.state client = (some code, some uuid)
  cleaned : ∀ thread ∈ config.threads, ∀ client, thread.call = .disconnected client →
    thread.program = handleDisconnect client ∨
      ∀ uuid, Members.own config.state.agentUuidToSocketId uuid ≠ some client

section Runs

variable {platform : Platform} {config : State}

theorem traced_started {database : Database} (coded : ∀ row ∈ database.agents, row.agentCode ≠ [])
    (now : ℤ) : Traced (started database now) := by
  refine ⟨coded, fun uuid client found => ?_, fun thread inside => ?_⟩
  · cases found
  · cases inside

theorem cleanUpBegun_of_mem {thread : Thread Call Hub Failure Unit}
    (inside : thread ∈ config.threads) (called : thread.call = .disconnected client) :
    cleanUpBegun config client = true := by
  refine List.any_eq_true.mpr ⟨thread, inside, ?_⟩
  rw [called]
  exact beq_self_eq_true client

/-- The first action of a clean-up takes the socket from the map. -/
theorem Traced.forgets (traced : Traced config) (client : ℕ) (uuid : Text) :
    Members.own ((handleDisconnect client).effect config.state).agentUuidToSocketId uuid ≠
      some client := by
  intro found
  have entry := ((always_sheds_handleDisconnect client) config.state config.state trivial).1.entries
    uuid client found
  obtain ⟨named, code, coded, identity⟩ := traced.entries uuid client entry
  obtain ⟨unit, units, rfl⟩ := List.exists_cons_of_ne_nil named
  obtain ⟨unit', units', rfl⟩ := List.exists_cons_of_ne_nil coded
  obtain ⟨codes, uuids⟩ := Prod.mk.inj identity
  have erased : ((handleDisconnect client).effect config.state).agentUuidToSocketId =
      Members.erase config.state.agentUuidToSocketId (unit :: units) := by
    simp only [handleDisconnect, Program.step, Program.atomically, Program.act_bind,
      Program.effect, codes, uuids, Option.some_or, entry, if_true]
  rw [erased, Members.own_erase, if_pos rfl] at found
  cases found

/-- An action that takes entries away keeps the rest traced. -/
theorem Traced.sheds {after : State} (traced : Traced config)
    (sheds : Sheds config.state after.state)
    (cleaned : ∀ thread ∈ after.threads, ∀ client, thread.call = .disconnected client →
      thread.program = handleDisconnect client ∨
        (∀ uuid, Members.own config.state.agentUuidToSocketId uuid ≠ some client) ∨
        ∀ uuid, Members.own after.state.agentUuidToSocketId uuid ≠ some client) :
    Traced after := by
  refine ⟨sheds.coded traced.coded, fun uuid client found => ?_,
    fun thread inside client called => ?_⟩
  · rw [sheds.identities]
    exact traced.entries uuid client (sheds.entries uuid client found)
  · rcases cleaned thread inside client called with fresh | gone | gone
    · exact .inl fresh
    · exact .inr fun uuid found => gone uuid (sheds.entries uuid client found)
    · exact .inr gone

/-- A socket that is entered before its clean-up, and for no other Agent, is traced. -/
theorem Traced.enters {after : State} (traced : Traced config)
    (enters : Enters client config.state after.state)
    (uncleaned : ∀ uuid client,
      Members.own after.state.agentUuidToSocketId uuid = some client →
      Members.own config.state.agentUuidToSocketId uuid ≠ some client →
      cleanUpBegun config client = false ∧
        ∀ other, Members.own config.state.agentUuidToSocketId other = some client → other = uuid)
    (cleaned : ∀ thread ∈ after.threads, ∀ client, thread.call = .disconnected client →
      thread ∈ config.threads) : Traced after := by
  obtain ⟨⟨code, uuid, coded, named, map, identity⟩, others, kept⟩ := enters
  have entered : Members.own after.state.agentUuidToSocketId uuid = some client := by
    rw [map, Members.own_define]
  have elsewhere (other : Text) (differs : other ≠ uuid) :
      Members.own after.state.agentUuidToSocketId other =
        Members.own config.state.agentUuidToSocketId other := by
    rw [map, Members.own_define_ne _ differs]
  -- the socket is in the map for no other Agent, whether its entry is new or not
  have only (other : Text)
      (found : Members.own config.state.agentUuidToSocketId other = some client) :
      other = uuid := by
    by_cases before : Members.own config.state.agentUuidToSocketId uuid = some client
    · obtain ⟨-, _, -, here⟩ := traced.entries uuid client before
      obtain ⟨-, _, -, there⟩ := traced.entries other client found
      exact Option.some.inj (congrArg Prod.snd (there.symm.trans here))
    · exact (uncleaned uuid client entered before).2 other found
  refine ⟨kept traced.coded, fun other socket found => ?_, fun thread inside socket called => ?_⟩
  · by_cases same : other = uuid
    · subst same
      obtain rfl := Option.some.inj (entered.symm.trans found)
      exact ⟨named, code, coded, identity⟩
    · rw [elsewhere other same] at found
      have differs : socket ≠ client := by
        rintro rfl
        exact same (only other found)
      rw [others socket differs]
      exact traced.entries other socket found
  · have before := cleaned thread inside socket called
    refine (traced.cleaned thread before socket called).imp_right fun gone other found => ?_
    by_cases same : other = uuid
    · subst same
      obtain rfl := Option.some.inj (entered.symm.trans found)
      have begun := cleanUpBegun_of_mem before called
      rw [(uncleaned other _ entered (gone other)).1] at begun
      cases begun
    · exact gone other (elsewhere other same ▸ found)

/-- A move that meets the condition keeps the map traced. -/
theorem Traced.move {past : List (Input × Shown (Option Arrival) Hub)} (traced : Traced config)
    {input : Input} (uncleaned : EntersUncleaned platform config input)
    (permitted : Permitted (handler platform) (react platform) Handles past config input) :
    Traced (gatewayStates platform config input).2 := by
  cases input with
  | event event =>
    refine traced.sheds ?_ ?_
    · exact sheds_react platform config.state event
    · exact fun thread inside client called =>
        (traced.cleaned thread inside client called).imp_right .inl
  | start call =>
    refine traced.sheds ?_ ?_
    · exact sheds_refl config.state
    · intro thread inside client called
      rcases List.mem_append.mp inside with before | new
      · exact (traced.cleaned thread before client called).imp_right .inl
      · obtain rfl := List.mem_singleton.mp new
        obtain rfl : call = .disconnected client := called
        exact .inl rfl
  | resume index =>
    by_cases running : ∃ thread, config.threads[index]? = some thread ∧ thread.result = none
    · obtain ⟨thread, found, running⟩ := running
      have member := List.mem_of_getElem? found
      obtain ⟨taken, threads⟩ := @move_resume _ _ _ _ _ _ _ (handler platform) (react platform)
        (fun before _ => before) config index thread found running
      have handles := permitted thread found running
      -- the calls are those from before, one of them one action further
      have calls : ∀ thread' ∈ (gatewayStates platform config (.resume index)).2.threads,
          thread' ∈ config.threads ∨ thread'.call = thread.call := by
        intro thread' inside
        rw [threads] at inside
        rcases List.mem_or_eq_of_mem_set inside with before | rfl
        · exact .inl before
        · exact .inr rfl
      by_cases registers : ∃ client payload, thread.call = .register client payload ∧
          Enters client config.state (gatewayStates platform config (.resume index)).2.state
      · obtain ⟨client, payload, called, enters⟩ := registers
        apply traced.enters enters uncleaned
        intro thread' inside other cleans
        rcases calls thread' inside with before | same
        · exact before
        · cases called.symm.trans (same.symm.trans cleans)
      · have sheds : Sheds config.state
            (gatewayStates platform config (.resume index)).2.state := by
          cases called : thread.call with
          | register client payload =>
            rw [called] at handles
            exact handles.resolve_right fun enters => registers ⟨client, payload, called, enters⟩
          | _ => rw [called] at handles; exact handles
        apply traced.sheds sheds
        intro thread' inside client cleans
        rw [threads] at inside
        rcases List.mem_or_eq_of_mem_set inside with before | rfl
        · exact (traced.cleaned thread' before client cleans).imp_right .inl
        · rcases traced.cleaned thread member client cleans with fresh | gone
          · refine .inr (.inr fun uuid => ?_)
            rw [taken, fresh]
            exact traced.forgets client uuid
          · exact .inr (.inl gone)
    · have idle (thread : Thread Call Hub Failure Unit)
          (found : config.threads[index]? = some thread) : thread.result ≠ none :=
        fun none => running ⟨thread, found, none⟩
      obtain ⟨same, threads⟩ := @move_idle _ _ _ _ _ _ _ (handler platform) (react platform)
        (fun before _ => before) config index idle
      refine traced.sheds ?_ ?_
      · exact same ▸ sheds_refl config.state
      · intro thread inside client called
        rw [threads] at inside
        exact (traced.cleaned thread inside client called).imp_right .inl

/-- When no handler is running, a traced map is live. -/
theorem Traced.live (traced : Traced config) (quiet : Quiet config) : MapsToLive config.state := by
  obtain ⟨ended, cleaned⟩ := quiet
  intro uuid client found
  obtain ⟨-, code, -, identity⟩ := traced.entries uuid client found
  refine ⟨?_, congrArg Prod.snd identity⟩
  by_contra closed
  obtain ⟨thread, inside, cleans⟩ := List.any_eq_true.mp
    (cleaned uuid client found (Bool.not_eq_true _ ▸ closed))
  cases called : thread.call with
  | disconnected socket =>
    rw [called] at cleans
    obtain rfl : socket = client := beq_iff_eq.mp cleans
    rcases traced.cleaned thread inside socket called with fresh | gone
    · refine ended thread inside ?_
      rw [Thread.result, fresh]
      rfl
    · exact gone uuid found
  | _ =>
    rw [called] at cleans
    cases cleans

/-- In every run in which no entry is made for a socket after its clean-up has begun, or
beside one for another Agent, the map is live whenever no handler is running. -/
theorem map_live_when_quiet (platform : Platform) (codes : ∀ n, platform.randomCode n ≠ [])
    (uuids : ∀ n, platform.randomUuid n ≠ []) (database : Database)
    (coded : ∀ row ∈ database.agents, row.agentCode ≠ []) (now : ℤ) (moves : List Input)
    (uncleaned : Each (gatewayStates platform) (EntersUncleaned platform)
      (started database now) moves) :
    MapsToLiveWhenQuiet platform database now moves := by
  apply Along.safe (fun past config =>
    Heeding (fun _ _ => Coded) Handles past config ∧ Traced config) ?_ ?_ uncleaned
    ⟨⟨rfl, fun index thread found => by simp [started] at found⟩, traced_started coded now⟩
  · rintro past config input ⟨heeding, traced⟩ uncleaned
    have met : Met (fun _ _ => Coded) past config input := by
      cases input with
      | resume index => exact fun _ _ _ => traced.coded
      | _ => trivial
    exact ⟨heeding.move (heeds_handler platform codes uuids) input met,
      traced.move uncleaned (heeding.permitted input met)⟩
  · rintro past config input ⟨heeding, traced⟩ uncleaned quiet
    have met : Met (fun _ _ => Coded) past config input := by
      cases input with
      | resume index => exact fun _ _ _ => traced.coded
      | _ => trivial
    exact (traced.move uncleaned (heeding.permitted input met)).live quiet

end Runs

/-! ## A socket that closes while it registers -/

instance (map : Members ℕ) (uuid : Text) (client : ℕ) :
    Decidable (∀ other, Members.own map other = some client → other = uuid) :=
  decidable_of_iff (∀ other socket, Members.own map other = some socket →
      socket = client → other = uuid)
    ⟨fun every other found => every other client found rfl,
      fun every other _ found same => every other (same ▸ found)⟩

instance (config : State) (input : Input) :
    Decidable (EntersUncleaned fixedPlatform config input) :=
  @Members.decidableForallOwn _ (fun uuid client =>
    Members.own config.state.agentUuidToSocketId uuid ≠ some client →
      cleanUpBegun config client = false ∧
        ∀ other, Members.own config.state.agentUuidToSocketId other = some client → other = uuid)
    _ (fun _ _ => inferInstance) _

/-- The Agent registers and stays. -/
def registeredRun : List Input := registering 0 11

/-- The socket closes while the registration waits for the database, and is cleaned up. -/
def closedRun : List Input :=
  (registering 0 4 ++ [.event (.closed 0), .start (.disconnected 0), .resume 1] ++
    List.replicate 6 (.resume 0)) ++ [.resume 0]

theorem map_live_when_quiet_registered :
    MapsToLiveWhenQuiet fixedPlatform { agents := knownAgents } fixedTime registeredRun := by
  apply map_live_when_quiet
  · exact fun n => List.cons_ne_nil _ _
  · exact fun n => List.cons_ne_nil _ _
  · change ∀ row ∈ knownAgents.rows, row.agentCode ≠ []
    decide
  · decide +kernel

/-- The Agent is left in the map with the closed socket. -/
theorem not_map_live_when_quiet_closed :
    ¬ MapsToLiveWhenQuiet fixedPlatform { agents := knownAgents } fixedTime closedRun := by
  intro live
  have last := ((along_append _ _).mp live).2.1
  obtain ⟨connected, -⟩ := last ⟨by decide +kernel, by decide +kernel⟩ "agent" 0 (by decide +kernel)
  revert connected
  decide +kernel

end AgentGateway

end OpticsHub
