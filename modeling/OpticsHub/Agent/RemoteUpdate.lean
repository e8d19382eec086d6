import OpticsHub.Agent.AgentUpdate
import OpticsHub.Agent.ConsoleAccess
import OpticsHub.Global.Semver
import OpticsHub.Releases.ReleaseCatalog

/-!
# Updates on request

A user asks for an update of an Agent by its UUID and a version, and later closes the
result. Both requests pass the guard, but neither hands the user on: the service knows the
Agent only. A request for an update looks at the version, the Agent and the catalogue
before it sends the packet and writes the phase; closing a result writes at once.
-/
namespace OpticsHub

open Script Async Program Machine

namespace AgentUpdateService

open AgentService AgentGateway ReleaseCatalogService

/-! ## The two requests -/

/-- Whether a text can be the tag of an image. -/
def isTag (text : Text) : Bool :=
  let isWordUnit (unit : CodeUnit) : Bool :=
    unit.isDigit || unit.isUpper || (0x61 ≤ unit && unit ≤ 0x7A)
  match text with
  | [] => false
  | unit :: units =>
    isWordUnit unit && decide (units.length ≤ 127) &&
      units.all fun unit => isWordUnit unit || unit == 0x2E || unit == 0x5F || unit == 0x2D

/-- Write a phase and other columns of the update, and tell the consoles. -/
def recordPhase (agentUuid : Text) (phase : AgentUpdatePhase) (fields : AgentRow → AgentRow)
    (keyed : ∀ row, (fields row).agentIndex = row.agentIndex := by intro; rfl) :
    HubProgram Unit := do
  updateAgents (fun row => row.agentUuid == agentUuid)
    (fun row => { fields row with agentUpdatePhase := phase }) keyed
  let agent ← findAgent fun row => row.agentUuid == agentUuid
  step fun hub => ((),
    match agent with
    | none => hub
    | some agent =>
      match agent.agentParentWorkspace with
      | none => hub
      | some workspaceIndex =>
        { hub with
          console := hub.console ++
            [.agentUpdate workspaceIndex agentUuid agent.agentCode agent.agentVersion phase
              agent.agentUpdateTarget agent.agentUpdateMessage agent.agentUpdateStartedAt] })

/-- A transition with a message only is one of these. -/
theorem transition_eq (agentUuid : Text) (phase : AgentUpdatePhase) (message : Text) :
    transition agentUuid phase message =
      recordPhase agentUuid phase fun row => { row with agentUpdateMessage := some message } :=
  rfl

def agentNotFound : Failure := .notFound "에이전트를 찾을 수 없습니다."
def invalidVersion : Failure := .badRequest "올바르지 않은 버전 형식입니다."
def agentIsOffline : Failure := .conflict "에이전트가 오프라인 상태입니다."
def updateUnderWay : Failure := .conflict "이미 업데이트가 진행 중입니다."
def agentIsNotConnected : Failure := .conflict "Agent와 연결되어 있지 않습니다."

def remoteUpdateUnsupported (agentVersion : Option Text) : Failure :=
  .conflict ("이 OPTiCS Agent " ++ shown (versionText agentVersion) ++
    "은 원격 업데이트를 지원하지 않습니다. Agent 호스트에서 설치 스크립트를 다시 실행해 " ++
    shown Semver.minRemoteUpdateVersion ++ " 이상 버전으로 업그레이드 하세요.")

def requestedMessage (agentVersion : Option Text) (version : Text) : Text :=
  match agentVersion with
  | some (unit :: units) =>
    Text.ofString "OPTiCS Agent " ++ (unit :: units) ++ Text.ofString "에서 " ++ version ++
      Text.ofString "(으)로 업데이트를 요청했습니다."
  | _ =>
    Text.ofString "OPTiCS Agent " ++ version ++ Text.ofString "(으)로 업데이트를 요청했습니다."

/-- Start the timer of an update anew. -/
def armTimeout (agentUuid : Text) : HubProgram Unit :=
  step fun hub => ((), { hub with
    updateTimers := hub.updateTimers.filter (· != agentUuid) ++ [agentUuid] })

/-! ## The timeout -/

/-- What happens to an update that has not ended in time. -/
def expire (agentUuid : Text) : HubProgram Unit := do
  let agent ← findAgent fun row => row.agentUuid == agentUuid
  match agent with
  | none => pure ()
  | some agent =>
    if inFlight agent.agentUpdatePhase then do
      transition agentUuid .failed
        (versionText agent.agentUpdateTarget ++ Text.ofString
          (" 업데이트가 제한 시간 안에 끝나지 않았습니다. 에이전트 호스트에서 " ++
            "'docker logs optics-agent-updater'로 원인을 확인하세요."))
      let connected ← look (isAgentConnected agentUuid)
      if connected then pure ()
      else updateAgents (fun row => row.agentUuid == agentUuid) fun row =>
        { row with agentStatus := .offline }
    else pure ()

/-- What the timer of an update does when it fires. -/
def updateTimer (agentUuid : Text) : HubProgram Unit := do
  let armed ← step fun hub => (hub.updateTimers.contains agentUuid,
    { hub with updateTimers := hub.updateTimers.filter (· != agentUuid) })
  if armed then expire agentUuid else pure ()

section Requests

variable (release : Hub → Text → Option AgentRelease)

/-- The Agent of a request, if it can be updated now. -/
def updatableAgent (agentUuid : Text) : HubProgram AgentRow := do
  let agent ← findAgent fun row => row.agentUuid == agentUuid && row.agentDeletedAt.isNone
  let agent ← orThrow agent agentNotFound
  require (agent.agentStatus = .online) agentIsOffline
  require (Semver.supportsRemoteUpdate agent.agentVersion = true)
    (remoteUpdateUnsupported agent.agentVersion)
  require (inFlight agent.agentUpdatePhase = false) updateUnderWay
  return agent

/-- What follows the checks of a request. -/
def orderUpdate (agentUuid version : Text) (agent : AgentRow) : HubProgram Unit := do
  let (sent, startedAt) ← step fun hub =>
    let delivered := sendToAgent agentUuid (.updateAgent version) hub
    ((delivered.1, hub.now), delivered.2)
  require (sent = true) agentIsNotConnected
  recordPhase agentUuid .requested fun row =>
    { row with
      agentUpdateTarget := some version
      agentUpdateMessage := some (requestedMessage agent.agentVersion version)
      agentUpdateStartedAt := some startedAt }
  armTimeout agentUuid

/-- A version that is not a text passes the test of its text, but not the catalogue. -/
def requestUpdate (agentUuid : Text) (targetVersion : Value) : HubProgram Unit := do
  let text ← orThrow targetVersion.toText .internal
  require (isTag text = true) invalidVersion
  let agent ← updatableAgent agentUuid
  match targetVersion with
  | .string version => do
    let _ ← assertInstallable release version
    orderUpdate agentUuid version agent
  | _ => throw .internal

def acknowledge (agentUuid : Text) : HubProgram Unit :=
  recordPhase agentUuid .idle fun row =>
    { row with
      agentUpdateTarget := none
      agentUpdateMessage := none
      agentUpdateStartedAt := none }

/-! ## What a request does -/

inductive UpdateCall where
  | update (agentUuid : Text) (version : Value)
  | acknowledge (agentUuid : Text)

/-- The Agent that a request names. -/
def UpdateCall.agentUuid : UpdateCall → Text
  | .update agentUuid _ => agentUuid
  | .acknowledge agentUuid => agentUuid

/-- The handlers of the controller, behind the guard. -/
def handleUpdateCall : UpdateCall → HubProgram Unit
  | .update agentUuid version => requestUpdate release agentUuid version
  | .acknowledge agentUuid => AgentUpdateService.acknowledge agentUuid

/-- The columns of an update. -/
def updateState (row : AgentRow) :
    AgentUpdatePhase × Option Text × Option Text × Option ℤ :=
  (row.agentUpdatePhase, row.agentUpdateTarget, row.agentUpdateMessage, row.agentUpdateStartedAt)

/-- The states of the update of an Agent. -/
def updateStates (database : Database) (agentUuid : Text) :
    List (AgentUpdatePhase × Option Text × Option Text × Option ℤ) :=
  (database.agents.rows.filter fun row => row.agentUuid == agentUuid).map updateState

/-- Whether a packet orders an update. -/
def ordersUpdate : Outgoing → Bool
  | .packet _ (.updateAgent _) => true
  | _ => false

/-- A request for an update sends the order, or the end of a result changes the update. -/
def Acts (hub : Hub) (call : UpdateCall) : Prop :=
  let after := ((handleUpdateCall release call).run hub).2
  match call with
  | .update _ _ => (after.sent.drop hub.sent.length).any ordersUpdate = true
  | .acknowledge agentUuid =>
    updateStates after.database agentUuid ≠ updateStates hub.database agentUuid

/-- The state of an update whose result is closed. -/
def closed : AgentUpdatePhase × Option Text × Option Text × Option ℤ := (.idle, none, none, none)

/-- Nothing refuses the request: the Agent can be updated, the version can be installed and
the Agent is connected; or there is a result to close. -/
def Effective (hub : Hub) : UpdateCall → Prop
  | .update agentUuid version => ∃ text, version = .string text ∧ isTag text = true ∧
      (∃ agent, (hub.database.agents.findFirst fun row =>
          row.agentUuid == agentUuid && row.agentDeletedAt.isNone) = some agent ∧
        agent.agentStatus = .online ∧ Semver.supportsRemoteUpdate agent.agentVersion = true ∧
        inFlight agent.agentUpdatePhase = false) ∧
      (∃ found, release hub text = some found ∧ blockedReason found = none) ∧
      ∃ socket, getAgentSocket hub agentUuid = some socket ∧
        hasSecret (hub.sockets socket).data.signingSecret = true
  | .acknowledge agentUuid =>
      ∃ row ∈ hub.database.agents, row.agentUuid = agentUuid ∧ updateState row ≠ closed

end Requests

/-! ## When a request has an effect -/

section Effects

variable {release : Hub → Text → Option AgentRelease} {hub : Hub} {agentUuid : Text}

/-- A phase is written to the rows of the Agent, nothing is sent to Agents, and the map of
their sockets stays. -/
theorem wp_recordPhase {phase : AgentUpdatePhase} {fields : AgentRow → AgentRow}
    {keyed : ∀ row, (fields row).agentIndex = row.agentIndex} {post : Unit → Hub → Prop}
    {fail : Failure → Hub → Prop}
    (held : ∀ after : Hub, after.sent = hub.sent →
      after.agentUuidToSocketId = hub.agentUuidToSocketId →
      after.database.agents = hub.database.agents.updateMany (fun row => row.agentUuid == agentUuid)
        (fun row => { fields row with agentUpdatePhase := phase }) keyed → post () after) :
    wp (recordPhase agentUuid phase fields keyed) post fail hub := by
  simp only [recordPhase, updateAgents, findAgent, wp_bind, wp_step, wp_look]
  split
  · exact held _ rfl rfl rfl
  · split
    · exact held _ rfl rfl rfl
    · exact held _ rfl rfl rfl

/-- The packet of an order, when the Agent has a socket with a secret. -/
theorem orderUpdate_sends (version : Text) (agent : AgentRow) :
    ((((orderUpdate agentUuid version agent).run hub).2.sent.drop hub.sent.length).any
        ordersUpdate = true ↔
      ∃ socket, getAgentSocket hub agentUuid = some socket ∧
        hasSecret (hub.sockets socket).data.signingSecret = true) := by
  refine @run_of_wp Hub Failure _ hub
    (fun after => (after.sent.drop hub.sent.length).any ordersUpdate = true ↔ _)
    (orderUpdate agentUuid version agent) ?_
  simp only [orderUpdate, sendToAgent, wp_bind, wp_step, wp_require]
  split
  · rename_i missing
    refine ⟨fun sent => absurd sent (by simp), fun _ => iff_of_false (by simp) ?_⟩
    rintro ⟨socket, found, -⟩
    simp [missing] at found
  · rename_i socket found
    split
    · rename_i secret
      refine ⟨fun _ => wp_recordPhase fun after sent _ _ => ?_, fun unsent => absurd rfl unsent⟩
      refine iff_of_true ?_ ⟨socket, found, secret⟩
      change ((after.sent).drop hub.sent.length).any ordersUpdate = true
      rw [sent, Hub.emit_sent, List.drop_left]
      rfl
    · rename_i bare
      refine ⟨fun sent => absurd sent (by simp), fun _ => iff_of_false (by simp) ?_⟩
      rintro ⟨socket', found', secret⟩
      obtain rfl := Option.some.inj (found.symm.trans found')
      exact bare secret

/-- What comes before the order changes nothing. -/
theorem always_updatableAgent {steps : Hub → Hub → Prop} (reflexive : ∀ hub, steps hub hub)
    (agentUuid : Text) : Always steps (updatableAgent agentUuid) := by
  refine Always.bind (always_look reflexive _) fun agent => ?_
  refine (always_orThrow _ _).bind fun agent => ?_
  refine (always_require _ _).bind fun _ => ?_
  refine (always_require _ _).bind fun _ => ?_
  exact (always_require _ _).bind fun _ => always_pure _

theorem always_assertInstallable {steps : Hub → Hub → Prop} (reflexive : ∀ hub, steps hub hub)
    (release : Hub → Text → Option AgentRelease) (version : Text) :
    Always steps (assertInstallable release version) := by
  refine Always.bind (always_look reflexive _) fun _ => ?_
  refine (always_orThrow _ _).bind fun found => ?_
  split
  · exact always_throw _
  · exact always_pure _

/-- A request for an update sends the order exactly if nothing refuses it. -/
theorem update_acts_iff (version : Value) :
    Acts release hub (.update agentUuid version) ↔
      Effective release hub (.update agentUuid version) := by
  refine @run_of_wp Hub Failure _ hub
    (fun after => (after.sent.drop hub.sent.length).any ordersUpdate = true ↔ _)
    (requestUpdate release agentUuid version) ?_
  simp only [requestUpdate, updatableAgent, findAgent, wp_bind, wp_orThrow, wp_require, wp_look,
    wp_pure]
  -- each check that refuses the request refuses it in the condition too
  refine ⟨fun text read => ⟨fun tagged => ⟨fun agent found => ⟨fun online => ⟨fun supported =>
    ⟨fun settled => ?_, fun underWay => ?_⟩, fun unsupported => ?_⟩, fun offline => ?_⟩,
    fun missing => ?_⟩, fun untagged => ?_⟩, fun unread => ?_⟩
  · cases version with
    | string version =>
      obtain rfl : version = text := Option.some.inj read
      simp only [wp_bind, assertInstallable, wp_look, wp_orThrow]
      refine ⟨fun known listed => ?_, fun unlisted => ?_⟩
      · cases blocked : blockedReason known with
        | none =>
          have sends := @orderUpdate_sends hub agentUuid version agent
          refine (wp_state (orderUpdate agentUuid version agent)).mpr (sends.trans ?_)
          constructor
          · exact fun connected => ⟨version, rfl, tagged, ⟨agent, found, online, supported, settled⟩,
              ⟨known, listed, blocked⟩, connected⟩
          · rintro ⟨_, -, -, -, -, connected⟩
            exact connected
        | some reason =>
          refine iff_of_false (by simp) ?_
          rintro ⟨text, same, -, -, ⟨known', listed', free⟩, -⟩
          obtain rfl := Value.string.inj same
          obtain rfl := Option.some.inj (listed.symm.trans listed')
          rw [blocked] at free
          cases free
      · refine iff_of_false (by simp) ?_
        rintro ⟨text, same, -, -, ⟨known, listed, -⟩, -⟩
        obtain rfl := Value.string.inj same
        rw [unlisted] at listed
        cases listed
    | _ =>
      refine iff_of_false (by simp) ?_
      rintro ⟨_, same, -⟩
      cases same
  · refine iff_of_false (by simp) ?_
    rintro ⟨-, -, -, ⟨agent', found', -, -, settled⟩, -⟩
    obtain rfl := Option.some.inj (found.symm.trans found')
    exact underWay settled
  · refine iff_of_false (by simp) ?_
    rintro ⟨-, -, -, ⟨agent', found', -, supported, -⟩, -⟩
    obtain rfl := Option.some.inj (found.symm.trans found')
    exact unsupported supported
  · refine iff_of_false (by simp) ?_
    rintro ⟨-, -, -, ⟨agent', found', online, -⟩, -⟩
    obtain rfl := Option.some.inj (found.symm.trans found')
    exact offline online
  · refine iff_of_false (by simp) ?_
    rintro ⟨-, -, -, ⟨agent', found', -⟩, -⟩
    rw [missing] at found'
    cases found'
  · refine iff_of_false (by simp) ?_
    rintro ⟨text', rfl, tagged, -⟩
    obtain rfl : text' = text := Option.some.inj read
    exact untagged tagged
  · refine iff_of_false (by simp) ?_
    rintro ⟨text', rfl, -⟩
    cases unread

/-- Closing a result changes the update exactly if there is something to close. -/
theorem acknowledge_acts_iff :
    Acts release hub (.acknowledge agentUuid) ↔ Effective release hub (.acknowledge agentUuid) := by
  refine @run_of_wp Hub Failure _ hub
    (fun after => updateStates after.database agentUuid ≠ updateStates hub.database agentUuid ↔ _)
    (acknowledge agentUuid) ?_
  refine wp_recordPhase fun after _ _ agents => ?_
  have states : updateStates after.database agentUuid =
      (hub.database.agents.rows.filter fun row => row.agentUuid == agentUuid).map
        fun _ => closed := by
    rw [updateStates, agents]
    change ((hub.database.agents.rows.map _).filter _).map _ = _
    rw [List.filter_map, List.map_map]
    have same : ((fun row : AgentRow => row.agentUuid == agentUuid) ∘ fun row : AgentRow =>
        if row.agentUuid == agentUuid then
          { row with
            agentUpdatePhase := .idle
            agentUpdateTarget := none
            agentUpdateMessage := none
            agentUpdateStartedAt := none }
        else row) = fun row => row.agentUuid == agentUuid := by
      funext row
      rw [Function.comp_apply]
      split <;> rfl
    rw [same]
    refine List.map_congr_left fun row inside => ?_
    rw [Function.comp_apply, if_pos (List.mem_filter.mp inside).2]
    rfl
  rw [states, updateStates, ne_eq, List.map_inj_left]
  constructor
  · intro changed
    by_contra settled
    refine changed fun row inside => ?_
    by_contra differs
    obtain ⟨member, named⟩ := List.mem_filter.mp inside
    exact settled ⟨row, member, beq_iff_eq.mp named, fun same => differs same.symm⟩
  · rintro ⟨row, inside, named, open'⟩ same
    exact open' (same row (List.mem_filter.mpr ⟨inside, beq_iff_eq.mpr named⟩)).symm

theorem acts_iff (call : UpdateCall) : Acts release hub call ↔ Effective release hub call := by
  cases call with
  | update agentUuid version => exact update_acts_iff version
  | acknowledge agentUuid => exact acknowledge_acts_iff

/-- A request acts for the owner of the workspace of the Agent only, exactly if the user is
that owner or something else keeps the request from having an effect. -/
theorem acts_for_owner_iff (release : Hub → Text → Option AgentRelease) (hub : Hub) (user : Int32)
    (call : UpdateCall) :
    (Acts release hub call → ConsoleGateway.Authorised hub user call.agentUuid) ↔
      ConsoleGateway.Authorised hub user call.agentUuid ∨ ¬ Effective release hub call := by
  rw [acts_iff]
  exact imp_iff_or_not

end Effects

/-- A catalogue in which every version can be installed. -/
def everyRelease (_ : Hub) (version : Text) : Option AgentRelease :=
  some { releaseVersion := version, releaseProtocol := 1 }

/-- An Agent that can be updated is linked to the workspace of the first of two owners. -/
def updatableHub : Hub :=
  final (WorkspaceService.serve fixedPlatform) ConsoleGateway.twoOwners
    (.registerAgent "127.0.0.1" none (some (.string "0.6.0"))
      (some (.number (.finite (Decimal.ofInt 1)))) :: WorkspaceService.linkingCalls.tail)

/-- The second owner has it updated, and closes the result. -/
theorem not_acts_for_owner_stranger :
    ¬ (Acts everyRelease updatableHub (.update "U" (.string "0.7.0")) →
        ConsoleGateway.Authorised updatableHub 2 "U") ∧
      ¬ (Acts everyRelease ((requestUpdate everyRelease "U" (.string "0.7.0")).run updatableHub).2
          (.acknowledge "U") →
        ConsoleGateway.Authorised
          ((requestUpdate everyRelease "U" (.string "0.7.0")).run updatableHub).2 2 "U") := by
  constructor
  · intro owned
    refine ConsoleGateway.not_authorised ?_ (owned ?_)
    · decide +kernel
    · change (_ : Bool) = true
      decide +kernel
  · intro owned
    refine ConsoleGateway.not_authorised ?_ (owned ?_)
    · decide +kernel
    · change (_ : List _) ≠ _
      decide +kernel

end AgentUpdateService

end OpticsHub
