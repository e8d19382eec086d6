import OpticsHub.Agent.AgentService

/-!
# The update of an Agent as its Agent and its sockets see it

While an update is under way the Agent passes on the log of it, or that it failed. A lost
connection is an expected restart then, and the version reported at the next registration
decides how the update ended. Every transition writes the phase and then reads the row
back to tell the consoles of its workspace. None of them asks again, as it writes, whether
the update is still under way.
-/
namespace OpticsHub

open Script Async Program

namespace AgentUpdateService

open AgentService

/-- A phase without a result yet. -/
def inFlight : AgentUpdatePhase → Bool
  | .requested | .pulling | .restarting => true
  | _ => false

/-- The phase and the target of the update of an Agent. -/
def updateOf (agentUuid : Text) (database : Database) :
    Option (AgentUpdatePhase × Option Text) :=
  (database.agents.findFirst fun row => row.agentUuid == agentUuid).map fun row =>
    (row.agentUpdatePhase, row.agentUpdateTarget)

/-- Whether an update of an Agent is under way. -/
def underWay (agentUuid : Text) (database : Database) : Bool :=
  (updateOf agentUuid database).any fun update => inFlight update.1

/-- Write a phase and a message, and tell the consoles. -/
def transition (agentUuid : Text) (phase : AgentUpdatePhase) (message : Text) :
    HubProgram Unit := do
  updateAgents (fun row => row.agentUuid == agentUuid) fun row =>
    { row with agentUpdatePhase := phase, agentUpdateMessage := some message }
  let agent ← findAgent fun row => row.agentUuid == agentUuid
  step fun hub => ((),
    match agent with
    | none => hub
    | some agent =>
      match agent.agentParentWorkspace with
      | none => hub
      | some workspaceIndex =>
        { hub with
          console := hub.console ++
            [.agentUpdate workspaceIndex agentUuid agent.agentCode agent.agentVersion phase
              agent.agentUpdateTarget agent.agentUpdateMessage agent.agentUpdateStartedAt] })

def clearTimeout (agentUuid : Text) : HubProgram Unit :=
  step fun hub => ((), { hub with updateTimers := hub.updateTimers.filter (· != agentUuid) })

/-- How the updates end that were under way before the Hub has started again is not known. -/
def resetStalePhases : HubProgram Unit :=
  updateAgents (fun row => inFlight row.agentUpdatePhase) fun row =>
    { row with
      agentUpdatePhase := .failed
      agentUpdateMessage := some "Hub가 재시작되어 업데이트 결과를 확인하지 못했습니다." }

/-- A line of the log of an update under way. -/
def recordProgress (agentUuid line : Text) : HubProgram Unit := do
  let agent ← findAgent fun row => row.agentUuid == agentUuid
  match agent with
  | none => pure ()
  | some agent =>
    if inFlight agent.agentUpdatePhase then
      transition agentUuid
        (if agent.agentUpdatePhase = .requested then .pulling else agent.agentUpdatePhase)
        (line.take 2000)
    else pure ()

/-- The report that an update under way has failed. -/
def recordFailure (agentUuid message : Text) : HubProgram Unit := do
  let agent ← findAgent fun row => row.agentUuid == agentUuid
  match agent with
  | none => pure ()
  | some agent =>
    if inFlight agent.agentUpdatePhase then do
      clearTimeout agentUuid
      transition agentUuid .failed
        (Text.ofString "OPTiCS Agent " ++ agent.agentUpdateTarget.getD "?" ++
          Text.ofString " 업데이트가 실패했습니다. " ++ message)
    else pure ()

/-- A text of the update messages, with a version where it is known. -/
def versionText (version : Option Text) : Text := version.getD "Unknown Version"

/-- Decide by the reported version how an update under way has ended. -/
def handleReconnect (agentUuid : Text) (reportedVersion : Option Text) : HubProgram Unit := do
  let agent ← findAgent fun row => row.agentUuid == agentUuid
  match agent with
  | none => pure ()
  | some agent =>
    if inFlight agent.agentUpdatePhase then do
      clearTimeout agentUuid
      match agent.agentUpdateTarget with
      | some (unit :: units) =>
        if reportedVersion = some (unit :: units) then
          transition agentUuid .succeeded
            (Text.ofString "OPTiCS Agent " ++ (unit :: units) ++
              Text.ofString "(으)로 업데이트를 완료했습니다.")
        else
          transition agentUuid .rolledBack
            (Text.ofString "OPTiCS Agent " ++ (unit :: units) ++
              Text.ofString " 시작에 실패해 OPTiCS Agent " ++ versionText reportedVersion ++
              Text.ofString "(으)로 되돌렸습니다.")
      | target =>
        transition agentUuid .rolledBack
          (Text.ofString "OPTiCS Agent " ++ versionText target ++
            Text.ofString " 시작에 실패해 OPTiCS Agent " ++ versionText reportedVersion ++
            Text.ofString "(으)로 되돌렸습니다.")
    else pure ()

/-- Whether a lost connection belongs to an update, which is then recorded. -/
def isExpectedRestart (agentUuid : Text) : HubProgram Bool := do
  let agent ← findAgent fun row => row.agentUuid == agentUuid
  match agent with
  | none => pure false
  | some agent =>
    if inFlight agent.agentUpdatePhase then do
      updateAgents (fun row => row.agentUuid == agentUuid) fun row =>
        { row with agentStatus := .restarting }
      transition agentUuid .restarting
        (Text.ofString "OPTiCS Agent " ++ versionText agent.agentUpdateTarget ++
          Text.ofString "을 다시 시작하고 있습니다.")
      pure true
    else pure false

end AgentUpdateService

end OpticsHub
