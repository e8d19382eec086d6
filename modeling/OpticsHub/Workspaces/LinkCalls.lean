import OpticsHub.Async.Serial
import OpticsHub.Workspaces.Releasable

/-!
# Overlapping calls for one agent

A workspace asks for an agent, takes the request back or ends the connection, and the
agent accepts or rejects. Every call first looks at the row of the agent and then
writes it, and other calls come in between. The agent's own writes are made under the
condition that the request is still there; those of a workspace are not. When every
write still finds the row as its call wants it, and no other call looks at the row or
writes it between a write and the end of its call, the calls are explained by a serial
order: the one of their writes, with a call that fails at the place of its look.
-/
namespace OpticsHub

open Script Async Program Machine

namespace WorkspaceService

open AgentService AgentGateway

/-! ## Calls -/

inductive LinkCall where
  | request (workspaceOwner : Int32) (targetWorkspaceIdx : ℕ)
      (targetAgentCode workspaceOwnerName : Text)
  | accept (agentCode agentUuid : Text)
  | reject (agentCode agentUuid : Text)
  | cancel (workspaceOwner : Int32) (targetWorkspaceIdx : ℕ) (targetAgentCode : Text)
  | disconnect (workspaceOwner : Int32) (targetWorkspaceIdx : ℕ) (targetAgentCode : Text)
  deriving DecidableEq

inductive LinkReply where
  | requested (agent : RequestedAgent)
  | updated (agent : AgentRow)

def asRequested (program : HubProgram RequestedAgent) : HubProgram LinkReply := do
  let agent ← program
  return .requested agent

def asUpdated (program : HubProgram AgentRow) : HubProgram LinkReply := do
  let agent ← program
  return .updated agent

def linkProgram : LinkCall → HubProgram LinkReply
  | .request workspaceOwner targetWorkspaceIdx targetAgentCode workspaceOwnerName =>
    asRequested (requestConnectWorkspaceAndAgent workspaceOwner targetWorkspaceIdx targetAgentCode
      workspaceOwnerName)
  | .accept agentCode agentUuid => asUpdated (handleAcceptConnectRequest agentCode agentUuid)
  | .reject agentCode agentUuid => asUpdated (handleRejectConnectRequest agentCode agentUuid)
  | .cancel workspaceOwner targetWorkspaceIdx targetAgentCode =>
    asUpdated (cancelWorkspaceAgentConnectionRequest workspaceOwner targetWorkspaceIdx
      targetAgentCode)
  | .disconnect workspaceOwner targetWorkspaceIdx targetAgentCode =>
    asUpdated (disconnectWorkspaceAgent workspaceOwner targetWorkspaceIdx targetAgentCode)

namespace LinkCall

/-- The code of the agent that a call is about. -/
def agentCode : LinkCall → Text
  | .request _ _ code _ | .accept code _ | .reject code _ | .cancel _ _ code
  | .disconnect _ _ code => code.toUpperCase

/-- The workspace for which a call is made. -/
def workspace : LinkCall → Option ℕ
  | .request _ workspaceIdx _ _ | .cancel _ workspaceIdx _ | .disconnect _ workspaceIdx _ =>
    some workspaceIdx
  | .accept _ _ | .reject _ _ => none

def isRequest : LinkCall → Bool
  | .request _ _ _ _ => true
  | _ => false

/-- How many actions a call takes before it looks at the agent. -/
def looksAfter : LinkCall → ℕ
  | .request _ _ _ _ => 1
  | _ => 0

/-- How many actions a call takes before it writes the agent. -/
def writesAfter (call : LinkCall) : ℕ := call.looksAfter + 1

/-- The check that a call makes when it looks at the agent. -/
def accepts (database : Database) : LinkCall → Bool
  | .request _ _ code _ =>
    (database.agents.findFirst fun row => row.agentCode == code.toUpperCase).any fun row =>
      row.agentConnection != .requested && row.agentConnection != .linked
  | .accept code uuid | .reject code uuid =>
    (database.agents.findFirst (requested code uuid)).isSome
  | .cancel owner workspaceIdx code =>
    (agentOfWorkspace owner workspaceIdx code database).any fun row =>
      row.agentConnection == .requested
  | .disconnect owner workspaceIdx code =>
    (agentOfWorkspace owner workspaceIdx code database).any fun row =>
      row.agentConnection == .linked

end LinkCall

/-! ## The machine -/

abbrev LinkInput := Move LinkCall Empty

abbrev LinkOutput := Shown Empty Unit

abbrev LinkState := Config LinkCall Hub Failure LinkReply

/-- Calls that interleave, and nothing else happens. -/
def linking : Transition LinkState LinkInput LinkOutput :=
  Async.move linkProgram (fun _ event => event.elim) fun _ _ => ()

/-- A call that has written the agent and not ended. -/
def Midway (past : List (LinkInput × LinkOutput)) (config : LinkState) (index : ℕ) : Prop :=
  ∃ thread, config.threads[index]? = some thread ∧ thread.result = none ∧
    thread.call.writesAfter < actionsTaken past index thread.started

/-- A call that looks at the agent or writes it is the only one that is midway, and one that
writes it finds it as the check of the call wants it. -/
def Undisturbed (past : List (LinkInput × LinkOutput)) (config : LinkState) : LinkInput → Prop
  | .resume index => ∀ thread, config.threads[index]? = some thread → thread.result = none →
      (thread.call.looksAfter ≤ actionsTaken past index thread.started →
        ∀ other, other ≠ index → ¬ Midway past config other) ∧
      (actionsTaken past index thread.started = thread.call.writesAfter →
        thread.call.accepts config.state.database = true)
  | _ => True

/-- A call for one workspace leaves the agents of the others as they are. -/
def OwnAgentsOnly (config : LinkState) : LinkInput → Prop
  | .resume index => ∀ thread, config.threads[index]? = some thread →
      ∀ workspaceIdx, thread.call.workspace = some workspaceIdx →
        ∀ row ∈ config.state.database.agents, row.agentParentWorkspace ≠ none →
          row.agentParentWorkspace ≠ some workspaceIdx →
          row ∈ (linking config (.resume index)).2.state.database.agents
  | _ => True

/-- States that differ at most in what the consoles were told. -/
def SameHub (hub hub' : Hub) : Prop := ∃ console, hub' = { hub with console := console }

/-- Whether a call was successful. -/
def LinkReply.succeeded (result : Option (Except Failure LinkReply)) : Bool :=
  result.any fun result => result.toBool

/-- What the calls for an agent come to: a serial order explains them, at most one of many
requests is successful, and no call touches the agent of another workspace. -/
structure LinkedInTurn (start : Hub) (moves : List LinkInput) : Prop where
  serialisable : (∀ thread ∈ (final linking { state := start } moves).threads,
      thread.result.isSome = true) →
    Serialisable linkProgram SameHub start (final linking { state := start } moves)
  oneRequest : (∀ thread ∈ (final linking { state := start } moves).threads,
      thread.result.isSome = true ∧ thread.call.isRequest = true) →
    ∀ agentCode, (∀ thread ∈ (final linking { state := start } moves).threads,
        thread.call.agentCode = agentCode) →
      (final linking { state := start } moves).threads.countP (fun thread =>
        LinkReply.succeeded thread.result) ≤ 1
  ownAgents : Each linking OwnAgentsOnly { state := start } moves

/-! ## What stays -/

/-- The identity of every agent. -/
def identities (database : Database) : List (ℕ × Text × Text) :=
  database.agents.rows.map fun row => (row.agentIndex, row.agentCode, row.agentUuid)

/-- What no call touches: the workspaces, and which agents there are. -/
structure Framed (start now : Database) : Prop where
  sameWorkspaces : now.workspaces = start.workspaces
  sameIdentities : identities now = identities start

/-- An agent is unlinked exactly if it names no workspace. -/
def Coupled (database : Database) : Prop :=
  ∀ agent ∈ database.agents, agent.agentConnection = .unlinked ↔ agent.agentParentWorkspace = none

/-- A code belongs to one agent. -/
def DistinctCodes (database : Database) : Prop :=
  (database.agents.rows.map AgentRow.agentCode).Nodup

/-- The agent with a code names a workspace. -/
def HeldBy (database : Database) (agentCode : Text) (workspaceIdx : ℕ) : Prop :=
  ∀ row ∈ database.agents, row.agentCode = agentCode →
    row.agentParentWorkspace = some workspaceIdx

section Frame

variable {start now database : Database}

theorem Framed.ownedWorkspace (framed : Framed start now) (owner : Int32) (workspaceIdx : ℕ) :
    ownedWorkspace owner workspaceIdx now = ownedWorkspace owner workspaceIdx start := by
  rw [WorkspaceService.ownedWorkspace, framed.sameWorkspaces, WorkspaceService.ownedWorkspace]

theorem Framed.distinctCodes (framed : Framed start now) (distinct : DistinctCodes start) :
    DistinctCodes now := by
  have codes (database : Database) : database.agents.rows.map AgentRow.agentCode =
      (identities database).map fun entry => entry.2.1 := by
    rw [identities, List.map_map]
    rfl
  rwa [DistinctCodes, codes, framed.sameIdentities, ← codes]

theorem DistinctCodes.eq (distinct : DistinctCodes database) {row row' : AgentRow}
    (inside : row ∈ database.agents) (inside' : row' ∈ database.agents)
    (same : row.agentCode = row'.agentCode) : row = row' :=
  List.inj_on_of_nodup_map distinct inside inside' same

/-- Every agent was there from the start, with its code and its UUID. -/
theorem Framed.origin (framed : Framed start now) {row : AgentRow} (inside : row ∈ now.agents) :
    ∃ before ∈ start.agents, before.agentCode = row.agentCode ∧
      before.agentUuid = row.agentUuid := by
  have listed : (row.agentIndex, row.agentCode, row.agentUuid) ∈ identities start := by
    rw [← framed.sameIdentities]
    exact List.mem_map_of_mem (f := fun row : AgentRow =>
      (row.agentIndex, row.agentCode, row.agentUuid)) inside
  obtain ⟨before, original, entry⟩ := List.mem_map.mp listed
  exact ⟨before, original, congrArg (fun entry => entry.2.1) entry,
    congrArg (fun entry => entry.2.2) entry⟩

/-! ## Writes -/

/-- A database in which the agent of a row is changed. -/
def written (database : Database) (row : AgentRow) (change : AgentRow → AgentRow)
    (keyed : ∀ row, (change row).agentIndex = row.agentIndex) : Database :=
  { database with
    agents := database.agents.updateMany (fun other => other.agentIndex == row.agentIndex) change
      keyed }

variable {row : AgentRow} {change : AgentRow → AgentRow}
  {keyed : ∀ row, (change row).agentIndex = row.agentIndex}

/-- The agent of the row is replaced, and the others stay. -/
theorem mem_written (inside : row ∈ database.agents) {agent : AgentRow} :
    agent ∈ (written database row change keyed).agents ↔
      agent = change row ∨ agent ∈ database.agents ∧ agent ≠ row := by
  have rows : agent ∈ (written database row change keyed).agents ↔ ∃ before ∈ database.agents,
      agent = if before.agentIndex == row.agentIndex then change before else before :=
    @Table.mem_updateMany _ _ database.agents _ change keyed agent
  have same {before : AgentRow} (member : before ∈ database.agents) :
      (before.agentIndex == row.agentIndex) = true ↔ before = row :=
    ⟨fun equal => Table.eq_of_key member inside (beq_iff_eq.mp equal), fun equal => by simp [equal]⟩
  rw [rows]
  constructor
  · rintro ⟨before, member, rfl⟩
    split
    · rename_i equal
      exact .inl (by rw [(same member).mp equal])
    · rename_i differs
      exact .inr ⟨member, fun equal => differs ((same member).mpr equal)⟩
  · rintro (rfl | ⟨member, differs⟩)
    · exact ⟨row, inside, by simp⟩
    · exact ⟨agent, member, (if_neg fun equal => differs ((same member).mp equal)).symm⟩

theorem framed_written (framed : Framed start now)
    (codes : ∀ row, (change row).agentCode = row.agentCode)
    (uuids : ∀ row, (change row).agentUuid = row.agentUuid) :
    Framed start (written now row change keyed) where
  sameWorkspaces := framed.sameWorkspaces
  sameIdentities := by
    rw [← framed.sameIdentities, identities, identities,
      show (written now row change keyed).agents.rows = now.agents.rows.map _ from rfl,
      List.map_map]
    refine List.map_congr_left fun other _ => ?_
    rw [Function.comp_apply]
    split
    · rw [keyed, codes, uuids]
    · rfl

theorem coupled_written (coupled : Coupled database) (inside : row ∈ database.agents)
    (pair : (change row).agentConnection = .unlinked ↔ (change row).agentParentWorkspace = none) :
    Coupled (written database row change keyed) := by
  intro agent member
  rcases (mem_written inside).mp member with rfl | ⟨before, -⟩
  · exact pair
  · exact coupled agent before

end Frame

/-! ## The stages of a call -/

theorem accepted_index (row : AgentRow) :
    { row with agentConnection := .linked }.agentIndex = row.agentIndex :=
  rfl

theorem rejected_index (row : AgentRow) :
    { row with agentConnection := .unlinked, agentParentWorkspace := none }.agentIndex =
      row.agentIndex :=
  rfl

/-- What is left of an acceptance when the request was found. -/
def acceptFound (agentCode agentUuid : Text) : HubProgram AgentRow := do
  let rawUpdatedAgent ← updateAgent (requested agentCode agentUuid)
    (fun row => { row with agentConnection := .linked }) accepted_index
  step fun hub => (rawUpdatedAgent,
    hub.notifyWorkspaceUpdated rawUpdatedAgent.agentParentWorkspace)

/-- What is left of a rejection when the request of a workspace was found. -/
def rejectFound (agentCode agentUuid : Text) (parent : Option ℕ) : HubProgram AgentRow := do
  let rawUpdatedAgent ← updateAgent (requested agentCode agentUuid)
    (fun row => { row with agentConnection := .unlinked, agentParentWorkspace := none })
    rejected_index
  step fun hub => (rawUpdatedAgent, hub.notifyWorkspaceUpdated parent)

def tellCancelled (targetWorkspaceIdx : ℕ) (agentUuid : Text) (hub : Hub) : Hub :=
  (sendToAgent agentUuid (.connectRequestCancelled targetWorkspaceIdx hub.now) hub).2

def tellDisconnected (agentUuid : Text) (hub : Hub) : Hub :=
  (AgentGateway.disconnectAgent agentUuid hub).2

/-- What is left of the program of a call after a number of actions. -/
inductive Stage (start now : Database) : LinkCall → ℕ → HubProgram LinkReply → Prop where
  | fresh (call : LinkCall) : Stage start now call 0 (linkProgram call)
  | workspaceFound {owner : Int32} {workspaceIdx : ℕ} {code name : Text}
      {rawWorkspace : WorkspaceRow}
      (found : ownedWorkspace owner workspaceIdx start = some rawWorkspace) :
      Stage start now (.request owner workspaceIdx code name) 1
        (asRequested (requestAgent rawWorkspace workspaceIdx code name))
  | agentFree {owner : Int32} {workspaceIdx : ℕ} {code name : Text} {rawWorkspace : WorkspaceRow}
      (found : ownedWorkspace owner workspaceIdx start = some rawWorkspace) :
      Stage start now (.request owner workspaceIdx code name) 2
        (asRequested (placeRequest rawWorkspace workspaceIdx name code.toUpperCase))
  | placed {owner : Int32} {workspaceIdx : ℕ} {code name : Text} (rawWorkspace : WorkspaceRow)
      (agent : RequestedAgent) (held : HeldBy now code.toUpperCase workspaceIdx) :
      Stage start now (.request owner workspaceIdx code name) 3
        (asRequested (announceRequest rawWorkspace workspaceIdx name code.toUpperCase agent))
  | unsent {owner : Int32} {workspaceIdx : ℕ} {code name : Text}
      (held : HeldBy now code.toUpperCase workspaceIdx) :
      Stage start now (.request owner workspaceIdx code name) 4
        (asRequested (rollBack code.toUpperCase workspaceIdx))
  | toAccept (code uuid : Text) :
      Stage start now (.accept code uuid) 1 (asUpdated (acceptFound code uuid))
  | toReject (code uuid : Text) (parent : Option ℕ) :
      Stage start now (.reject code uuid) 1 (asUpdated (rejectFound code uuid parent))
  | toCancel {owner : Int32} {workspaceIdx : ℕ} {code uuid : Text}
      (known : ∀ row ∈ start.agents, row.agentCode = code.toUpperCase → row.agentUuid = uuid) :
      Stage start now (.cancel owner workspaceIdx code) 1
        (asUpdated (unlinkAgent code.toUpperCase uuid workspaceIdx (tellCancelled workspaceIdx)))
  | toDisconnect {owner : Int32} {workspaceIdx : ℕ} {code uuid : Text}
      (known : ∀ row ∈ start.agents, row.agentCode = code.toUpperCase → row.agentUuid = uuid) :
      Stage start now (.disconnect owner workspaceIdx code) 1
        (asUpdated (unlinkAgent code.toUpperCase uuid workspaceIdx tellDisconnected))
  | closing {call : LinkCall} {taken : ℕ} {rest : HubProgram LinkReply}
      (after : call.writesAfter < taken)
      (silent : ∀ hub, (rest.effect hub).database = hub.database)
      (last : ∀ hub, (rest.next hub).finished = true) : Stage start now call taken rest

section Stages

variable {start now : Database} {call : LinkCall} {taken : ℕ} {rest : HubProgram LinkReply}
  {hub : Hub}

/-- Before a call has written, its stage does not depend on what others do. -/
theorem Stage.before_write (stage : Stage start now call taken rest)
    (early : taken ≤ call.writesAfter) (now' : Database) : Stage start now' call taken rest := by
  cases stage with
  | fresh => exact .fresh call
  | workspaceFound found => exact .workspaceFound found
  | agentFree found => exact .agentFree found
  | placed rawWorkspace agent held => simp [LinkCall.writesAfter, LinkCall.looksAfter] at early
  | unsent held => simp [LinkCall.writesAfter, LinkCall.looksAfter] at early
  | toAccept code uuid => exact .toAccept code uuid
  | toReject code uuid parent => exact .toReject code uuid parent
  | toCancel known => exact .toCancel known
  | toDisconnect known => exact .toDisconnect known
  | closing after => omega

theorem agentOfWorkspace_some {owner : Int32} {workspaceIdx : ℕ} {code : Text} {row : AgentRow}
    (found : agentOfWorkspace owner workspaceIdx code now = some row) :
    row ∈ now.agents ∧ row.agentCode = code.toUpperCase ∧
      row.agentParentWorkspace = some workspaceIdx := by
  obtain ⟨inside, selected⟩ := Table.mem_of_findFirst found
  simp only [Bool.and_eq_true, beq_iff_eq] at selected
  exact ⟨inside, selected.1.1.1, selected.1.1.2⟩

theorem agentOfWorkspace_uuid (framed : Framed start now) (distinct : DistinctCodes start)
    {owner : Int32} {workspaceIdx : ℕ} {code : Text} {row : AgentRow}
    (found : agentOfWorkspace owner workspaceIdx code now = some row) :
    ∀ row' ∈ start.agents, row'.agentCode = code.toUpperCase → row'.agentUuid = row.agentUuid := by
  intro row' inside same
  obtain ⟨member, codes, -⟩ := agentOfWorkspace_some found
  obtain ⟨before, original, codes', uuids⟩ := framed.origin member
  rw [← uuids, distinct.eq inside original (same.trans (codes.symm.trans codes'.symm))]

/-- A call that looks at the agent first does with it what it finds in the database. -/
def looked (database : Database) : LinkCall → HubProgram LinkReply
  | .request owner workspaceIdx code name => asRequested do
    let rawWorkspace ← orThrow (ownedWorkspace owner workspaceIdx database) workspaceNotFound
    requestAgent rawWorkspace workspaceIdx code name
  | .accept code uuid => asUpdated do
    let _ ← orThrow (database.agents.findFirst (requested code uuid)) agentNotFound
    acceptFound code uuid
  | .reject code uuid => asUpdated do
    let rawAgent ← orThrow (database.agents.findFirst (requested code uuid)) agentNotFound
    rejectFound code uuid rawAgent.agentParentWorkspace
  | .cancel owner workspaceIdx code => asUpdated do
    let rawAgent ← orThrow (agentOfWorkspace owner workspaceIdx code database)
      requestedAgentNotFound
    require (rawAgent.agentConnection = .requested) connectionIsNotRequested
    unlinkAgent rawAgent.agentCode rawAgent.agentUuid workspaceIdx (tellCancelled workspaceIdx)
  | .disconnect owner workspaceIdx code => asUpdated do
    let rawAgent ← orThrow (agentOfWorkspace owner workspaceIdx code database) linkedAgentNotFound
    require (rawAgent.agentConnection = .linked) agentIsNotLinked
    unlinkAgent rawAgent.agentCode rawAgent.agentUuid workspaceIdx tellDisconnected

theorem next_linkProgram (call : LinkCall) (hub : Hub) :
    (linkProgram call).effect hub = hub ∧
      (linkProgram call).next hub = looked hub.database call := by
  cases call <;> exact ⟨rfl, rfl⟩

theorem run_linkProgram (call : LinkCall) (hub : Hub) :
    (linkProgram call).run hub = (looked hub.database call).run hub := by
  rw [← Program.run_next, (next_linkProgram call hub).1, (next_linkProgram call hub).2]

/-- What a look comes to: the call goes on or ends at once. -/
theorem looked_cases (framed : Framed start now) (distinct : DistinctCodes start)
    (call : LinkCall) :
    ((looked now call).finished = false ∧
        ∀ hub, Stage start hub call 1 (looked now call)) ∨
      ∃ result, looked now call = .done result ∧ ∀ base, Framed start base →
        (call.looksAfter = 0 → base = now) → looked base call = .done result := by
  cases call with
  | request owner workspaceIdx code name =>
    simp only [looked, framed.ownedWorkspace]
    cases found : ownedWorkspace owner workspaceIdx start with
    | none =>
      refine .inr ⟨.error workspaceNotFound, rfl, fun base framed _ => ?_⟩
      rw [framed.ownedWorkspace, found]
      rfl
    | some rawWorkspace => exact .inl ⟨rfl, fun _ => .workspaceFound found⟩
  | accept code uuid =>
    cases found : now.agents.findFirst (requested code uuid) with
    | none =>
      refine .inr ⟨.error agentNotFound, ?_, fun base _ same => ?_⟩
      · rw [looked, found]
        rfl
      · rw [same rfl, looked, found]
        rfl
    | some row =>
      rw [looked, found]
      exact .inl ⟨rfl, fun _ => .toAccept code uuid⟩
  | reject code uuid =>
    cases found : now.agents.findFirst (requested code uuid) with
    | none =>
      refine .inr ⟨.error agentNotFound, ?_, fun base _ same => ?_⟩
      · rw [looked, found]
        rfl
      · rw [same rfl, looked, found]
        rfl
    | some row =>
      rw [looked, found]
      exact .inl ⟨rfl, fun _ => .toReject code uuid row.agentParentWorkspace⟩
  | cancel owner workspaceIdx code =>
    cases found : agentOfWorkspace owner workspaceIdx code now with
    | none =>
      refine .inr ⟨.error requestedAgentNotFound, ?_, fun base _ same => ?_⟩
      · rw [looked, found]
        rfl
      · rw [same rfl, looked, found]
        rfl
    | some row =>
      by_cases expected : row.agentConnection = .requested
      · rw [looked, found]
        simp only [orThrow, pure_bind, require, if_pos expected, (agentOfWorkspace_some found).2.1]
        exact .inl ⟨rfl, fun _ => .toCancel (agentOfWorkspace_uuid framed distinct found)⟩
      · refine .inr ⟨.error connectionIsNotRequested, ?_, fun base _ same => ?_⟩
        · rw [looked, found]
          simp only [orThrow, pure_bind, require, if_neg expected]
          rfl
        · rw [same rfl, looked, found]
          simp only [orThrow, pure_bind, require, if_neg expected]
          rfl
  | disconnect owner workspaceIdx code =>
    cases found : agentOfWorkspace owner workspaceIdx code now with
    | none =>
      refine .inr ⟨.error linkedAgentNotFound, ?_, fun base _ same => ?_⟩
      · rw [looked, found]
        rfl
      · rw [same rfl, looked, found]
        rfl
    | some row =>
      by_cases expected : row.agentConnection = .linked
      · rw [looked, found]
        simp only [orThrow, pure_bind, require, if_pos expected, (agentOfWorkspace_some found).2.1]
        exact .inl ⟨rfl, fun _ => .toDisconnect (agentOfWorkspace_uuid framed distinct found)⟩
      · refine .inr ⟨.error agentIsNotLinked, ?_, fun base _ same => ?_⟩
        · rw [looked, found]
          simp only [orThrow, pure_bind, require, if_neg expected]
          rfl
        · rw [same rfl, looked, found]
          simp only [orThrow, pure_bind, require, if_neg expected]
          rfl

/-- What a request does with the agent that it finds. -/
def chosen (database : Database) (rawWorkspace : WorkspaceRow) (workspaceIdx : ℕ)
    (code name : Text) : HubProgram LinkReply := asRequested do
  let rawAgent ← freeAgent (database.agents.findFirst fun row => row.agentCode == code.toUpperCase)
  placeRequest rawWorkspace workspaceIdx name rawAgent.agentCode

/-- A request goes on if it finds the agent as it wants it. -/
theorem chosen_cases (database : Database) (rawWorkspace : WorkspaceRow) (workspaceIdx : ℕ)
    (code name : Text) :
    ((database.agents.findFirst fun row => row.agentCode == code.toUpperCase).any
          (fun row => row.agentConnection != .requested && row.agentConnection != .linked) = true ∧
        chosen database rawWorkspace workspaceIdx code name =
          asRequested (placeRequest rawWorkspace workspaceIdx name code.toUpperCase)) ∨
      ((database.agents.findFirst fun row => row.agentCode == code.toUpperCase).any
          (fun row => row.agentConnection != .requested && row.agentConnection != .linked) = false ∧
        ∃ failure, chosen database rawWorkspace workspaceIdx code name = .done (.error failure)) := by
  cases found : database.agents.findFirst fun row => row.agentCode == code.toUpperCase with
  | none => exact .inr ⟨rfl, matchingAgentNotFound, by rw [chosen, found]; rfl⟩
  | some row =>
    have codes : row.agentCode = code.toUpperCase :=
      beq_iff_eq.mp (Table.mem_of_findFirst found).2
    rw [chosen, found]
    cases connection : row.agentConnection with
    | requested =>
      refine .inr ⟨by simp [connection], alreadyRequested, ?_⟩
      simp only [freeAgent, orThrow, pure_bind, require, connection]
      rfl
    | linked =>
      refine .inr ⟨by simp [connection], alreadyLinked, ?_⟩
      simp only [freeAgent, orThrow, pure_bind, require, connection]
      rfl
    | unlinked =>
      refine .inl ⟨by simp [connection], ?_⟩
      rw [← codes]
      simp only [freeAgent, orThrow, pure_bind, require, connection]
      rfl

/-- An action before the write changes nothing. It leads to the next stage, or the call ends
as it would alone, in any state like this one. -/
theorem Stage.look (stage : Stage start now call taken rest) (framed : Framed start hub.database)
    (distinct : DistinctCodes start) (early : taken ≤ call.looksAfter) :
    rest.effect hub = hub ∧
      (((rest.next hub).finished = false ∧ Stage start now call (taken + 1) (rest.next hub)) ∨
        ∃ result, rest.next hub = .done result ∧ ∀ base : Hub, Framed start base.database →
          (taken = call.looksAfter → base.database = hub.database) →
          (linkProgram call).run base = (result, base)) := by
  cases stage with
  | fresh =>
    refine ⟨(next_linkProgram call hub).1, ?_⟩
    rw [(next_linkProgram call hub).2]
    rcases looked_cases framed distinct call with ⟨running, stage⟩ | ⟨result, done, same⟩
    · exact .inl ⟨running, stage now⟩
    · refine .inr ⟨result, done, fun base framed' databases => ?_⟩
      rw [run_linkProgram, same base.database framed' fun none => databases none.symm]
      rfl
  | @workspaceFound owner workspaceIdx code name rawWorkspace found =>
    refine ⟨rfl, ?_⟩
    have goes : (asRequested (requestAgent rawWorkspace workspaceIdx code name)).next hub =
        chosen hub.database rawWorkspace workspaceIdx code name := rfl
    have whole (base : Hub) (framed : Framed start base.database) :
        (linkProgram (.request owner workspaceIdx code name)).run base =
          (chosen base.database rawWorkspace workspaceIdx code name).run base := by
      rw [run_linkProgram, looked, framed.ownedWorkspace, found]
      rfl
    rw [goes]
    rcases chosen_cases hub.database rawWorkspace workspaceIdx code name with
      ⟨-, same⟩ | ⟨-, failure, done⟩
    · rw [same]
      exact .inl ⟨rfl, .agentFree found⟩
    · refine .inr ⟨.error failure, done, fun base framed' databases => ?_⟩
      rw [whole base framed', databases rfl, done]
      rfl
  | closing after =>
    rw [LinkCall.writesAfter] at after
    omega
  | _ => simp [LinkCall.looksAfter] at early

/-! ## Writes of a call -/

/-- What an action of a call keeps. -/
structure Keeps (start : Database) (call : LinkCall) (before after : Database) : Prop where
  framed : Framed start after
  coupled : Coupled after
  own : ∀ workspaceIdx, call.workspace = some workspaceIdx → ∀ row ∈ before.agents,
    row.agentParentWorkspace ≠ none → row.agentParentWorkspace ≠ some workspaceIdx →
      row ∈ after.agents

theorem keeps_silent {after : Database} (framed : Framed start now) (coupled : Coupled now)
    (silent : after = now) : Keeps start call now after where
  framed := silent ▸ framed
  coupled := silent ▸ coupled
  own := fun _ _ _ inside _ _ => silent ▸ inside

/-- The write to an agent that names no workspace or that of the call. -/
theorem keeps_relink {row : AgentRow} {connection : ConnectionStatus} {parent : Option ℕ}
    (framed : Framed start now) (coupled : Coupled now) (inside : row ∈ now.agents)
    (pair : connection = .unlinked ↔ parent = none)
    (owned : ∀ workspaceIdx, call.workspace = some workspaceIdx →
      row.agentParentWorkspace = none ∨ row.agentParentWorkspace = some workspaceIdx) :
    Keeps start call now (written now row (relink connection parent) fun _ => rfl) where
  framed := framed_written framed (fun _ => rfl) fun _ => rfl
  coupled := coupled_written coupled inside pair
  own := by
    intro workspaceIdx made agent member bound foreign
    refine (mem_written inside).mpr (.inr ⟨member, ?_⟩)
    rintro rfl
    exact (owned workspaceIdx made).elim bound foreign

section Update

variable {α : Type} {selected : AgentRow → Bool} {change : AgentRow → AgentRow}
  {keyed : ∀ row, (change row).agentIndex = row.agentIndex}

/-- `update` on `agents` is one action, by what it finds. -/
theorem updateAgent_action (selected : AgentRow → Bool) (change : AgentRow → AgentRow)
    (keyed : ∀ row, (change row).agentIndex = row.agentIndex) :
    ∃ action, updateAgent selected change keyed = atomically action ∧
      (∀ hub, hub.database.agents.findFirst selected = none →
        action hub = (.error .internal, hub)) ∧
      ∀ hub row, hub.database.agents.findFirst selected = some row →
        action hub = (.ok (change row), hub.write fun database =>
          written database row change keyed) :=
  ⟨_, rfl, fun _ missing => by simp only [missing], fun _ _ found => by simp only [found]; rfl⟩

/-- An update that finds its row, as the next action of a program. -/
theorem next_updateAgent (change : AgentRow → AgentRow)
    (keyed : ∀ row, (change row).agentIndex = row.agentIndex) {row : AgentRow}
    (rest : AgentRow → HubProgram α)
    (found : hub.database.agents.findFirst selected = some row) :
    (updateAgent selected change keyed >>= rest).effect hub =
        hub.write (fun database => written database row change keyed) ∧
      (updateAgent selected change keyed >>= rest).next hub = rest (change row) := by
  obtain ⟨action, same, -, succeeds⟩ := updateAgent_action selected change keyed
  rw [same]
  exact next_atomically (succeeds hub row found) rest

/-- An update that does not find a row fails and changes nothing. -/
theorem next_updateAgent_missing (change : AgentRow → AgentRow)
    (keyed : ∀ row, (change row).agentIndex = row.agentIndex) (rest : AgentRow → HubProgram α)
    (missing : hub.database.agents.findFirst selected = none) :
    (updateAgent selected change keyed >>= rest).effect hub = hub ∧
      (updateAgent selected change keyed >>= rest).next hub = .done (.error .internal) := by
  obtain ⟨action, same, fails, -⟩ := updateAgent_action selected change keyed
  rw [same]
  exact next_atomically (fails hub missing) rest

end Update

/-- States that differ at most in what the consoles were told are equivalent. -/
theorem sameHub_equivalence : Equivalence SameHub where
  refl := fun hub => ⟨hub.console, rfl⟩
  symm := by
    rintro hub _ ⟨console, rfl⟩
    exact ⟨hub.console, rfl⟩
  trans := by
    rintro hub _ _ ⟨console, rfl⟩ ⟨console', rfl⟩
    exact ⟨console', rfl⟩

/-- What the write of a call does: the same as the whole call would do now. -/
structure Writes (start : Database) (call : LinkCall) (taken : ℕ) (rest : HubProgram LinkReply)
    (hub : Hub) : Prop where
  whole : SameOutcome SameHub (rest.run hub) ((linkProgram call).run hub)
  keeps : Keeps start call hub.database (rest.effect hub).database
  next : (rest.next hub).finished = true ∨
    Stage start (rest.effect hub).database call (taken + 1) (rest.next hub)

theorem writes_request {owner : Int32} {workspaceIdx : ℕ} {code name : Text}
    {rawWorkspace : WorkspaceRow}
    (found : ownedWorkspace owner workspaceIdx start = some rawWorkspace)
    (framed : Framed start hub.database) (coupled : Coupled hub.database)
    (distinct : DistinctCodes start)
    (accepted : (LinkCall.request owner workspaceIdx code name).accepts hub.database = true) :
    Writes start (.request owner workspaceIdx code name) 2
      (asRequested (placeRequest rawWorkspace workspaceIdx name code.toUpperCase)) hub := by
  have whole : (linkProgram (.request owner workspaceIdx code name)).run hub =
      (chosen hub.database rawWorkspace workspaceIdx code name).run hub := by
    rw [run_linkProgram, looked, framed.ownedWorkspace, found]
    rfl
  have same : chosen hub.database rawWorkspace workspaceIdx code name =
      asRequested (placeRequest rawWorkspace workspaceIdx name code.toUpperCase) := by
    rcases chosen_cases hub.database rawWorkspace workspaceIdx code name with
      ⟨-, same⟩ | ⟨refused, -⟩
    · exact same
    · rw [LinkCall.accepts, refused] at accepted
      cases accepted
  obtain ⟨row, present, free⟩ := (Option.any_eq_true _ _).mp accepted
  obtain ⟨inside, selected⟩ := Table.mem_of_findFirst present
  have codes : row.agentCode = code.toUpperCase := beq_iff_eq.mp selected
  have unlinked : row.agentConnection = .unlinked := by
    cases connection : row.agentConnection <;> simp [connection] at free ⊢
  have next := next_updateAgent (relink .requested (some workspaceIdx))
    (fun _ => rfl) (fun updated => asRequested (announceRequest rawWorkspace workspaceIdx
      name code.toUpperCase (requestedAgent updated))) present
  have split : asRequested (placeRequest rawWorkspace workspaceIdx name code.toUpperCase) =
      updateAgent (fun row => row.agentCode == code.toUpperCase)
        (relink .requested (some workspaceIdx)) (fun _ => rfl) >>= fun updated =>
          asRequested (announceRequest rawWorkspace workspaceIdx name code.toUpperCase
            (requestedAgent updated)) := by
    rw [asRequested, placeRequest, bind_assoc]
    rfl
  rw [split]
  constructor
  · exact SameOutcome.of_eq sameHub_equivalence (by rw [whole, same, split])
  · rw [next.1]
    apply keeps_relink framed coupled inside
    · exact iff_of_false (by simp) (by simp)
    · exact fun _ _ => .inl ((coupled row inside).mp unlinked)
  · rw [next.1, next.2]
    refine .inr (.placed _ _ fun other member same => ?_)
    rcases (mem_written inside).mp member with rfl | ⟨before, differs⟩
    · rfl
    · exact absurd ((framed.distinctCodes distinct).eq before inside (same.trans codes.symm)) differs

theorem writes_accept {code uuid : Text} (framed : Framed start hub.database)
    (coupled : Coupled hub.database)
    (accepted : (LinkCall.accept code uuid).accepts hub.database = true) :
    Writes start (.accept code uuid) 1 (asUpdated (acceptFound code uuid)) hub := by
  obtain ⟨row, present⟩ := Option.isSome_iff_exists.mp accepted
  obtain ⟨inside, selected⟩ := Table.mem_of_findFirst present
  simp only [requested, Bool.and_eq_true, beq_iff_eq] at selected
  have next := next_updateAgent (fun row => { row with agentConnection := .linked })
    (fun _ => rfl) (fun updated => asUpdated (step fun hub => (updated,
      hub.notifyWorkspaceUpdated updated.agentParentWorkspace))) present
  have split : asUpdated (acceptFound code uuid) =
      updateAgent (requested code uuid) (fun row => { row with agentConnection := .linked })
        (fun _ => rfl) >>= fun updated => asUpdated (step fun hub => (updated,
          hub.notifyWorkspaceUpdated updated.agentParentWorkspace)) := by
    rw [asUpdated, acceptFound, bind_assoc]
    rfl
  constructor
  · refine SameOutcome.of_eq sameHub_equivalence ?_
    rw [run_linkProgram, looked, present]
    rfl
  · rw [split, next.1]
    constructor
    · exact framed_written framed (fun _ => rfl) fun _ => rfl
    · refine coupled_written coupled inside (iff_of_false (by simp) fun free => ?_)
      have unlinked := (coupled row inside).mpr free
      rw [selected.2] at unlinked
      cases unlinked
    · exact fun _ made => by cases made
  · rw [split, next.1, next.2]
    exact .inr (.closing (Nat.lt_succ_self 1) (fun _ => rfl) fun _ => rfl)

theorem writes_reject {code uuid : Text} (parent : Option ℕ)
    (framed : Framed start hub.database) (coupled : Coupled hub.database)
    (accepted : (LinkCall.reject code uuid).accepts hub.database = true) :
    Writes start (.reject code uuid) 1 (asUpdated (rejectFound code uuid parent)) hub := by
  obtain ⟨row, present⟩ := Option.isSome_iff_exists.mp accepted
  obtain ⟨inside, -⟩ := Table.mem_of_findFirst present
  have next (parent : Option ℕ) := next_updateAgent (relink .unlinked none)
    (fun _ => rfl) (fun updated => asUpdated (step fun hub => (updated,
      hub.notifyWorkspaceUpdated parent))) present
  have split (parent : Option ℕ) : asUpdated (rejectFound code uuid parent) =
      updateAgent (requested code uuid) (relink .unlinked none) (fun _ => rfl) >>=
        fun updated => asUpdated (step fun hub => (updated, hub.notifyWorkspaceUpdated parent)) := by
    rw [asUpdated, rejectFound, bind_assoc]
    rfl
  have run (parent : Option ℕ) : (asUpdated (rejectFound code uuid parent)).run hub =
      (.ok (.updated (relink .unlinked none row)),
        (hub.write fun database => written database row (relink .unlinked none)
          fun _ => rfl).notifyWorkspaceUpdated parent) := by
    rw [split, ← Program.run_next, (next parent).1, (next parent).2]
    rfl
  constructor
  · rw [run_linkProgram, looked, present, run]
    change SameOutcome SameHub _ ((asUpdated (rejectFound code uuid _)).run hub)
    rw [run]
    exact ⟨rfl, _, rfl⟩
  · rw [split, (next parent).1]
    exact keeps_relink framed coupled inside (iff_of_true rfl rfl)
      fun _ made => by cases made
  · rw [split, (next parent).1, (next parent).2]
    exact .inr (.closing (Nat.lt_succ_self 1) (fun _ => rfl) fun _ => rfl)

/-- The write that releases an agent of the workspace. -/
theorem writes_unlink {workspaceIdx taken : ℕ} {code uuid : Text} {tell : Text → Hub → Hub}
    {row : AgentRow} (silent : ∀ agentUuid hub, (tell agentUuid hub).database = hub.database)
    (framed : Framed start hub.database) (coupled : Coupled hub.database)
    (distinct : DistinctCodes start)
    (known : ∀ row ∈ start.agents, row.agentCode = code.toUpperCase → row.agentUuid = uuid)
    (made : call.workspace = some workspaceIdx) (late : call.writesAfter ≤ taken)
    (inside : row ∈ hub.database.agents) (codes : row.agentCode = code.toUpperCase)
    (parent : row.agentParentWorkspace = some workspaceIdx)
    (whole : (linkProgram call).run hub =
      (asUpdated (unlinkAgent row.agentCode row.agentUuid workspaceIdx tell)).run hub) :
    Writes start call taken (asUpdated (unlinkAgent code.toUpperCase uuid workspaceIdx tell)) hub
    := by
  have uuids : row.agentUuid = uuid := by
    obtain ⟨before, original, codes', uuids⟩ := framed.origin inside
    rw [← uuids, known before original (codes'.trans codes)]
  obtain ⟨found, present⟩ : ∃ found, hub.database.agents.findFirst
      (fun row => row.agentCode == code.toUpperCase) = some found := by
    rw [← Option.isSome_iff_exists, Option.isSome_iff_ne_none, ne_eq, Table.findFirst_eq_none]
    exact fun none => by simpa [codes] using none row inside
  obtain rfl : found = row := by
    obtain ⟨member, selected⟩ := Table.mem_of_findFirst present
    exact (framed.distinctCodes distinct).eq member inside
      ((beq_iff_eq.mp selected).trans codes.symm)
  have next := next_updateAgent (relink .unlinked none) (fun _ => rfl)
    (fun updated => asUpdated (step fun hub => (updated,
      (tell uuid hub).notifyWorkspaceUpdated (some workspaceIdx)))) present
  have split : asUpdated (unlinkAgent code.toUpperCase uuid workspaceIdx tell) =
      updateAgent (fun row => row.agentCode == code.toUpperCase) (relink .unlinked none)
        (fun _ => rfl) >>= fun updated => asUpdated (step fun hub => (updated,
          (tell uuid hub).notifyWorkspaceUpdated (some workspaceIdx))) := by
    rw [asUpdated, unlinkAgent, bind_assoc]
    rfl
  constructor
  · exact SameOutcome.of_eq sameHub_equivalence (by rw [whole, codes, uuids])
  · rw [split, next.1]
    apply keeps_relink framed coupled inside (iff_of_true rfl rfl)
    intro other same
    rw [made] at same
    exact .inr (parent.trans same)
  · rw [split, next.1, next.2]
    refine .inr (.closing (by omega) (fun hub => ?_) fun _ => rfl)
    exact silent uuid hub

/-- A call that writes the agent as it wants to find it does what the whole of it would do
in this state. -/
theorem Stage.write (stage : Stage start hub.database call taken rest)
    (framed : Framed start hub.database) (coupled : Coupled hub.database)
    (distinct : DistinctCodes start) (turn : taken = call.writesAfter)
    (accepted : call.accepts hub.database = true) : Writes start call taken rest hub := by
  have released {owner : Int32} {workspaceIdx : ℕ} {code : Text} {expected : ConnectionStatus}
      (accepted : (agentOfWorkspace owner workspaceIdx code hub.database).any
        (fun row => row.agentConnection == expected) = true) :
      ∃ row, agentOfWorkspace owner workspaceIdx code hub.database = some row ∧
        row.agentConnection = expected := by
    obtain ⟨row, present, connection⟩ := (Option.any_eq_true _ _).mp accepted
    exact ⟨row, present, beq_iff_eq.mp connection⟩
  cases stage with
  | fresh => simp [LinkCall.writesAfter] at turn
  | workspaceFound found => simp [LinkCall.writesAfter, LinkCall.looksAfter] at turn
  | agentFree found => exact writes_request found framed coupled distinct accepted
  | placed rawWorkspace agent held => simp [LinkCall.writesAfter, LinkCall.looksAfter] at turn
  | unsent held => simp [LinkCall.writesAfter, LinkCall.looksAfter] at turn
  | toAccept code uuid => exact writes_accept framed coupled accepted
  | toReject code uuid parent => exact writes_reject parent framed coupled accepted
  | toCancel known =>
    obtain ⟨row, present, expected⟩ := released accepted
    obtain ⟨inside, codes, parent⟩ := agentOfWorkspace_some present
    refine writes_unlink (fun agentUuid hub => ?_) framed coupled distinct known rfl le_rfl inside
      codes parent ?_
    · exact sendToAgent_database agentUuid _ hub
    · rw [run_linkProgram, looked, present]
      simp only [orThrow, pure_bind, require, if_pos expected]
  | toDisconnect known =>
    obtain ⟨row, present, expected⟩ := released accepted
    obtain ⟨inside, codes, parent⟩ := agentOfWorkspace_some present
    refine writes_unlink (fun agentUuid hub => ?_) framed coupled distinct known rfl le_rfl inside
      codes parent ?_
    · exact disconnectAgent_database agentUuid hub
    · rw [run_linkProgram, looked, present]
      simp only [orThrow, pure_bind, require, if_pos expected]
  | closing after => omega

/-- The actions of a call after its write: it tells others, or takes its own request back. -/
theorem Stage.close (stage : Stage start hub.database call taken rest)
    (framed : Framed start hub.database) (coupled : Coupled hub.database)
    (late : call.writesAfter < taken) :
    Keeps start call hub.database (rest.effect hub).database ∧
      ((rest.next hub).finished = true ∨
        Stage start (rest.effect hub).database call (taken + 1) (rest.next hub)) := by
  cases stage with
  | fresh => simp at late
  | workspaceFound found => simp [LinkCall.writesAfter, LinkCall.looksAfter] at late
  | agentFree found => simp [LinkCall.writesAfter, LinkCall.looksAfter] at late
  | @placed owner workspaceIdx code name rawWorkspace agent held =>
    have silent : (Program.effect (asRequested (announceRequest rawWorkspace workspaceIdx name
        code.toUpperCase agent)) hub).database = hub.database :=
      sendToAgent_database agent.agentUuid _ hub
    refine ⟨keeps_silent framed coupled silent, ?_⟩
    have goes : Program.next (asRequested (announceRequest rawWorkspace workspaceIdx name
        code.toUpperCase agent)) hub =
          asRequested (if (sendToAgent agent.agentUuid (.connectRequest name
            rawWorkspace.workspaceName rawWorkspace.workspaceCreatedAt rawWorkspace.workspaceIndex
              hub.now) hub).1 then pure agent else rollBack code.toUpperCase workspaceIdx) := rfl
    rw [silent, goes]
    split
    · exact .inl rfl
    · exact .inr (.unsent held)
  | @unsent owner workspaceIdx code name held =>
    let fails : HubProgram RequestedAgent := atomically fun hub =>
      (.error agentIsNotConnected, hub.notifyWorkspaceUpdated (some workspaceIdx))
    have split : asRequested (rollBack code.toUpperCase workspaceIdx) =
        updateAgent (fun row => row.agentCode == code.toUpperCase) (relink .unlinked none)
          (fun _ => rfl) >>= fun _ => asRequested fails := by
      rw [asRequested, rollBack, bind_assoc]
      rfl
    rw [split]
    cases present : hub.database.agents.findFirst fun row => row.agentCode == code.toUpperCase with
    | none =>
      have next := next_updateAgent_missing (relink .unlinked none)
        (fun _ => rfl) (fun _ => asRequested fails) present
      rw [next.1, next.2]
      exact ⟨keeps_silent framed coupled rfl, .inl rfl⟩
    | some row =>
      have next := next_updateAgent (relink .unlinked none) (fun _ => rfl)
        (fun _ => asRequested fails) present
      obtain ⟨inside, selected⟩ := Table.mem_of_findFirst present
      rw [next.1, next.2]
      constructor
      · refine keeps_relink framed coupled inside (iff_of_true rfl rfl) fun _ same => .inr ?_
        exact (held row inside (beq_iff_eq.mp selected)).trans same
      · exact .inr (.closing (by simp [LinkCall.writesAfter, LinkCall.looksAfter]) (fun _ => rfl)
          fun _ => rfl)
  | toAccept code uuid => simp [LinkCall.writesAfter, LinkCall.looksAfter] at late
  | toReject code uuid parent => simp [LinkCall.writesAfter, LinkCall.looksAfter] at late
  | toCancel known => simp [LinkCall.writesAfter, LinkCall.looksAfter] at late
  | toDisconnect known => simp [LinkCall.writesAfter, LinkCall.looksAfter] at late
  | closing after silent last =>
    exact ⟨keeps_silent framed coupled (silent hub), .inl (last hub)⟩

/-! ## What the programs read -/

theorem SameHub.database {hub' : Hub} (same : SameHub hub hub') : hub'.database = hub.database := by
  obtain ⟨console, rfl⟩ := same
  rfl

theorem respects_updateAgent (selected : AgentRow → Bool) (change : AgentRow → AgentRow)
    (keyed : ∀ row, (change row).agentIndex = row.agentIndex) :
    Respects SameHub (updateAgent selected change keyed) := by
  obtain ⟨action, same, fails, succeeds⟩ := updateAgent_action selected change keyed
  rw [same]
  apply respects_atomically
  rintro hub _ ⟨console, rfl⟩
  cases found : hub.database.agents.findFirst selected with
  | none =>
    rw [fails hub found, fails { hub with console := console } found]
    exact ⟨rfl, console, rfl⟩
  | some row =>
    rw [succeeds hub row found, succeeds { hub with console := console } row found]
    exact ⟨rfl, console, rfl⟩

theorem sendToAgent_console (agentUuid : Text) (packet : AgentPacket) (hub : Hub)
    (console : List ConsoleEvent) :
    sendToAgent agentUuid packet { hub with console := console } =
      ((sendToAgent agentUuid packet hub).1,
        { (sendToAgent agentUuid packet hub).2 with console := console }) := by
  simp only [sendToAgent, getAgentSocket]
  split
  · rfl
  · split <;> rfl

theorem disconnectAgent_console (agentUuid : Text) (hub : Hub) (console : List ConsoleEvent) :
    (AgentGateway.disconnectAgent agentUuid { hub with console := console }).2 =
      { (AgentGateway.disconnectAgent agentUuid hub).2 with console := console } := by
  rw [AgentGateway.disconnectAgent, AgentGateway.disconnectAgent]
  simp only [getAgentSocket]
  split
  · rfl
  · rw [sendToAgent_console]
    rfl

/-- What is told to an agent does not depend on the consoles. -/
theorem respects_tell {α : Type} {tell : Hub → Hub} (value : α) (parent : Option ℕ)
    (silent : ∀ hub console, tell { hub with console := console } =
      { tell hub with console := console }) :
    Respects SameHub (step fun hub => (value, (tell hub).notifyWorkspaceUpdated parent) :
      HubProgram α) := by
  apply respects_step
  rintro hub _ ⟨console, rfl⟩
  have told := congrArg (Hub.notifyWorkspaceUpdated · parent) (silent hub console)
  refine ⟨rfl, console ++ [ConsoleEvent.agentUpdated parent], ?_⟩
  exact told

/-- What only the consoles are told. -/
theorem respects_told {α : Type} (value : α) (parent : Option ℕ) :
    Respects SameHub (step fun hub => (value, hub.notifyWorkspaceUpdated parent) :
      HubProgram α) :=
  @respects_tell α id value parent fun _ _ => rfl

theorem respects_placeRequest (rawWorkspace : WorkspaceRow) (workspaceIdx : ℕ)
    (name code : Text) : Respects SameHub (placeRequest rawWorkspace workspaceIdx name code) := by
  apply (respects_updateAgent _ _ _).bind
  intro updated
  apply Respects.bind
  · apply respects_step
    rintro hub _ ⟨console, rfl⟩
    have outcome := sendToAgent_console (requestedAgent updated).agentUuid
      (.connectRequest name rawWorkspace.workspaceName rawWorkspace.workspaceCreatedAt
        rawWorkspace.workspaceIndex hub.now) hub console
    exact ⟨(congrArg Prod.fst outcome).symm, console, congrArg Prod.snd outcome⟩
  · intro sent
    split
    · exact respects_done _
    · apply (respects_updateAgent _ _ _).bind
      intro _
      apply respects_atomically
      rintro hub _ ⟨console, rfl⟩
      exact ⟨rfl, _, rfl⟩

theorem respects_unlinkAgent (code uuid : Text) (workspaceIdx : ℕ) {tell : Text → Hub → Hub}
    (silent : ∀ hub console, tell uuid { hub with console := console } =
      { tell uuid hub with console := console }) :
    Respects SameHub (unlinkAgent code uuid workspaceIdx tell) := by
  apply (respects_updateAgent _ _ _).bind
  exact fun updated => respects_tell updated _ silent

theorem respects_view {α : Type} (view : Database → α) :
    Respects SameHub (look fun hub => view hub.database : HubProgram α) :=
  respects_look fun _ _ same => congrArg view same.database.symm

theorem respects_findAgent (selected : AgentRow → Bool) :
    Respects SameHub (findAgent selected) :=
  respects_view fun database => database.agents.findFirst selected

theorem respects_releaseAgent (owner : Int32) (workspaceIdx : ℕ) (code : Text)
    (expected : ConnectionStatus) (missing unexpected : Failure) {tell : Text → Hub → Hub}
    (silent : ∀ uuid hub console, tell uuid { hub with console := console } =
      { tell uuid hub with console := console }) :
    Respects SameHub (releaseAgent owner workspaceIdx code expected missing unexpected tell) := by
  apply (respects_view _).bind
  intro rawAgent
  apply (respects_orThrow _ _).bind
  intro rawAgent
  apply (respects_require _ _).bind
  exact fun _ => respects_unlinkAgent _ _ _ (silent rawAgent.agentUuid)

theorem respects_requestConnect (owner : Int32) (workspaceIdx : ℕ) (code name : Text) :
    Respects SameHub (requestConnectWorkspaceAndAgent owner workspaceIdx code name) := by
  apply (respects_view _).bind
  intro rawWorkspace
  apply (respects_orThrow _ _).bind
  intro rawWorkspace
  apply (respects_findAgent _).bind
  intro rawAgent
  apply Respects.bind
  · apply (respects_orThrow _ _).bind
    intro rawAgent
    apply (respects_require _ _).bind
    intro _
    apply (respects_require _ _).bind
    exact fun _ => respects_done _
  · exact fun rawAgent => respects_placeRequest _ _ _ _

/-- No call reads what the consoles were told. -/
theorem respects_linkProgram (call : LinkCall) : Respects SameHub (linkProgram call) := by
  cases call with
  | request owner workspaceIdx code name =>
    exact (respects_requestConnect owner workspaceIdx code name).bind fun _ => respects_done _
  | accept code uuid =>
    refine Respects.bind ?_ fun _ => respects_done _
    apply (respects_findAgent _).bind
    intro rawAgent
    apply (respects_orThrow _ _).bind
    intro _
    apply (respects_updateAgent _ _ _).bind
    exact fun updated => respects_told updated _
  | reject code uuid =>
    refine Respects.bind ?_ fun _ => respects_done _
    apply (respects_findAgent _).bind
    intro rawAgent
    apply (respects_orThrow _ _).bind
    intro rawAgent
    apply (respects_updateAgent _ _ _).bind
    exact fun updated => respects_told updated _
  | cancel owner workspaceIdx code =>
    refine Respects.bind (respects_releaseAgent _ _ _ _ _ _ fun uuid hub console => ?_)
      fun _ => respects_done _
    rw [sendToAgent_console]
  | disconnect owner workspaceIdx code =>
    refine Respects.bind (respects_releaseAgent _ _ _ _ _ _ fun uuid hub console => ?_)
      fun _ => respects_done _
    exact disconnectAgent_console uuid hub console

end Stages

end WorkspaceService

end OpticsHub
