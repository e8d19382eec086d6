import OpticsHub.Agent.Authenticated
import OpticsHub.Workspaces.WorkspaceService

/-!
# Agents that an owner can release

An agent is bound to a workspace from the request for a connection to the end of it,
and every operation that ends it looks for the workspace first: it has to be there and
not deleted. Seven operations write the two columns of the binding or delete a
workspace. Each of them is run as a whole here, and between two of them sockets come
and go and time passes. A deletion does not look at agents, so it is the one
operation that can strand them, and it does so exactly if an agent still names the
workspace that it deletes.
-/
namespace OpticsHub

open Script Async Program Machine

namespace WorkspaceService

open AgentService AgentGateway

/-! ## The binding of an agent -/

/-- An agent is unlinked exactly if it names no workspace, and the workspace that it names
otherwise is there and not deleted. -/
structure Releasable (workspaces : Table WorkspaceRow) (agent : AgentRow) : Prop where
  unlinked_iff : agent.agentConnection = .unlinked ↔ agent.agentParentWorkspace = none
  parent : agent.agentConnection ≠ .unlinked → ∃ workspace ∈ workspaces,
    agent.agentParentWorkspace = some workspace.workspaceIndex ∧
      workspace.workspaceDeletedAt = none

def AllReleasable (database : Database) : Prop :=
  ∀ agent ∈ database.agents, Releasable database.workspaces agent

instance (workspaces : Table WorkspaceRow) (agent : AgentRow) :
    Decidable (Releasable workspaces agent) :=
  decidable_of_iff
    ((agent.agentConnection = .unlinked ↔ agent.agentParentWorkspace = none) ∧
      (agent.agentConnection ≠ .unlinked → ∃ workspace ∈ workspaces.rows,
        agent.agentParentWorkspace = some workspace.workspaceIndex ∧
          workspace.workspaceDeletedAt = none))
    ⟨fun held => ⟨held.1, held.2⟩, fun held => ⟨held.unlinked_iff, held.parent⟩⟩

instance (database : Database) : Decidable (AllReleasable database) :=
  inferInstanceAs (Decidable (∀ agent ∈ database.agents.rows, Releasable database.workspaces agent))

/-! ## Calls -/

/-- A call of one of the operations, or what happens between two calls: the sockets and
the map of the Agents change, and so does the time. -/
inductive BindingCall where
  | registerAgent (ip : Text) (agentUuid agentVersion protocolVersion : Option Value)
  | requestConnect (workspaceOwner : Int32) (targetWorkspaceIdx : ℕ)
      (targetAgentCode workspaceOwnerName : Text)
  | acceptConnectRequest (agentCode agentUuid : Text)
  | rejectConnectRequest (agentCode agentUuid : Text)
  | cancelRequest (workspaceOwner : Int32) (targetWorkspaceIdx : ℕ) (targetAgentCode : Text)
  | disconnectAgent (workspaceOwner : Int32) (targetWorkspaceIdx : ℕ) (targetAgentCode : Text)
  | deleteWorkspace (owner : Int32) (workspaceIdx : ℕ) (ownerDisplay confirmation : Text)
  | meanwhile (sockets : ℕ → Socket) (agentUuidToSocketId : Members ℕ) (now : ℤ)

section Calls

variable (platform : Platform)

/-- The program of a call. -/
def bindingProgram : BindingCall → HubProgram Unit
  | .registerAgent ip agentUuid agentVersion protocolVersion => do
    let _ ← AgentService.registerAgent platform ip agentUuid agentVersion protocolVersion
  | .requestConnect workspaceOwner targetWorkspaceIdx targetAgentCode workspaceOwnerName => do
    let _ ← requestConnectWorkspaceAndAgent workspaceOwner targetWorkspaceIdx targetAgentCode
      workspaceOwnerName
  | .acceptConnectRequest agentCode agentUuid => do
    let _ ← handleAcceptConnectRequest agentCode agentUuid
  | .rejectConnectRequest agentCode agentUuid => do
    let _ ← handleRejectConnectRequest agentCode agentUuid
  | .cancelRequest workspaceOwner targetWorkspaceIdx targetAgentCode => do
    let _ ← cancelWorkspaceAgentConnectionRequest workspaceOwner targetWorkspaceIdx targetAgentCode
  | .disconnectAgent workspaceOwner targetWorkspaceIdx targetAgentCode => do
    let _ ← disconnectWorkspaceAgent workspaceOwner targetWorkspaceIdx targetAgentCode
  | .deleteWorkspace owner workspaceIdx ownerDisplay confirmation => do
    let _ ← handleDeleteWorkspace platform owner workspaceIdx ownerDisplay confirmation
  | .meanwhile sockets agentUuidToSocketId now =>
    step fun hub => ((),
      { hub with sockets := sockets, agentUuidToSocketId := agentUuidToSocketId, now := now })

/-- One call after another. -/
def serve : Transition Hub BindingCall (Except Failure Unit) := fun hub call =>
  (bindingProgram platform call).run hub

/-- The workspace that a call deletes: one that its owner confirms, and whose DNS record, if
there is one, is deleted. -/
def deletes (hub : Hub) : BindingCall → Option ℕ
  | .deleteWorkspace owner workspaceIdx ownerDisplay confirmation =>
    (ownedWorkspace owner workspaceIdx hub.database).bind fun workspaceData =>
      if confirmation = ownerDisplay ++ Text.ofString "/" ++ workspaceData.workspaceName ∧
          (present workspaceData.workspaceDnsRecordId = true →
            succeeded (platform.dnsReply hub.drawn) = true) then
        some workspaceIdx
      else none
  | _ => none

/-- No agent names the workspace that a call deletes. -/
def LeavesNoAgent (hub : Hub) (call : BindingCall) : Prop :=
  ∀ workspaceIdx, deletes platform hub call = some workspaceIdx →
    ∀ agent ∈ hub.database.agents, agent.agentParentWorkspace ≠ some workspaceIdx

instance (hub : Hub) (call : BindingCall) : Decidable (LeavesNoAgent platform hub call) :=
  inferInstanceAs (Decidable (∀ workspaceIdx ∈ deletes platform hub call,
    ∀ agent ∈ hub.database.agents.rows, agent.agentParentWorkspace ≠ some workspaceIdx))

end Calls

/-! ## Rows of agents -/

section Rows

variable {database : Database} {selected : AgentRow → Bool} {change : AgentRow → AgentRow}
  {keyed : ∀ row, (change row).agentIndex = row.agentIndex}

/-- Agents may be changed when the changed ones can still be released. -/
theorem AllReleasable.updateMany (all : AllReleasable database)
    (changed : ∀ row ∈ database.agents, selected row = true →
      Releasable database.workspaces (change row)) :
    AllReleasable { database with agents := database.agents.updateMany selected change keyed } := by
  intro agent (inside : agent ∈ database.agents.updateMany selected change keyed)
  obtain ⟨row, original, rfl⟩ := Table.mem_updateMany.mp inside
  split
  · exact changed row original ‹_›
  · exact all row original

/-- A new agent is free. -/
theorem AllReleasable.create (all : AllReleasable database) {row : ℕ → AgentRow}
    {keyed : ∀ n, (row n).agentIndex = n}
    (free : (row database.agents.next).agentConnection = .unlinked)
    (parentless : (row database.agents.next).agentParentWorkspace = none) :
    AllReleasable { database with agents := database.agents.create row keyed } := by
  intro agent (inside : agent ∈ database.agents.create row keyed)
  rcases Table.mem_create.mp inside with before | rfl
  · exact all agent before
  · exact ⟨iff_of_true free parentless, fun bound => absurd free bound⟩

theorem releasable_unlinked (workspaces : Table WorkspaceRow) (row : AgentRow) :
    Releasable workspaces (relink .unlinked none row) where
  unlinked_iff := iff_of_true rfl rfl
  parent := fun bound => absurd rfl bound

/-- An agent that a workspace has asked for can be released by its owner. -/
theorem releasable_requested {owner : Int32} {workspaceIdx : ℕ} {workspace : WorkspaceRow}
    (found : ownedWorkspace owner workspaceIdx database = some workspace) (row : AgentRow) :
    Releasable database.workspaces (relink .requested (some workspaceIdx) row) := by
  obtain ⟨inside, selected⟩ := Table.mem_of_findFirst found
  simp only [owned, Bool.and_eq_true, beq_iff_eq, Option.isNone_iff_eq_none] at selected
  constructor
  · exact iff_of_false nofun nofun
  · exact fun _ => ⟨workspace, inside, congrArg some selected.1.1.symm, selected.2⟩

/-- What matters of an agent for its release are two columns. -/
theorem Releasable.of_eq {workspaces : Table WorkspaceRow} {row row' : AgentRow}
    (releasable : Releasable workspaces row)
    (connection : row'.agentConnection = row.agentConnection)
    (parent : row'.agentParentWorkspace = row.agentParentWorkspace) :
    Releasable workspaces row' := by
  constructor
  · rw [connection, parent]
    exact releasable.unlinked_iff
  · rw [connection, parent]
    exact releasable.parent

end Rows

/-! ## What the operations keep -/

section Keeps

variable {hub : Hub} {α : Type} {post : α → Hub → Prop} {fail : Failure → Hub → Prop}

/-- The rule for `update` on `agents`. -/
theorem wp_updateAgent {selected : AgentRow → Bool} {change : AgentRow → AgentRow}
    {keyed : ∀ row, (change row).agentIndex = row.agentIndex}
    {post : AgentRow → Hub → Prop}
    (missing : hub.database.agents.findFirst selected = none → fail .internal hub)
    (found : ∀ row, hub.database.agents.findFirst selected = some row →
      post (change row) (hub.write fun database =>
        { database with
          agents := database.agents.updateMany
            (fun other => other.agentIndex == row.agentIndex) change keyed })) :
    wp (updateAgent selected change keyed) post fail hub := by
  cases first : hub.database.agents.findFirst selected with
  | none => exact (wp_atomically_error (by simp only [first])).mpr (missing first)
  | some row => exact (wp_atomically_ok (by simp only [first])).mpr (found row first)

/-- An update of one agent whose result can be released. -/
theorem wp_updateAgent_releasable {selected : AgentRow → Bool} {change : AgentRow → AgentRow}
    {keyed : ∀ row, (change row).agentIndex = row.agentIndex}
    {post : AgentRow → Hub → Prop} (all : AllReleasable hub.database)
    (changed : ∀ row ∈ hub.database.agents, selected row = true →
      Releasable hub.database.workspaces (change row))
    (missing : fail .internal hub)
    (next : ∀ value hub', AllReleasable hub'.database → post value hub') :
    wp (updateAgent selected change keyed) post fail hub := by
  apply wp_updateAgent
  · exact fun _ => missing
  · intro row found
    obtain ⟨inside, chosen⟩ := Table.mem_of_findFirst found
    refine next _ _ (all.updateMany fun other member same => ?_)
    rw [Table.eq_of_key member inside (beq_iff_eq.mp same)]
    exact changed row inside chosen

/-- Every way of ending leaves agents that can be released. -/
abbrev Ends (hub : Hub) : Prop := AllReleasable hub.database

theorem sendToAgent_database (agentUuid : Text) (packet : AgentPacket) (hub : Hub) :
    (sendToAgent agentUuid packet hub).2.database = hub.database := by
  rw [sendToAgent]
  split
  · rfl
  · split <;> rfl

theorem disconnectAgent_database (agentUuid : Text) (hub : Hub) :
    (AgentGateway.disconnectAgent agentUuid hub).2.database = hub.database := by
  rw [AgentGateway.disconnectAgent]
  split
  · rfl
  · exact sendToAgent_database agentUuid _ hub

theorem requestConnect_releasable (workspaceOwner : Int32) (targetWorkspaceIdx : ℕ)
    (targetAgentCode workspaceOwnerName : Text) (all : AllReleasable hub.database) :
    wp (requestConnectWorkspaceAndAgent workspaceOwner targetWorkspaceIdx targetAgentCode
      workspaceOwnerName) (fun _ => Ends) (fun _ => Ends) hub := by
  simp only [requestConnectWorkspaceAndAgent, requestAgent, wp_bind, wp_look, wp_orThrow, findAgent,
    freeAgent, wp_require, wp_pure]
  refine ⟨fun rawWorkspace found => ⟨fun rawAgent _ => ⟨fun _ => ⟨fun _ => ?_, fun _ => all⟩,
    fun _ => all⟩, fun _ => all⟩, fun _ => all⟩
  rw [placeRequest, wp_bind]
  apply wp_updateAgent_releasable all
  · exact fun row _ _ => releasable_requested found row
  · exact all
  · intro updated placed all
    simp only [announceRequest, send, wp_bind, wp_step]
    rw [← sendToAgent_database] at all
    split
    · exact all
    · rw [rollBack, wp_bind]
      apply wp_updateAgent_releasable all
      · exact fun row _ _ => releasable_unlinked _ row
      · exact all
      · exact fun _ released all => (wp_atomically _).mpr ⟨by simp, fun _ _ => all⟩

theorem accept_releasable (agentCode agentUuid : Text) (all : AllReleasable hub.database) :
    wp (handleAcceptConnectRequest agentCode agentUuid) (fun _ => Ends) (fun _ => Ends) hub := by
  simp only [handleAcceptConnectRequest, wp_bind, wp_look, wp_orThrow, findAgent]
  refine ⟨fun rawAgent _ => ?_, fun _ => all⟩
  apply wp_updateAgent_releasable all
  · intro row inside chosen
    simp only [requested, Bool.and_eq_true, beq_iff_eq] at chosen
    have before := all row inside
    have bound : row.agentConnection ≠ .unlinked := by simp [chosen.2]
    constructor
    · exact iff_of_false (by simp) fun free => bound (before.unlinked_iff.mpr free)
    · exact fun _ => before.parent bound
  · exact all
  · exact fun _ _ all => all

theorem reject_releasable (agentCode agentUuid : Text) (all : AllReleasable hub.database) :
    wp (handleRejectConnectRequest agentCode agentUuid) (fun _ => Ends) (fun _ => Ends) hub := by
  simp only [handleRejectConnectRequest, wp_bind, wp_look, wp_orThrow, findAgent]
  refine ⟨fun rawAgent _ => ?_, fun _ => all⟩
  apply wp_updateAgent_releasable all
  · exact fun row _ _ => releasable_unlinked _ row
  · exact all
  · exact fun _ _ all => all

theorem releaseAgent_releasable (workspaceOwner : Int32) (targetWorkspaceIdx : ℕ)
    (targetAgentCode : Text) (expected : ConnectionStatus) (notFound unexpected : Failure)
    {tell : Text → Hub → Hub} (silent : ∀ agentUuid hub, (tell agentUuid hub).database = hub.database)
    (all : AllReleasable hub.database) :
    wp (releaseAgent workspaceOwner targetWorkspaceIdx targetAgentCode expected notFound unexpected
      tell) (fun _ => Ends) (fun _ => Ends) hub := by
  simp only [releaseAgent, unlinkAgent, wp_bind, wp_look, wp_orThrow, wp_require]
  refine ⟨fun rawAgent _ => ⟨fun _ => ?_, fun _ => all⟩, fun _ => all⟩
  apply wp_updateAgent_releasable all
  · exact fun row _ _ => releasable_unlinked _ row
  · exact all
  · intro updated released all
    rw [wp_step, Ends, Hub.notify_database, silent]
    exact all

/-- A registration leaves the binding of a known agent as it is, and a new one is free. -/
theorem registerAgent_releasable (platform : Platform) (ip : Text)
    (agentUuid agentVersion protocolVersion : Option Value) (all : AllReleasable hub.database) :
    wp (AgentService.registerAgent platform ip agentUuid agentVersion protocolVersion)
      (fun _ => Ends) (fun _ => Ends) hub := by
  rw [AgentService.registerAgent, wp_bind]
  have known : wp (findExist platform (agentUuid.getD .undefined)) (fun _ => Ends) (fun _ => Ends)
      hub := by
    rw [findExist]
    split
    · simp only [wp_bind, wp_look, wp_orThrow, findAgent]
      exact ⟨fun _ _ => all, fun _ => all⟩
    · exact all
  refine wp_mono _ (fun exist hub all => ?_) (fun _ _ all => all) known
  simp only [wp_bind, wp_orThrow]
  refine ⟨fun version _ => ⟨fun protocol _ => ?_, fun _ => all⟩, fun _ => all⟩
  split
  · rw [updateRegistered, wp_atomically]
    split
    · exact ⟨fun _ _ => all, fun _ _ => all⟩
    · refine ⟨fun _ _ => ?_, fun _ _ => ?_⟩ <;>
        exact all.updateMany fun row inside _ => (all row inside).of_eq rfl rfl
  · exact all
  · rw [createRegistered, wp_atomically]
    dsimp only
    split
    · exact ⟨fun _ _ => all, fun _ _ => all⟩
    · refine ⟨fun _ _ => ?_, fun _ _ => ?_⟩ <;> exact all.create rfl rfl

/-! ## Deletion -/

/-- The database after the deletion of a workspace. -/
def withoutWorkspace (database : Database) (workspaceIdx : ℕ) (now : ℤ) : Database :=
  { database with
    workspaces := database.workspaces.updateMany
      (fun row => row.workspaceIndex == workspaceIdx) (deletedRow now) fun _ => rfl }

/-- The write of a deletion, when its workspace is still there. -/
theorem wp_markDeleted {owner : Int32} {workspaceIdx : ℕ} {workspace : WorkspaceRow}
    {post : ℤ → Hub → Prop} (found : ownedWorkspace owner workspaceIdx hub.database = some workspace)
    (next : post hub.now (hub.write fun database =>
      withoutWorkspace database workspaceIdx hub.now)) :
    wp (markDeleted owner workspaceIdx) post fail hub := by
  have selected := (Table.mem_of_findFirst found).2
  simp only [owned, Bool.and_eq_true, beq_iff_eq] at selected
  rw [ownedWorkspace] at found
  rw [markDeleted, wp_bind, wp_look, wp_bind]
  refine (wp_atomically_ok (by simp only [found]; rfl)).mpr ?_
  rw [selected.1.1]
  exact next

/-- What a deletion does to the database. -/
theorem handleDeleteWorkspace_database (platform : Platform) (owner : Int32) (workspaceIdx : ℕ)
    (ownerDisplay confirmation : Text) :
    wp (handleDeleteWorkspace platform owner workspaceIdx ownerDisplay confirmation)
      (fun now after =>
        deletes platform hub (.deleteWorkspace owner workspaceIdx ownerDisplay confirmation) =
          some workspaceIdx ∧
        after.database = withoutWorkspace hub.database workspaceIdx now)
      (fun _ after =>
        deletes platform hub (.deleteWorkspace owner workspaceIdx ownerDisplay confirmation) = none ∧
        after.database = hub.database) hub := by
  simp only [handleDeleteWorkspace, wp_bind, wp_look, wp_orThrow, wp_require, deletes]
  refine ⟨fun workspaceData found => ⟨fun confirmed => ?_, fun mismatch => ?_⟩, fun missing => ?_⟩
  · simp only [found, Option.bind_some, confirmed, true_and, deleteDnsRecord]
    split
    · rename_i recorded
      simp only [changeDnsRecord, askDns, wp_bind, wp_step, wp_pure, wp_require]
      refine ⟨fun done => ?_, fun refused => ?_⟩
      · have later : ownedWorkspace owner workspaceIdx
            ({ hub with
                drawn := hub.drawn + 1
                dnsRecords := (DnsRequest.delete (recordOf workspaceData)).records hub.dnsRecords
                  (platform.dnsReply hub.drawn) } : Hub).database = some workspaceData := found
        apply wp_markDeleted later
        exact ⟨if_pos fun _ => done, rfl⟩
      · simpa [recorded] using refused
    · rename_i unrecorded
      apply wp_markDeleted found
      exact ⟨if_pos fun recorded => absurd recorded unrecorded, rfl⟩
  · rw [found, Option.bind_some]
    exact ⟨if_neg fun both => mismatch both.1, trivial⟩
  · simp [missing]

/-- The workspaces that are left are those with another index. -/
theorem mem_withoutWorkspace {database : Database} {workspaceIdx : ℕ} {now : ℤ}
    {workspace : WorkspaceRow} :
    workspace ∈ (withoutWorkspace database workspaceIdx now).workspaces ∧
        workspace.workspaceDeletedAt = none ↔
      workspace ∈ database.workspaces ∧ workspace.workspaceDeletedAt = none ∧
        workspace.workspaceIndex ≠ workspaceIdx := by
  have rows : workspace ∈ (withoutWorkspace database workspaceIdx now).workspaces ↔
      ∃ row ∈ database.workspaces, workspace =
        if row.workspaceIndex == workspaceIdx then deletedRow now row else row :=
    @Table.mem_updateMany _ _ database.workspaces _ (deletedRow now) (fun _ => rfl) workspace
  rw [rows]
  constructor
  · rintro ⟨⟨row, inside, rfl⟩, alive⟩
    split at alive
    · cases alive
    · rename_i other
      rw [if_neg other]
      exact ⟨inside, alive, fun same => other (beq_iff_eq.mpr same)⟩
  · rintro ⟨inside, alive, other⟩
    exact ⟨⟨workspace, inside, (if_neg fun same => other (beq_iff_eq.mp same)).symm⟩, alive⟩

/-- A deletion strands no agent exactly if no agent names the workspace. -/
theorem withoutWorkspace_releasable_iff {database : Database} (workspaceIdx : ℕ) (now : ℤ)
    (all : AllReleasable database) :
    AllReleasable (withoutWorkspace database workspaceIdx now) ↔
      ∀ agent ∈ database.agents, agent.agentParentWorkspace ≠ some workspaceIdx := by
  constructor
  · intro after agent inside named
    have bound : agent.agentConnection ≠ .unlinked := fun free => by
      rw [(all agent inside).unlinked_iff.mp free] at named
      cases named
    obtain ⟨workspace, left, parent, alive⟩ := (after agent inside).parent bound
    rw [named] at parent
    exact (mem_withoutWorkspace.mp ⟨left, alive⟩).2.2 (Option.some.inj parent).symm
  · intro left agent inside
    refine ⟨(all agent inside).unlinked_iff, fun bound => ?_⟩
    obtain ⟨workspace, member, parent, alive⟩ := (all agent inside).parent bound
    have other : workspace.workspaceIndex ≠ workspaceIdx := fun same =>
      left agent inside (by rw [parent, same])
    obtain ⟨member, alive⟩ := mem_withoutWorkspace.mpr ⟨member, alive, other⟩
    exact ⟨workspace, member, parent, alive⟩

end Keeps

/-! ## Runs -/

section Runs

variable (platform : Platform)

/-- A call other than a deletion leaves agents that can be released. -/
theorem serve_releasable {hub : Hub} {call : BindingCall} (all : AllReleasable hub.database)
    (other : ∀ owner workspaceIdx ownerDisplay confirmation,
      call ≠ .deleteWorkspace owner workspaceIdx ownerDisplay confirmation) :
    AllReleasable (serve platform hub call).2.database := by
  have ends : wp (bindingProgram platform call) (fun _ => Ends) (fun _ => Ends) hub := by
    cases call with
    | registerAgent ip agentUuid agentVersion protocolVersion =>
      exact (wp_bind _ _).mpr (registerAgent_releasable platform _ _ _ _ all)
    | requestConnect workspaceOwner targetWorkspaceIdx targetAgentCode workspaceOwnerName =>
      exact (wp_bind _ _).mpr (requestConnect_releasable _ _ _ _ all)
    | acceptConnectRequest agentCode agentUuid =>
      exact (wp_bind _ _).mpr (accept_releasable _ _ all)
    | rejectConnectRequest agentCode agentUuid =>
      exact (wp_bind _ _).mpr (reject_releasable _ _ all)
    | cancelRequest workspaceOwner targetWorkspaceIdx targetAgentCode =>
      refine (wp_bind _ _).mpr (releaseAgent_releasable _ _ _ _ _ _ (fun agentUuid hub => ?_) all)
      exact sendToAgent_database agentUuid _ hub
    | disconnectAgent workspaceOwner targetWorkspaceIdx targetAgentCode =>
      refine (wp_bind _ _).mpr (releaseAgent_releasable _ _ _ _ _ _ (fun agentUuid hub => ?_) all)
      exact disconnectAgent_database agentUuid hub
    | deleteWorkspace owner workspaceIdx ownerDisplay confirmation =>
      exact absurd rfl (other owner workspaceIdx ownerDisplay confirmation)
    | meanwhile sockets agentUuidToSocketId now => exact all
  exact run_of_wp _ ends

/-- After a call every agent can be released exactly if the call does not delete a workspace
that an agent names. -/
theorem serve_releasable_iff {hub : Hub} {call : BindingCall} (all : AllReleasable hub.database) :
    AllReleasable (serve platform hub call).2.database ↔ LeavesNoAgent platform hub call := by
  by_cases deletion : ∃ owner workspaceIdx ownerDisplay confirmation,
      call = .deleteWorkspace owner workspaceIdx ownerDisplay confirmation
  · obtain ⟨owner, workspaceIdx, ownerDisplay, confirmation, rfl⟩ := deletion
    refine @run_of_wp Hub Failure _ hub (fun after => AllReleasable after.database ↔ _)
      (bindingProgram platform _) ?_
    refine (wp_bind _ _).mpr (wp_mono _ (fun now after deleted => ?_) (fun _ after kept => ?_)
      (handleDeleteWorkspace_database platform owner workspaceIdx ownerDisplay confirmation))
    · rw [wp_pure, deleted.2, withoutWorkspace_releasable_iff workspaceIdx now all]
      simp [LeavesNoAgent, deleted.1]
    · rw [kept.2]
      exact iff_of_true all fun _ deleted => by simp [kept.1] at deleted
  · have other : ∀ owner workspaceIdx ownerDisplay confirmation,
        call ≠ .deleteWorkspace owner workspaceIdx ownerDisplay confirmation :=
      fun _ _ _ _ same => deletion ⟨_, _, _, _, same⟩
    refine iff_of_true (serve_releasable platform all other) fun _ deleted => ?_
    cases call with
    | deleteWorkspace owner workspaceIdx ownerDisplay confirmation =>
      exact absurd rfl (other owner workspaceIdx ownerDisplay confirmation)
    | _ => cases deleted

/-- From agents that can be released, they all can in every state of a run exactly if no
step of it deletes a workspace that an agent still names. -/
theorem releasable_along_iff (start : Hub) (calls : List BindingCall)
    (all : AllReleasable start.database) :
    Each (serve platform) (fun hub call => AllReleasable (serve platform hub call).2.database)
        start calls ↔
      Each (serve platform) (LeavesNoAgent platform) start calls :=
  each_kept_iff (fun hub : Hub => AllReleasable hub.database)
    (fun _ _ => serve_releasable_iff platform) all

end Runs

/-- Two workspaces of one owner, and no agents. -/
def twoWorkspaces : Hub where
  database.workspaces := (Table.empty.create fun index =>
    { workspaceIndex := index
      workspaceOwner := 1
      workspaceName := "W"
      workspaceCreatedAt := 0 }).create fun index =>
    { workspaceIndex := index
      workspaceOwner := 1
      workspaceName := "V"
      workspaceCreatedAt := 0 }
  now := 0

/-- A new agent registers, is asked for by the first workspace and accepts. -/
def linkingCalls : List BindingCall :=
  [.registerAgent "127.0.0.1" none none (some (.number (.finite (Decimal.ofInt 1)))),
    .meanwhile (fun _ => { connected := true, data.signingSecret := some "secret" }) [("U", 0)] 1,
    .requestConnect 1 1 "C" "owner",
    .acceptConnectRequest "C" "U"]

/-- The workspace is deleted when the agent has been released. -/
def releasedFirst : List BindingCall :=
  linkingCalls ++ [.disconnectAgent 1 1 "C", .deleteWorkspace 1 1 "owner" "owner/W"]

theorem releasable_along_releasedFirst :
    Each (serve AgentGateway.fixedPlatform)
      (fun hub call => AllReleasable (serve AgentGateway.fixedPlatform hub call).2.database)
      twoWorkspaces releasedFirst := by
  apply (releasable_along_iff AgentGateway.fixedPlatform twoWorkspaces releasedFirst _).mpr
  · decide +kernel
  · decide +kernel

/-- The workspace of a linked agent is deleted. -/
theorem not_releasable_along_stranded :
    ¬ Each (serve AgentGateway.fixedPlatform)
      (fun hub call => AllReleasable (serve AgentGateway.fixedPlatform hub call).2.database)
      twoWorkspaces (linkingCalls ++ [.deleteWorkspace 1 1 "owner" "owner/W"]) := by
  decide +kernel

end WorkspaceService

end OpticsHub
