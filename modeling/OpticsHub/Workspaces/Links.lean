import OpticsHub.Workspaces.Actions
import OpticsHub.Workspaces.Releasable
import OpticsHub.Workspaces.Subdomains

/-!
# Only an acceptance links an agent

Agents register, are asked for, reject, and are released; workspaces are made, changed and
deleted. Nothing of this links an agent, or moves one that is linked, and nothing brings a
deleted workspace back: its subdomain stays inactive, since an owner does not find a deleted
workspace. Services and endpoints are not written either. Only when an agent accepts a request
there is one more that is linked.
-/
namespace OpticsHub

open Script Async Program

namespace WorkspaceService

open AgentService AgentGateway

/-- Who is linked was linked before, to the same workspace. -/
def LinksNone (before after : Database) : Prop :=
  ∀ agent ∈ after.agents, agent.agentConnection = .linked →
    ∃ older ∈ before.agents, older.agentIndex = agent.agentIndex ∧
      older.agentParentWorkspace = agent.agentParentWorkspace ∧ older.agentConnection = .linked

/-- A workspace is deleted, and its subdomain is not active. -/
def Retired (workspace : WorkspaceRow) : Prop :=
  workspace.workspaceDeletedAt ≠ none ∧ workspace.workspaceSubdomainActive = false

/-- Retired workspaces stay so, apart from one with an index that may be given. -/
def StayRetired (freed : Option ℕ) (before after : Table WorkspaceRow) : Prop :=
  ∀ workspace ∈ before, Retired workspace → freed ≠ some workspace.workspaceIndex →
    ∃ later ∈ after, later.workspaceIndex = workspace.workspaceIndex ∧ Retired later

/-- What is done besides accepting requests and working on services. -/
structure Outside (freed : Option ℕ) (before after : Hub) : Prop where
  agents : LinksNone before.database after.database
  workspaces : StayRetired freed before.database.workspaces after.database.workspaces
  services : after.database.services = before.database.services
  endpoints : after.database.serviceEndpoints = before.database.serviceEndpoints

section Tables

variable {before after : Database} {freed : Option ℕ} {workspaces : Table WorkspaceRow}

theorem linksNone_of_eq (agents : after.agents = before.agents) : LinksNone before after := by
  intro agent inside linked
  rw [agents] at inside
  exact ⟨agent, inside, rfl, rfl, linked⟩

theorem LinksNone.trans {third : Database} (first : LinksNone before after)
    (second : LinksNone after third) : LinksNone before third := by
  intro agent inside linked
  obtain ⟨middle, here, index, parent, linked'⟩ := second agent inside linked
  obtain ⟨older, there, index', parent', linked''⟩ := first middle here linked'
  exact ⟨older, there, index'.trans index, parent'.trans parent, linked''⟩

/-- A change of agents links none if it moves none that it leaves linked. -/
theorem linksNone_updateMany {selected : AgentRow → Bool} {change : AgentRow → AgentRow}
    {keyed : ∀ row, (change row).agentIndex = row.agentIndex}
    (changed : ∀ row, (change row).agentConnection = .linked →
      row.agentConnection = .linked ∧
        row.agentParentWorkspace = (change row).agentParentWorkspace) :
    LinksNone before
      { before with agents := before.agents.updateMany selected change keyed } := by
  intro agent (inside : agent ∈ before.agents.updateMany selected change keyed) linked
  obtain ⟨row, here, rfl⟩ := Table.mem_updateMany.mp inside
  split at linked
  · rename_i chosen
    obtain ⟨linked', parent⟩ := changed row linked
    rw [if_pos chosen]
    exact ⟨row, here, (keyed row).symm, parent, linked'⟩
  · rename_i other
    rw [if_neg other]
    exact ⟨row, here, rfl, rfl, linked⟩

theorem linksNone_create {row : ℕ → AgentRow} {keyed : ∀ n, (row n).agentIndex = n}
    (free : ∀ n, (row n).agentConnection = .unlinked) :
    LinksNone before { before with agents := before.agents.create row keyed } := by
  intro agent (inside : agent ∈ before.agents.create row keyed) linked
  rcases Table.mem_create.mp inside with older | rfl
  · exact ⟨agent, older, rfl, rfl, linked⟩
  · rw [free] at linked
    cases linked

theorem stayRetired_refl : StayRetired freed workspaces workspaces :=
  fun workspace inside retired _ => ⟨workspace, inside, rfl, retired⟩

theorem StayRetired.trans {first second third : Table WorkspaceRow}
    (earlier : StayRetired freed first second) (later : StayRetired freed second third) :
    StayRetired freed first third := by
  intro workspace inside retired other
  obtain ⟨middle, here, index, retired'⟩ := earlier workspace inside retired other
  obtain ⟨last, there, index', retired''⟩ := later middle here retired' (index ▸ other)
  exact ⟨last, there, index'.trans index, retired''⟩

/-- A write to the row that is found keeps the retired ones if it keeps that one. -/
theorem stayRetired_updateMany {selected : WorkspaceRow → Bool}
    {change : WorkspaceRow → WorkspaceRow}
    {keyed : ∀ row, (change row).workspaceIndex = row.workspaceIndex} {found : WorkspaceRow}
    (first : workspaces.findFirst selected = some found)
    (kept : Retired found → freed ≠ some found.workspaceIndex → Retired (change found)) :
    StayRetired freed workspaces
      (workspaces.updateMany (fun other => other.workspaceIndex == found.workspaceIndex) change
        keyed) := by
  intro workspace inside retired other
  refine ⟨_, Table.mem_updateMany.mpr ⟨workspace, inside, rfl⟩, ?_⟩
  split
  · rename_i same
    obtain rfl := Table.eq_of_key inside (Table.mem_of_findFirst first).1 (beq_iff_eq.mp same)
    exact ⟨keyed workspace, kept retired other⟩
  · exact ⟨rfl, retired⟩

theorem stayRetired_create {row : ℕ → WorkspaceRow} {keyed : ∀ n, (row n).workspaceIndex = n} :
    StayRetired freed workspaces (workspaces.create row keyed) :=
  fun workspace inside retired _ =>
    ⟨workspace, Table.mem_create.mpr (.inl inside), rfl, retired⟩

end Tables

section Hubs

variable {freed : Option ℕ} {hub : Hub}

theorem outside_of_eq {before after : Hub} (same : after.database = before.database) :
    Outside freed before after where
  agents := linksNone_of_eq (by rw [same])
  workspaces := by
    rw [same]
    exact stayRetired_refl
  services := by rw [same]
  endpoints := by rw [same]

theorem outside_refl (hub : Hub) : Outside freed hub hub := outside_of_eq rfl

theorem Outside.trans {first second third : Hub} (earlier : Outside freed first second)
    (later : Outside freed second third) : Outside freed first third where
  agents := earlier.agents.trans later.agents
  workspaces := earlier.workspaces.trans later.workspaces
  services := later.services.trans earlier.services
  endpoints := later.endpoints.trans earlier.endpoints

theorem idles_outside : Idles (Outside freed) := fun _ _ same => outside_of_eq same

theorem outside_look {α : Type} (view : Hub → α) :
    Always (Outside freed) (look view : HubProgram α) :=
  always_look outside_refl view

/-- An update of an agent that links none. -/
theorem outside_updateAgent {selected : AgentRow → Bool} {change : AgentRow → AgentRow}
    {keyed : ∀ row, (change row).agentIndex = row.agentIndex}
    (changed : ∀ row, (change row).agentConnection = .linked →
      row.agentConnection = .linked ∧
        row.agentParentWorkspace = (change row).agentParentWorkspace) :
    Always (Outside freed) (updateAgent selected change keyed) := by
  apply always_atomically
  intro hub
  split
  · exact outside_refl hub
  · exact ⟨linksNone_updateMany changed, stayRetired_refl, rfl, rfl⟩

/-- The write of an owner links no agent. -/
theorem outside_updateByCode (agentCode : Text) {connection : ConnectionStatus}
    (parent : Option ℕ) (unlinked : connection ≠ .linked) :
    Always (Outside freed) (updateByCode agentCode connection parent) :=
  outside_updateAgent fun _ linked => absurd linked unlinked

/-- A write to a workspace that does not bring it back. -/
theorem outside_updateWorkspace {selected : WorkspaceRow → Bool}
    {change : ℤ → WorkspaceRow → WorkspaceRow}
    {keyed : ∀ now row, (change now row).workspaceIndex = row.workspaceIndex}
    (kept : ∀ now row, selected row = true → Retired row → freed ≠ some row.workspaceIndex →
      Retired (change now row)) :
    Always (Outside freed) (updateWorkspace selected change keyed) := by
  apply always_atomically
  intro hub
  split
  · exact outside_refl hub
  · rename_i row found
    refine ⟨linksNone_of_eq rfl, ?_, rfl, rfl⟩
    refine @stayRetired_updateMany _ _ _ _ (keyed hub.now) _ found ?_
    exact kept hub.now row (Table.mem_of_findFirst found).2

/-! ## Workspaces -/

variable (platform : Platform)

theorem outside_create (owner : Int32) (workspaceName workspaceSubdomain : Option Text) :
    Always (Outside freed)
      (handleCreateWorkspace platform owner workspaceName workspaceSubdomain) := by
  have writes (name : Text) (dnsRecordId : Option Text) :
      Always (Outside freed) (createWorkspace owner name workspaceSubdomain dnsRecordId) := by
    apply always_atomically
    intro hub
    dsimp only
    split
    · exact outside_refl hub
    · exact ⟨linksNone_of_eq rfl, stayRetired_create, rfl, rfl⟩
  refine Always.bind ?_ fun name => ?_
  · cases workspaceName with
    | some name => exact always_pure _
    | none => exact (outside_look _).bind fun _ => always_pure _
  · dsimp only
    split
    · refine Always.bind ?_ fun dnsRecordId => writes name dnsRecordId
      refine (outside_look _).bind fun count => ?_
      split
      · exact always_pure _
      · refine (outside_look _).bind fun taken => ?_
        split
        · exact always_pure _
        · exact always_createDnsRecord idles_outside platform _
    · exact (always_pure _).bind fun dnsRecordId => writes name dnsRecordId

theorem outside_delete (owner : Int32) (workspaceIdx : ℕ) (ownerDisplay confirmation : Text) :
    Always (Outside freed)
      (handleDeleteWorkspace platform owner workspaceIdx ownerDisplay confirmation) := by
  refine (outside_look _).bind fun workspace => (always_orThrow _ _).bind fun workspace => ?_
  refine (always_require _ _).bind fun _ => Always.bind ?_ fun _ => ?_
  · rw [deleteDnsRecord]
    split
    · exact (always_changeDnsRecord idles_outside platform _).bind fun _ => always_require _ _
    · exact always_pure _
  · refine (outside_look _).bind fun now => ?_
    refine Always.bind (outside_updateWorkspace fun _ _ _ _ _ => ?_) fun _ => always_pure _
    exact ⟨Option.some_ne_none _, rfl⟩

/-- A write of the subdomain of a workspace may bring it back only. -/
theorem outside_writes {workspaceIdx : ℕ} (change : ℤ → WorkspaceRow → WorkspaceRow)
    (keyed : ∀ now row, (change now row).workspaceIndex = row.workspaceIndex)
    (_ : OfSubdomain change) :
    Always (Outside (some workspaceIdx))
      (updateWorkspace (fun row => row.workspaceIndex == workspaceIdx) change keyed) :=
  outside_updateWorkspace fun _ _ selected _ other =>
    absurd (congrArg some (beq_iff_eq.mp selected).symm) other

/-- The owner of a workspace finds it only while it is not deleted, so that a workspace whose
subdomain is written is not a retired one. -/
theorem outside_owned (owner : Int32) (workspaceIdx : ℕ) {after : Hub}
    (whole : Outside (some workspaceIdx) hub after)
    (missing : ownedWorkspace owner workspaceIdx hub.database = none → after = hub) :
    Outside none hub after := by
  cases found : ownedWorkspace owner workspaceIdx hub.database with
  | none =>
    rw [missing found]
    exact outside_refl hub
  | some workspace =>
    refine ⟨whole.agents, fun retired inside deleted _ => ?_, whole.services, whole.endpoints⟩
    refine whole.workspaces retired inside deleted fun same => ?_
    obtain ⟨here, selected⟩ := Table.mem_of_findFirst found
    simp only [owned, Bool.and_eq_true, beq_iff_eq, Option.isNone_iff_eq_none] at selected
    obtain rfl := Table.eq_of_key inside here
      ((Option.some.inj same).symm.trans selected.1.1.symm)
    exact deleted.1 selected.2

/-- Every operation of workspaces is one of those that link no agent. -/
theorem outside_subdomainProgram (hub : Hub) (call : SubdomainCall) :
    Outside none hub ((subdomainProgram platform call).run hub).2 := by
  have whole {program : HubProgram Unit} {freed : Option ℕ}
      (always : Always (Outside freed) program) : Outside freed hub (program.run hub).2 :=
    always.run outside_refl Outside.trans hub
  cases call with
  | create owner name subdomain =>
    exact whole ((outside_create platform owner name subdomain).bind fun _ => always_pure _)
  | toggle owner workspaceIdx active =>
    apply outside_owned owner workspaceIdx
    · exact whole ((always_toggle idles_outside platform outside_writes owner active).bind
        fun _ => always_pure _)
    · intro missing
      refine @run_of_wp Hub Failure _ hub (fun after => after = hub) _ ?_
      simp only [subdomainProgram, handleToggleWorkspaceSubdomain, wp_bind, wp_look, missing,
        wp_orThrow, reduceCtorEq, false_implies, implies_true, and_true]
  | update owner workspaceIdx subdomain =>
    apply outside_owned owner workspaceIdx
    · exact whole ((always_update idles_outside platform outside_writes owner subdomain).bind
        fun _ => always_pure _)
    · intro missing
      refine @run_of_wp Hub Failure _ hub (fun after => after = hub) _ ?_
      simp only [subdomainProgram, handleUpdateWorkspaceSubdomain, wp_bind, wp_look, missing,
        wp_orThrow, reduceCtorEq, false_implies, implies_true, and_true]
  | delete owner workspaceIdx ownerDisplay confirmation =>
    exact whole ((outside_delete platform owner workspaceIdx ownerDisplay confirmation).bind
      fun _ => always_pure _)

/-! ## Connections -/

theorem outside_sendToAgent (agentUuid : Text) (packet : AgentPacket) (hub : Hub) :
    Outside freed hub (sendToAgent agentUuid packet hub).2 :=
  outside_of_eq (sendToAgent_database agentUuid packet hub)

theorem outside_registerAgent (ip : Text) (agentUuid agentVersion protocolVersion : Option Value) :
    Always (Outside freed)
      (registerAgent platform ip agentUuid agentVersion protocolVersion) := by
  have found (uuid : Value) : Always (Outside freed) (findExist platform uuid) := by
    rw [findExist]
    split
    · exact (always_orThrow _ _).bind fun _ => outside_look _
    · exact always_pure _
  refine (found _).bind fun exist => ?_
  refine (always_orThrow _ _).bind fun version => ?_
  refine (always_orThrow _ _).bind fun protocol => ?_
  split
  · apply always_atomically
    intro hub
    split
    · exact outside_refl hub
    · exact ⟨linksNone_updateMany fun _ linked => ⟨linked, rfl⟩, stayRetired_refl, rfl, rfl⟩
  · exact always_throw _
  · apply always_atomically
    intro hub
    dsimp only
    split
    · exact outside_refl hub
    · exact ⟨linksNone_create fun _ => rfl, stayRetired_refl, rfl, rfl⟩

theorem outside_requestConnect (workspaceOwner : Int32) (targetWorkspaceIdx : ℕ)
    (targetAgentCode workspaceOwnerName : Text) :
    Always (Outside freed) (requestConnectWorkspaceAndAgent workspaceOwner targetWorkspaceIdx
      targetAgentCode workspaceOwnerName) := by
  refine (outside_look _).bind fun workspace => (always_orThrow _ _).bind fun workspace => ?_
  refine (outside_look _).bind fun agent => Always.bind ?_ fun agent => ?_
  · refine (always_orThrow _ _).bind fun agent => ?_
    refine (always_require _ _).bind fun _ => (always_require _ _).bind fun _ => always_pure _
  · refine (outside_updateByCode _ _ (by decide)).bind fun updated => ?_
    refine Always.bind (always_step fun hub => outside_sendToAgent _ _ hub) fun sent => ?_
    split
    · exact always_pure _
    · refine (outside_updateByCode _ _ (by decide)).bind fun _ => ?_
      exact always_atomically fun hub => outside_of_eq rfl

theorem outside_reject (agentCode agentUuid : Text) :
    Always (Outside freed) (handleRejectConnectRequest agentCode agentUuid) := by
  refine (outside_look _).bind fun agent => (always_orThrow _ _).bind fun agent => ?_
  refine (outside_updateAgent fun _ linked => ?_).bind fun _ => ?_
  · cases linked
  · exact always_step fun hub => outside_of_eq rfl

theorem outside_releaseAgent (workspaceOwner : Int32) (targetWorkspaceIdx : ℕ)
    (targetAgentCode : Text) (expected : ConnectionStatus) (notFound unexpected : Failure)
    {tell : Text → Hub → Hub}
    (silent : ∀ agentUuid hub, (tell agentUuid hub).database = hub.database) :
    Always (Outside freed) (releaseAgent workspaceOwner targetWorkspaceIdx targetAgentCode expected
      notFound unexpected tell) := by
  refine (outside_look _).bind fun agent => (always_orThrow _ _).bind fun agent => ?_
  refine (always_require _ _).bind fun _ => ?_
  refine (outside_updateByCode _ _ (by decide)).bind fun updated => ?_
  exact always_step fun hub => outside_of_eq (silent _ _)

/-- Only the acceptance of a request links an agent. -/
theorem outside_bindingProgram {call : BindingCall}
    (other : ∀ agentCode agentUuid, call ≠ .acceptConnectRequest agentCode agentUuid)
    (hub : Hub) : Outside none hub ((bindingProgram platform call).run hub).2 := by
  refine Always.run ?_ outside_refl Outside.trans hub
  cases call with
  | registerAgent ip agentUuid agentVersion protocolVersion =>
    exact (outside_registerAgent platform _ _ _ _).bind fun _ => always_pure _
  | requestConnect workspaceOwner targetWorkspaceIdx targetAgentCode workspaceOwnerName =>
    exact (outside_requestConnect _ _ _ _).bind fun _ => always_pure _
  | acceptConnectRequest agentCode agentUuid => exact absurd rfl (other agentCode agentUuid)
  | rejectConnectRequest agentCode agentUuid =>
    exact (outside_reject _ _).bind fun _ => always_pure _
  | cancelRequest workspaceOwner targetWorkspaceIdx targetAgentCode =>
    refine (outside_releaseAgent _ _ _ _ _ _ fun agentUuid hub => ?_).bind fun _ => always_pure _
    exact sendToAgent_database agentUuid _ hub
  | disconnectAgent workspaceOwner targetWorkspaceIdx targetAgentCode =>
    refine (outside_releaseAgent _ _ _ _ _ _ fun agentUuid hub => ?_).bind fun _ => always_pure _
    exact disconnectAgent_database agentUuid hub
  | deleteWorkspace owner workspaceIdx ownerDisplay confirmation =>
    exact (outside_delete platform _ _ _ _).bind fun _ => always_pure _
  | meanwhile sockets agentUuidToSocketId now => exact always_step fun _ => outside_of_eq rfl

end Hubs

end WorkspaceService

end OpticsHub
