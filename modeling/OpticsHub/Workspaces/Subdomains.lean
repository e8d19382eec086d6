import OpticsHub.Agent.Authenticated
import OpticsHub.Async.History
import OpticsHub.Workspaces.WorkspaceService

/-!
# Subdomains under concurrency

A subdomain is activated after three questions: how many are active, whether another
workspace has this one, and whether the DNS provider makes a record. The write that follows
names the workspace by its index alone. The change of a subdomain and the deletion of a
workspace are built the same way. So between the questions and the write the answers may
change. Here every action of these calls is first reduced to what it does to the table of
workspaces, as far as the states that the call has met tell it. What a call may spoil is then
a matter of one write to one table: the limit and the uniqueness of active subdomains hold in
every state exactly if every such write is still safe when it is made, and a deleted
workspace stays without a record when none that activates finds its workspace deleted.
-/
namespace OpticsHub

open Script Async Program Machine

namespace WorkspaceService

/-! ## Calls -/

inductive SubdomainCall where
  | create (owner : Int32) (workspaceName workspaceSubdomain : Option Text)
  | toggle (owner : Int32) (workspaceIdx : ℕ) (active : Bool)
  | update (owner : Int32) (workspaceIdx : ℕ) (subdomain : Option Text)
  | delete (owner : Int32) (workspaceIdx : ℕ) (ownerDisplay confirmation : Text)

/-- Something that another part of the Hub does at once. Only these calls write the table of
workspaces. -/
structure Besides where
  change : Hub → Hub
  keeps : ∀ hub, (change hub).database.workspaces = hub.database.workspaces

def besides (hub : Hub) (event : Besides) : Unit × Hub := ((), event.change hub)

section Calls

variable (platform : Platform)

def subdomainProgram : SubdomainCall → HubProgram Unit
  | .create owner workspaceName workspaceSubdomain => do
    let _ ← handleCreateWorkspace platform owner workspaceName workspaceSubdomain
  | .toggle owner workspaceIdx active => do
    let _ ← handleToggleWorkspaceSubdomain platform owner workspaceIdx active
  | .update owner workspaceIdx subdomain => do
    let _ ← handleUpdateWorkspaceSubdomain platform owner workspaceIdx subdomain
  | .delete owner workspaceIdx ownerDisplay confirmation => do
    let _ ← handleDeleteWorkspace platform owner workspaceIdx ownerDisplay confirmation

/-- Calls that interleave, while the rest of the Hub does anything else. -/
abbrev subdomainCalls : Transition (Config SubdomainCall Hub Failure Unit)
    (Move SubdomainCall Besides) (Shown Unit Hub) :=
  observed (subdomainProgram platform) besides

end Calls

/-! ## Writes that may spoil something -/

/-- A write that makes a subdomain active, or another one. -/
inductive SubdomainWrite where
  | create (owner : Int32) (workspaceName subdomain : Text)
  | activate (workspaceIdx : ℕ)
  | rename (workspaceIdx : ℕ) (subdomain : Text)
  deriving DecidableEq

/-- The name that a workspace without one gets. -/
def countedName (owner : Int32) (hub : Hub) : Text :=
  Text.ofString ("Unnamed Workspace " ++ toString
    (hub.database.workspaces.count (fun workspace => workspace.workspaceOwner == owner) + 1))

/-- The subdomain that an update asks for: none if there is nothing in the text. -/
def requestedSubdomain (subdomain : Option Text) : Option Text :=
  (subdomain.map Text.trim).filter fun text => !text.isEmpty

section Next

variable (platform : Platform)

/-- The write with which a call goes on, by the states that it has met: a creation after the
provider has made the record, an activation after the question to the provider, and a change
of a subdomain after the question to the provider, or after the query for a workspace without
a record. -/
def SubdomainCall.nextWrite : SubdomainCall → List Hub → Option SubdomainWrite
  | .create owner (some name) (some (unit :: units)), [_, _, asked] =>
    if succeeded (platform.dnsReply asked.drawn) then some (.create owner name (unit :: units))
    else none
  | .create owner none (some (unit :: units)), [named, _, _, asked] =>
    if succeeded (platform.dnsReply asked.drawn) then
      some (.create owner (countedName owner named) (unit :: units))
    else none
  | .toggle _ workspaceIdx true, [_, _, _, _] => some (.activate workspaceIdx)
  | .update owner workspaceIdx subdomain, [found] =>
    (requestedSubdomain subdomain).bind fun subdomain =>
      if (ownedWorkspace owner workspaceIdx found.database).any fun workspace =>
          workspace.workspaceSubdomainActive && present workspace.workspaceDnsRecordId then none
      else some (.rename workspaceIdx subdomain)
  | .update _ workspaceIdx subdomain, [_, _, _] =>
    (requestedSubdomain subdomain).map (.rename workspaceIdx)
  | _, _ => none

end Next

/-- A row of a new workspace. -/
def newRow (owner : Int32) (name : Text) (subdomain dnsRecordId : Option Text) (now : ℤ)
    (index : ℕ) : WorkspaceRow where
  workspaceIndex := index
  workspaceOwner := owner
  workspaceName := name
  workspaceSubdomain := subdomain
  workspaceSubdomainActive := dnsRecordId.isSome
  workspaceDnsRecordId := dnsRecordId
  workspaceCreatedAt := now

/-- A row whose subdomain is made active. -/
def activatedRow (dnsRecordId : Option Text) (row : WorkspaceRow) : WorkspaceRow :=
  { row with workspaceSubdomainActive := true, workspaceDnsRecordId := dnsRecordId }

/-- A row that gets another subdomain. -/
def renamedRow (subdomain : Text) (row : WorkspaceRow) : WorkspaceRow :=
  { row with workspaceSubdomain := some subdomain }

/-- An owner has a workspace of a name, deleted ones included. -/
def HasName (owner : Int32) (name : Text) (workspaces : Table WorkspaceRow) : Prop :=
  ∃ row ∈ workspaces, row.workspaceOwner = owner ∧ row.workspaceName = name

/-- A change that makes a subdomain inactive and drops its record. -/
structure Releases (change : WorkspaceRow → WorkspaceRow) : Prop where
  keyed : ∀ row, (change row).workspaceIndex = row.workspaceIndex
  inactive : ∀ row, (change row).workspaceSubdomainActive = false
  unrecorded : ∀ row, (change row).workspaceDnsRecordId = none

/-- What an action does to the table of workspaces, when the call goes on with a write or with
something else. -/
inductive SubdomainStep : Option SubdomainWrite → Table WorkspaceRow → Table WorkspaceRow → Prop
  | nothing (workspaces : Table WorkspaceRow) : SubdomainStep none workspaces workspaces
  | release (selected : WorkspaceRow → Bool) {change : WorkspaceRow → WorkspaceRow}
      (releases : Releases change) (workspaces : Table WorkspaceRow) :
      SubdomainStep none workspaces (workspaces.updateMany selected change releases.keyed)
  | createInactive (owner : Int32) (name : Text) (subdomain : Option Text) (now : ℤ)
      (workspaces : Table WorkspaceRow) :
      SubdomainStep none workspaces (workspaces.create (newRow owner name subdomain none now))
  | create {owner : Int32} {name : Text} (subdomain recordId : Text) (now : ℤ)
      {workspaces : Table WorkspaceRow} (fresh : ¬ HasName owner name workspaces) :
      SubdomainStep (some (.create owner name subdomain)) workspaces
        (workspaces.create (newRow owner name (some subdomain) (some recordId) now))
  | refused {owner : Int32} {name : Text} (subdomain : Text) {workspaces : Table WorkspaceRow}
      (taken : HasName owner name workspaces) :
      SubdomainStep (some (.create owner name subdomain)) workspaces workspaces
  | activate (dnsRecordId : Option Text) {row : WorkspaceRow} {workspaces : Table WorkspaceRow}
      (inside : row ∈ workspaces) :
      SubdomainStep (some (.activate row.workspaceIndex)) workspaces
        (workspaces.updateMany (fun other => other.workspaceIndex == row.workspaceIndex)
          (activatedRow dnsRecordId) fun _ => rfl)
  | rename (subdomain : Text) {row : WorkspaceRow} {workspaces : Table WorkspaceRow}
      (inside : row ∈ workspaces) :
      SubdomainStep (some (.rename row.workspaceIndex subdomain)) workspaces
        (workspaces.updateMany (fun other => other.workspaceIndex == row.workspaceIndex)
          (renamedRow subdomain) fun _ => rfl)
  | missing {write : SubdomainWrite} (workspaceIdx : ℕ) {workspaces : Table WorkspaceRow}
      (names : write = .activate workspaceIdx ∨ ∃ subdomain, write = .rename workspaceIdx subdomain)
      (absent : ∀ row ∈ workspaces, row.workspaceIndex ≠ workspaceIdx) :
      SubdomainStep (some write) workspaces workspaces

/-! ## What the calls do -/

section Steps

variable {platform : Platform} {call : SubdomainCall} {seen : List Hub}

/-- An action of a call, after the states that it has met, does this to the workspaces. -/
abbrev StepsBy (platform : Platform) (call : SubdomainCall) (seen : List Hub)
    (before after : Hub) : Prop :=
  SubdomainStep (call.nextWrite platform seen) before.database.workspaces
    after.database.workspaces

/-- What is left of a call does what the call may do. -/
abbrev Stepping (platform : Platform) (call : SubdomainCall) (seen : List Hub) {α : Type}
    (program : HubProgram α) : Prop :=
  program.Heeds (fun _ _ => True) (StepsBy platform call) (fun _ _ => True) seen

/-- An action that leaves the workspaces as they are, where no write is due. -/
theorem stepsBy_same (none' : call.nextWrite platform seen = none) {before after : Hub}
    (same : after.database.workspaces = before.database.workspaces) :
    StepsBy platform call seen before after := by
  rw [StepsBy, none', same]
  exact .nothing _

/-- A look, where no write is due. -/
theorem stepping_look {α β : Type} {view : Hub → α} {rest : α → HubProgram β}
    (none' : call.nextWrite platform seen = none)
    (later : ∀ hub, Stepping platform call (seen ++ [hub]) (rest (view hub))) :
    Stepping platform call seen (look view >>= rest) :=
  Heeds.bind (heeds_look (fun _ => stepsBy_same none' rfl) fun hub _ => later hub)

/-- A question to the DNS provider, where no write is due. -/
theorem stepping_askDns {β : Type} {request : DnsRequest} {rest : DnsReply → HubProgram β}
    (none' : call.nextWrite platform seen = none)
    (later : ∀ hub, Stepping platform call (seen ++ [hub]) (rest (platform.dnsReply hub.drawn))) :
    Stepping platform call seen (askDns platform request >>= rest) :=
  Heeds.bind (heeds_step fun hub _ => ⟨stepsBy_same none' rfl, later hub⟩)

theorem stepping_orThrow {α β : Type} {value : Option α} {error : Failure}
    {rest : α → HubProgram β}
    (later : ∀ found, value = some found → Stepping platform call seen (rest found)) :
    Stepping platform call seen (orThrow value error >>= rest) :=
  Heeds.bind (heeds_orThrow later)

theorem stepping_require {β : Type} {condition : Prop} [Decidable condition] {error : Failure}
    {rest : PUnit → HubProgram β}
    (later : condition → Stepping platform call seen (rest ⟨⟩)) :
    Stepping platform call seen (require condition error >>= rest) :=
  Heeds.bind (heeds_require later)

/-- An update of the workspaces that goes on with anything that does no more. -/
theorem stepping_updateWorkspace {β : Type} {selected : WorkspaceRow → Bool}
    {change : ℤ → WorkspaceRow → WorkspaceRow}
    {keyed : ∀ now row, (change now row).workspaceIndex = row.workspaceIndex}
    {rest : WorkspaceRow → HubProgram β}
    (missing : ∀ hub : Hub, hub.database.workspaces.findFirst selected = none →
      StepsBy platform call seen hub hub)
    (writes : ∀ (hub : Hub) row, hub.database.workspaces.findFirst selected = some row →
      SubdomainStep (call.nextWrite platform seen) hub.database.workspaces
        (hub.database.workspaces.updateMany
          (fun other => other.workspaceIndex == row.workspaceIndex) (change hub.now)
          (keyed hub.now)))
    (later : ∀ row hub, Stepping platform call (seen ++ [hub]) (rest row)) :
    Stepping platform call seen (updateWorkspace selected change keyed >>= rest) := by
  refine Heeds.bind (heeds_atomically fun hub _ => ?_)
  split
  · rename_i absent
    exact ⟨missing hub absent, fun row ended => by cases ended⟩
  · rename_i row found
    exact ⟨writes hub row found, fun row _ => later row hub⟩

/-- An update that makes a subdomain inactive, where no other write is due. -/
theorem stepping_release {β : Type} {selected : WorkspaceRow → Bool}
    {change : ℤ → WorkspaceRow → WorkspaceRow}
    {keyed : ∀ now row, (change now row).workspaceIndex = row.workspaceIndex}
    {rest : WorkspaceRow → HubProgram β} (none' : call.nextWrite platform seen = none)
    (releases : ∀ now, Releases (change now))
    (later : ∀ row hub, Stepping platform call (seen ++ [hub]) (rest row)) :
    Stepping platform call seen (updateWorkspace selected change keyed >>= rest) := by
  refine stepping_updateWorkspace (fun hub _ => stepsBy_same none' rfl) (fun hub row _ => ?_) later
  rw [none']
  exact .release _ (releases hub.now) _

/-- The creation of a workspace. -/
theorem stepping_createWorkspace {β : Type} {owner : Int32} {name : Text}
    {subdomain dnsRecordId : Option Text} {rest : WorkspaceRow → HubProgram β}
    (due : call.nextWrite platform seen = none ∧ dnsRecordId = none ∨
      ∃ text recordId, call.nextWrite platform seen = some (.create owner name text) ∧
        subdomain = some text ∧ dnsRecordId = some recordId)
    (later : ∀ row hub, Stepping platform call (seen ++ [hub]) (rest row)) :
    Stepping platform call seen (createWorkspace owner name subdomain dnsRecordId >>= rest) := by
  refine Heeds.bind (heeds_atomically fun hub _ => ?_)
  dsimp only
  split
  · rename_i row found
    refine ⟨?_, fun row ended => by cases ended⟩
    obtain ⟨inside, same⟩ := Table.mem_of_findFirst found
    rw [Bool.and_eq_true, beq_iff_eq, beq_iff_eq] at same
    rcases due with ⟨none', -⟩ | ⟨text, recordId, write, -, -⟩
    · exact stepsBy_same none' rfl
    · rw [StepsBy, write]
      exact .refused text ⟨row, inside, same⟩
  · rename_i absent
    refine ⟨?_, fun row _ => later row hub⟩
    have fresh : ¬ HasName owner name hub.database.workspaces := by
      rintro ⟨row, inside, rfl, rfl⟩
      have other := Table.findFirst_eq_none.mp absent row inside
      simp at other
    rcases due with ⟨none', rfl⟩ | ⟨text, recordId, write, rfl, rfl⟩
    · rw [StepsBy, none']
      exact .createInactive owner name subdomain hub.now _
    · rw [StepsBy, write]
      exact .create text recordId hub.now fresh

/-- The end of a call. -/
theorem stepping_pure {α : Type} {value : α} :
    Stepping platform call seen (pure value : HubProgram α) := trivial

/-- A deletion releases the workspace, or does nothing. -/
theorem stepping_delete {owner : Int32} {workspaceIdx : ℕ} {ownerDisplay confirmation : Text} :
    Stepping platform (.delete owner workspaceIdx ownerDisplay confirmation) []
      (subdomainProgram platform (.delete owner workspaceIdx ownerDisplay confirmation)) := by
  have never (seen : List Hub) : (SubdomainCall.delete owner workspaceIdx ownerDisplay
      confirmation).nextWrite platform seen = none := rfl
  simp only [subdomainProgram, handleDeleteWorkspace, deleteDnsRecord, markDeleted, bind_assoc']
  refine stepping_look (never _) fun found => stepping_orThrow fun workspaceData _ =>
    stepping_require fun _ => ?_
  have marks (seen : List Hub) : Stepping platform
      (.delete owner workspaceIdx ownerDisplay confirmation) seen
      (look Hub.now >>= fun workspaceDeleteTimestamp =>
        updateWorkspace (owned owner workspaceIdx) (fun _ => deletedRow workspaceDeleteTimestamp)
          (fun _ _ => rfl) >>= fun _ => pure workspaceDeleteTimestamp >>= fun _ => pure ()) :=
    stepping_look (never _) fun hub => stepping_release (never _)
      (fun now => ⟨fun _ => rfl, fun _ => rfl, fun _ => rfl⟩) fun _ _ => stepping_pure
  split
  · simp only [changeDnsRecord, bind_assoc']
    exact stepping_askDns (never _) fun hub => stepping_require fun _ => marks _
  · exact marks _

/-- The DNS record goes first where a subdomain is released, then the row. -/
theorem stepping_drop {workspace : WorkspaceRow} {β : Type} {selected : WorkspaceRow → Bool}
    {change : ℤ → WorkspaceRow → WorkspaceRow}
    {keyed : ∀ now row, (change now row).workspaceIndex = row.workspaceIndex}
    {rest : WorkspaceRow → HubProgram β}
    (never : ∀ more, more.length ≤ 1 → call.nextWrite platform (seen ++ more) = none)
    (releases : ∀ now, Releases (change now))
    (later : ∀ row seen, Stepping platform call seen (rest row)) :
    Stepping platform call seen (dropDnsRecord platform workspace >>= fun _ =>
      updateWorkspace selected change keyed >>= rest) := by
  have here : call.nextWrite platform seen = none := List.append_nil seen ▸ never [] (by simp)
  have last (seen' : List Hub) (none' : call.nextWrite platform seen' = none) :
      Stepping platform call seen' (updateWorkspace selected change keyed >>= rest) :=
    stepping_release none' releases fun row _ => later row _
  rw [dropDnsRecord]
  split
  · simp only [changeDnsRecord, bind_assoc']
    exact stepping_askDns here fun hub => last _ (never [hub] (by simp))
  · exact last seen here

/-- A toggle activates after four questions, or releases. -/
theorem stepping_toggle {owner : Int32} {workspaceIdx : ℕ} {active : Bool} :
    Stepping platform (.toggle owner workspaceIdx active) []
      (subdomainProgram platform (.toggle owner workspaceIdx active)) := by
  simp only [subdomainProgram, handleToggleWorkspaceSubdomain, bind_assoc']
  refine stepping_look (by cases active <;> rfl) fun found =>
    stepping_orThrow fun workspace _ => ?_
  split
  · rename_i unit units named
    split
    · exact stepping_pure
    · cases active with
      | true =>
        rw [if_pos rfl]
        simp only [activateSubdomain, createDnsRecord, bind_assoc']
        refine stepping_look rfl fun counted => stepping_require fun _ =>
          stepping_look rfl fun taken => stepping_require fun _ =>
            stepping_askDns rfl fun asked => ?_
        split
        · refine stepping_require fun _ => stepping_updateWorkspace (fun hub absent => ?_)
            (fun hub row there => ?_) fun _ _ => stepping_pure
          · refine .missing workspaceIdx (.inl rfl) fun row inside same => ?_
            have other := Table.findFirst_eq_none.mp absent row inside
            simp [same] at other
          · obtain ⟨inside, same⟩ := Table.mem_of_findFirst there
            obtain rfl := beq_iff_eq.mp same
            exact .activate _ inside
        · exact stepping_require fun refused => absurd refused (by decide)
      | false =>
        rw [if_neg Bool.false_ne_true]
        simp only [deactivateSubdomain, bind_assoc']
        exact stepping_drop (fun _ _ => rfl) (fun _ => ⟨fun _ => rfl, fun _ => rfl, fun _ => rfl⟩)
          fun _ _ => stepping_pure
  · exact trivial

/-- An update of a subdomain renames or releases. -/
theorem stepping_update {owner : Int32} {workspaceIdx : ℕ} {subdomain : Option Text} :
    Stepping platform (.update owner workspaceIdx subdomain) []
      (subdomainProgram platform (.update owner workspaceIdx subdomain)) := by
  simp only [subdomainProgram, handleUpdateWorkspaceSubdomain, bind_assoc']
  refine stepping_look rfl fun hub => stepping_orThrow fun workspace found => ?_
  rw [← requestedSubdomain]
  have renames (seen : List Hub) (subdomain' : Text)
      (due : (SubdomainCall.update owner workspaceIdx subdomain).nextWrite platform seen =
        some (.rename workspaceIdx subdomain')) :
      Stepping platform (.update owner workspaceIdx subdomain) seen
        (updateWorkspace (fun row => row.workspaceIndex == workspaceIdx)
          (fun _ row => { row with workspaceSubdomain := some subdomain' }) >>= fun updated =>
            pure (subdomainOf updated) >>= fun _ => pure ()) := by
    refine stepping_updateWorkspace (fun hub absent => ?_) (fun hub row there => ?_)
      fun _ _ => stepping_pure
    · rw [StepsBy, due]
      refine .missing workspaceIdx (.inr ⟨subdomain', rfl⟩) fun row inside same => ?_
      have other := Table.findFirst_eq_none.mp absent row inside
      simp [same] at other
    · obtain ⟨inside, same⟩ := Table.mem_of_findFirst there
      obtain rfl := beq_iff_eq.mp same
      rw [due]
      exact .rename subdomain' inside
  split
  · exact stepping_pure
  · rename_i differs
    cases requested : requestedSubdomain subdomain with
    | none =>
      simp only [bind_assoc']
      refine stepping_drop (fun more short => ?_)
        (fun _ => ⟨fun _ => rfl, fun _ => rfl, fun _ => rfl⟩) fun _ _ => stepping_pure
      rcases more with _ | ⟨first, _ | ⟨second, more⟩⟩
      · simp [SubdomainCall.nextWrite, requested]
      · rfl
      · simp at short
    | some subdomain' =>
      simp only [bind_assoc', renameDnsRecord]
      split
      · rename_i recorded
        simp only [changeDnsRecord, bind_assoc']
        refine stepping_look ?_ fun taken => stepping_require fun _ =>
          stepping_askDns rfl fun asked => stepping_require fun _ => renames _ subdomain' ?_
        · simp [SubdomainCall.nextWrite, requested, found, recorded]
        · simp [SubdomainCall.nextWrite, requested]
      · rename_i unrecorded
        refine renames _ subdomain' ?_
        simp [SubdomainCall.nextWrite, requested, found, unrecorded]

/-- A creation with a subdomain creates an active workspace after the provider has made the
record, and an inactive one wherever else it ends. -/
theorem stepping_createActive {owner : Int32} {name subdomain : Text}
    (before : ∀ more : List Hub, more.length ≤ 2 →
      call.nextWrite platform (seen ++ more) = none)
    (due : ∀ counted taken asked, call.nextWrite platform (seen ++ [counted, taken, asked]) =
      if succeeded (platform.dnsReply asked.drawn) then some (.create owner name subdomain)
      else none) :
    Stepping platform call seen (tryActivateSubdomain platform subdomain none >>= fun dnsRecordId =>
      createWorkspace owner name (some subdomain) dnsRecordId >>= fun _ => pure ()) := by
  rw [tryActivateSubdomain, bind_assoc']
  refine stepping_look (List.append_nil seen ▸ before [] (by simp)) fun counted => ?_
  split
  · exact stepping_createWorkspace (.inl ⟨before [counted] (by simp), rfl⟩)
      fun _ _ => stepping_pure
  · rw [bind_assoc']
    refine stepping_look (before [counted] (by simp)) fun taken => ?_
    have both : call.nextWrite platform (seen ++ [counted] ++ [taken]) = none := by
      rw [List.append_assoc]
      exact before [counted, taken] (by simp)
    split
    · exact stepping_createWorkspace (.inl ⟨both, rfl⟩) fun _ _ => stepping_pure
    · rw [createDnsRecord, bind_assoc']
      refine stepping_askDns both fun asked => ?_
      have next := due counted taken asked
      rw [List.append_assoc, List.append_assoc]
      cases reply : platform.dnsReply asked.drawn with
      | success recordId =>
        rw [reply] at next
        exact stepping_createWorkspace (.inr ⟨subdomain, recordId, next, rfl, rfl⟩)
          fun _ _ => stepping_pure
      | refused =>
        rw [reply] at next
        exact stepping_createWorkspace (.inl ⟨next, rfl⟩) fun _ _ => stepping_pure
      | failed =>
        rw [reply] at next
        exact stepping_createWorkspace (.inl ⟨next, rfl⟩) fun _ _ => stepping_pure

/-- A creation, with the name or the query for it first. -/
theorem stepping_create {owner : Int32} {workspaceName workspaceSubdomain : Option Text} :
    Stepping platform (.create owner workspaceName workspaceSubdomain) []
      (subdomainProgram platform (.create owner workspaceName workspaceSubdomain)) := by
  rcases workspaceName with _ | name <;>
  rcases workspaceSubdomain with _ | ⟨_ | ⟨unit, units⟩⟩ <;>
  simp only [subdomainProgram, handleCreateWorkspace, newName, bind_assoc', pure_bind']
  · exact stepping_look rfl fun counted =>
      stepping_createWorkspace (.inl ⟨rfl, rfl⟩) fun _ _ => stepping_pure
  · exact stepping_look rfl fun counted =>
      stepping_createWorkspace (.inl ⟨rfl, rfl⟩) fun _ _ => stepping_pure
  · refine stepping_look rfl fun counted =>
      stepping_createActive (fun more short => ?_) fun _ _ _ => rfl
    rcases more with _ | ⟨_, _ | ⟨_, _ | ⟨_, more⟩⟩⟩
    · rfl
    · rfl
    · rfl
    · simp at short
  · exact stepping_createWorkspace (.inl ⟨rfl, rfl⟩) fun _ _ => stepping_pure
  · exact stepping_createWorkspace (.inl ⟨rfl, rfl⟩) fun _ _ => stepping_pure
  · refine stepping_createActive (fun more short => ?_) fun _ _ _ => rfl
    rcases more with _ | ⟨_, _ | ⟨_, _ | ⟨_, more⟩⟩⟩
    · rfl
    · rfl
    · rfl
    · simp at short

/-- What a call does to the table of workspaces. -/
theorem stepping_subdomainProgram (platform : Platform) (call : SubdomainCall) :
    Stepping platform call [] (subdomainProgram platform call) := by
  cases call with
  | create owner workspaceName workspaceSubdomain => exact stepping_create
  | toggle owner workspaceIdx active => exact stepping_toggle
  | update owner workspaceIdx subdomain => exact stepping_update
  | delete owner workspaceIdx ownerDisplay confirmation => exact stepping_delete

end Steps

/-! ## Limit and uniqueness -/

/-- Whether requests for the subdomain of a workspace are to be routed. -/
def routed (workspace : WorkspaceRow) : Bool :=
  workspace.workspaceSubdomainActive && workspace.workspaceDeletedAt.isNone

/-- Two workspaces do not both have one subdomain active. -/
def Distinct (row row' : WorkspaceRow) : Prop :=
  routed row = true → routed row' = true → row.workspaceSubdomain ≠ row'.workspaceSubdomain

theorem Distinct.symm {row row' : WorkspaceRow} (distinct : Distinct row row') :
    Distinct row' row :=
  fun here there same => distinct there here same.symm

/-- At most so many subdomains are active, and no two workspaces have the same. -/
structure Lawful (limit : ℕ) (workspaces : Table WorkspaceRow) : Prop where
  limited : workspaces.count routed ≤ limit
  distinct : workspaces.Separates Distinct

/-- No other workspace than one has a subdomain active. -/
def OnlyBy (workspaceIdx : ℕ) (subdomain : Option Text) (workspaces : Table WorkspaceRow) : Prop :=
  ∀ other ∈ workspaces, other.workspaceIndex ≠ workspaceIdx → routed other = true →
    other.workspaceSubdomain ≠ subdomain

/-- Whether a write keeps within the limit and takes no subdomain that is in use, unless it is
refused or makes nothing active. -/
def SafeWrite (limit : ℕ) (workspaces : Table WorkspaceRow) : SubdomainWrite → Prop
  | .create owner name subdomain => HasName owner name workspaces ∨
      workspaces.count routed < limit ∧ ∀ other ∈ workspaces, routed other = true →
        other.workspaceSubdomain ≠ some subdomain
  | .activate workspaceIdx => ∀ row ∈ workspaces, row.workspaceIndex = workspaceIdx →
      row.workspaceDeletedAt = none →
        (row.workspaceSubdomainActive = false → workspaces.count routed < limit) ∧
          OnlyBy workspaceIdx row.workspaceSubdomain workspaces
  | .rename workspaceIdx subdomain => ∀ row ∈ workspaces, row.workspaceIndex = workspaceIdx →
      routed row = true → OnlyBy workspaceIdx (some subdomain) workspaces

instance (row row' : WorkspaceRow) : Decidable (Distinct row row') :=
  inferInstanceAs (Decidable (_ → _ → _))

instance (limit : ℕ) (workspaces : Table WorkspaceRow) : Decidable (Lawful limit workspaces) :=
  decidable_of_iff (workspaces.count routed ≤ limit ∧ ∀ row ∈ workspaces, ∀ row' ∈ workspaces,
    row.workspaceIndex ≠ row'.workspaceIndex → Distinct row row')
    ⟨fun held => ⟨held.1, held.2⟩, fun held => ⟨held.1, held.2⟩⟩

instance (workspaceIdx : ℕ) (subdomain : Option Text) (workspaces : Table WorkspaceRow) :
    Decidable (OnlyBy workspaceIdx subdomain workspaces) :=
  inferInstanceAs (Decidable (∀ other ∈ workspaces, _ → _ → _))

instance (limit : ℕ) (workspaces : Table WorkspaceRow) :
    (write : SubdomainWrite) → Decidable (SafeWrite limit workspaces write)
  | .create _ _ _ => inferInstanceAs (Decidable ((∃ row ∈ workspaces, _ ∧ _) ∨
      _ ∧ ∀ other ∈ workspaces, _ → _))
  | .activate _ => inferInstanceAs (Decidable (∀ row ∈ workspaces, _ → _ → _ ∧ _))
  | .rename _ _ => inferInstanceAs (Decidable (∀ row ∈ workspaces, _ → _ → _))

section Tables

variable {limit : ℕ} {workspaces after : Table WorkspaceRow}

/-- What is released is not routed any more. -/
theorem Lawful.release (lawful : Lawful limit workspaces) {selected : WorkspaceRow → Bool}
    {change : WorkspaceRow → WorkspaceRow} (releases : Releases change) :
    Lawful limit (workspaces.updateMany selected change releases.keyed) := by
  have silent (row : WorkspaceRow) : routed (change row) = false := by
    rw [routed, releases.inactive, Bool.false_and]
  refine ⟨le_trans (Table.count_updateMany_le fun row _ _ held => ?_) lawful.limited,
    lawful.distinct.updateMany fun row inside row' inside' differ touched here there => ?_⟩
  · rw [silent] at held
    cases held
  · rcases touched with hit | hit
    · rw [if_pos hit, silent] at here
      cases here
    · rw [if_pos hit, silent] at there
      cases there

/-- A new workspace. -/
theorem lawful_create_iff (lawful : Lawful limit workspaces) {row : ℕ → WorkspaceRow}
    {keyed : ∀ n, (row n).workspaceIndex = n} :
    Lawful limit (workspaces.create row keyed) ↔
      (routed (row workspaces.next) = true → workspaces.count routed < limit ∧
        ∀ other ∈ workspaces, routed other = true →
          other.workspaceSubdomain ≠ (row workspaces.next).workspaceSubdomain) := by
  have apart : (workspaces.create row keyed).Separates Distinct ↔ _ :=
    Table.separates_create_iff Distinct.symm lawful.distinct
  have counted : (workspaces.create row keyed).count routed = _ := Table.count_create
  have limited := lawful.limited
  cases active : routed (row workspaces.next) with
  | false =>
    rw [active, if_neg Bool.false_ne_true] at counted
    refine iff_of_true ⟨by omega, apart.mpr fun other inside _ there => ?_⟩ fun held => by cases held
    rw [active] at there
    cases there
  | true =>
    rw [active, if_pos rfl] at counted
    constructor
    · intro after _
      refine ⟨by have := after.limited; omega, fun other inside here => ?_⟩
      exact apart.mp after.distinct other inside here active
    · intro safe
      refine ⟨by have := (safe rfl).1; omega, apart.mpr fun other inside here _ => ?_⟩
      exact (safe rfl).2 other inside here

/-- Another content of the row of one workspace. -/
theorem lawful_updateMany_iff (lawful : Lawful limit workspaces) {row : WorkspaceRow}
    (inside : row ∈ workspaces) {change : WorkspaceRow → WorkspaceRow}
    {keyed : ∀ row, (change row).workspaceIndex = row.workspaceIndex} :
    Lawful limit (workspaces.updateMany (fun other => other.workspaceIndex == row.workspaceIndex)
        change keyed) ↔
      (routed (change row) = true → (routed row = false → workspaces.count routed < limit) ∧
        OnlyBy row.workspaceIndex (change row).workspaceSubdomain workspaces) := by
  have apart : (workspaces.updateMany (fun other => other.workspaceIndex == row.workspaceIndex)
      change keyed).Separates Distinct ↔ _ :=
    Table.separates_updateMany_key Distinct.symm lawful.distinct inside
  have counted : (workspaces.updateMany (fun other => other.workspaceIndex == row.workspaceIndex)
      change keyed).count routed + _ = _ := Table.count_updateMany_key inside
  have limited := lawful.limited
  cases active : routed (change row) with
  | false =>
    rw [active, if_neg Bool.false_ne_true] at counted
    refine iff_of_true ⟨by omega, apart.mpr fun other inside _ _ there => ?_⟩
      fun held => by cases held
    rw [active] at there
    cases there
  | true =>
    rw [active, if_pos rfl] at counted
    constructor
    · intro after _
      refine ⟨fun idle => ?_, fun other inside' differ here => ?_⟩
      · rw [idle, if_neg Bool.false_ne_true] at counted
        have := after.limited
        omega
      · exact apart.mp after.distinct other inside' differ here active
    · intro safe
      obtain ⟨room, only⟩ := safe rfl
      refine ⟨?_, apart.mpr fun other inside' differ here _ => only other inside' differ here⟩
      cases already : routed row with
      | true =>
        rw [already, if_pos rfl] at counted
        omega
      | false =>
        rw [already, if_neg Bool.false_ne_true] at counted
        have := room already
        omega

/-- A step keeps the limit and the uniqueness exactly if the write that is due is safe. -/
theorem SubdomainStep.lawful_iff {write : Option SubdomainWrite}
    (step : SubdomainStep write workspaces after) (lawful : Lawful limit workspaces) :
    Lawful limit after ↔ ∀ due, write = some due → SafeWrite limit workspaces due := by
  have only {row : WorkspaceRow} (inside : row ∈ workspaces) {property : WorkspaceRow → Prop} :
      (∀ other ∈ workspaces, other.workspaceIndex = row.workspaceIndex → property other) ↔
        property row :=
    ⟨fun all => all row inside rfl, fun held other inside' same =>
      Table.eq_of_key inside' inside same ▸ held⟩
  cases step with
  | nothing => exact iff_of_true lawful fun due none' => by cases none'
  | release selected releases =>
    exact iff_of_true (lawful.release releases) fun due none' => by cases none'
  | createInactive owner name subdomain now =>
    refine iff_of_true ((lawful_create_iff lawful).mpr fun active => ?_) fun due none' => by
      cases none'
    cases active
  | create subdomain recordId now fresh =>
    refine (lawful_create_iff lawful).trans ?_
    simp [SafeWrite, fresh, routed, newRow]
  | refused subdomain taken =>
    refine iff_of_true lawful fun due some' => ?_
    obtain rfl := Option.some.inj some'
    exact .inl taken
  | activate dnsRecordId inside =>
    refine (lawful_updateMany_iff lawful inside).trans ?_
    simp only [Option.some.injEq, forall_eq', SafeWrite, only inside]
    have alive (row : WorkspaceRow) :
        routed (activatedRow dnsRecordId row) = true ↔ row.workspaceDeletedAt = none := by
      simp [routed, activatedRow]
    rw [alive]
    refine imp_congr_right fun kept => ?_
    rw [routed, kept, Option.isNone_none, Bool.and_true]
    exact Iff.rfl
  | rename subdomain inside =>
    refine (lawful_updateMany_iff lawful inside).trans ?_
    simp only [Option.some.injEq, forall_eq', SafeWrite, only inside]
    exact imp_congr_right fun active => and_iff_right fun idle =>
      absurd (active.symm.trans idle) (by decide)
  | missing workspaceIdx names absent =>
    refine iff_of_true lawful fun due some' => ?_
    obtain rfl := Option.some.inj some'
    rcases names with rfl | ⟨subdomain, rfl⟩
    · exact fun row inside same => absurd same (absent row inside)
    · exact fun row inside same => absurd same (absent row inside)

/-! ## Deleted workspaces -/

/-- A workspace that is deleted has no active subdomain and no record. -/
def DeletedUnrouted (workspaces : Table WorkspaceRow) : Prop :=
  ∀ row ∈ workspaces, row.workspaceDeletedAt ≠ none →
    row.workspaceSubdomainActive = false ∧ row.workspaceDnsRecordId = none

instance (workspaces : Table WorkspaceRow) : Decidable (DeletedUnrouted workspaces) :=
  inferInstanceAs (Decidable (∀ row ∈ workspaces, _ → _))

/-- A write that activates the subdomain of a workspace finds it not deleted. -/
def FindsAlive (workspaces : Table WorkspaceRow) : SubdomainWrite → Prop
  | .activate workspaceIdx => ∀ row ∈ workspaces, row.workspaceIndex = workspaceIdx →
      row.workspaceDeletedAt = none
  | _ => True

instance (workspaces : Table WorkspaceRow) :
    (write : SubdomainWrite) → Decidable (FindsAlive workspaces write)
  | .activate _ => inferInstanceAs (Decidable (∀ row ∈ workspaces, _ → _))
  | .create _ _ _ => isTrue trivial
  | .rename _ _ => isTrue trivial

/-- A change of rows that leaves what is deleted deleted, with nothing to be routed. -/
theorem DeletedUnrouted.updateMany (unrouted : DeletedUnrouted workspaces)
    {selected : WorkspaceRow → Bool} {change : WorkspaceRow → WorkspaceRow}
    {keyed : ∀ row, (change row).workspaceIndex = row.workspaceIndex}
    (fits : ∀ row ∈ workspaces, selected row = true → (change row).workspaceDeletedAt ≠ none →
      (change row).workspaceSubdomainActive = false ∧ (change row).workspaceDnsRecordId = none) :
    DeletedUnrouted (workspaces.updateMany selected change keyed) := by
  intro row' inside deleted
  have fromRow : ∃ row ∈ workspaces, row' = if selected row then change row else row :=
    Table.mem_updateMany.mp inside
  obtain ⟨row, original, rfl⟩ := fromRow
  split at deleted
  · rename_i hit
    rw [if_pos hit]
    exact fits row original hit deleted
  · rename_i miss
    rw [if_neg miss]
    exact unrouted row original deleted

/-- A step keeps deleted workspaces as they should be exactly if the write that is due finds its
workspace alive. -/
theorem SubdomainStep.deletedUnrouted_iff {write : Option SubdomainWrite}
    (step : SubdomainStep write workspaces after) (unrouted : DeletedUnrouted workspaces) :
    DeletedUnrouted after ↔ ∀ due, write = some due → FindsAlive workspaces due := by
  have fresh {row : ℕ → WorkspaceRow} {keyed : ∀ n, (row n).workspaceIndex = n}
      (alive : ∀ n, (row n).workspaceDeletedAt = none) :
      DeletedUnrouted (workspaces.create row keyed) := by
    intro row' inside deleted
    rcases Table.mem_create.mp inside with older | made
    · exact unrouted row' older deleted
    · rw [made, alive] at deleted
      exact absurd rfl deleted
  cases step with
  | nothing => exact iff_of_true unrouted fun due none' => by cases none'
  | release selected releases =>
    refine iff_of_true (unrouted.updateMany fun row _ _ _ => ?_) fun due none' => by cases none'
    exact ⟨releases.inactive row, releases.unrecorded row⟩
  | createInactive owner name subdomain now =>
    exact iff_of_true (fresh fun n => rfl) fun due none' => by cases none'
  | create subdomain recordId now free =>
    refine iff_of_true (fresh fun n => rfl) fun due some' => ?_
    obtain rfl := Option.some.inj some'
    exact trivial
  | refused subdomain taken =>
    refine iff_of_true unrouted fun due some' => ?_
    obtain rfl := Option.some.inj some'
    exact trivial
  | @activate dnsRecordId row _ inside =>
    constructor
    · intro after due some'
      obtain rfl := Option.some.inj some'
      intro other inside' same
      obtain rfl := Table.eq_of_key inside' inside same
      by_contra deleted
      have made : activatedRow dnsRecordId other ∈ workspaces.updateMany
          (fun row => row.workspaceIndex == other.workspaceIndex) (activatedRow dnsRecordId)
          (fun _ => rfl) :=
        Table.mem_updateMany.mpr ⟨other, inside, (if_pos (beq_self_eq_true _)).symm⟩
      cases (after _ made deleted).1
    · intro alive
      refine unrouted.updateMany fun other inside' hit deleted => absurd ?_ deleted
      exact alive _ rfl other inside' (beq_iff_eq.mp hit)
  | rename subdomain inside =>
    refine iff_of_true (unrouted.updateMany fun row here _ deleted => unrouted row here deleted)
      fun due some' => ?_
    obtain rfl := Option.some.inj some'
    exact trivial
  | missing workspaceIdx names absent =>
    refine iff_of_true unrouted fun due some' => ?_
    obtain rfl := Option.some.inj some'
    rcases names with rfl | ⟨subdomain, rfl⟩
    · exact fun row inside same => absurd same (absent row inside)
    · exact trivial

end Tables

/-! ## Runs -/

section Runs

variable (platform : Platform)

/-- The write with which a call goes on meets a condition on the table. -/
def DueMeets (condition : Table WorkspaceRow → SubdomainWrite → Prop) (call : SubdomainCall)
    (seen : List Hub) (hub : Hub) : Prop :=
  ∀ due ∈ call.nextWrite platform seen, condition hub.database.workspaces due

instance (condition : Table WorkspaceRow → SubdomainWrite → Prop)
    [∀ workspaces write, Decidable (condition workspaces write)] (call : SubdomainCall)
    (seen : List Hub) (hub : Hub) : Decidable (DueMeets platform condition call seen hub) :=
  inferInstanceAs (Decidable (∀ due ∈ call.nextWrite platform seen, _))

/-- The table has a property after every move of a run. -/
abbrev Throughout (property : Table WorkspaceRow → Prop) (start : Hub)
    (moves : List (Move SubdomainCall Besides)) : Prop :=
  Along (subdomainCalls platform) (fun _ config input =>
    property (subdomainCalls platform config input).2.state.database.workspaces) []
    { state := start } moves

/-- Every write of a run that is due meets a condition on the table that it finds. -/
abbrev WritesMeet (condition : Table WorkspaceRow → SubdomainWrite → Prop) (start : Hub)
    (moves : List (Move SubdomainCall Besides)) : Prop :=
  Along (subdomainCalls platform) (Met (DueMeets platform condition)) [] { state := start } moves

/-- What each step keeps exactly under a condition on the write that is due. -/
theorem throughout_iff {property : Table WorkspaceRow → Prop}
    {condition : Table WorkspaceRow → SubdomainWrite → Prop}
    (exact : ∀ {write before after}, SubdomainStep write before after → property before →
      (property after ↔ ∀ due, write = some due → condition before due))
    {start : Hub} (given : property start.database.workspaces)
    (moves : List (Move SubdomainCall Besides)) :
    Throughout platform property start moves ↔ WritesMeet platform condition start moves := by
  refine met_iff_kept (stepping_subdomainProgram platform)
    (fun hub => property hub.database.workspaces) (fun call seen before after step held => ?_)
    (fun hub event held => ?_) given moves
  · exact exact step held
  · change property (event.change hub).database.workspaces
    rwa [event.keeps]

/-- The limit and the uniqueness of active subdomains hold in every state exactly if every
write is safe in the state that it finds. -/
theorem subdomains_lawful_iff (start : Hub)
    (lawful : Lawful platform.subdomainActiveLimit start.database.workspaces)
    (moves : List (Move SubdomainCall Besides)) :
    Throughout platform (Lawful platform.subdomainActiveLimit) start moves ↔
      WritesMeet platform (SafeWrite platform.subdomainActiveLimit) start moves :=
  throughout_iff platform (fun step held => step.lawful_iff held) lawful moves

end Runs

/-- A platform whose DNS provider makes a new record whenever it is asked. -/
def recordingPlatform : Platform :=
  { AgentGateway.fixedPlatform with dnsReply := fun n => .success (List.replicate (n + 1) 0x52) }

/-- Workspaces of two owners, each with a subdomain that is not active. -/
def twoSubdomains : Hub where
  database.workspaces := (Table.empty.create fun index =>
    { workspaceIndex := index
      workspaceOwner := 1
      workspaceName := "W"
      workspaceSubdomain := some "first"
      workspaceCreatedAt := 0 }).create fun index =>
    { workspaceIndex := index
      workspaceOwner := 2
      workspaceName := "V"
      workspaceSubdomain := some "second"
      workspaceCreatedAt := 0 }
  now := 0

/-- A call and its actions. -/
def alone (index actions : ℕ) (call : SubdomainCall) : List (Move SubdomainCall Besides) :=
  .start call :: List.replicate actions (.resume index)

/-- The first owner activates its subdomain, the second is refused, and activates its own when
the first has taken back the first. -/
def activatedInTurn : List (Move SubdomainCall Besides) :=
  alone 0 5 (.toggle 1 1 true) ++ alone 1 2 (.toggle 2 2 true) ++ alone 2 3 (.toggle 1 1 false) ++
    alone 3 5 (.toggle 2 2 true)

theorem subdomains_lawful_in_turn :
    Throughout recordingPlatform (Lawful 1) twoSubdomains activatedInTurn ∧
      ((final (subdomainCalls recordingPlatform) { state := twoSubdomains }
        activatedInTurn).state.database.workspaces.rows.map
          WorkspaceRow.workspaceSubdomainActive) = [false, true] :=
  ⟨(subdomains_lawful_iff recordingPlatform twoSubdomains (by decide +kernel)
    activatedInTurn).mpr (by decide +kernel), by decide +kernel⟩

/-- Both owners ask for all that they need to know before either writes. -/
def activatedTogether : List (Move SubdomainCall Besides) :=
  alone 0 4 (.toggle 1 1 true) ++ alone 1 4 (.toggle 2 2 true) ++ [.resume 0, .resume 1]

/-- Two subdomains are active where one may be. -/
theorem not_subdomains_lawful_together :
    Lawful 1 twoSubdomains.database.workspaces ∧
      ¬ Throughout recordingPlatform (Lawful 1) twoSubdomains activatedTogether := by
  refine ⟨by decide +kernel, ?_⟩
  decide +kernel

section Runs

variable (platform : Platform)

/-- A deleted workspace has no active subdomain and no record in any state, if every write that
activates one finds its workspace alive. -/
theorem deleted_never_routed (start : Hub) (unrouted : DeletedUnrouted start.database.workspaces)
    (moves : List (Move SubdomainCall Besides))
    (alive : WritesMeet platform FindsAlive start moves) :
    Throughout platform DeletedUnrouted start moves :=
  (throughout_iff platform (fun step held => step.deletedUnrouted_iff held) unrouted moves).mpr
    alive

end Runs

/-- The workspace is activated and then deleted. -/
def activatedAndDeleted : List (Move SubdomainCall Besides) :=
  alone 0 5 (.toggle 1 1 true) ++ alone 1 4 (.delete 1 1 "owner" "owner/W")

theorem deleted_never_routed_in_turn :
    Throughout recordingPlatform DeletedUnrouted twoSubdomains activatedAndDeleted ∧
      ((final (subdomainCalls recordingPlatform) { state := twoSubdomains }
        activatedAndDeleted).state.database.workspaces.rows.map
          WorkspaceRow.workspaceDeletedAt) = [some 0, none] :=
  ⟨deleted_never_routed recordingPlatform twoSubdomains (by decide +kernel)
    activatedAndDeleted (by decide +kernel), by decide +kernel⟩

/-- The workspace is deleted while its activation waits for the DNS provider. -/
def deletedMeanwhile : List (Move SubdomainCall Besides) :=
  alone 0 4 (.toggle 1 1 true) ++ alone 1 3 (.delete 1 1 "owner" "owner/W") ++ [.resume 0]

/-- Both calls have ended, and the deleted workspace is active and has a record. -/
theorem not_deleted_never_routed_meanwhile :
    DeletedUnrouted twoSubdomains.database.workspaces ∧
      (∀ thread ∈ (final (subdomainCalls recordingPlatform) { state := twoSubdomains }
        deletedMeanwhile).threads, thread.result.isSome = true) ∧
      ¬ DeletedUnrouted (final (subdomainCalls recordingPlatform) { state := twoSubdomains }
        deletedMeanwhile).state.database.workspaces := by
  refine ⟨by decide +kernel, by decide +kernel, ?_⟩
  decide +kernel

end WorkspaceService

end OpticsHub
