import OpticsHub.Workspaces.Actions
import OpticsHub.Workspaces.Creation

/-!
# The check of a name and the creation

The database has every name of an owner once, in workspaces that are deleted too. The check of a
name asks something else: whether any owner has a workspace of the name that is not deleted. A
workspace without a name gets the number of the workspaces that its owner has made, and whether
the owner has given that name before is not asked. So the check agrees with the creation that
follows it exactly as long as the owner has a workspace of the name when anyone has one that is
not deleted. While the calls follow one another, two of them break this: a creation by another
owner, when the owner has no workspace of the name, and the deletion of the last one that is not
deleted. The counted name is taken when a creation leaves the owner with the name that is counted
next.
-/
namespace OpticsHub

open Script Async Program Machine

namespace WorkspaceService

/-! ## Names in the table -/

/-- There is a workspace of a name that is not deleted, whoever owns it. -/
def LiveName (name : Text) (workspaces : Table WorkspaceRow) : Prop :=
  ∃ row ∈ workspaces, row.workspaceName = name ∧ row.workspaceDeletedAt = none

/-- How many workspaces an owner has made. -/
def countOwned (owner : Int32) (workspaces : Table WorkspaceRow) : ℕ :=
  workspaces.count fun workspace => workspace.workspaceOwner == owner

/-- The name of a workspace without one, by its number. -/
def numberedName (number : ℕ) : Text :=
  Text.ofString ("Unnamed Workspace " ++ toString number)

/-- The owner has a workspace of the name exactly if anyone has one that is not deleted, and the
next number is free. -/
structure NamesMatch (owner : Int32) (name : Text) (workspaces : Table WorkspaceRow) : Prop where
  agree : LiveName name workspaces ↔ HasName owner name workspaces
  free : ¬ HasName owner (numberedName (countOwned owner workspaces + 1)) workspaces

/-- What the index and the count read of a workspace. -/
def ownedName (row : WorkspaceRow) : Int32 × Text := (row.workspaceOwner, row.workspaceName)

/-- What the check reads of a workspace. -/
def liveName (row : WorkspaceRow) : Text × Option ℤ := (row.workspaceName, row.workspaceDeletedAt)

section Tables

variable {workspaces after : Table WorkspaceRow} {owner : Int32} {name : Text}

theorem hasName_iff : HasName owner name workspaces ↔
    (owner, name) ∈ workspaces.rows.map ownedName := by
  simp only [HasName, Table.mem_def, List.mem_map, ownedName, Prod.mk.injEq]

theorem liveName_iff : LiveName name workspaces ↔
    (name, none) ∈ workspaces.rows.map liveName := by
  simp only [LiveName, Table.mem_def, List.mem_map, liveName, Prod.mk.injEq]

theorem countOwned_eq : countOwned owner workspaces =
    (workspaces.rows.map ownedName).countP fun entry => entry.1 == owner := by
  rw [List.countP_map]
  rfl

/-- Tables with the same owners and names agree in the index and the count. -/
theorem freeNumber_congr (same : after.rows.map ownedName = workspaces.rows.map ownedName) :
    HasName owner (numberedName (countOwned owner after + 1)) after ↔
      HasName owner (numberedName (countOwned owner workspaces + 1)) workspaces := by
  rw [hasName_iff, hasName_iff, countOwned_eq, countOwned_eq, same]

/-- Tables in which everything that is read is the same match alike. -/
theorem NamesMatch.congr (held : NamesMatch owner name workspaces)
    (same : after.rows.map ownedName = workspaces.rows.map ownedName)
    (lives : after.rows.map liveName = workspaces.rows.map liveName) :
    NamesMatch owner name after where
  agree := by
    rw [liveName_iff, hasName_iff, same, lives, ← liveName_iff, ← hasName_iff]
    exact held.agree
  free := by
    rw [freeNumber_congr same]
    exact held.free

/-- A new workspace is the first of its name for the owner, and the name that is counted next is
none that the owner has then. -/
structure NamedSafely (owner : Int32) (name : Text) (workspaces : Table WorkspaceRow)
    (creator : Int32) (chosen : Text) : Prop where
  shared : chosen = name → creator = owner ∨ HasName owner name workspaces
  counted : creator = owner → chosen ≠ numberedName (countOwned owner workspaces + 2) ∧
    ¬ HasName owner (numberedName (countOwned owner workspaces + 2)) workspaces

instance : Decidable (HasName owner name workspaces) :=
  inferInstanceAs (Decidable (∃ row ∈ workspaces, _ ∧ _))

instance : Decidable (LiveName name workspaces) :=
  inferInstanceAs (Decidable (∃ row ∈ workspaces, _ ∧ _))

instance : Decidable (NamesMatch owner name workspaces) :=
  decidable_of_iff
    ((LiveName name workspaces ↔ HasName owner name workspaces) ∧
      ¬ HasName owner (numberedName (countOwned owner workspaces + 1)) workspaces)
    ⟨fun both => ⟨both.1, both.2⟩, fun matches' => ⟨matches'.agree, matches'.free⟩⟩

instance (creator : Int32) (chosen : Text) :
    Decidable (NamedSafely owner name workspaces creator chosen) :=
  decidable_of_iff
    ((chosen = name → creator = owner ∨ HasName owner name workspaces) ∧
      (creator = owner → chosen ≠ numberedName (countOwned owner workspaces + 2) ∧
        ¬ HasName owner (numberedName (countOwned owner workspaces + 2)) workspaces))
    ⟨fun both => ⟨both.1, both.2⟩, fun safely => ⟨safely.shared, safely.counted⟩⟩

end Tables

/-! ## What the calls do to the names -/

section Calls

variable (platform : Platform)

/-- What a deletion asks for: the confirmation, and that the provider deletes the record if there
is one. -/
def deletable (hub : Hub) (ownerDisplay confirmation : Text) (workspace : WorkspaceRow) : Bool :=
  confirmation == ownerDisplay ++ Text.ofString "/" ++ workspace.workspaceName &&
    (!present workspace.workspaceDnsRecordId || succeeded (platform.dnsReply hub.drawn))

/-- The workspace that a call deletes. -/
def deletedBy (hub : Hub) : SubdomainCall → Option WorkspaceRow
  | .delete owner workspaceIdx ownerDisplay confirmation =>
    (ownedWorkspace owner workspaceIdx hub.database).filter
      (deletable platform hub ownerDisplay confirmation)
  | _ => none

/-- A call that creates a workspace does so safely. -/
def CreatesSafely (owner : Int32) (name : Text) (hub : Hub) : SubdomainCall → Prop
  | .create creator workspaceName _ =>
    ¬ HasName creator (chosenName creator workspaceName hub) hub.database.workspaces →
      NamedSafely owner name hub.database.workspaces creator
        (chosenName creator workspaceName hub)
  | _ => True

/-- A call that deletes a workspace of the name does not delete the last one. -/
def SparesLast (name : Text) (hub : Hub) (call : SubdomainCall) : Prop :=
  ∀ row ∈ deletedBy platform hub call, row.workspaceName = name →
    ∃ other ∈ hub.database.workspaces, other.workspaceIndex ≠ row.workspaceIndex ∧
      other.workspaceName = name ∧ other.workspaceDeletedAt = none

/-- A call creates safely and spares the last workspace of the name. -/
def KeepsNames (owner : Int32) (name : Text) (hub : Hub) (call : SubdomainCall) : Prop :=
  CreatesSafely owner name hub call ∧ SparesLast platform name hub call

instance (owner : Int32) (name : Text) (hub : Hub) :
    (call : SubdomainCall) → Decidable (CreatesSafely owner name hub call)
  | .create _ _ _ => inferInstanceAs (Decidable (¬ HasName _ _ _ → NamedSafely _ _ _ _ _))
  | .toggle _ _ _ => isTrue trivial
  | .update _ _ _ => isTrue trivial
  | .delete _ _ _ _ => isTrue trivial

instance (owner : Int32) (name : Text) (hub : Hub) (call : SubdomainCall) :
    Decidable (KeepsNames platform owner name hub call) :=
  inferInstanceAs (Decidable (CreatesSafely owner name hub call ∧
    ∀ row ∈ deletedBy platform hub call, row.workspaceName = name →
      ∃ other ∈ hub.database.workspaces, other.workspaceIndex ≠ row.workspaceIndex ∧
        other.workspaceName = name ∧ other.workspaceDeletedAt = none))

/-- An action leaves what the index, the check and the count read. -/
def SameNames (before after : Hub) : Prop :=
  after.database.workspaces.rows.map ownedName = before.database.workspaces.rows.map ownedName ∧
    after.database.workspaces.rows.map liveName = before.database.workspaces.rows.map liveName

theorem SameNames.refl (hub : Hub) : SameNames hub hub := ⟨rfl, rfl⟩

theorem SameNames.trans {first second third : Hub} (earlier : SameNames first second)
    (later : SameNames second third) : SameNames first third :=
  ⟨later.1.trans earlier.1, later.2.trans earlier.2⟩

variable {platform} {hub : Hub} {owner : Int32} {name : Text}

end Calls

/-! ## The check and the creation -/

section Checks

variable (platform : Platform)

variable {platform} {hub : Hub} {owner : Int32} {name : Text}

end Checks

/-! ## Runs -/

end WorkspaceService

end OpticsHub
