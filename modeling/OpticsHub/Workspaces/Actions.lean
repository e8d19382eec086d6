import OpticsHub.Workspaces.WorkspaceService

/-!
# The actions of changes to a subdomain

To toggle or to update the subdomain of a workspace is to read, to ask the DNS provider, which
leaves the database alone, and to write the subdomain of one row. What holds of an action that
leaves the database alone, and of a write of that kind, holds of every action of the two.
-/
namespace OpticsHub

open Script Async Program

namespace WorkspaceService

/-- Actions that leave the database alone are steps. -/
def Idles (steps : Hub → Hub → Prop) : Prop :=
  ∀ before after, after.database = before.database → steps before after

/-- A change of a row to the subdomain, whether it is active, and the record of it. -/
def OfSubdomain (change : ℤ → WorkspaceRow → WorkspaceRow) : Prop :=
  ∀ now row, ∃ subdomain active dnsRecordId, change now row =
    { row with
      workspaceSubdomain := subdomain
      workspaceSubdomainActive := active
      workspaceDnsRecordId := dnsRecordId }

section Actions

variable {steps : Hub → Hub → Prop} (idles : Idles steps) (platform : Platform)
include idles

theorem always_view {α : Type} (view : Hub → α) : Always steps (look view : HubProgram α) :=
  always_look (fun hub => idles hub hub rfl) view

theorem always_askDns (request : DnsRequest) : Always steps (askDns platform request) :=
  always_step fun hub => idles hub _ rfl

theorem always_changeDnsRecord (request : DnsRequest) :
    Always steps (changeDnsRecord platform request) :=
  (always_askDns idles platform _).bind fun _ => always_pure _

theorem always_dropDnsRecord (workspace : WorkspaceRow) :
    Always steps (dropDnsRecord platform workspace) := by
  rw [dropDnsRecord]
  split
  · exact (always_changeDnsRecord idles platform _).bind fun _ => always_pure _
  · exact always_pure _

theorem always_createDnsRecord (subdomain : Text) :
    Always steps (createDnsRecord platform subdomain) := by
  refine (always_askDns idles platform _).bind fun reply => ?_
  cases reply with
  | success recordId => exact always_pure _
  | refused => exact always_pure _
  | failed => exact always_pure _

theorem always_renameDnsRecord (workspace : WorkspaceRow) (workspaceIdx : ℕ) (subdomain : Text) :
    Always steps (renameDnsRecord platform workspace workspaceIdx subdomain) := by
  rw [renameDnsRecord]
  split
  · refine (always_view idles _).bind fun _ => (always_require _ _).bind fun _ => ?_
    exact (always_changeDnsRecord idles platform _).bind fun _ => always_require _ _
  · exact always_pure _

variable {workspaceIdx : ℕ}
  (writes : ∀ change keyed, OfSubdomain change →
    Always steps (updateWorkspace (fun row => row.workspaceIndex == workspaceIdx) change keyed))
include writes

theorem always_toggle (owner : Int32) (active : Bool) :
    Always steps (handleToggleWorkspaceSubdomain platform owner workspaceIdx active) := by
  refine (always_view idles _).bind fun _ => (always_orThrow _ _).bind fun _ => ?_
  split
  · split
    · exact always_pure _
    · split
      · refine (always_view idles _).bind fun _ => (always_require _ _).bind fun _ => ?_
        refine (always_view idles _).bind fun _ => (always_require _ _).bind fun _ => ?_
        refine (always_createDnsRecord idles platform _).bind fun _ => ?_
        refine (always_require _ _).bind fun _ => ?_
        exact (writes _ _ fun _ row => ⟨row.workspaceSubdomain, _, _, rfl⟩).bind
          fun _ => always_pure _
      · refine (always_dropDnsRecord idles platform _).bind fun _ => ?_
        exact (writes _ _ fun _ row => ⟨row.workspaceSubdomain, _, _, rfl⟩).bind
          fun _ => always_pure _
  · exact always_throw _

theorem always_update (owner : Int32) (subdomain : Option Text) :
    Always steps (handleUpdateWorkspaceSubdomain platform owner workspaceIdx subdomain) := by
  refine (always_view idles _).bind fun _ => (always_orThrow _ _).bind fun _ => ?_
  dsimp only
  split
  · exact always_pure _
  · split
    · refine (always_dropDnsRecord idles platform _).bind fun _ => ?_
      exact (writes _ _ fun _ _ => ⟨_, _, _, rfl⟩).bind fun _ => always_pure _
    · refine (always_renameDnsRecord idles platform _ _ _).bind fun _ => ?_
      refine (writes _ _ fun _ row => ?_).bind fun _ => always_pure _
      exact ⟨_, row.workspaceSubdomainActive, row.workspaceDnsRecordId, rfl⟩

end Actions

end WorkspaceService

end OpticsHub
