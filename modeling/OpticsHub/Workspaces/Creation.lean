import OpticsHub.Workspaces.DnsRecords
import OpticsHub.Workspaces.Validation

/-!
# The creation of a workspace

The subdomain of a new workspace is activated first: the limit and the active subdomains are
looked at, and the DNS provider is asked for a record. Then the row is written, and here the
database refuses a name that the owner has already, also in a workspace that is deleted. Nothing
before the write looks at the names, and nothing after it deletes the record. So a creation that
throws leaves a record exactly if it has made one, and it throws exactly if the name is taken,
whether it is given or counted.
-/
namespace OpticsHub

open Script Async Program Machine

namespace WorkspaceService

section Creation

variable (platform : Platform)

/-- The name that a new workspace gets. -/
def chosenName (owner : Int32) (workspaceName : Option Text) (hub : Hub) : Text :=
  workspaceName.getD (countedName owner hub)

variable {platform} {hub : Hub} {owner : Int32} {workspaceSubdomain : Option Text}

end Creation

end WorkspaceService

end OpticsHub
