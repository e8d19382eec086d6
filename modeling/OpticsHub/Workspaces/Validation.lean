import OpticsHub.Services.Normalize

/-!
# What the bodies of requests are checked for

The classes of the requests carry their checks as decorations, each with its own spelling of the
form of a label and of its length. How the library counts the characters of a text is left open.
-/
namespace OpticsHub

open Script

namespace Validation

/-- `/^[a-z0-9]([a-z0-9-]*[a-z0-9])?$/` -/
def isLabel (text : Text) : Bool :=
  text.all (fun unit => ServiceService.isLabelUnit unit || unit == CodeUnit.minus) &&
    text.head?.any ServiceService.isLabelUnit && text.getLast?.any ServiceService.isLabelUnit

/-- `@Length(low, high)`, where the library counts the characters. -/
def hasLength (characters : Text → ℕ) (low high : ℕ) (text : Text) : Bool :=
  decide (low ≤ characters text ∧ characters text ≤ high)

def reservedWorkspaceSubdomains : List Text :=
  ["api", "docs", "console", "admin", "tunnel", "proxy"]

/-- The subdomain of a workspace may be left out; one that is given is a label that is not
reserved. -/
def isWorkspaceSubdomain (characters : Text → ℕ) (subdomain : Option Text) : Bool :=
  subdomain.all fun text =>
    hasLength characters 1 63 text && isLabel text && !reservedWorkspaceSubdomains.contains text

/-- The check of `CreateWorkspace`. -/
def createWorkspace (characters : Text → ℕ) (workspaceSubdomain : Option Text) : Bool :=
  isWorkspaceSubdomain characters workspaceSubdomain

/-- The check of `UpdateWorkspaceSubdomain`. -/
def updateWorkspaceSubdomain (characters : Text → ℕ) (subdomain : Option Text) : Bool :=
  isWorkspaceSubdomain characters subdomain

/-- The checks of `RequestConnect` on the address. -/
def requestConnect (characters : Text → ℕ) (serviceSubdomain workspaceSubdomain : Text) : Bool :=
  hasLength characters 0 63 serviceSubdomain &&
    (serviceSubdomain.isEmpty || serviceSubdomain == Text.ofString "@" ||
      isLabel serviceSubdomain) &&
    hasLength characters 1 63 workspaceSubdomain && isLabel workspaceSubdomain

end Validation

end OpticsHub
