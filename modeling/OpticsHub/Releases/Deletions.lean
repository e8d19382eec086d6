import OpticsHub.Releases.Withdrawals

/-!
# Releases that are deleted

A release that GitHub does not list any more should be withdrawn by the next run. A run looks
back only as far as the oldest release that it has read, since the list it asks for may have more
pages. The same cut is made when the list is complete: what was deleted from its old end keeps its
row as it was, and so does everything when nothing is left to read.
-/
namespace OpticsHub

open Script Async Program Machine

namespace ReleaseCatalog

/-- The rows of some versions are renewed, and the others are as they were. -/
structure Renews (versions : List Text) (before after : Catalogue) : Prop where
  renewed : ∀ row ∈ after.releases, row.releaseVersion ∈ versions → row.releaseYankedAt = none
  others : ∀ row : ReleaseRow, row.releaseVersion ∉ versions →
    (row ∈ after.releases ↔ row ∈ before.releases)

theorem Renews.trans {first second : List Text} {before middle after : Catalogue}
    (earlier : Renews first before middle) (later : Renews second middle after) :
    Renews (first ++ second) before after := by
  constructor
  · intro row inside written
    by_cases again : row.releaseVersion ∈ second
    · exact later.renewed row inside again
    · have here := (later.others row again).mp inside
      exact earlier.renewed row here ((List.mem_append.mp written).resolve_right again)
  · intro row unwritten
    rw [List.mem_append, not_or] at unwritten
    exact (later.others row unwritten.2).trans (earlier.others row unwritten.1)

end ReleaseCatalog

end OpticsHub
