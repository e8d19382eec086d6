import OpticsHub.Machine.Run
import OpticsHub.Releases.Synchronisation

/-!
# Releases that are withdrawn

A run marks as withdrawn what it has not seen. What it has not seen need not be gone: a release
that GitHub still lists is skipped when its metadata cannot be read, and then its row is marked
like one whose release was deleted. The row is spared exactly if its version was read in the same
run, if all that was read is newer, or if the run did not come to its end.
-/
namespace OpticsHub

open Script Async Program Machine

namespace ReleaseCatalog

/-! ## What a run reads -/

/-- A row is still there, and not withdrawn. -/
def Spared (row : ReleaseRow) (catalogue : Catalogue) : Prop :=
  ∃ row' ∈ catalogue.releases, row'.releaseVersion = row.releaseVersion ∧
    row'.releaseYankedAt = none

/-- What writing the rows of some versions does to a row that is not withdrawn. -/
def Refreshes (versions : List Text) (before after : Catalogue) : Prop :=
  ∀ row ∈ before.releases, row.releaseYankedAt = none →
    (row.releaseVersion ∈ versions → Spared row after) ∧
      (row.releaseVersion ∉ versions → row ∈ after.releases)

theorem Refreshes.spared {versions : List Text} {before after : Catalogue}
    (refreshes : Refreshes versions before after) {row : ReleaseRow}
    (inside : row ∈ before.releases) (stands : row.releaseYankedAt = none) : Spared row after := by
  obtain ⟨rewritten, kept⟩ := refreshes row inside stands
  by_cases refreshed : row.releaseVersion ∈ versions
  · exact rewritten refreshed
  · exact ⟨row, kept refreshed, rfl, stands⟩

theorem Refreshes.trans {first second : List Text} {before middle after : Catalogue}
    (earlier : Refreshes first before middle) (later : Refreshes second middle after) :
    Refreshes (first ++ second) before after := by
  intro row inside stands
  obtain ⟨rewritten, kept⟩ := earlier row inside stands
  constructor
  · intro refreshed
    by_cases early : row.releaseVersion ∈ first
    · obtain ⟨row', inside', same, stands'⟩ := rewritten early
      obtain ⟨row'', inside'', same', stands''⟩ := later.spared inside' stands'
      exact ⟨row'', inside'', same'.trans same, stands''⟩
    · exact (later row (kept early) stands).1 ((List.mem_append.mp refreshed).resolve_left early)
  · intro untouched
    rw [List.mem_append, not_or] at untouched
    exact (later row (kept untouched.1) stands).2 untouched.2

inductive CatalogueEvent where
  | sync (time : ℤ) (response : GithubResponse)
  | block (version reason : Text)
  | unblock (version : Text)

/-- The catalogue after one run, or one call of an operator. -/
def catalogueStep : Transition Catalogue CatalogueEvent Unit
  | catalogue, .sync time response =>
    ((), ((runSync response).run { catalogue with now := time }).2)
  | catalogue, .block version reason => ((), ((blockRelease version reason).run catalogue).2)
  | catalogue, .unblock version => ((), ((unblockRelease version).run catalogue).2)

/-- A release with its metadata, or with none if the download fails. -/
def listedRelease (version : Text) (publishedAt : ℤ) (reads : Bool) : Fetched :=
  ({ tagName := version
     publishedAt := some publishedAt
     assets := [{ name := metadataAsset, url := version }] },
    if reads then some (.object [("version", .string version),
      ("protocol", .number (.finite (Decimal.ofInt 1))), ("image", .string version)])
    else none)

end ReleaseCatalog

end OpticsHub
