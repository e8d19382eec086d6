import OpticsHub.Releases.Upgrades

/-!
# The best release is offered

An Agent is offered a release that is above its version, if there is one, and then the highest.
This holds for every catalogue, those too with versions that are none. An Agent that reports no
version, or an empty one, is offered the highest release whatever it is.
-/
namespace OpticsHub

open Script Async Program Machine
open Std (OrientedCmp TransCmp)

namespace ReleaseCatalog

/-- What is found is the highest of the releases that are offered and lies above; nothing is found
only if none of them lies above. -/
structure IsBest (rows : List ReleaseRow) (above : Text → Prop) (found : Option ReleaseView) :
    Prop where
  highest : ∀ view, found = some view →
    ∃ row, IsHighest rows row ∧ viewOf row = view ∧ above row.releaseVersion
  none : found = none → ∀ row ∈ rows, isOffered row = true → ¬ above row.releaseVersion

/-- Above the version of an Agent; every version is above one that is not known. -/
def IsHigher (current : Option Text) (version : Text) : Prop :=
  ∀ current' ∈ current, Semver.compareSemver version current' = .gt

theorem isAbove_iff {version : Text} {current : Option Text} :
    IsAbove version current ↔ IsHigher (current.filter fun text => !text.isEmpty) version := by
  rcases current with _ | ⟨_ | ⟨unit, units⟩⟩ <;> simp [IsAbove, IsHigher]

/-- A version that is not lower than one above is above. -/
theorem IsHigher.of_isLE {current : Option Text} {version version' : Text}
    (higher : IsHigher current version)
    (order : (Semver.compareSemver version version').isLE = true) :
    IsHigher current version' := by
  intro current' known
  have above := OrientedCmp.lt_of_gt (higher current' known)
  exact OrientedCmp.gt_of_lt (TransCmp.lt_of_lt_of_isLE above order)

/-- Without an installable release among those that are listed none is offered. -/
theorem not_isOffered {rows : List ReleaseRow}
    (none : ((listed false rows).map viewOf).find? ReleaseView.installable = none) :
    ∀ row ∈ rows, isOffered row = false := by
  intro row inside
  rw [List.find?_map, Option.map_eq_none_iff, List.find?_eq_none] at none
  rw [isOffered, Bool.and_eq_false_iff]
  by_cases stable : row.releaseChannel == .stable
  · have there : row ∈ listed false rows :=
      List.mem_mergeSort.mpr (List.mem_filter.mpr ⟨inside, by simpa using stable⟩)
    exact .inr (Bool.eq_false_iff.mpr (none row there))
  · exact .inl (Bool.eq_false_iff.mpr stable)

/-- What is found is the best there is. -/
theorem isBest_upgradeOf (current : Option Text) (rows : List ReleaseRow) :
    IsBest rows (IsHigher (current.filter fun text => !text.isEmpty)) (upgradeOf current rows) where
  highest view found := by
    obtain ⟨row, highest, same, above⟩ := highest_of_upgradeOf found
    exact ⟨row, highest, same, isAbove_iff.mp above⟩
  none found := by
    intro row inside offered higher
    cases first : ((listed false rows).map viewOf).find? ReleaseView.installable with
    | none => exact absurd offered (Bool.eq_false_iff.mp (not_isOffered first row inside))
    | some latest =>
      -- the first one would be the upgrade of an Agent that reports nothing
      obtain ⟨highest, isHighest, rfl, -⟩ := @highest_of_upgradeOf none rows latest
        ((upgradeAmong_eq_some _ _ _).mpr ⟨first, trivial⟩)
      have order : (Semver.compareSemver row.releaseVersion highest.releaseVersion).isLE = true := by
        have least := isHighest.2.2 row inside offered
        cases compared : Semver.compareSemver row.releaseVersion highest.releaseVersion with
        | gt => exact absurd compared least
        | _ => rfl
      have found' := (upgradeAmong_eq_some _ current _).mpr
        ⟨first, isAbove_iff.mpr (higher.of_isLE order)⟩
      rw [upgradeOf, found'] at found
      cases found

/-- Whatever the catalogue holds when it was refreshed, an Agent is offered the best release of it.
An empty version counts as none. -/
theorem findUpgradeFor_best (current : Option Text) (response : GithubResponse)
    (catalogue : Catalogue) :
    ∃ found after, (findUpgradeFor current response).run catalogue = (.ok found, after) ∧
      IsBest after.releases.rows (IsHigher (current.filter fun text => !text.isEmpty)) found := by
  have held := (wp_iff_run _).mp (wp_findUpgradeFor current response catalogue)
  cases ended : (findUpgradeFor current response).run catalogue with
  | mk result after =>
    rw [ended] at held
    cases result with
    | error failure => exact held.elim
    | ok found => exact ⟨found, after, rfl, held.2 ▸ isBest_upgradeOf current _⟩

/-- A release whose version is none. -/
def nightly : ReleaseRow where
  releaseVersion := "nightly"
  releaseProtocol := 1
  releaseChannel := .stable
  releaseImage := "optics-agent:nightly"
  releaseNotes := none
  releasePublishedAt := 0

def nightlyCatalogue : Catalogue where
  releases := ⟨[nightly], List.nodup_singleton _⟩
  now := 0

/-- It is offered to an Agent that reports an empty version, though it is not above it. -/
theorem not_findUpgradeFor_best_empty :
    ¬ ∀ current response catalogue, ∃ found after,
      (findUpgradeFor current response).run catalogue = (.ok found, after) ∧
        IsBest after.releases.rows (IsHigher current) found := by
  intro best
  have fresh : isFresh nightlyCatalogue = true := by decide
  have offered : (upgradeOf (some []) [nightly]).isSome = true := by decide +kernel
  obtain ⟨found, after, ended, isBest⟩ := best (some []) .unreachable nightlyCatalogue
  rw [run_findUpgradeFor fresh] at ended
  obtain ⟨same, rfl⟩ := Prod.mk.inj ended
  obtain rfl := Except.ok.inj same
  obtain ⟨view, known⟩ := Option.isSome_iff_exists.mp offered
  obtain ⟨row, ⟨inside, -, -⟩, -, higher⟩ := isBest.highest view known
  obtain rfl := List.mem_singleton.mp inside
  exact absurd (higher [] rfl) (by decide +kernel)

end ReleaseCatalog

end OpticsHub
