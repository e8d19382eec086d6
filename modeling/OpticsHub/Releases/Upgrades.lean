import OpticsHub.Agent.RemoteUpdate
import OpticsHub.Global.Precedence
import OpticsHub.Releases.Withdrawals
import OpticsHub.Table.Sorted

/-!
# Releases that are offered as upgrades

The release that is offered to an Agent is the highest of the stable ones that are not blocked,
if it is above what the Agent has. It can be installed, as the same reason decides about both. But
a request for an update first asks that its version be the tag of an image, which nobody asks of
the versions in the catalogue.
-/
namespace OpticsHub

open Script Async Program Machine
open Std (ReflCmp OrientedCmp TransCmp)

namespace ReleaseCatalog

open ReleaseCatalogService (AgentRelease blockedReason)
open AgentGateway (getAgentSocket sendToAgent)
open AgentService (hasSecret)
open AgentUpdateService (isTag updatableAgent orderUpdate requestUpdate)

/-! ## Which release is offered -/

theorem mayPrecede_iff (first second : ReleaseRow) :
    mayPrecede first second = true ↔
      (Semver.compareSemver second.releaseVersion first.releaseVersion).isLE = true := by
  rw [mayPrecede]
  cases Semver.compareSemver second.releaseVersion first.releaseVersion <;> decide

theorem mayPrecede_trans (first second third : ReleaseRow)
    (higher : mayPrecede first second = true) (higher' : mayPrecede second third = true) :
    mayPrecede first third = true := by
  rw [mayPrecede_iff] at *
  exact TransCmp.isLE_trans higher' higher

theorem mayPrecede_total (first second : ReleaseRow) :
    (mayPrecede first second || mayPrecede second first) = true := by
  have swapped : Semver.compareSemver first.releaseVersion second.releaseVersion =
      (Semver.compareSemver second.releaseVersion first.releaseVersion).swap := OrientedCmp.eq_swap
  rw [Bool.or_eq_true, mayPrecede_iff, mayPrecede_iff, swapped]
  cases Semver.compareSemver second.releaseVersion first.releaseVersion <;> decide

/-- A stable release that is not blocked. -/
def isOffered (row : ReleaseRow) : Bool :=
  row.releaseChannel == .stable && (blockedReason row.toAgentRelease).isNone

/-- A release that is offered, and than which none that is offered is higher. -/
def IsHighest (rows : List ReleaseRow) (row : ReleaseRow) : Prop :=
  row ∈ rows ∧ isOffered row = true ∧
    ∀ row' ∈ rows, isOffered row' = true →
      Semver.compareSemver row'.releaseVersion row.releaseVersion ≠ .gt

/-- A version is above that of an Agent, if this has reported one. -/
def IsAbove (version : Text) : Option Text → Prop
  | none | some [] => True
  | some current => Semver.compareSemver version current = .gt

theorem upgradeAmong_eq_some (releases : List ReleaseView) (current : Option Text)
    (view : ReleaseView) :
    upgradeAmong releases current = some view ↔
      releases.find? ReleaseView.installable = some view ∧ IsAbove view.version current := by
  rw [upgradeAmong]
  cases releases.find? ReleaseView.installable with
  | none => simp
  | some latest =>
    rw [Option.bind_eq_bind, Option.bind_some]
    rcases current with _ | ⟨_ | ⟨unit, units⟩⟩
    · simp [IsAbove]
    · simp [IsAbove]
    · simp only [IsAbove, Option.ite_none_right_eq_some, Option.some.injEq]
      constructor
      · rintro ⟨above, rfl⟩
        exact ⟨rfl, above⟩
      · rintro ⟨rfl, above⟩
        exact ⟨above, rfl⟩

/-- The upgrade out of the rows of the catalogue. -/
def upgradeOf (current : Option Text) (rows : List ReleaseRow) : Option ReleaseView :=
  upgradeAmong ((listed false rows).map viewOf) current

/-- What is found is the highest. -/
theorem highest_of_upgradeOf {current : Option Text} {rows : List ReleaseRow} {view : ReleaseView}
    (found : upgradeOf current rows = some view) :
    ∃ row, IsHighest rows row ∧ viewOf row = view ∧ IsAbove row.releaseVersion current := by
  obtain ⟨first, above⟩ := (upgradeAmong_eq_some _ _ _).mp found
  rw [List.find?_map, Option.map_eq_some_iff] at first
  obtain ⟨row, first, rfl⟩ := first
  obtain ⟨inside, free, least⟩ :=
    List.least_of_find?_mergeSort mayPrecede_trans mayPrecede_total first
  obtain ⟨inside, stable⟩ := List.mem_filter.mp inside
  refine ⟨row, ⟨inside, ?_, fun row' inside' offered => ?_⟩, rfl, above⟩
  · rw [isOffered, Bool.and_eq_true]
    exact ⟨by simpa using stable, free⟩
  · rw [isOffered, Bool.and_eq_true] at offered
    rcases least row' (List.mem_filter.mpr ⟨inside', by simpa using offered.1⟩) offered.2 with
      rfl | precedes
    · have same : Semver.compareSemver row'.releaseVersion row'.releaseVersion = .eq :=
        ReflCmp.compare_self
      rw [same]
      exact Ordering.noConfusion
    · simpa [mayPrecede] using precedes

/-- The highest is found, if it comes first among those that are equally high. -/
theorem upgradeOf_highest {current : Option Text} {row : ReleaseRow} {rest : List ReleaseRow}
    (highest : IsHighest (row :: rest) row) (above : IsAbove row.releaseVersion current) :
    upgradeOf current (row :: rest) = some (viewOf row) := by
  obtain ⟨-, offered, least⟩ := highest
  have parts := offered
  rw [isOffered, Bool.and_eq_true] at parts
  refine (upgradeAmong_eq_some _ _ _).mpr ⟨?_, above⟩
  rw [List.find?_map, listed, List.filter_cons_of_pos (by simpa using parts.1),
    List.find?_mergeSort_cons mayPrecede_trans mayPrecede_total]
  · rfl
  · exact parts.2
  · intro other inside free
    obtain ⟨there, stable⟩ := List.mem_filter.mp inside
    have open' : isOffered other = true := by
      rw [isOffered, Bool.and_eq_true]
      exact ⟨by simpa using stable, free⟩
    simpa [mayPrecede] using least other (List.mem_cons_of_mem _ there) open'

/-! ## After the catalogue was read -/

/-- A run leaves the clock, and the time of the last attempt. -/
def KeepsTimes (before after : Catalogue) : Prop :=
  after.now = before.now ∧ after.lastAttemptAt = before.lastAttemptAt

theorem KeepsTimes.trans {first second third : Catalogue} (earlier : KeepsTimes first second)
    (later : KeepsTimes second third) : KeepsTimes first third :=
  ⟨later.1.trans earlier.1, later.2.trans earlier.2⟩

theorem always_syncReleases (releases : List Fetched) (seen : List Text) (oldest : Option ℤ) :
    Always KeepsTimes (syncReleases releases seen oldest) := by
  induction releases generalizing seen oldest with
  | nil => exact always_pure _
  | cons fetched rest ih =>
    rw [syncReleases]
    split
    · exact ih seen oldest
    · refine Always.bind ((always_orThrow _ _).bind fun _ => ?_) fun _ => ih _ _
      exact always_step fun _ => ⟨rfl, rfl⟩

theorem always_runSync (response : GithubResponse) : Always KeepsTimes (runSync response) := by
  rcases response with _ | _ | releases
  · exact always_throw _
  · exact always_throw _
  · refine (always_syncReleases releases [] none).bind fun seen => ?_
    refine Always.bind ?_ fun _ => always_step fun _ => ⟨rfl, rfl⟩
    cases seen.2 with
    | none => exact always_pure _
    | some oldest => exact always_step fun _ => ⟨rfl, rfl⟩

theorem always_sync (response : GithubResponse) : Always KeepsTimes (sync response) := by
  refine Always.bind (always_step fun _ => ⟨rfl, rfl⟩) fun starts => ?_
  have ends : Always KeepsTimes endSync := always_step fun _ => ⟨rfl, rfl⟩
  cases starts with
  | false => exact always_pure _
  | true =>
    refine Always.bind ((always_runSync response).tryCatch fun failure => ?_) fun _ => ends
    exact ends.bind fun _ => always_throw _

/-- Whoever has the catalogue refreshed leaves one that is not refreshed again at once. -/
theorem fresh_ensureFresh (response : GithubResponse) (catalogue : Catalogue) :
    wp (ensureFresh response) (fun _ after => isFresh after = true) (fun _ _ => False)
      catalogue := by
  simp only [ensureFresh, wp_bind, wp_step]
  by_cases fresh : isFresh catalogue = true
  · rw [if_pos fresh]
    exact fresh
  · rw [if_neg fresh]
    simp only [if_true, wp_tryCatch]
    have times : KeepsTimes _ ((sync response).run _).2 := (always_sync response).run
      (fun _ => ⟨rfl, rfl⟩) KeepsTimes.trans { catalogue with lastAttemptAt := catalogue.now }
    refine (@wp_state Catalogue Failure _ _ (fun after => isFresh after = true) _).mpr ?_
    rw [isFresh, times.1, times.2, Bool.or_eq_true]
    exact .inr (decide_eq_true (by rw [Int.sub_self]; decide))

/-- A catalogue that is fresh is only read. -/
theorem run_ensureFresh {catalogue : Catalogue} (fresh : isFresh catalogue = true)
    (response : GithubResponse) : (ensureFresh response).run catalogue = (.ok (), catalogue) := by
  simp only [ensureFresh, run_bind, step, run_atomically, runFrom, if_pos fresh]
  rfl

/-- The upgrade is taken from the rows that the catalogue has then. -/
theorem wp_findUpgradeFor (current : Option Text) (response : GithubResponse)
    (catalogue : Catalogue) :
    wp (findUpgradeFor current response) (fun view after => isFresh after = true ∧
      view = upgradeOf current after.releases.rows) (fun _ _ => False) catalogue := by
  simp only [findUpgradeFor, listReleases, wp_bind]
  exact wp_mono _ (fun _ _ fresh => ⟨fresh, rfl⟩) (fun _ _ => False.elim)
    (fresh_ensureFresh response catalogue)

theorem findUpgradeFor_ok {current : Option Text} {response : GithubResponse}
    {catalogue after : Catalogue} {view : ReleaseView}
    (found : (findUpgradeFor current response).run catalogue = (.ok (some view), after)) :
    isFresh after = true ∧ upgradeOf current after.releases.rows = some view := by
  have held := (wp_iff_run _).mp (wp_findUpgradeFor current response catalogue)
  rw [found] at held
  exact ⟨held.1, held.2.symm⟩

theorem run_findUpgradeFor {catalogue : Catalogue} (fresh : isFresh catalogue = true)
    (current : Option Text) (response : GithubResponse) :
    (findUpgradeFor current response).run catalogue =
      (.ok (upgradeOf current catalogue.releases.rows), catalogue) := by
  rw [findUpgradeFor, listReleases, run_bind, run_bind, run_ensureFresh fresh]
  rfl

/-! ## Requests for an upgrade -/

/-- What the catalogue says of a version, for a request at the Hub. -/
def known (catalogue : Catalogue) (_ : Hub) (version : Text) : Option AgentRelease :=
  (catalogue.releases.find version).map ReleaseRow.toAgentRelease

/-- A version is the tag of an image and can be installed, and a request for it is fulfilled for
an Agent that is connected and that can be updated. -/
def Requestable (catalogue : Catalogue) (version : Text) : Prop :=
  isTag version = true ∧
  (∀ response, ∃ row, (assertInstallable version response).run catalogue = (.ok row, catalogue)) ∧
  ∀ hub agentUuid agent socket,
    (updatableAgent agentUuid).run hub = (.ok agent, hub) →
    getAgentSocket hub agentUuid = some socket →
    hasSecret (hub.sockets socket).data.signingSecret = true →
    ((requestUpdate (known catalogue) agentUuid (.string version)).run hub).1 = .ok ()

/-- A row that is not blocked can be installed. -/
theorem run_assertInstallable {catalogue : Catalogue} (fresh : isFresh catalogue = true)
    {row : ReleaseRow} (inside : row ∈ catalogue.releases)
    (free : blockedReason row.toAgentRelease = none) (response : GithubResponse) :
    (assertInstallable row.releaseVersion response).run catalogue = (.ok row, catalogue) := by
  have found : catalogue.releases.find row.releaseVersion = some row :=
    NamedTable.find_eq_some_iff.mpr ⟨inside, rfl⟩
  rw [assertInstallable, run_bind, run_ensureFresh fresh]
  change (orThrow (catalogue.releases.find row.releaseVersion) _ >>= _).run catalogue = _
  simp only [found, orThrow, pure_bind', free, run_pure]

/-- An order is given to an Agent that is connected. -/
theorem wp_orderUpdate {hub : Hub} {agentUuid : Text} {socket : ℕ}
    (connected : getAgentSocket hub agentUuid = some socket)
    (secret : hasSecret (hub.sockets socket).data.signingSecret = true) (version : Text)
    (agent : AgentRow) :
    wp (orderUpdate agentUuid version agent) (fun _ _ => True) (fun _ _ => False) hub := by
  simp only [orderUpdate, sendToAgent, connected, secret, if_true, wp_bind, wp_step, wp_require]
  exact ⟨fun _ => AgentUpdateService.wp_recordPhase fun _ _ _ _ => trivial, fun unsent => unsent trivial⟩

theorem requestable_row {catalogue : Catalogue} (fresh : isFresh catalogue = true)
    {row : ReleaseRow} (inside : row ∈ catalogue.releases)
    (free : blockedReason row.toAgentRelease = none) (tag : isTag row.releaseVersion = true) :
    Requestable catalogue row.releaseVersion := by
  refine ⟨tag, fun response => ⟨row, run_assertInstallable fresh inside free response⟩, ?_⟩
  intro hub agentUuid agent socket updatable connected secret
  have found : catalogue.releases.find row.releaseVersion = some row :=
    NamedTable.find_eq_some_iff.mpr ⟨inside, rfl⟩
  have checked : wp (updatableAgent agentUuid) (fun _ after => after = hub) (fun _ _ => False)
      hub := by
    rw [wp_iff_run, updatable]
  have held : wp (requestUpdate (known catalogue) agentUuid (.string row.releaseVersion))
      (fun _ _ => True) (fun _ _ => False) hub := by
    simp only [requestUpdate, Value.toText, orThrow, pure_bind', tag, wp_bind, wp_require,
      not_true_eq_false, IsEmpty.forall_iff, and_true, forall_const]
    refine wp_mono _ (fun agent after same => ?_) (fun _ _ => False.elim) checked
    subst same
    simp only [wp_bind, ReleaseCatalogService.assertInstallable, wp_look, known, found,
      Option.map_some, orThrow, wp_pure, free]
    exact wp_orderUpdate connected secret row.releaseVersion agent
  rw [wp_iff_run] at held
  cases ended : (requestUpdate (known catalogue) agentUuid (.string row.releaseVersion)).run hub with
  | mk result after =>
    rw [ended] at held
    cases result with
    | ok value => rfl
    | error failure => exact held.elim

/-- Whatever upgrade is found, in whichever order the database returns its rows, can be
requested. -/
def UpgradesRequestable (rows : List ReleaseRow) (current : Option Text) : Prop :=
  ∀ catalogue response view after,
    (findUpgradeFor current response).run catalogue = (.ok (some view), after) →
    after.releases.rows.Perm rows → Requestable after view.version

theorem IsHighest.perm {rows rows' : List ReleaseRow} {row : ReleaseRow}
    (highest : IsHighest rows row) (same : rows.Perm rows') : IsHighest rows' row :=
  ⟨same.mem_iff.mp highest.1, highest.2.1,
    fun row' inside => highest.2.2 row' (same.mem_iff.mpr inside)⟩

/-- Every upgrade that is found can be requested exactly if the highest of the releases that are
offered, where they are above the version of the Agent, have versions that are tags of images. -/
theorem upgrades_requestable_iff
    (releases : NamedTable ReleaseRow fun row => row.releaseVersion) (current : Option Text) :
    UpgradesRequestable releases.rows current ↔
      ∀ row, IsHighest releases.rows row → IsAbove row.releaseVersion current →
        isTag row.releaseVersion = true := by
  constructor
  · intro requestable row highest above
    obtain ⟨before, after, split⟩ := List.append_of_mem highest.1
    have same : releases.rows.Perm (row :: (before ++ after)) := split ▸ List.perm_middle
    -- the database may return this row before the others that are as high
    let catalogue : Catalogue :=
      { releases := ⟨row :: (before ++ after), (same.map _).nodup releases.distinct⟩, now := 0 }
    have fresh : isFresh catalogue = true :=
      (Bool.or_eq_true _ _).mpr (.inl (decide_eq_true (by change (0 : ℤ) - 0 < _; decide)))
    have found := run_findUpgradeFor fresh current .unreachable
    rw [upgradeOf_highest (highest.perm same) above] at found
    exact (requestable catalogue .unreachable (viewOf row) catalogue found same.symm).1
  · intro tagged catalogue response view after found same
    obtain ⟨fresh, found⟩ := findUpgradeFor_ok found
    obtain ⟨row, highest, rfl, above⟩ := highest_of_upgradeOf found
    have free := highest.2.1
    rw [isOffered, Bool.and_eq_true, Option.isNone_iff_eq_none] at free
    exact requestable_row fresh highest.1 free.2 (tagged row (highest.perm same) above)

/-- A release with metadata whose version carries the identifiers of a build. -/
def buildRelease : List CatalogueEvent :=
  [.sync 20 (.releases [listedRelease "1.0.0+build" 10 true])]

/-- It is offered to every Agent, and its version is no tag. -/
theorem not_upgrades_requestable_build :
    ¬ ∀ events current, UpgradesRequestable
      (final catalogueStep { now := 0 } events).releases.rows current := by
  intro requestable
  have fresh : isFresh (final catalogueStep { now := 0 } buildRelease) = true := by decide +kernel
  have offered : (upgradeOf none (final catalogueStep { now := 0 } buildRelease).releases.rows).any
      (fun view => !isTag view.version) = true := by decide +kernel
  have found := run_findUpgradeFor fresh none .unreachable
  cases upgrade : upgradeOf none (final catalogueStep { now := 0 } buildRelease).releases.rows with
  | none =>
    rw [upgrade] at offered
    cases offered
  | some view =>
    rw [upgrade] at found offered
    have tag := (requestable buildRelease none _ _ view _ found (List.Perm.refl _)).1
    rw [Option.any_some, tag] at offered
    cases offered

end ReleaseCatalog

end OpticsHub
