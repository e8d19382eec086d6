import OpticsHub.Async.Undisturbed
import OpticsHub.Releases.Upgrades

/-!
# Blocks that last

An operator blocks a release by a column of its row that no run writes. Whatever runs and other
calls go on meanwhile, the block stands from the moment at which it was written until the next
call that changes it, and it comes before every other reason. A call may still be under way when
the block is lifted, so what it answers is certain only if it has ended by then.
-/
namespace OpticsHub

open Script Async Program Machine

namespace ReleaseCatalog

open ReleaseCatalogService (AgentRelease blockedReason shown)

/-! ## Calls -/

inductive CatalogueCall where
  | sync (response : GithubResponse)
  | blockRelease (version reason : Text)
  | unblockRelease (version : Text)
  | assertInstallable (version : Text) (response : GithubResponse)
  | listReleases (includeBeta : Bool) (response : GithubResponse)
  | findUpgradeFor (currentVersion : Option Text) (response : GithubResponse)

inductive CatalogueReply where
  | done
  | installable (row : ReleaseRow)
  | releases (views : List ReleaseView)
  | upgrade (view : Option ReleaseView)

def serveCatalogue : CatalogueCall → CatalogueProgram CatalogueReply
  | .sync response => do
    sync response
    return .done
  | .blockRelease version reason => do
    blockRelease version reason
    return .done
  | .unblockRelease version => do
    unblockRelease version
    return .done
  | .assertInstallable version response => do
    let row ← assertInstallable version response
    return .installable row
  | .listReleases includeBeta response => do
    let views ← listReleases includeBeta response
    return .releases views
  | .findUpgradeFor currentVersion response => do
    let view ← findUpgradeFor currentVersion response
    return .upgrade view

/-- Time that passes, in milliseconds. -/
def elapse (catalogue : Catalogue) (milliseconds : ℕ) : Unit × Catalogue :=
  ((), { catalogue with now := catalogue.now + milliseconds })

/-- The calls interleave with each other while time passes. -/
abbrev catalogueMoves : Transition (Config CatalogueCall Catalogue Failure CatalogueReply)
    (Move CatalogueCall ℕ) (Shown Unit Catalogue) :=
  observed serveCatalogue elapse

/-- Whether a call changes the block of a version. -/
def CatalogueCall.rules (version : Text) : CatalogueCall → Bool
  | .blockRelease other _ | .unblockRelease other => other == version
  | _ => false

/-! ## What keeps a block -/

/-- The row of a version has a block. -/
def Blocked (version reason : Text) (catalogue : Catalogue) : Prop :=
  ∃ row ∈ catalogue.releases, row.releaseVersion = version ∧ row.releaseManualBlock = some reason

/-- A block that is there stays there. -/
def KeepsBlock (version reason : Text) (before after : Catalogue) : Prop :=
  Blocked version reason before → Blocked version reason after

variable {version reason : Text}

theorem keepsBlock_of_releases {before after : Catalogue}
    (same : after.releases = before.releases) : KeepsBlock version reason before after := by
  rintro ⟨row, inside, held⟩
  exact ⟨row, same ▸ inside, held⟩

theorem keepsBlock_updateMany (catalogue : Catalogue) (selected : ReleaseRow → Bool)
    (change : ReleaseRow → ReleaseRow)
    (named : ∀ row, (change row).releaseVersion = row.releaseVersion)
    (kept : ∀ row, selected row = true → row.releaseVersion = version →
      (change row).releaseManualBlock = row.releaseManualBlock) :
    KeepsBlock version reason catalogue
      (catalogue.write (catalogue.releases.updateMany selected change named)) := by
  rintro ⟨row, inside, same, blocked⟩
  by_cases chosen : selected row = true
  · refine ⟨change row, ?_, (named row).trans same, (kept row chosen same).trans blocked⟩
    exact (NamedTable.mem_updateMany named).mpr ⟨row, inside, (if_pos chosen).symm⟩
  · exact ⟨row, NamedTable.mem_updateMany_of_not named inside chosen, same, blocked⟩

/-- A release that is written anew keeps the block of an operator. -/
theorem keepsBlock_upsert (catalogue : Catalogue) (create : ReleaseRow)
    (change : ReleaseRow → ReleaseRow)
    (named : ∀ row, (change row).releaseVersion = row.releaseVersion)
    (kept : ∀ row, (change row).releaseManualBlock = row.releaseManualBlock) :
    KeepsBlock version reason catalogue
      (catalogue.write (catalogue.releases.upsert create change named)) := by
  rintro ⟨row, inside, same, blocked⟩
  by_cases written : row.releaseVersion = create.releaseVersion
  · refine ⟨change row, ?_, (named row).trans same, (kept row).trans blocked⟩
    exact NamedTable.mem_upsert.mpr (.inr (.inl ⟨row, inside, written, rfl⟩))
  · exact ⟨row, NamedTable.mem_upsert.mpr (.inl ⟨inside, written⟩), same, blocked⟩

theorem keepsBlock_refl (catalogue : Catalogue) : KeepsBlock version reason catalogue catalogue :=
  id

theorem KeepsBlock.trans {first second third : Catalogue}
    (earlier : KeepsBlock version reason first second)
    (later : KeepsBlock version reason second third) : KeepsBlock version reason first third :=
  fun blocked => later (earlier blocked)

section Runs

variable (version reason)

theorem keepsBlock_syncReleases (releases : List Fetched) (seen : List Text) (oldest : Option ℤ) :
    Always (KeepsBlock version reason) (syncReleases releases seen oldest) := by
  induction releases generalizing seen oldest with
  | nil => exact always_pure _
  | cons fetched rest ih =>
    rw [syncReleases]
    split
    · exact ih seen oldest
    · refine Always.bind ((always_orThrow _ _).bind fun stored => ?_) fun _ => ih _ _
      exact always_step fun catalogue => keepsBlock_upsert catalogue _ _ _ fun _ => rfl

theorem keepsBlock_markYanked (seen : List Text) (oldest : Option ℤ) :
    Always (KeepsBlock version reason) (markYanked seen oldest) := by
  cases oldest with
  | none => exact always_pure _
  | some oldest =>
    exact always_step fun catalogue => keepsBlock_updateMany catalogue _ _ _ fun _ _ _ => rfl

/-- A run writes every column but that of the block. -/
theorem keepsBlock_runSync (response : GithubResponse) :
    Always (KeepsBlock version reason) (runSync response) := by
  rcases response with _ | _ | releases
  · exact always_throw _
  · exact always_throw _
  · refine (keepsBlock_syncReleases version reason releases [] none).bind fun seen => ?_
    refine (keepsBlock_markYanked version reason seen.1 seen.2).bind fun _ => ?_
    exact always_step fun _ => keepsBlock_of_releases rfl

theorem keepsBlock_sync (response : GithubResponse) :
    Always (KeepsBlock version reason) (sync response) := by
  have ends : Always (KeepsBlock version reason) endSync :=
    always_step fun _ => keepsBlock_of_releases rfl
  refine Always.bind (always_step fun _ => keepsBlock_of_releases rfl) fun starts => ?_
  cases starts with
  | false => exact always_pure _
  | true =>
    refine Always.bind ((keepsBlock_runSync version reason response).tryCatch fun _ => ?_)
      fun _ => ends
    exact ends.bind fun _ => always_throw _

theorem keepsBlock_ensureFresh (response : GithubResponse) :
    Always (KeepsBlock version reason) (ensureFresh response) := by
  refine Always.bind (always_step fun catalogue => ?_) fun stale => ?_
  · split
    · exact keepsBlock_refl catalogue
    · exact keepsBlock_of_releases rfl
  · cases stale with
    | false => exact always_pure _
    | true => exact (keepsBlock_sync version reason response).tryCatch fun _ => always_pure _

/-- The block of another version is no matter. -/
theorem keepsBlock_writeBlock {other : Text} (different : other ≠ version) (block : Option Text) :
    Always (KeepsBlock version reason) (writeBlock other block) := by
  refine always_atomically fun catalogue => ?_
  split
  · exact keepsBlock_refl catalogue
  · refine keepsBlock_updateMany catalogue _ _ _ fun row chosen same => ?_
    exact absurd ((beq_iff_eq.mp chosen).symm.trans same) different

/-- A call that does not change the block keeps it. -/
theorem keepsBlock_serve {call : CatalogueCall} (aside : call.rules version = false) :
    Always (KeepsBlock version reason) (serveCatalogue call) := by
  cases call with
  | sync response =>
    exact (keepsBlock_sync version reason response).bind fun _ => always_pure _
  | blockRelease other text =>
    refine Always.bind ?_ fun _ => always_pure _
    refine Always.bind (always_look keepsBlock_refl _) fun _ => ?_
    refine (always_orThrow _ _).bind fun _ => ?_
    exact keepsBlock_writeBlock version reason (by simpa [CatalogueCall.rules] using aside) _
  | unblockRelease other =>
    refine Always.bind ?_ fun _ => always_pure _
    refine Always.bind (always_look keepsBlock_refl _) fun _ => ?_
    refine (always_orThrow _ _).bind fun _ => ?_
    exact keepsBlock_writeBlock version reason (by simpa [CatalogueCall.rules] using aside) _
  | assertInstallable other response =>
    refine Always.bind ?_ fun _ => always_pure _
    refine (keepsBlock_ensureFresh version reason response).bind fun _ => ?_
    refine Always.bind (always_look keepsBlock_refl _) fun _ => ?_
    refine (always_orThrow _ _).bind fun release => ?_
    split
    · exact always_throw _
    · exact always_pure _
  | listReleases includeBeta response =>
    refine Always.bind ?_ fun _ => always_pure _
    refine (keepsBlock_ensureFresh version reason response).bind fun _ => ?_
    exact Always.bind (always_look keepsBlock_refl _) fun _ => always_pure _
  | findUpgradeFor current response =>
    refine Always.bind (Always.bind ?_ fun _ => always_pure _) fun _ => always_pure _
    refine (keepsBlock_ensureFresh version reason response).bind fun _ => ?_
    exact Always.bind (always_look keepsBlock_refl _) fun _ => always_pure _

end Runs

/-! ## What is answered while a block stands -/

/-- The answers that a block with a reason asks for. -/
def Respects (version reason : Text) : CatalogueCall → Except Failure CatalogueReply → Prop
  | .assertInstallable asked _, result =>
    asked = version → result = .error (.serviceUnavailable (shown reason))
  | .listReleases _ _, result =>
    ∀ views, result = .ok (.releases views) → ∀ view ∈ views, view.version = version →
      view.installable = false ∧ view.blockedReason = some (shown reason)
  | .findUpgradeFor _ _, result =>
    ∀ view, result = .ok (.upgrade (some view)) → view.version ≠ version
  | _, _ => True

/-- The block of an operator comes before every other reason. -/
theorem blockedReason_of_manual {release : AgentRelease} (given : reason ≠ [])
    (blocked : release.releaseManualBlock = some reason) :
    blockedReason release = some (shown reason) := by
  obtain ⟨unit, units, rfl⟩ := List.exists_cons_of_ne_nil given
  rw [blockedReason, blocked]

/-- The row of a blocked version is the one that is blocked. -/
theorem blockedReason_of_blocked {catalogue : Catalogue} {row : ReleaseRow} (given : reason ≠ [])
    (blocked : Blocked version reason catalogue) (inside : row ∈ catalogue.releases)
    (named : row.releaseVersion = version) :
    blockedReason row.toAgentRelease = some (shown reason) := by
  obtain ⟨row', inside', named', manual⟩ := blocked
  obtain rfl := NamedTable.eq_of_name inside inside' (named.trans named'.symm)
  exact blockedReason_of_manual given manual

theorem mem_listed {includeBeta : Bool} {rows : List ReleaseRow} {row : ReleaseRow}
    (inside : row ∈ listed includeBeta rows) : row ∈ rows :=
  (List.mem_filter.mp (List.mem_mergeSort.mp inside)).1

/-- A row of a blocked version is shown as such. -/
theorem viewOf_blocked {catalogue : Catalogue} {includeBeta : Bool} {view : ReleaseView}
    (given : reason ≠ []) (blocked : Blocked version reason catalogue)
    (shows : view ∈ (listed includeBeta catalogue.releases.rows).map viewOf)
    (named : view.version = version) :
    view.installable = false ∧ view.blockedReason = some (shown reason) := by
  obtain ⟨row, inside, rfl⟩ := List.mem_map.mp shows
  have why := blockedReason_of_blocked given blocked (mem_listed inside) named
  refine ⟨?_, why⟩
  change (blockedReason row.toAgentRelease).isNone = false
  rw [why]
  rfl

/-- Refreshing the catalogue leaves the block, whatever goes on besides. -/
theorem blocked_ensureFresh (response : GithubResponse) {catalogue : Catalogue}
    (blocked : Blocked version reason catalogue) :
    (ensureFresh response).Withstands (KeepsBlock version reason) (fun _ _ => True)
      (fun result after => result = .ok () ∧ Blocked version reason after) catalogue := by
  rw [ensureFresh, withstands_bind, withstands_step]
  refine fun middle kept => ⟨trivial, ?_⟩
  rw [continues_ok]
  by_cases fresh : isFresh middle = true
  · rw [if_pos fresh]
    exact ⟨rfl, kept blocked⟩
  · rw [if_neg fresh]
    -- a failure of the run is caught
    have before : Blocked version reason { middle with lastAttemptAt := middle.now } :=
      keepsBlock_of_releases rfl (kept blocked)
    refine Withstands.tryCatch ((keepsBlock_sync version reason response).withstands_keeping
      (fun _ _ kept held => kept held) (fun _ _ kept held => kept held) before) ?_ ?_
    · exact fun _ _ held => ⟨rfl, held⟩
    · exact fun _ _ held => ⟨rfl, held⟩

theorem releases_blocked (given : reason ≠ []) (includeBeta : Bool) (response : GithubResponse)
    {catalogue : Catalogue} (blocked : Blocked version reason catalogue) :
    (listReleases includeBeta response).Withstands (KeepsBlock version reason) (fun _ _ => True)
      (fun result _ => ∀ views, result = .ok views → ∀ view ∈ views, view.version = version →
        view.installable = false ∧ view.blockedReason = some (shown reason)) catalogue := by
  refine (blocked_ensureFresh response blocked).bind (fun _ middle held => ?_) ?_
  · obtain ⟨-, held⟩ := held
    rw [withstands_bind, withstands_look]
    refine fun last kept => ⟨trivial, ?_⟩
    rintro views returned view shows named
    obtain rfl := Except.ok.inj returned
    exact viewOf_blocked given (kept held) shows named
  · intro failure middle _ views returned
    cases returned

theorem installable_blocked (given : reason ≠ []) (response : GithubResponse)
    {catalogue : Catalogue} (blocked : Blocked version reason catalogue) :
    (assertInstallable version response).Withstands (KeepsBlock version reason) (fun _ _ => True)
      (fun result _ => result = .error (.serviceUnavailable (shown reason))) catalogue := by
  refine (blocked_ensureFresh response blocked).bind (fun _ middle held => ?_) ?_
  · obtain ⟨-, held⟩ := held
    rw [withstands_bind, withstands_look]
    refine fun last kept => ⟨trivial, ?_⟩
    obtain ⟨row, inside, named, manual⟩ := kept held
    have found : last.releases.find version = some row :=
      NamedTable.find_eq_some_iff.mpr ⟨inside, named⟩
    rw [continues_ok, found, orThrow, pure_bind', blockedReason_of_manual given manual]
    rfl
  · rintro failure middle ⟨failed, -⟩
    cases failed

theorem upgrade_blocked (given : reason ≠ []) (current : Option Text) (response : GithubResponse)
    {catalogue : Catalogue} (blocked : Blocked version reason catalogue) :
    (findUpgradeFor current response).Withstands (KeepsBlock version reason) (fun _ _ => True)
      (fun result _ => ∀ view, result = .ok (some view) → view.version ≠ version) catalogue := by
  refine (releases_blocked given false response blocked).bind (fun views _ held => ?_) ?_
  · intro view returned named
    obtain ⟨first, -⟩ := (upgradeAmong_eq_some _ _ _).mp (Except.ok.inj returned)
    have installable := List.find?_some first
    rw [(held views rfl view (List.mem_of_find?_eq_some first) named).1] at installable
    cases installable
  · intro failure _ _ view returned
    cases returned

/-- Every call that is started while the block stands respects it. -/
theorem respects_serve (given : reason ≠ []) (call : CatalogueCall) (catalogue : Catalogue)
    (blocked : Blocked version reason catalogue) :
    (serveCatalogue call).Withstands (KeepsBlock version reason) (fun _ _ => True)
      (fun result _ => Respects version reason call result) catalogue := by
  cases call with
  | assertInstallable asked response =>
    by_cases same : asked = version
    · subst same
      refine (installable_blocked given response blocked).bind (fun _ _ held => ?_) ?_
      · cases held
      · intro failure _ held _
        exact congrArg Except.error (Except.error.inj held)
    · refine ((always_any (serveCatalogue _)).withstands fun _ _ _ => trivial).mono
        (fun _ _ held => held) fun _ _ _ asked => absurd asked same
  | listReleases includeBeta response =>
    refine (releases_blocked given includeBeta response blocked).bind (fun views _ held => ?_) ?_
    · rintro views' returned
      obtain rfl := CatalogueReply.releases.inj (Except.ok.inj returned)
      exact held views rfl
    · intro failure _ _ views returned
      cases returned
  | findUpgradeFor current response =>
    refine (upgrade_blocked given current response blocked).bind (fun view _ held => ?_) ?_
    · rintro view' returned
      obtain rfl := CatalogueReply.upgrade.inj (Except.ok.inj returned)
      exact held view' rfl
    · intro failure _ _ view returned
      cases returned
  | sync response => exact (always_any _).withstands fun _ _ _ => trivial
  | blockRelease other text => exact (always_any _).withstands fun _ _ _ => trivial
  | unblockRelease other => exact (always_any _).withstands fun _ _ _ => trivial

/-! ## Runs -/

/-- The last of some moves is that with which a call returns that blocks a version. -/
def BlockReturns (version reason : Text) (start : Catalogue) (moves : List (Move CatalogueCall ℕ)) :
    Prop :=
  ∃ before index thread, moves = before ++ [.resume index] ∧
    (final catalogueMoves { state := start } before).threads[index]? = some thread ∧
    thread.call = .blockRelease version reason ∧ thread.result = none ∧
    ∃ thread', (final catalogueMoves { state := start } moves).threads[index]? = some thread' ∧
      thread'.result = some (.ok .done)

/-- No call that changes the block of a version is under way. -/
def Unruled (version : Text)
    (config : Config CatalogueCall Catalogue Failure CatalogueReply) : Prop :=
  ∀ thread ∈ config.threads, thread.result = none → thread.call.rules version = false

/-- None of some moves starts a call that changes the block of a version. -/
def LeavesBlock (version : Text) (moves : List (Move CatalogueCall ℕ)) : Prop :=
  ∀ input ∈ moves, ∀ call, input = .start call → call.rules version = false

/-- A call that blocks a version returns with the action that has blocked it. -/
theorem establishes_blockRelease :
    (serveCatalogue (.blockRelease version reason)).Establishes (Blocked version reason) := by
  refine Establishes.map (establishes_bind fun release => establishes_bind fun _ => ?_) fun _ =>
    CatalogueReply.done
  refine establishes_atomically fun catalogue value written => ?_
  cases found : catalogue.releases.find version with
  | none =>
    rw [found] at written
    cases written
  | some row =>
    obtain ⟨inside, named⟩ := NamedTable.find_eq_some_iff.mp found
    refine ⟨{ row with releaseManualBlock := some reason }, ?_, named, rfl⟩
    rw [Catalogue.write_releases, NamedTable.mem_updateMany]
    exact ⟨row, inside, (if_pos (beq_iff_eq.mpr named)).symm⟩

/-- When a call has blocked a version, the version is blocked. -/
theorem blocked_of_returns {start : Catalogue} {moves : List (Move CatalogueCall ℕ)}
    (returns : BlockReturns version reason start moves) :
    Blocked version reason (final catalogueMoves { state := start } moves).state := by
  obtain ⟨before, index, thread, rfl, found, call, running, thread', found', ended⟩ := returns
  rw [final_append] at found' ⊢
  exact established_of_returns establishes_blockRelease (following_along start before) found call
    running found' ended

/-- From the return of a call that blocks a version, while no call changes that block, every call
that has started and ended since respects it. -/
theorem block_lasts {start : Catalogue} {earlier : List (Move CatalogueCall ℕ)}
    (given : reason ≠ []) (returns : BlockReturns version reason start earlier)
    (alone : Unruled version (final catalogueMoves { state := start } earlier))
    {moves : List (Move CatalogueCall ℕ)} (leaves : LeavesBlock version moves) :
    ∀ thread ∈ (final catalogueMoves { state := start } (earlier ++ moves)).threads,
      earlier.length ≤ thread.started → ∀ result, thread.result = some result →
        Respects version reason thread.call result := by
  have following : Following serveCatalogue (trace catalogueMoves { state := start } earlier)
      (final catalogueMoves { state := start } earlier) := following_along start earlier
  have undisturbed : Undisturbed (KeepsBlock version reason)
      (final catalogueMoves { state := start } earlier) :=
    undisturbed_of_following following fun thread inside running =>
      keepsBlock_serve version reason (alone thread inside running)
  have now : (final catalogueMoves { state := start } earlier).moves = earlier.length :=
    following.1.trans (trace_length _ _ _)
  rw [final_append, ← now]
  apply undisturbed.answers keepsBlock_refl (fun _ _ => keepsBlock_of_releases rfl)
    KeepsBlock.trans (fun _ _ kept held => kept held) (respects_serve given)
    (blocked_of_returns returns)
  · exact started_along start earlier
  · exact fun input inside call starts => keepsBlock_serve version reason (leaves input inside call starts)

/-- One release that can be installed. -/
def oneRelease : Catalogue :=
  final catalogueStep { now := 0 } [.sync 20 (.releases [listedRelease "0.6.0" 10 true])]

/-- It is blocked, in three moves. -/
def blocksOne : List (Move CatalogueCall ℕ) :=
  [.start (.blockRelease "0.6.0" "broken"), .resume 0, .resume 0]

/-- Someone asks whether it can be installed. -/
def asksOne : List (Move CatalogueCall ℕ) :=
  [.start (.assertInstallable "0.6.0" .unreachable), .resume 1, .resume 1]

theorem blocksOne_returns : BlockReturns "0.6.0" "broken" oneRelease blocksOne :=
  ⟨[.start (.blockRelease "0.6.0" "broken"), .resume 0], 0, _, rfl, rfl, rfl, rfl, _, rfl, rfl⟩

theorem blocksOne_alone :
    Unruled "0.6.0" (final catalogueMoves { state := oneRelease } blocksOne) := by
  intro thread inside running
  obtain rfl := List.mem_singleton.mp inside
  cases running

theorem asksOne_leaves : LeavesBlock "0.6.0" asksOne := by
  intro input inside call starts
  subst starts
  obtain rfl : call = .assertInstallable "0.6.0" .unreachable := by simpa [asksOne] using inside
  rfl

theorem block_lasts_one :
    blocksOne.length = 3 ∧
      ∀ thread ∈ (final catalogueMoves { state := oneRelease } (blocksOne ++ asksOne)).threads,
        3 ≤ thread.started → ∀ result, thread.result = some result →
          Respects "0.6.0" "broken" thread.call result :=
  ⟨rfl, @block_lasts _ _ oneRelease blocksOne (by decide) blocksOne_returns blocksOne_alone asksOne
    asksOne_leaves⟩

/-- The block is lifted while the one who asked is still to look. -/
def liftsMeanwhile : List (Move CatalogueCall ℕ) :=
  [.start (.unblockRelease "0.6.0"), .resume 2, .resume 2, .resume 1, .resume 1]

/-- It is not enough that a call has started in between. -/
theorem not_block_lasts_lifted :
    ¬ ∀ (version reason : Text) (start : Catalogue)
      (earlier between later : List (Move CatalogueCall ℕ)), reason ≠ [] →
      BlockReturns version reason start earlier →
      Unruled version (final catalogueMoves { state := start } earlier) →
      LeavesBlock version between →
      ∀ thread ∈ (final catalogueMoves { state := start } (earlier ++ between ++ later)).threads,
        earlier.length ≤ thread.started → thread.started < earlier.length + between.length →
        ∀ result, thread.result = some result → Respects version reason thread.call result := by
  intro lasts
  have held := lasts "0.6.0" "broken" oneRelease blocksOne (asksOne.take 1) liftsMeanwhile (by decide)
    blocksOne_returns blocksOne_alone fun input inside => asksOne_leaves input
      (List.mem_of_mem_take inside)
  have accepted : ∃ thread ∈ (final catalogueMoves { state := oneRelease }
      (blocksOne ++ asksOne.take 1 ++ liftsMeanwhile)).threads, thread.started = 3 ∧
        thread.call = .assertInstallable "0.6.0" .unreachable ∧
        ∃ row, thread.result = some (.ok (.installable row)) :=
    ⟨_, List.mem_of_getElem? (i := 1) rfl, rfl, rfl, _, rfl⟩
  obtain ⟨thread, inside, started, call, row, ended⟩ := accepted
  have answer := held thread inside (by rw [started]; decide) (by rw [started]; decide) _ ended
  rw [call] at answer
  cases answer rfl

end ReleaseCatalog

end OpticsHub
