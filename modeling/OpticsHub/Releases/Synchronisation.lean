import OpticsHub.Agent.ConsoleGateway
import OpticsHub.Global.Semver
import OpticsHub.Releases.ReleaseCatalog
import OpticsHub.Table.Named

/-!
# How the catalogue of releases is kept

The catalogue copies the releases that GitHub lists, as far as each has metadata that can be
read. A run asks for the list and then for the metadata of one release after another, and writes
each row as it goes. In the end it marks what it has not seen as withdrawn, but only as far back
as the oldest release that it has seen. What GitHub answers is given to a run: the list, and with
each release the answer to the request for its metadata.

An operator blocks a release in a column that no run writes. Whoever reads the catalogue first
has it refreshed, if the last run was long ago. A call that finds a run under way waits for that
one; here it may go on at any time.
-/
namespace OpticsHub

open Script Async Program

namespace ReleaseCatalog

open ReleaseCatalogService (AgentRelease blockedReason shown)
open ConsoleGateway (member)

/-! ## What GitHub answers -/

structure GithubAsset where
  name : Text
  url : Text

structure GithubRelease where
  tagName : Text
  body : Option Text := none
  draft : Bool := false
  prerelease : Bool := false
  publishedAt : Option ℤ
  assets : List GithubAsset

/-- A release with the answer to the request for its metadata: the value that the body denotes, or
nothing if the request fails, is refused, or has no such body. -/
abbrev Fetched := GithubRelease × Option Value

/-- The answer to the request for the list. -/
inductive GithubResponse where
  | unreachable
  | refused (status : ℕ) (detail : String)
  | releases (releases : List Fetched)

/-! ## The catalogue -/

inductive Channel where
  | stable
  | beta
  deriving DecidableEq

/-- A row of `agent_releases`. -/
structure ReleaseRow extends AgentRelease where
  releaseChannel : Channel
  releaseImage : Text
  releaseNotes : Option Text
  releasePublishedAt : ℤ

/-- The table of the releases, and what the service keeps in memory. -/
structure Catalogue where
  releases : NamedTable ReleaseRow (fun row => row.releaseVersion) := NamedTable.empty
  now : ℤ
  lastSyncedAt : ℤ := 0
  lastAttemptAt : ℤ := 0
  syncing : Bool := false

abbrev CatalogueProgram := Program Catalogue Failure

namespace Catalogue

/-- Write to the table. -/
def write (catalogue : Catalogue)
    (releases : NamedTable ReleaseRow (fun row => row.releaseVersion)) : Catalogue :=
  { catalogue with releases := releases }

@[simp]
theorem write_releases (catalogue : Catalogue)
    (releases : NamedTable ReleaseRow (fun row => row.releaseVersion)) :
    (catalogue.write releases).releases = releases :=
  rfl

end Catalogue

/-! ## Metadata -/

def metadataAsset : Text := "release.json"

/-- The metadata of a release. A version and an image are there, but need not be texts. -/
structure ReleaseMetadata where
  version : Value
  protocol : Number
  image : Value
  blocked : Option Text

/-- A block is a text that is not blank. -/
def declaredBlock : Value → Option Text
  | .string text => if text.trim.isEmpty then none else some text.trim
  | _ => none

/-- Read the metadata of a release from the answer to the request for it. -/
def fetchMetadata (reply : Option Value) : Option ReleaseMetadata := do
  let parsed ← reply.bind AgentGateway.packetMembers
  match member parsed "protocol" with
  | .number protocol =>
    if (member parsed "version").truthy && (member parsed "image").truthy then
      some {
        version := member parsed "version"
        protocol := protocol
        image := member parsed "image"
        blocked := declaredBlock (member parsed "blocked") }
    else none
  | _ => none

/-- The columns of metadata that the database takes: two texts, and an integer of 32 bits. -/
def storable (metadata : ReleaseMetadata) : Option (Text × ℤ × Text) :=
  match metadata.version, AgentService.numberColumn (some (.number metadata.protocol)),
    metadata.image with
  | .string version, some protocol, .string image => some (version, protocol, image)
  | _, _, _ => none

/-- A release that is published, with the metadata that could be read of it. -/
def published (fetched : Fetched) : Option (ℤ × ReleaseMetadata) :=
  if fetched.1.draft then none
  else do
    let publishedAt ← fetched.1.publishedAt
    let _ ← fetched.1.assets.find? fun asset => asset.name == metadataAsset
    let metadata ← fetchMetadata fetched.2
    return (publishedAt, metadata)

/-! ## Runs -/

def channelOf (release : GithubRelease) : Channel := if release.prerelease then .beta else .stable

/-- The row of a release that is new. -/
def releaseRow (release : GithubRelease) (publishedAt : ℤ) (blocked : Option Text) (version : Text)
    (protocol : ℤ) (image : Text) : ReleaseRow where
  releaseVersion := version
  releaseChannel := channelOf release
  releaseProtocol := protocol
  releaseImage := image
  releaseNotes := release.body
  releasePublishedAt := publishedAt
  releaseBlocked := blocked

/-- The row of a release that is known already. The block of an operator stays. -/
def refreshedRow (release : GithubRelease) (publishedAt : ℤ) (blocked : Option Text) (protocol : ℤ)
    (image : Text) (row : ReleaseRow) : ReleaseRow :=
  { row with
    releaseChannel := channelOf release
    releaseProtocol := protocol
    releaseImage := image
    releaseNotes := release.body
    releasePublishedAt := publishedAt
    releaseBlocked := blocked
    releaseYankedAt := none }

/-- Write the row of a release, and return its version. -/
def upsertRelease (release : GithubRelease) (publishedAt : ℤ) (metadata : ReleaseMetadata) :
    CatalogueProgram Text := do
  let (version, protocol, image) ← orThrow (storable metadata) .internal
  step fun catalogue => (version, catalogue.write (catalogue.releases.upsert
    (releaseRow release publishedAt metadata.blocked version protocol image)
    (refreshedRow release publishedAt metadata.blocked protocol image) fun _ => rfl))

/-- The earlier of two times, of which the first may be missing. -/
def earlier (oldest : Option ℤ) (publishedAt : ℤ) : Option ℤ :=
  some (match oldest with
    | some oldest => if publishedAt < oldest then publishedAt else oldest
    | none => publishedAt)

/-- Write one release after another, and return the versions and the oldest time that were seen. -/
def syncReleases : List Fetched → List Text → Option ℤ → CatalogueProgram (List Text × Option ℤ)
  | [], seen, oldest => pure (seen, oldest)
  | fetched :: rest, seen, oldest =>
    match published fetched with
    | none => syncReleases rest seen oldest
    | some (publishedAt, metadata) => do
      let version ← upsertRelease fetched.1 publishedAt metadata
      syncReleases rest (seen ++ [version]) (earlier oldest publishedAt)

/-- Mark the releases as withdrawn that were not seen, down to the oldest that was. -/
def markYanked (seen : List Text) (oldestSeen : Option ℤ) : CatalogueProgram Unit :=
  match oldestSeen with
  | none => pure ()
  | some oldest => step fun catalogue => ((), catalogue.write (catalogue.releases.updateMany
      (fun row => !seen.contains row.releaseVersion && decide (oldest ≤ row.releasePublishedAt) &&
        row.releaseYankedAt.isNone)
      (fun row => { row with releaseYankedAt := some catalogue.now }) fun _ => rfl))

def runSync : GithubResponse → CatalogueProgram Unit
  | .unreachable => throw .internal
  | .refused status detail =>
    throw (.serviceUnavailable ("GitHub releases fetch failed: " ++ toString status ++ " " ++ detail))
  | .releases releases => do
    let (seen, oldestSeen) ← syncReleases releases [] none
    markYanked seen oldestSeen
    step fun catalogue => ((), { catalogue with lastSyncedAt := catalogue.now })

/-- The end of a run, however it ended. -/
def endSync : CatalogueProgram Unit :=
  step fun catalogue => ((), { catalogue with syncing := false })

/-- Only one run is under way at a time. -/
def sync (response : GithubResponse) : CatalogueProgram Unit := do
  let starts ← step fun catalogue => (!catalogue.syncing, { catalogue with syncing := true })
  if starts then do
    tryCatch (runSync response) fun failure => do
      endSync
      throw failure
    endSync
  else pure ()

def freshnessMs : ℤ := 15 * 60 * 1000
def retryBackoffMs : ℤ := 60 * 1000

/-- Whether nothing has to be done before the catalogue is read. -/
def isFresh (catalogue : Catalogue) : Bool :=
  decide (catalogue.now - catalogue.lastSyncedAt < freshnessMs) ||
    decide (catalogue.now - catalogue.lastAttemptAt < retryBackoffMs)

/-- Refresh the catalogue if it is old. A failure is only logged. -/
def ensureFresh (response : GithubResponse) : CatalogueProgram Unit := do
  let stale ← step fun catalogue =>
    if isFresh catalogue then (false, catalogue)
    else (true, { catalogue with lastAttemptAt := catalogue.now })
  if stale then tryCatch (sync response) fun _ => pure () else pure ()

/-! ## Reading -/

/-- A release as the console shows it. -/
structure ReleaseView where
  version : Text
  channel : Channel
  protocol : ℤ
  notes : Option Text
  publishedAt : ℤ
  yanked : Bool
  installable : Bool
  blockedReason : Option String
  manuallyBlocked : Bool

def viewOf (row : ReleaseRow) : ReleaseView where
  version := row.releaseVersion
  channel := row.releaseChannel
  protocol := row.releaseProtocol
  notes := row.releaseNotes
  publishedAt := row.releasePublishedAt
  yanked := row.releaseYankedAt.isSome
  installable := (blockedReason row.toAgentRelease).isNone
  blockedReason := blockedReason row.toAgentRelease
  manuallyBlocked := row.releaseManualBlock.isSome

/-- Whether a row may come before another: its version is not lower. -/
def mayPrecede (first second : ReleaseRow) : Bool :=
  Semver.compareSemver second.releaseVersion first.releaseVersion != .gt

/-- The rows of a list, from the highest version to the lowest. -/
def listed (includeBeta : Bool) (rows : List ReleaseRow) : List ReleaseRow :=
  (rows.filter fun row => includeBeta || row.releaseChannel == .stable).mergeSort mayPrecede

def listReleases (includeBeta : Bool) (response : GithubResponse) :
    CatalogueProgram (List ReleaseView) := do
  ensureFresh response
  let rows ← look fun catalogue => listed includeBeta catalogue.releases.rows
  return rows.map viewOf

/-- The release that is offered to an Agent of a version, out of a list. -/
def upgradeAmong (releases : List ReleaseView) (currentVersion : Option Text) :
    Option ReleaseView := do
  let latest ← releases.find? ReleaseView.installable
  match currentVersion with
  | none | some [] => some latest
  | some version =>
    if Semver.compareSemver latest.version version = .gt then some latest else none

def findUpgradeFor (currentVersion : Option Text) (response : GithubResponse) :
    CatalogueProgram (Option ReleaseView) := do
  let releases ← listReleases false response
  return upgradeAmong releases currentVersion

def assertInstallable (version : Text) (response : GithubResponse) :
    CatalogueProgram ReleaseRow := do
  ensureFresh response
  let release ← look fun catalogue => catalogue.releases.find version
  let release ← orThrow release (.serviceUnavailable ("Unknown agent release: " ++ shown version))
  match blockedReason release.toAgentRelease with
  | some reason => throw (.serviceUnavailable reason)
  | none => pure release

/-! ## Blocks -/

def unknownRelease (version : Text) : Failure :=
  .notFound ("Unknown agent release: " ++ shown version)

/-- `update` of the block of an operator. -/
def writeBlock (version : Text) (block : Option Text) : CatalogueProgram Unit :=
  atomically fun catalogue =>
    match catalogue.releases.find version with
    | none => (.error .internal, catalogue)
    | some _ => (.ok (), catalogue.write (catalogue.releases.updateMany
        (fun row => row.releaseVersion == version)
        (fun row => { row with releaseManualBlock := block }) fun _ => rfl))

def blockRelease (version reason : Text) : CatalogueProgram Unit := do
  let release ← look fun catalogue => catalogue.releases.find version
  let _ ← orThrow release (unknownRelease version)
  writeBlock version (some reason)

def unblockRelease (version : Text) : CatalogueProgram Unit := do
  let release ← look fun catalogue => catalogue.releases.find version
  let _ ← orThrow release (unknownRelease version)
  writeBlock version none

end ReleaseCatalog

end OpticsHub
