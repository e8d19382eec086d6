import OpticsHub.Async.SharedJob
import OpticsHub.Database.Schema
import OpticsHub.Hub.State
import OpticsHub.Traffic.TrafficSync

/-!
# The public figures of the platform

Anyone may ask for the figures, so they are kept for half a minute, and while they are computed all
who ask wait for the one computation. It asks the database four questions at once. The answers come
in any order, and the first question that fails fails the computation. What is found is kept from
the moment it is complete; a failure is not kept.
-/
namespace OpticsHub

open Script Async Program Machine

namespace StatsService

open TrafficSyncService (TrafficDay trafficWindowDays dayOf)

/-- What is answered. The number of bytes and the time are sent as texts. -/
structure PublicStats where
  version : Option Text
  runningContainers : ℕ
  activeWorkspaceDomains : ℕ
  installedAgents : ℕ
  trafficBytes : ℕ
  trafficWindowDays : ℕ
  trafficAvailable : Bool
  generatedAt : ℤ

/-- Figures that are kept until a time. -/
structure Cached where
  data : PublicStats
  expiresAt : ℤ

def cacheTtlMs : ℤ := 30000

/-- The tables that are asked, the time, and what is kept. -/
structure Statistics where
  database : Database := {}
  trafficDaily : List TrafficDay := []
  now : ℤ
  cache : Option Cached := none

abbrev StatsProgram := Program Statistics Failure

/-! ## The questions -/

inductive Query where
  | runningContainers
  | activeWorkspaceDomains
  | installedAgents
  | trafficRows
  deriving DecidableEq

/-- What has been answered. -/
structure Figures where
  runningContainers : ℕ := 0
  activeWorkspaceDomains : ℕ := 0
  installedAgents : ℕ := 0
  trafficRows : List ℕ := []

def countRunningContainers (database : Database) : ℕ :=
  database.serviceComponents.count fun component =>
    component.componentStatus == .running && component.componentDeletedAt.isNone &&
      database.services.rows.any fun service =>
        service.serviceIndex == component.componentParentService && service.serviceDeletedAt.isNone

def countActiveWorkspaceDomains (database : Database) : ℕ :=
  database.workspaces.count fun workspace =>
    workspace.workspaceSubdomainActive && workspace.workspaceDeletedAt.isNone

/-- All agents that were ever installed, also those that are deleted. -/
def countInstalledAgents (database : Database) : ℕ :=
  database.agents.count fun agent => agent.agentVersion.isSome

/-- The bytes of the days from the first of the window on. -/
def findTrafficRows (windowStart : ℤ) (trafficDaily : List TrafficDay) : List ℕ :=
  (trafficDaily.filter fun row => decide (windowStart ≤ row.trafficDate)).map
    TrafficDay.trafficBytes

/-- The answer to one question, among those that have been answered. -/
def ask (windowStart : ℤ) (statistics : Statistics) (figures : Figures) : Query → Figures
  | .runningContainers =>
    { figures with runningContainers := countRunningContainers statistics.database }
  | .activeWorkspaceDomains =>
    { figures with activeWorkspaceDomains := countActiveWorkspaceDomains statistics.database }
  | .installedAgents =>
    { figures with installedAgents := countInstalledAgents statistics.database }
  | .trafficRows =>
    { figures with trafficRows := findTrafficRows windowStart statistics.trafficDaily }

/-- What a computation meets: the order in which the database answers the four questions, and the
one of them that fails first, if one does. -/
structure StatsRun where
  order : List Query
  complete : order.Perm
    [.runningContainers, .activeWorkspaceDomains, .installedAgents, .trafficRows]
  failing : Option Query := none

/-! ## The computation -/

/-- The first day of the window, read when the questions are asked. -/
def windowStart (statistics : Statistics) : ℤ := dayOf statistics.now - trafficWindowDays

/-- The answers, one after another. -/
def askAll (windowStart : ℤ) (failing : Option Query) :
    List Query → Figures → StatsProgram Figures
  | [], figures => pure figures
  | query :: rest, figures =>
    if failing = some query then
      throw (.serviceUnavailable "Failed to compute platform stats.")
    else do
      let figures ← look fun statistics => ask windowStart statistics figures query
      askAll windowStart failing rest figures

def publicStats (version : Option Text) (figures : Figures) (generatedAt : ℤ) : PublicStats where
  version := version
  runningContainers := figures.runningContainers
  activeWorkspaceDomains := figures.activeWorkspaceDomains
  installedAgents := figures.installedAgents
  trafficBytes := figures.trafficRows.sum
  trafficWindowDays := min figures.trafficRows.length trafficWindowDays
  trafficAvailable := decide (0 < figures.trafficRows.length)
  generatedAt := generatedAt

def computeStats (version : Option Text) (run : StatsRun) (windowStart : ℤ) :
    StatsProgram PublicStats := do
  let figures ← askAll windowStart run.failing run.order {}
  look fun statistics => publicStats version figures statistics.now

/-- A computation keeps what it has found. -/
def computeAndKeep (version : Option Text) (run : StatsRun) (windowStart : ℤ) :
    StatsProgram PublicStats := do
  let data ← computeStats version run windowStart
  step fun statistics =>
    (data, { statistics with cache := some ⟨data, statistics.now + cacheTtlMs⟩ })

/-- What is kept, as long as it has not expired. -/
def unexpired (statistics : Statistics) : Option PublicStats :=
  match statistics.cache with
  | some cached => if statistics.now < cached.expiresAt then some cached.data else none
  | none => none

def getPublicStats (version : Option Text) (run : StatsRun) :
    Program (Shared Statistics) Failure (Answer Failure PublicStats) :=
  shared unexpired windowStart (computeAndKeep version run)

/-! ## The service -/

/-- What comes from outside: time passes, and the tables change in any way. -/
inductive StatsEvent where
  | passes (ms : ℕ)
  | changes (database : Database) (trafficDaily : List TrafficDay)

def StatsEvent.happens (statistics : Statistics) : StatsEvent → Unit × Statistics
  | .passes ms => ((), { statistics with now := statistics.now + ms })
  | .changes database trafficDaily =>
    ((), { statistics with database := database, trafficDaily := trafficDaily })

/-- Calls for the figures, each with what its computation would meet, among all that comes from
outside. -/
abbrev statsService (version : Option Text) :
    Transition (Config StatsRun (Shared Statistics) Failure (Answer Failure PublicStats))
      (Move StatsRun StatsEvent) (Shown Unit (Shared Statistics)) :=
  observed (getPublicStats version) (aside StatsEvent.happens)

end StatsService

end OpticsHub
