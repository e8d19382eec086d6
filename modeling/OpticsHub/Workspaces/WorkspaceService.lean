import OpticsHub.Agent.AgentGateway

/-!
# Workspaces and their agents

An owner creates and deletes workspaces, asks an agent for a connection by its code,
takes a request back and ends a connection. All of these read first and write later.
The writes to an agent name it by its code alone, whatever has become of it since the
read, and a request that cannot be handed to the agent is rolled back by a further
write. A subdomain is active as long as the DNS provider has a record for it.
-/
namespace OpticsHub

open Script Async Program

namespace WorkspaceService

open AgentService AgentGateway

/-! ## Failures -/

def workspaceNotFound : Failure := .notFound "Workspace Not Found."
def deletedWorkspaceNotFound : Failure := .notFound "Workspace Not Found"
def confirmationMismatch : Failure := .badRequest "Workspace delete confirmation does not match."
def dnsDeletionFailed : Failure := .serviceUnavailable "Failed to Delete DNS Record."
def dnsCreationFailed : Failure := .serviceUnavailable "Failed to Create DNS Record."
def dnsUpdateFailed : Failure := .serviceUnavailable "Failed to Update DNS Record."
def noSubdomain : Failure := .badRequest "This Workspace Has No Subdomain."
def subdomainLimitReached : Failure := .conflict "Active Subdomain Limit Reached."
def subdomainInUse : Failure := .conflict "Subdomain Already In Use."
def matchingAgentNotFound : Failure := .notFound "Matching Agent Not Found."
def alreadyRequested : Failure :=
  .conflict "This Agent Already Have Connection Request From Another Workspace."
def alreadyLinked : Failure := .gone "This Agent have valid Connection with Another Workspace."
def agentIsNotConnected : Failure := .serviceUnavailable "Agent is not connected."
def linkedAgentNotFound : Failure := .notFound "에이전트를 찾을 수 없습니다."
def agentIsNotLinked : Failure := .badRequest "에이전트와 연결되지 않았습니다."
def requestedAgentNotFound : Failure := .notFound "Agent Not Found."
def connectionIsNotRequested : Failure := .badRequest "Agent connection is not requested."

/-! ## Queries -/

/-- A workspace that is not deleted, by its owner. -/
def owned (owner : Int32) (workspaceIdx : ℕ) (workspace : WorkspaceRow) : Bool :=
  workspace.workspaceIndex == workspaceIdx && workspace.workspaceOwner == owner &&
    workspace.workspaceDeletedAt.isNone

def ownedWorkspace (owner : Int32) (workspaceIdx : ℕ) (database : Database) :
    Option WorkspaceRow :=
  database.workspaces.findFirst (owned owner workspaceIdx)

/-- `update` on `workspaces`. -/
def updateWorkspace (selected : WorkspaceRow → Bool) (change : ℤ → WorkspaceRow → WorkspaceRow)
    (keyed : ∀ now row, (change now row).workspaceIndex = row.workspaceIndex := by intros; rfl) :
    HubProgram WorkspaceRow :=
  atomically fun hub =>
    match hub.database.workspaces.findFirst selected with
    | none => (.error .internal, hub)
    | some row =>
      (.ok (change hub.now row), hub.write fun database =>
        { database with
          workspaces := database.workspaces.updateMany
            (fun other => other.workspaceIndex == row.workspaceIndex) (change hub.now)
            (keyed hub.now) })

/-! ## Subdomains -/

section Subdomains

variable (platform : Platform)

/-- A request to the DNS provider. -/
def askDns (request : DnsRequest) : HubProgram DnsReply :=
  step fun hub => (platform.dnsReply hub.drawn,
    { hub with
      drawn := hub.drawn + 1
      dnsRecords := request.records hub.dnsRecords (platform.dnsReply hub.drawn) })

/-- `createDnsRecord`, with a failure caught: the record, if there is one now. -/
def createDnsRecord (workspaceSubdomain : Text) : HubProgram (Option Text) := do
  let reply ← askDns platform (.create workspaceSubdomain)
  match reply with
  | .success recordId => return some recordId
  | _ => return none

/-- Whether the DNS provider has done what it was asked for. -/
def succeeded : DnsReply → Bool
  | .success _ => true
  | _ => false

/-- `deleteDnsRecord` or `updateDnsRecord`, with a failure caught: whether it was done. -/
def changeDnsRecord (request : DnsRequest) : HubProgram Bool := do
  let reply ← askDns platform request
  return succeeded reply

/-- Whether a text is there and not empty. -/
def present : Option Text → Bool
  | some (_ :: _) => true
  | _ => false

def countActiveSubdomains (database : Database) : ℕ :=
  database.workspaces.count fun workspace =>
    workspace.workspaceSubdomainActive && workspace.workspaceDeletedAt.isNone

/-- Whether another workspace has the subdomain active. -/
def isSubdomainTaken (subdomain : Text) (excludeWorkspaceIdx : Option ℕ) (database : Database) :
    Bool :=
  (database.workspaces.findFirst fun workspace =>
    workspace.workspaceSubdomain == some subdomain && workspace.workspaceSubdomainActive &&
      workspace.workspaceDeletedAt.isNone &&
      excludeWorkspaceIdx.all fun index => index == 0 || workspace.workspaceIndex != index).isSome

/-- The record of a subdomain that can be activated. -/
def tryActivateSubdomain (subdomain : Text) (excludeWorkspaceIdx : Option ℕ) :
    HubProgram (Option Text) := do
  let activeCount ← look fun hub => countActiveSubdomains hub.database
  if platform.subdomainActiveLimit ≤ activeCount then return none
  else do
    let taken ← look fun hub => isSubdomainTaken subdomain excludeWorkspaceIdx hub.database
    if taken then return none else createDnsRecord platform subdomain

/-- The name of a new workspace, counted if none is given. -/
def newName (owner : Int32) : Option Text → HubProgram Text
  | some name => return name
  | none => do
    let count ← look fun hub =>
      hub.database.workspaces.count fun workspace => workspace.workspaceOwner == owner
    return Text.ofString ("Unnamed Workspace " ++ toString (count + 1))

/-- `create` on `workspaces`: an owner has every name once, deleted ones included. -/
def createWorkspace (owner : Int32) (name : Text) (subdomain dnsRecordId : Option Text) :
    HubProgram WorkspaceRow :=
  atomically fun hub =>
    let taken := hub.database.workspaces.findFirst fun workspace =>
      workspace.workspaceOwner == owner && workspace.workspaceName == name
    let row (index : ℕ) : WorkspaceRow :=
      { workspaceIndex := index
        workspaceOwner := owner
        workspaceName := name
        workspaceSubdomain := subdomain
        workspaceSubdomainActive := dnsRecordId.isSome
        workspaceDnsRecordId := dnsRecordId
        workspaceCreatedAt := hub.now }
    match taken with
    | some _ => (.error .internal, hub)
    | none => (.ok (row hub.database.workspaces.next), hub.write fun database =>
        { database with workspaces := database.workspaces.create row })

def handleCreateWorkspace (owner : Int32) (workspaceName workspaceSubdomain : Option Text) :
    HubProgram WorkspaceRow := do
  let name ← newName owner workspaceName
  let dnsRecordId ←
    match workspaceSubdomain with
    | some (unit :: units) => tryActivateSubdomain platform (unit :: units) none
    | _ => pure none
  createWorkspace owner name workspaceSubdomain dnsRecordId

/-- What a change of a subdomain returns. -/
structure WorkspaceSubdomain where
  workspaceIndex : ℕ
  workspaceSubdomain : Option Text
  workspaceSubdomainActive : Bool

def subdomainOf (workspace : WorkspaceRow) : WorkspaceSubdomain where
  workspaceIndex := workspace.workspaceIndex
  workspaceSubdomain := workspace.workspaceSubdomain
  workspaceSubdomainActive := workspace.workspaceSubdomainActive

/-- Activate the subdomain of a workspace. -/
def activateSubdomain (workspaceIdx : ℕ) (subdomain : Text) : HubProgram WorkspaceSubdomain := do
  let activeCount ← look fun hub => countActiveSubdomains hub.database
  require (activeCount < platform.subdomainActiveLimit) subdomainLimitReached
  let taken ← look fun hub => isSubdomainTaken subdomain (some workspaceIdx) hub.database
  require (taken = false) subdomainInUse
  let dnsRecordId ← createDnsRecord platform subdomain
  require (present dnsRecordId = true) dnsCreationFailed
  let updated ← updateWorkspace (fun row => row.workspaceIndex == workspaceIdx) fun _ row =>
    { row with workspaceSubdomainActive := true, workspaceDnsRecordId := dnsRecordId }
  return subdomainOf updated

/-- The record of a workspace that has one. -/
def recordOf (workspace : WorkspaceRow) : Text := workspace.workspaceDnsRecordId.getD []

/-- Delete the record of a workspace, if it has one; a failure does not matter. -/
def dropDnsRecord (workspace : WorkspaceRow) : HubProgram Unit :=
  if present workspace.workspaceDnsRecordId then do
    let _ ← changeDnsRecord platform (.delete (recordOf workspace))
  else pure ()

/-- Deactivate the subdomain of a workspace. -/
def deactivateSubdomain (workspace : WorkspaceRow) (workspaceIdx : ℕ) :
    HubProgram WorkspaceSubdomain := do
  dropDnsRecord platform workspace
  let updated ← updateWorkspace (fun row => row.workspaceIndex == workspaceIdx) fun _ row =>
    { row with workspaceSubdomainActive := false, workspaceDnsRecordId := none }
  return subdomainOf updated

def handleToggleWorkspaceSubdomain (owner : Int32) (workspaceIdx : ℕ) (active : Bool) :
    HubProgram WorkspaceSubdomain := do
  let workspace ← look fun hub => ownedWorkspace owner workspaceIdx hub.database
  let workspace ← orThrow workspace workspaceNotFound
  match workspace.workspaceSubdomain with
  | some (unit :: units) =>
    if workspace.workspaceSubdomainActive = active then return subdomainOf workspace
    else if active then activateSubdomain platform workspaceIdx (unit :: units)
    else deactivateSubdomain platform workspace workspaceIdx
  | _ => throw noSubdomain

/-- Put another subdomain in the place of an active one. -/
def renameDnsRecord (workspace : WorkspaceRow) (workspaceIdx : ℕ) (subdomain : Text) :
    HubProgram Unit :=
  if workspace.workspaceSubdomainActive && present workspace.workspaceDnsRecordId then do
    let taken ← look fun hub => isSubdomainTaken subdomain (some workspaceIdx) hub.database
    require (taken = false) subdomainInUse
    let updated ← changeDnsRecord platform (.update subdomain (recordOf workspace))
    require (updated = true) dnsUpdateFailed
  else pure ()

def handleUpdateWorkspaceSubdomain (owner : Int32) (workspaceIdx : ℕ) (subdomain : Option Text) :
    HubProgram WorkspaceSubdomain := do
  let workspace ← look fun hub => ownedWorkspace owner workspaceIdx hub.database
  let workspace ← orThrow workspace workspaceNotFound
  let newSubdomain := (subdomain.map Text.trim).filter fun text => !text.isEmpty
  if newSubdomain = workspace.workspaceSubdomain then return subdomainOf workspace
  else
    match newSubdomain with
    | none => do
      dropDnsRecord platform workspace
      let updated ← updateWorkspace (fun row => row.workspaceIndex == workspaceIdx) fun _ row =>
        { row with
          workspaceSubdomain := none
          workspaceSubdomainActive := false
          workspaceDnsRecordId := none }
      return subdomainOf updated
    | some subdomain => do
      renameDnsRecord platform workspace workspaceIdx subdomain
      let updated ← updateWorkspace (fun row => row.workspaceIndex == workspaceIdx) fun _ row =>
        { row with workspaceSubdomain := some subdomain }
      return subdomainOf updated

/-- Delete the record of a workspace before the workspace itself. -/
def deleteDnsRecord (workspace : WorkspaceRow) : HubProgram Unit :=
  if present workspace.workspaceDnsRecordId then do
    let deleted ← changeDnsRecord platform (.delete (recordOf workspace))
    require (deleted = true) dnsDeletionFailed
  else pure ()

/-- The row of a workspace that is deleted. -/
def deletedRow (workspaceDeleteTimestamp : ℤ) (row : WorkspaceRow) : WorkspaceRow :=
  { row with
    workspaceDeletedAt := some workspaceDeleteTimestamp
    workspaceSubdomainActive := false
    workspaceDnsRecordId := none }

/-- The write of a deletion. -/
def markDeleted (owner : Int32) (workspaceIdx : ℕ) : HubProgram ℤ := do
  let workspaceDeleteTimestamp ← look Hub.now
  let _ ← updateWorkspace (owned owner workspaceIdx)
    (fun _ => deletedRow workspaceDeleteTimestamp) fun _ _ => rfl
  return workspaceDeleteTimestamp

def handleDeleteWorkspace (owner : Int32) (workspaceIdx : ℕ) (ownerDisplay confirmation : Text) :
    HubProgram ℤ := do
  let workspaceData ← look fun hub => ownedWorkspace owner workspaceIdx hub.database
  let workspaceData ← orThrow workspaceData deletedWorkspaceNotFound
  require (confirmation = ownerDisplay ++ Text.ofString "/" ++ workspaceData.workspaceName)
    confirmationMismatch
  deleteDnsRecord platform workspaceData
  markDeleted owner workspaceIdx

end Subdomains

/-! ## Names -/

/-- Hand a packet to an agent, whether that succeeds or not. -/
def send (agentUuid : Text) (packet : ℤ → AgentPacket) : HubProgram Bool :=
  step fun hub => sendToAgent agentUuid (packet hub.now) hub

/-- The data that a connection writes: who has asked for the agent or is linked to it. -/
def relink (connection : ConnectionStatus) (parent : Option ℕ) (row : AgentRow) : AgentRow :=
  { row with agentConnection := connection, agentParentWorkspace := parent }

/-- The write of an owner to an agent, by its code. -/
def updateByCode (agentCode : Text) (connection : ConnectionStatus) (parent : Option ℕ) :
    HubProgram AgentRow :=
  updateAgent (fun row => row.agentCode == agentCode) (relink connection parent) fun _ => rfl

/-- The agent that a request is about: one that is free. -/
def freeAgent (rawAgent : Option AgentRow) : HubProgram AgentRow := do
  let rawAgent ← orThrow rawAgent matchingAgentNotFound
  require (rawAgent.agentConnection ≠ .requested) alreadyRequested
  require (rawAgent.agentConnection ≠ .linked) alreadyLinked
  return rawAgent

/-- What a request returns of the agent. -/
structure RequestedAgent where
  agentConnection : ConnectionStatus
  agentParentWorkspace : Option ℕ
  agentIp : Text
  agentUuid : Text
  deriving DecidableEq

def requestedAgent (row : AgentRow) : RequestedAgent where
  agentConnection := row.agentConnection
  agentParentWorkspace := row.agentParentWorkspace
  agentIp := row.agentIp
  agentUuid := row.agentUuid

/-- Take a request back that the agent could not be told of. -/
def rollBack (agentCode : Text) (targetWorkspaceIdx : ℕ) : HubProgram RequestedAgent := do
  let _ ← updateByCode agentCode .unlinked none
  atomically fun hub =>
    (.error agentIsNotConnected, hub.notifyWorkspaceUpdated (some targetWorkspaceIdx))

/-- Tell the agent of a request. -/
def announceRequest (rawWorkspace : WorkspaceRow) (targetWorkspaceIdx : ℕ)
    (workspaceOwnerName agentCode : Text) (rawUpdatedAgent : RequestedAgent) :
    HubProgram RequestedAgent := do
  let sent ← send rawUpdatedAgent.agentUuid fun now =>
    .connectRequest workspaceOwnerName rawWorkspace.workspaceName rawWorkspace.workspaceCreatedAt
      rawWorkspace.workspaceIndex now
  if sent then return rawUpdatedAgent else rollBack agentCode targetWorkspaceIdx

/-- The write of a request, and what follows it. -/
def placeRequest (rawWorkspace : WorkspaceRow) (targetWorkspaceIdx : ℕ)
    (workspaceOwnerName agentCode : Text) : HubProgram RequestedAgent := do
  let rawUpdatedAgent ← updateByCode agentCode .requested (some targetWorkspaceIdx)
  announceRequest rawWorkspace targetWorkspaceIdx workspaceOwnerName agentCode
    (requestedAgent rawUpdatedAgent)

/-- Look for the agent and ask it. -/
def requestAgent (rawWorkspace : WorkspaceRow) (targetWorkspaceIdx : ℕ)
    (targetAgentCode workspaceOwnerName : Text) : HubProgram RequestedAgent := do
  let rawAgent ← findAgent fun row => row.agentCode == targetAgentCode.toUpperCase
  let rawAgent ← freeAgent rawAgent
  placeRequest rawWorkspace targetWorkspaceIdx workspaceOwnerName rawAgent.agentCode

def requestConnectWorkspaceAndAgent (workspaceOwner : Int32) (targetWorkspaceIdx : ℕ)
    (targetAgentCode workspaceOwnerName : Text) : HubProgram RequestedAgent := do
  let rawWorkspace ← look fun hub => ownedWorkspace workspaceOwner targetWorkspaceIdx hub.database
  let rawWorkspace ← orThrow rawWorkspace workspaceNotFound
  requestAgent rawWorkspace targetWorkspaceIdx targetAgentCode workspaceOwnerName

/-- The agent of a workspace, if the caller owns that and it is not deleted. -/
def agentOfWorkspace (workspaceOwner : Int32) (targetWorkspaceIdx : ℕ) (targetAgentCode : Text)
    (database : Database) : Option AgentRow :=
  database.agents.findFirst fun agent =>
    agent.agentCode == targetAgentCode.toUpperCase &&
      agent.agentParentWorkspace == some targetWorkspaceIdx && agent.agentDeletedAt.isNone &&
      (ownedWorkspace workspaceOwner targetWorkspaceIdx database).isSome

/-- The write that releases an agent, and what follows it. -/
def unlinkAgent (agentCode agentUuid : Text) (targetWorkspaceIdx : ℕ) (tell : Text → Hub → Hub) :
    HubProgram AgentRow := do
  let rawUpdatedAgent ← updateByCode agentCode .unlinked none
  step fun hub => (rawUpdatedAgent,
    (tell agentUuid hub).notifyWorkspaceUpdated (some targetWorkspaceIdx))

/-- What ending a connection and taking a request back share: the agent of the workspace
is released if its connection is as expected, and then told. -/
def releaseAgent (workspaceOwner : Int32) (targetWorkspaceIdx : ℕ) (targetAgentCode : Text)
    (expected : ConnectionStatus) (notFound unexpected : Failure) (tell : Text → Hub → Hub) :
    HubProgram AgentRow := do
  let rawAgent ← look fun hub =>
    agentOfWorkspace workspaceOwner targetWorkspaceIdx targetAgentCode hub.database
  let rawAgent ← orThrow rawAgent notFound
  require (rawAgent.agentConnection = expected) unexpected
  unlinkAgent rawAgent.agentCode rawAgent.agentUuid targetWorkspaceIdx tell

def disconnectWorkspaceAgent (workspaceOwner : Int32) (targetWorkspaceIdx : ℕ)
    (targetAgentCode : Text) : HubProgram AgentRow :=
  releaseAgent workspaceOwner targetWorkspaceIdx targetAgentCode .linked linkedAgentNotFound
    agentIsNotLinked fun agentUuid hub => (disconnectAgent agentUuid hub).2

def cancelWorkspaceAgentConnectionRequest (workspaceOwner : Int32) (targetWorkspaceIdx : ℕ)
    (targetAgentCode : Text) : HubProgram AgentRow :=
  releaseAgent workspaceOwner targetWorkspaceIdx targetAgentCode .requested requestedAgentNotFound
    connectionIsNotRequested fun agentUuid hub =>
      (sendToAgent agentUuid (.connectRequestCancelled targetWorkspaceIdx hub.now) hub).2

end WorkspaceService

end OpticsHub
