import OpticsHub.Table.Rows
import OpticsHub.Script.Value

/-!
# The tables of the Hub

Workspaces own agents and services: an agent names the workspace that it is linked
to or has been asked by, and a service names its workspace, the agent it runs on
and the addresses under which it is published. Rows are never removed, apart from
the addresses of a service; a row that is gone for the user has a time of deletion.
Times are in milliseconds. The columns that no modelled function reads are left
out, and text columns compare unit by unit.
-/
namespace OpticsHub

open Script

inductive ConnectionStatus where
  | unlinked
  | requested
  | linked
  deriving DecidableEq, Repr

inductive AgentStatus where
  | waiting
  | online
  | offline
  | restarting
  | failed
  deriving DecidableEq, Repr

inductive AgentUpdatePhase where
  | idle
  | requested
  | pulling
  | restarting
  | succeeded
  | rolledBack
  | failed
  deriving DecidableEq, Repr

inductive ServiceStatus where
  | waiting
  | building
  | starting
  | running
  | stopped
  | offline
  | failed
  | removed
  deriving DecidableEq, Repr

inductive TrafficBlockMode where
  | notice
  | hidden
  deriving DecidableEq, Repr

inductive ServiceComponentStatus where
  | waiting
  | building
  | starting
  | running
  | stopped
  | failed
  | removed
  | restarting
  deriving DecidableEq, Repr

inductive DeployPreset where
  | dockerfile
  | compose
  | presetNestjs
  deriving DecidableEq, Repr

/-- A row of `workspaces`. -/
structure WorkspaceRow where
  workspaceIndex : ℕ
  workspaceOwner : Int32
  workspaceName : Text
  workspaceSubdomain : Option Text := none
  workspaceSubdomainActive : Bool := false
  workspaceDnsRecordId : Option Text := none
  workspaceCreatedAt : ℤ
  workspaceDeletedAt : Option ℤ := none

/-- A row of `agents`. -/
structure AgentRow where
  agentIndex : ℕ
  agentIp : Text
  agentCode : Text
  agentUuid : Text
  agentSigningSecret : Option Text := none
  agentProtocolVersion : Option ℤ := none
  agentName : Text
  agentParentWorkspace : Option ℕ := none
  agentConnection : ConnectionStatus := .unlinked
  agentStatus : AgentStatus := .waiting
  agentVersion : Option Text := none
  agentUpdatePhase : AgentUpdatePhase := .idle
  agentUpdateTarget : Option Text := none
  agentUpdateMessage : Option Text := none
  agentUpdateStartedAt : Option ℤ := none
  agentDeletedAt : Option ℤ := none
  agentLastOnline : ℤ

/-- A row of `services`. -/
structure ServiceRow where
  serviceIndex : ℕ
  serviceName : Text
  servicePort : ℤ
  serviceContainerPort : Option ℤ := none
  serviceHostPort : Option ℤ := none
  servicePortMappings : Option Value := none
  serviceSourceUrl : Text
  serviceSubdomain : Option Text := none
  serviceRootDirectory : Option Text := none
  serviceEnv : Option Value := none
  serviceParentWorkspace : ℕ
  serviceParentAgent : ℕ
  serviceStatus : ServiceStatus := .waiting
  serviceTrafficBlockedAt : Option ℤ := none
  serviceTrafficBlockReason : Option Text := none
  serviceTrafficBlockMode : TrafficBlockMode := .notice
  serviceVersion : Text
  serviceDeployPreset : DeployPreset := .dockerfile
  serviceDeletedAt : Option ℤ := none

/-- A row of `service_components`. -/
structure ComponentRow where
  componentIndex : ℕ
  componentParentService : ℕ
  componentName : Text
  componentContainerName : Option Text := none
  componentStatus : ServiceComponentStatus := .waiting
  componentHealth : Option Text := none
  componentExitCode : Option ℤ := none
  componentDeletedAt : Option ℤ := none

/-- A row of `service_endpoints`. -/
structure EndpointRow where
  endpointIndex : ℕ
  endpointParentWorkspace : ℕ
  endpointParentService : ℕ
  endpointComponentName : Option Text := none
  endpointSubdomain : Option Text := none
  endpointHostPort : ℤ
  endpointContainerPort : ℤ
  endpointDeletedAt : Option ℤ := none

instance : Keyed WorkspaceRow := ⟨WorkspaceRow.workspaceIndex⟩
instance : Keyed AgentRow := ⟨AgentRow.agentIndex⟩
instance : Keyed ServiceRow := ⟨ServiceRow.serviceIndex⟩
instance : Keyed ComponentRow := ⟨ComponentRow.componentIndex⟩
instance : Keyed EndpointRow := ⟨EndpointRow.endpointIndex⟩

structure Database where
  workspaces : Table WorkspaceRow := Table.empty
  agents : Table AgentRow := Table.empty
  services : Table ServiceRow := Table.empty
  serviceComponents : Table ComponentRow := Table.empty
  serviceEndpoints : Table EndpointRow := Table.empty

end OpticsHub
