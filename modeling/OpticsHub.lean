import OpticsHub.Script.Text
import OpticsHub.Script.Number
import OpticsHub.Script.Value
import OpticsHub.Script.Json
import OpticsHub.Script.Coercion
import OpticsHub.Machine.Run
import OpticsHub.Async.Program
import OpticsHub.Async.Interleaving
import OpticsHub.Table.Rows
import OpticsHub.Global.Hash
import OpticsHub.Global.SigningMaterial
import OpticsHub.Global.TamperEvidence
import OpticsHub.Global.Replay
import OpticsHub.Auth.JwtUtil
import OpticsHub.Auth.JwtStrategy
import OpticsHub.Auth.Sessions
import OpticsHub.Auth.Lifetime
import OpticsHub.Auth.Independence
import OpticsHub.Database.Schema
import OpticsHub.Hub.State
import OpticsHub.Agent.AgentService
import OpticsHub.Agent.AgentUpdate
import OpticsHub.Agent.AgentGateway
import OpticsHub.Agent.Packets
import OpticsHub.Agent.Authenticated
import OpticsHub.Agent.Replays
import OpticsHub.Script.Parse
import OpticsHub.Tunnel.TunnelService
import OpticsHub.Services.Normalize
import OpticsHub.Services.ServiceService
import OpticsHub.Services.Deploy
import OpticsHub.Async.Serial
import OpticsHub.Workspaces.WorkspaceService
import OpticsHub.Workspaces.Releasable
import OpticsHub.Workspaces.LinkCalls
import OpticsHub.Workspaces.Linking
import OpticsHub.Async.History
import OpticsHub.Agent.Sending
import OpticsHub.Services.Commands
import OpticsHub.Agent.ConsoleGateway
import OpticsHub.Agent.AgentEvents
import OpticsHub.Agent.ConsoleAccess
import OpticsHub.Agent.Handshakes
import OpticsHub.Agent.RelayIsolation
import OpticsHub.Global.Semver
import OpticsHub.Releases.ReleaseCatalog
import OpticsHub.Agent.RemoteUpdate
import OpticsHub.Agent.SocketMap
import OpticsHub.Agent.Registering
import OpticsHub.Agent.Issuing
import OpticsHub.Agent.OfflineServices
import OpticsHub.Async.Mending
import OpticsHub.Agent.UpdateRuns
import OpticsHub.Agent.StuckUpdates
import OpticsHub.Agent.UpdateOrders
import OpticsHub.Agent.UpdateOutcomes
import OpticsHub.Script.Whole
import OpticsHub.Services.TrafficBlocks
import OpticsHub.Services.Representatives
import OpticsHub.Services.Actions
import OpticsHub.Services.Removals
import OpticsHub.Services.Addresses
import OpticsHub.Async.Once
import OpticsHub.Auth.TwoFactor
import OpticsHub.Auth.SingleUse
import OpticsHub.Workspaces.Subdomains
import OpticsHub.Workspaces.DnsRecords
import OpticsHub.Script.Utf8
import OpticsHub.Net.Duplex
import OpticsHub.Gateway.Registry
import OpticsHub.Gateway.Request
import OpticsHub.Gateway.State
import OpticsHub.Gateway.Preconnect
import OpticsHub.Gateway.Server
import OpticsHub.Gateway.Wiring
import OpticsHub.Gateway.Sockets
import OpticsHub.Gateway.Pools
import OpticsHub.Gateway.Stations
import OpticsHub.Gateway.Bytes
import OpticsHub.Gateway.Rendezvous
import OpticsHub.Gateway.Arrivals
import OpticsHub.Gateway.Frames
import OpticsHub.Gateway.Fidelity
import OpticsHub.Tunnel.SigningSecrets
import OpticsHub.Tunnel.SharedGuard
import OpticsHub.Tunnel.Routes
import OpticsHub.Gateway.Pages
import OpticsHub.Workspaces.Validation
import OpticsHub.Gateway.Addresses
import OpticsHub.Gateway.HostGrammar
import OpticsHub.Gateway.Published
import OpticsHub.Traffic.TrafficSync
import OpticsHub.Tunnel.Responses
import OpticsHub.Tunnel.Outcomes
import OpticsHub.Releases.Connecting
import OpticsHub.Releases.Withdrawals
import OpticsHub.Releases.Deletions
import OpticsHub.Releases.Upgrades
import OpticsHub.Releases.Blocks
import OpticsHub.Agent.ContainerReports
import OpticsHub.Script.Numerals
import OpticsHub.Script.RoundTrip
import OpticsHub.Global.RoundTrip
import OpticsHub.Agent.TerminalTokens
import OpticsHub.Script.Enumeration
import OpticsHub.Global.Canonical
import OpticsHub.Services.PortMappings
import OpticsHub.Services.Redeployments
import OpticsHub.Services.Targets
import OpticsHub.Script.Remains
import OpticsHub.Services.Sources
import OpticsHub.Services.Listing
import OpticsHub.Async.Failing
import OpticsHub.Services.Replacements
import OpticsHub.Workspaces.Creation
import OpticsHub.Workspaces.Actions
import OpticsHub.Workspaces.Naming
import OpticsHub.Workspaces.Links
import OpticsHub.Tunnel.Tenants
import OpticsHub.Global.VersionOrder
import OpticsHub.Releases.Offers
import OpticsHub.Traffic.Attribution
import OpticsHub.Script.Calendar
import OpticsHub.Traffic.Backfill
import OpticsHub.Script.Transcoding
import OpticsHub.Script.PercentEncoding
import OpticsHub.Gateway.HeaderLines
import OpticsHub.Gateway.Chunks
import OpticsHub.Gateway.Templates
import OpticsHub.Script.Paths
import OpticsHub.Global.CamelCase
import OpticsHub.Auth.Verifications
import OpticsHub.Async.Ghosts
import OpticsHub.Async.Precedence
import OpticsHub.Tunnel.Origins
import OpticsHub.Tunnel.BlockedRoutes
import OpticsHub.Gateway.Registrations
import OpticsHub.Script.Escapes
import OpticsHub.Mailer.Escaping
import OpticsHub.Gateway.Places
import OpticsHub.Gateway.OneResponse
import OpticsHub.Gateway.HandOver
import OpticsHub.Async.Sequence
import OpticsHub.Agent.Company
import OpticsHub.Agent.StatusChanges
import OpticsHub.Agent.StatusDuties
import OpticsHub.Agent.OnlineStatus
import OpticsHub.Machine.Since
import OpticsHub.Agent.Terminals
import OpticsHub.Agent.TerminalEntries
import OpticsHub.Agent.TerminalRelays
import OpticsHub.Agent.TerminalRuns
import OpticsHub.Net.Groups
import OpticsHub.Agent.Rooms
import OpticsHub.Async.SharedJob
import OpticsHub.Async.Guarantees
import OpticsHub.Stats.StatsService
import OpticsHub.Stats.Load
import OpticsHub.Traffic.SyncService
import OpticsHub.Traffic.Observations
import OpticsHub.Auth.Accounts
import OpticsHub.Auth.Ownership
import OpticsHub.Auth.Passwords
