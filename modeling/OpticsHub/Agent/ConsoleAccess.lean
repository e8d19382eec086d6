import OpticsHub.Agent.ConsoleGateway
import OpticsHub.Agent.Sending
import OpticsHub.Services.Deploy
import OpticsHub.Workspaces.Releasable

/-!
# Which Agents a console reaches

A packet that is passed on for a console goes to an Agent that the check of the same
event has found linked to a living workspace of the user. The check of a service is the
exception: it looks at the workspace of the service and at the connection of the Agent,
but not at the workspace of the Agent, and a service keeps naming its Agent when that has
moved to another workspace.
-/
namespace OpticsHub

open Script Async Program Machine

namespace ConsoleGateway

open AgentService AgentGateway WorkspaceService

/-! ## Events -/

inductive ConsoleEventKind where
  | command
  | subscribeLog
  | unsubscribeLog
  | agentMetricsRequest
  | terminalOpen
  deriving DecidableEq

/-- An event of a console, with the user that is signed in on its socket. -/
structure ConsoleCall where
  kind : ConsoleEventKind
  client : ℕ
  userIndex : Option Int32
  payload : Value

section Machine

variable (platform : Platform) (verifyToken : Value → ℤ → Option (Members Value))

def consoleProgram (call : ConsoleCall) : HubProgram ConsoleReply :=
  match call.kind with
  | .command => handleCommand platform call.userIndex call.payload
  | .subscribeLog => handleSubscribeLog platform call.userIndex call.payload
  | .unsubscribeLog => handleUnsubscribeLog platform call.userIndex call.payload
  | .agentMetricsRequest =>
    handleAgentMetricsRequest platform call.client call.userIndex call.payload
  | .terminalOpen =>
    handleTerminalOpen platform verifyToken call.client call.userIndex call.payload

/-- Events of consoles that interleave, while the rest of the Hub does anything. -/
abbrev consoles : Transition (Config ConsoleCall Hub Failure ConsoleReply)
    (Move ConsoleCall (Hub → Hub)) (Shown Unit Hub) :=
  observed (consoleProgram platform verifyToken) meanwhile

end Machine

/-! ## Authorisation -/

/-- An Agent is linked to a living workspace of a user. -/
def Authorised (hub : Hub) (user : Int32) (agentUuid : Text) : Prop :=
  ∃ agent ∈ hub.database.agents, agent.agentUuid = agentUuid ∧ agent.agentConnection = .linked ∧
    ∃ index, agent.agentParentWorkspace = some index ∧
      (ownedWorkspace user index hub.database).isSome = true

/-- Every packet that an action sends goes to the socket of an Agent that was found linked
to a living workspace of the user. -/
def ToAuthorised (call : ConsoleCall) : List Hub → Hub → Hub → Prop :=
  SendsOnly fun seen before outgoing => ∀ socket packet, outgoing = .packet socket packet →
    ∃ user agentUuid, call.userIndex = some user ∧
      (∃ checked ∈ seen, Authorised checked user agentUuid) ∧
      getAgentSocket before agentUuid = some socket

/-- The service and its Agent that the first action of a subscription finds. -/
def lookedUpService (platform : Platform) (call : ConsoleCall) (seen : List Hub) (hub : Hub) :
    Option (ServiceRow × AgentRow) :=
  match call.kind, seen with
  | .subscribeLog, [] => do
    let user ← signedIn call.userIndex
    let members ← packetMembers call.payload
    let workspaceIndex ← (member members "workspaceIndex").toNumber
    let serviceIndex ← (member members "serviceIndex").toNumber
    let selects ← uuidFilter platform (member members "agentUuid")
    let workspaceIndex ← (intColumn workspaceIndex).toOption
    let serviceIndex ← (intColumn serviceIndex).toOption
    let service ← accessibleService user workspaceIndex serviceIndex selects hub.database
    let agent ← hostOfService selects service hub.database
    return (service, agent)
  | _, _ => none

/-- The Agent that a subscription finds belongs to the workspace of the service. -/
def HostInWorkspace (platform : Platform) (call : ConsoleCall) (seen : List Hub) (hub : Hub) :
    Prop :=
  ∀ service agent, lookedUpService platform call seen hub = some (service, agent) →
    agent.agentParentWorkspace = some service.serviceParentWorkspace

/-! ## What the handlers do -/

section Handlers

variable {platform : Platform} {call : ConsoleCall} {seen : List Hub}
  {fine : List Hub → Hub → Prop} {α : Type}

/-- The Agent that a value names was found linked to a living workspace of the user. -/
def Checked (call : ConsoleCall) (seen : List Hub) (agentUuid : Value) : Prop :=
  ∀ uuid, agentUuid = .string uuid →
    ∃ user, call.userIndex = some user ∧ ∃ checked ∈ seen, Authorised checked user uuid

theorem Checked.later {agentUuid : Value} {later : List Hub}
    (checked : Checked call seen agentUuid) (longer : seen <+: later) :
    Checked call later agentUuid := by
  intro uuid text
  obtain ⟨user, signed, hub, inside, authorised⟩ := checked uuid text
  exact ⟨user, signed, hub, longer.subset inside, authorised⟩

/-- What is passed on for a console goes to the Agent that was checked. -/
theorem toAuthorised_passOn {agentUuid : Value} {event : Text} {payload : Members Value}
    {before start after : Hub} (checked : Checked call seen agentUuid)
    (sent : after.sent = (passOn agentUuid event payload start).2.sent)
    (sockets : getAgentSocket start = getAgentSocket before) (sents : start.sent = before.sent) :
    ToAuthorised call seen before after := by
  cases agentUuid with
  | string uuid =>
    obtain ⟨user, signed, authorised⟩ := checked uuid rfl
    refine sendsOnly_sendToAgent sent sockets sents fun socket found other packet same => ?_
    cases same
    exact ⟨user, uuid, signed, authorised, found⟩
  | _ => exact sendsOnly_silent (sent.trans sents)

theorem heeds_passOn {agentUuid : Value} {event : Text} {payload : Members Value} {reply : α}
    {post : α → List Hub → Prop} (checked : Checked call seen agentUuid)
    (held : ∀ hub, post reply (seen ++ [hub])) :
    Heeds fine (ToAuthorised call) post seen
      (step fun hub => (reply, (passOn agentUuid event payload hub).2) : HubProgram α) :=
  heeds_step fun hub _ => ⟨toAuthorised_passOn checked rfl rfl rfl, held hub⟩

theorem heeds_canAccessAgent {agentUuid : Value} {workspaceIndex : Option Number}
    {post : Bool → List Hub → Prop}
    (held : ∀ allowed later, (allowed = true → Checked call later agentUuid) →
      post allowed later) :
    Heeds fine (ToAuthorised call) post seen
      (canAccessAgent platform call.userIndex agentUuid workspaceIndex) := by
  rw [canAccessAgent]
  split
  · exact heeds_pure (held false seen nofun)
  · rename_i user signed
    split
    · apply Heeds.bind
      apply heeds_orThrow
      intro selects filtered
      apply Heeds.bind
      apply heeds_fromExcept
      intro inWorkspace _
      apply heeds_read
      intro hub _
      apply held
      intro allowed uuid text
      rw [text] at filtered
      obtain rfl := Option.some.inj filtered
      obtain ⟨agent, found⟩ := Option.isSome_iff_exists.mp allowed
      obtain ⟨inside, selected⟩ := Table.mem_of_findFirst found
      simp only [Bool.and_eq_true, beq_iff_eq, Option.any_eq_true] at selected
      obtain ⟨⟨⟨uuids, linked⟩, -⟩, index, parent, -, owned⟩ := selected
      exact ⟨user, (Option.filter_eq_some_iff.mp signed).1, hub, by simp, agent, inside, uuids,
        linked, index, parent, owned⟩
    · exact heeds_pure (held false seen nofun)

theorem heeds_handleCommand {userIndex : Option Int32} {payload : Value}
    (user : call.userIndex = userIndex) :
    Heeds fine (ToAuthorised call) (fun _ _ => True) seen
      (handleCommand platform userIndex payload) := by
  subst user
  apply Heeds.bind
  apply heeds_orThrow
  intro members _
  apply Heeds.bind
  apply heeds_canAccessAgent
  intro allowed later checked
  cases allowed with
  | true => exact heeds_passOn (checked rfl) fun _ => trivial
  | false => exact heeds_pure trivial

theorem heeds_handleUnsubscribeLog {userIndex : Option Int32} {payload : Value}
    (user : call.userIndex = userIndex) :
    Heeds fine (ToAuthorised call) (fun _ _ => True) seen
      (handleUnsubscribeLog platform userIndex payload) := by
  subst user
  apply Heeds.bind
  apply heeds_orThrow
  intro members _
  apply Heeds.bind
  apply heeds_orThrow
  intro workspaceIndex _
  apply Heeds.bind
  apply heeds_canAccessAgent
  intro allowed later checked
  cases allowed with
  | true => exact heeds_passOn (checked rfl) fun _ => trivial
  | false => exact heeds_pure trivial

theorem requestMetrics_sent (client : ℕ) (agentUuid : Value) (hub : Hub) :
    (requestMetrics platform client agentUuid hub).2.sent =
      (passOn agentUuid "system-metrics-request"
        [("requestId", .string (platform.randomUuid hub.drawn))]
        { hub with drawn := hub.drawn + 1 }).2.sent := by
  simp only [requestMetrics]
  generalize passOn agentUuid _ _ _ = delivered
  obtain ⟨sent, after⟩ := delivered
  cases sent <;> cases agentUuid <;> rfl

theorem heeds_handleAgentMetricsRequest {userIndex : Option Int32} {client : ℕ} {payload : Value}
    (user : call.userIndex = userIndex) :
    Heeds fine (ToAuthorised call) (fun _ _ => True) seen
      (handleAgentMetricsRequest platform client userIndex payload) := by
  subst user
  apply Heeds.bind
  apply heeds_orThrow
  intro members _
  apply Heeds.bind
  apply heeds_canAccessAgent
  intro allowed later checked
  cases allowed with
  | true =>
    exact heeds_step fun hub _ =>
      ⟨toAuthorised_passOn (checked rfl) (requestMetrics_sent _ _ hub) rfl rfl, trivial⟩
  | false => exact heeds_pure trivial

theorem openTerminal_sent (client : ℕ) (tokenId : Text) (claims members : Members Value)
    (hub : Hub) :
    ∃ payload, (openTerminal platform client tokenId claims members hub).2.sent =
      (passOn (member claims "agentUuid") "terminal-open" payload
        { hub with
          drawn := hub.drawn + 1
          consumedTerminalTokens := hub.consumedTerminalTokens ++ [tokenId]
          terminalTokenTimers := hub.terminalTokenTimers ++
            [(tokenId, hub.now + tokenLifetimeMs claims hub.now)] }).2.sent := by
  refine ⟨[("sessionId", .string (platform.randomUuid hub.drawn)),
    ("cols", intValue (clampDimension (member members "cols") 80)),
    ("rows", intValue (clampDimension (member members "rows") 24))], ?_⟩
  simp only [openTerminal]
  generalize passOn (member claims "agentUuid") _ _ _ = delivered
  obtain ⟨sent, after⟩ := delivered
  cases sent <;> cases member claims "agentUuid" <;> rfl

theorem heeds_useTerminalToken {userIndex : Option Int32} {client : ℕ}
    {members claims : Members Value} (user : call.userIndex = userIndex) :
    Heeds fine (ToAuthorised call) (fun _ _ => True) seen
      (useTerminalToken platform client userIndex members claims) := by
  subst user
  apply Heeds.bind
  apply heeds_orThrow
  intro subject _
  split
  · rename_i unit units _
    apply Heeds.bind
    apply heeds_read
    intro hub _
    split
    · exact heeds_pure trivial
    · split
      · apply Heeds.bind
        apply heeds_canAccessAgent
        intro allowed later checked
        cases allowed with
        | true =>
          apply heeds_step
          intro hub _
          obtain ⟨payload, sent⟩ := @openTerminal_sent platform client
            (unit :: units) claims members hub
          exact ⟨toAuthorised_passOn (checked rfl) sent rfl rfl, trivial⟩
        | false => exact heeds_pure trivial
      · exact heeds_pure trivial
  · exact heeds_pure trivial

theorem heeds_handleTerminalOpen {verifyToken : Value → ℤ → Option (Members Value)}
    {userIndex : Option Int32} {client : ℕ} {payload : Value}
    (user : call.userIndex = userIndex) :
    Heeds fine (ToAuthorised call) (fun _ _ => True) seen
      (handleTerminalOpen platform verifyToken client userIndex payload) := by
  apply Heeds.tryCatch
  · apply Heeds.bind
    apply heeds_orThrow
    intro members _
    apply Heeds.bind
    apply heeds_read
    intro hub _
    apply Heeds.bind
    apply heeds_orThrow
    intro token _
    apply Heeds.bind
    apply heeds_require
    intro _
    exact heeds_useTerminalToken user
  · exact fun _ _ => heeds_pure trivial

/-- A subscription passes its packet on to an Agent that belongs to the user if the Agent
of the service belongs to the workspace of the service. -/
theorem heeds_handleSubscribeLog {client : ℕ} {userIndex : Option Int32} {payload : Value} :
    Heeds (HostInWorkspace platform ⟨.subscribeLog, client, userIndex, payload⟩)
      (ToAuthorised ⟨.subscribeLog, client, userIndex, payload⟩) (fun _ _ => True) []
      (handleSubscribeLog platform userIndex payload) := by
  apply Heeds.bind
  apply heeds_orThrow
  intro members given
  apply Heeds.bind
  apply heeds_orThrow
  intro workspaceNumber workspaceGiven
  apply Heeds.bind
  apply heeds_orThrow
  intro serviceNumber serviceGiven
  apply Heeds.bind
  rw [canAccessService]
  split
  · exact heeds_pure (heeds_pure trivial)
  · rename_i user signed
    split
    · apply Heeds.bind
      apply heeds_orThrow
      intro selects filtered
      apply Heeds.bind
      apply heeds_fromExcept
      intro workspaceIndex workspaceParsed
      apply Heeds.bind
      apply heeds_fromExcept
      intro serviceIndex serviceParsed
      apply heeds_read
      intro hub inWorkspace
      cases allowed : accessibleService user workspaceIndex serviceIndex selects hub.database with
      | none => exact heeds_pure trivial
      | some service =>
        obtain ⟨-, selected⟩ := Table.mem_of_findFirst allowed
        simp only [Bool.and_eq_true] at selected
        obtain ⟨⟨-, owned⟩, hosted⟩ := selected
        obtain ⟨agent, host⟩ := Option.isSome_iff_exists.mp hosted
        have parent : agent.agentParentWorkspace = some service.serviceParentWorkspace := by
          apply inWorkspace
          simp only [lookedUpService, signed, given, workspaceGiven, serviceGiven, filtered,
            workspaceParsed, serviceParsed, allowed, host, Except.toOption, Option.bind_eq_bind,
            Option.bind_some, Option.pure_def]
        apply Heeds.bind
        apply heeds_read
        intro joined _
        refine heeds_passOn (fun uuid text => ?_) fun _ => trivial
        rw [text] at filtered
        obtain rfl := Option.some.inj filtered
        obtain ⟨inside, hosts⟩ := Table.mem_of_findFirst host
        simp only [Bool.and_eq_true, beq_iff_eq] at hosts
        obtain ⟨⟨⟨-, uuids⟩, linked⟩, -⟩ := hosts
        exact ⟨user, (Option.filter_eq_some_iff.mp signed).1, hub, by simp, agent, inside, uuids,
          linked, service.serviceParentWorkspace, parent, owned⟩
    · exact heeds_pure (heeds_pure trivial)

/-- The packets of every event go to Agents that belong to the user. -/
theorem heeds_consoleProgram (verifyToken : Value → ℤ → Option (Members Value))
    (call : ConsoleCall) :
    Heeds (HostInWorkspace platform call) (ToAuthorised call) (fun _ _ => True) []
      (consoleProgram platform verifyToken call) := by
  obtain ⟨kind, client, userIndex, payload⟩ := call
  cases kind with
  | command => exact heeds_handleCommand rfl
  | subscribeLog => exact heeds_handleSubscribeLog
  | unsubscribeLog => exact heeds_handleUnsubscribeLog rfl
  | agentMetricsRequest => exact heeds_handleAgentMetricsRequest rfl
  | terminalOpen => exact heeds_handleTerminalOpen rfl

end Handlers

/-! ## Runs -/

instance (platform : Platform) (call : ConsoleCall) (seen : List Hub) (hub : Hub) :
    Decidable (HostInWorkspace platform call seen hub) :=
  decidable_of_iff ((lookedUpService platform call seen hub).all (fun found =>
      found.2.agentParentWorkspace == some found.1.serviceParentWorkspace) = true) (by
    rw [Option.all_eq_true]
    exact ⟨fun held service agent found => beq_iff_eq.mp (held (service, agent) found),
      fun held found here => beq_iff_eq.mpr (held found.1 found.2 here)⟩)

/-- In every run, whatever happens in between, the packets for consoles go to Agents that
were linked to a living workspace of the user when they were checked, if each subscription
finds the Agent of the service in the workspace of the service. -/
theorem packets_to_authorised (platform : Platform)
    (verifyToken : Value → ℤ → Option (Members Value)) (start : Hub)
    (moves : List (Move ConsoleCall (Hub → Hub)))
    (inWorkspace : Along (consoles platform verifyToken) (Met (HostInWorkspace platform)) []
      { state := start } moves) :
    Along (consoles platform verifyToken)
      (Permitted (consoleProgram platform verifyToken) meanwhile ToAuthorised) []
      { state := start } moves :=
  permitted_along (heeds_consoleProgram verifyToken) start moves inWorkspace

/-! ## An Agent that has moved -/

/-- Two workspaces of two owners, and no agents. -/
def twoOwners : Hub where
  database.workspaces := (Table.empty.create fun index =>
    { workspaceIndex := index
      workspaceOwner := 1
      workspaceName := "Home"
      workspaceCreatedAt := 0 }).create fun index =>
    { workspaceIndex := index
      workspaceOwner := 2
      workspaceName := "Away"
      workspaceCreatedAt := 0 }
  now := 0

/-- The first owner has a service on an Agent that is linked to the first workspace. -/
def hostedService : Hub :=
  ((ServiceService.handleCreateService 1 {
    workspaceIdx := 1
    serviceName := "api"
    servicePort := some 80
    serviceSourceUrl := .string "https://example.org/api.git"
    serviceVersion := "1"
    serviceDeployPreset := .dockerfile
    agentIndex := 1 }).run (final (serve fixedPlatform) twoOwners linkingCalls)).2

/-- The Agent is released and accepts the request of the second owner. -/
def movedAgent : Hub :=
  final (serve fixedPlatform) hostedService
    [.disconnectAgent 1 1 "C",
      .meanwhile (fun _ => { connected := true, data.signingSecret := some "secret" }) [("U", 0)] 2,
      .requestConnect 2 2 "C" "other",
      .acceptConnectRequest "C" "U"]

/-- The first owner subscribes to the log of the service, up to the packet. -/
def subscribes : List (Move ConsoleCall (Hub → Hub)) :=
  [.start {
      kind := .subscribeLog
      client := 0
      userIndex := some 1
      payload := .object [("workspaceIndex", intValue 1), ("agentUuid", .string "U"),
        ("serviceIndex", intValue 1), ("serviceName", .string "api"),
        ("deployPreset", .string "dockerfile")] },
    .resume 0, .resume 0]

theorem packets_to_authorised_hosted :
    Along (consoles fixedPlatform fun _ _ => none)
      (Permitted (consoleProgram fixedPlatform fun _ _ => none) meanwhile ToAuthorised) []
      { state := hostedService } (subscribes ++ [.resume 0]) := by
  apply packets_to_authorised
  decide +kernel

/-- Whether the Hub sends a packet to an Agent. -/
def isPacket : Outgoing → Bool
  | .packet _ _ => true
  | _ => false

/-- No Agent is linked to a workspace of the user when none names one. -/
theorem not_authorised {hub : Hub} {user : Int32} {agentUuid : Text}
    (foreign : ∀ agent ∈ hub.database.agents.rows, (agent.agentParentWorkspace.any fun index =>
      (ownedWorkspace user index hub.database).isSome) = false) :
    ¬ Authorised hub user agentUuid := by
  rintro ⟨agent, inside, -, -, index, parent, owned⟩
  have none := foreign agent inside
  rw [parent, Option.any_some, owned] at none
  cases none

/-- A packet does not go to an authorised Agent when the user had none. -/
theorem not_toAuthorised {call : ConsoleCall} {seen : List Hub} {before after : Hub} {user : Int32}
    (signed : call.userIndex = some user)
    (sends : (after.sent.drop before.sent.length).any isPacket = true)
    (foreign : ∀ checked ∈ seen, ∀ agent ∈ checked.database.agents.rows,
      (agent.agentParentWorkspace.any fun index =>
        (ownedWorkspace user index checked.database).isSome) = false) :
    ¬ ToAuthorised call seen before after := by
  intro permitted
  obtain ⟨outgoing, sent, kind⟩ := List.any_eq_true.mp sends
  cases outgoing with
  | packet socket packet =>
    obtain ⟨user', _, same, ⟨checked, met, authorised⟩, -⟩ := permitted _ sent socket packet rfl
    obtain rfl := Option.some.inj (signed.symm.trans same)
    exact not_authorised (foreign checked met) authorised
  | _ => cases kind

/-- The subscription reaches the Agent of the other owner. -/
theorem not_packets_to_authorised_moved :
    ¬ Along (consoles fixedPlatform fun _ _ => none)
      (Permitted (consoleProgram fixedPlatform fun _ _ => none) meanwhile ToAuthorised) []
      { state := movedAgent } (subscribes ++ [.resume 0]) := by
  intro permitted
  have last := ((along_append _ _).mp permitted).2.1
  refine @not_toAuthorised _ _ _ _ 1 ?_ ?_ ?_ (last (Option.get _ (by decide +kernel))
    (Option.some_get _).symm (Option.isNone_iff_eq_none.mp (by decide +kernel)))
  · decide +kernel
  · decide +kernel
  · decide +kernel

end ConsoleGateway

end OpticsHub
