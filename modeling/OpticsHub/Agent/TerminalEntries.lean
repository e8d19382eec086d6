import OpticsHub.Agent.TerminalTokens
import OpticsHub.Agent.Terminals

/-!
# What makes a terminal

Terminals are opened and metrics are asked for by events that wait for the database, and between
their actions come what the consoles type, what the Agents say, timers, and the ends of sockets. The
maps of the terminals and of the requests are all that tells which console and which Agent belong
together. An action of an event makes an entry of a map exactly if it is the last one, the checks
before it have passed, and the Agent gets the packet.
-/
namespace OpticsHub

open Script Async Program Machine

namespace ConsoleGateway

open AgentService AgentGateway

/-! ## Events -/

/-- What a console does with a terminal. -/
inductive TypedKind where
  | input
  | resize
  | close
  deriving DecidableEq

/-- What an Agent says. -/
inductive ReportKind where
  | metrics
  | ready
  | output
  | closed
  deriving DecidableEq

def ReportKind.event : ReportKind → Text
  | .metrics => "system-metrics"
  | .ready => "terminal-ready"
  | .output => "terminal-output"
  | .closed => "terminal-closed"

/-- What happens between the actions of the events that wait. The rest of the Hub does anything but
to the terminals and the requests, and takes back no identifier that was drawn. -/
inductive LineEvent where
  | typed (kind : TypedKind) (client : ℕ) (payload : Value)
  | consoleGone (client : ℕ)
  | reported (kind : ReportKind) (client : ℕ) (payload : Value)
  | agentGone (agentUuid : Text)
  | metricTimer (requestId : Text)
  | elsewhere (change : Hub → Hub)

section Machine

variable (platform : Platform) (verifyToken : Value → ℤ → Option (Members Value))

def relay (hub : Hub) : LineEvent → List Transmission × Hub
  | .typed .input client payload => handleTerminalInput client payload hub
  | .typed .resize client payload => handleTerminalResize client payload hub
  | .typed .close client payload => handleTerminalClose client payload hub
  | .consoleGone client => handleDisconnect client hub
  | .reported .metrics client payload => handleSystemMetrics platform client payload hub
  | .reported .ready client payload => handleTerminalReady platform client payload hub
  | .reported .output client payload => handleTerminalOutput platform client payload hub
  | .reported .closed client payload => handleTerminalClosed platform client payload hub
  | .agentGone agentUuid => (toldClosed agentUuid hub, closeAgentConnections agentUuid hub)
  | .metricTimer requestId =>
    ([], { hub with metricRequests := Members.erase hub.metricRequests requestId })
  | .elsewhere change =>
    ([], { change hub with
      terminalSessions := hub.terminalSessions
      metricRequests := hub.metricRequests
      drawn := max hub.drawn (change hub).drawn })

/-- Events of consoles that interleave, with what passes between consoles and Agents. -/
abbrev lines : Transition (Config ConsoleCall Hub Failure ConsoleReply)
    (Move ConsoleCall LineEvent) (Shown (List Transmission) Hub) :=
  observed (consoleProgram platform verifyToken) (relay platform)

/-! ## What makes an entry -/

/-- Whether a packet to an Agent is sent. -/
def reachable (hub : Hub) (agentUuid : Text) : Bool :=
  (getAgentSocket hub agentUuid).any fun socket => hasSecret (hub.sockets socket).data.signingSecret

/-- A linked Agent of a workspace of the user of a console. -/
def mayReach (userIndex : Option Int32) (agentUuid : Text) (hub : Hub) : Bool :=
  (signedIn userIndex).any fun user =>
    (accessibleAgent user (· == agentUuid) (fun _ => true) hub.database).isSome

/-- The Agent that an event may open a terminal on, by the states that its actions have met: the
token was verified in the first, its identifier was unused in the second, and in the third the
Agent was linked to a workspace of the user whom the token is for. -/
def grantedAgent (call : ConsoleCall) (seen : List Hub) : Option Text :=
  match call.kind, seen with
  | .terminalOpen, [verified, looked, checked] => do
    let members ← packetMembers call.payload
    let claims ← verifyToken (member members "token") verified.now
    let subject ← (member claims Auth.subjectClaim).toNumber
    let id ← tokenId claims
    let agentUuid ← asText (member claims "agentUuid")
    if isTerminalPurpose (member claims Auth.purposeClaim) && !id.isEmpty &&
        !looked.consumedTerminalTokens.contains id && !agentUuid.isEmpty &&
        isUser subject call.userIndex && mayReach call.userIndex agentUuid checked then
      some agentUuid
    else none
  | _, _ => none

/-- The Agent that an event may ask for its metrics, by the state that its first action has met. -/
def askedAgent (call : ConsoleCall) (seen : List Hub) : Option Text :=
  match call.kind, seen with
  | .agentMetricsRequest, [checked] => do
    let members ← packetMembers call.payload
    let agentUuid ← asText (member members "agentUuid")
    if !agentUuid.isEmpty && mayReach call.userIndex agentUuid checked then some agentUuid
    else none
  | _, _ => none

/-- The entry that an action makes for an Agent, if that can be reached. -/
def entryMade (agent : Option Text) (client : ℕ) (hub : Hub) : Option TerminalSession :=
  (agent.filter (reachable hub)).map fun agentUuid => ⟨client, agentUuid⟩

/-- The entries with one that is made, under the identifier that is drawn next. -/
def addEntry (hub : Hub) (made : Option TerminalSession) (entries : Members TerminalSession) :
    Members TerminalSession :=
  match made with
  | some entry => Members.define entries (platform.randomUuid hub.drawn) entry
  | none => entries

/-- What an action of an event does to the entries, by the states that the event has met. -/
structure Makes (call : ConsoleCall) (seen : List Hub) (before after : Hub) : Prop where
  terminals : after.terminalSessions =
    addEntry platform before (entryMade (grantedAgent verifyToken call seen) call.client before)
      before.terminalSessions
  requests : after.metricRequests =
    addEntry platform before (entryMade (askedAgent call seen) call.client before)
      before.metricRequests
  drawn : before.drawn ≤ after.drawn
  taken : (grantedAgent verifyToken call seen).isSome ∨ (askedAgent call seen).isSome →
    before.drawn < after.drawn

end Machine

/-! ## What the events do -/

section Handlers

variable {platform : Platform} {verifyToken : Value → ℤ → Option (Members Value)}
  {call : ConsoleCall} {seen : List Hub} {before after : Hub} {fine : List Hub → Hub → Prop}

/-- Nothing happens to the entries, and no identifier is drawn. -/
def KeepsEntries (before after : Hub) : Prop :=
  after.terminalSessions = before.terminalSessions ∧
    after.metricRequests = before.metricRequests ∧ after.drawn = before.drawn

theorem KeepsEntries.refl (hub : Hub) : KeepsEntries hub hub := ⟨rfl, rfl, rfl⟩

theorem KeepsEntries.trans {first second third : Hub} (keeps : KeepsEntries first second)
    (later : KeepsEntries second third) : KeepsEntries first third :=
  ⟨later.1.trans keeps.1, later.2.1.trans keeps.2.1, later.2.2.trans keeps.2.2⟩

theorem keepsEntries_sendToAgent (agentUuid : Text) (packet : AgentPacket) (hub : Hub) :
    KeepsEntries hub (sendToAgent agentUuid packet hub).2 := by
  rw [sendToAgent_frame]
  exact KeepsEntries.refl hub

/-- A packet is sent exactly if the Agent can be reached. -/
theorem sendToAgent_fst (agentUuid : Text) (packet : AgentPacket) (hub : Hub) :
    (sendToAgent agentUuid packet hub).1 = reachable hub agentUuid := by
  rw [sendToAgent, reachable]
  cases getAgentSocket hub agentUuid with
  | none => rfl
  | some socket =>
    rw [Option.any_some]
    dsimp only
    split
    · rename_i has
      exact has.symm
    · rename_i hasNot
      exact (Bool.eq_false_of_not_eq_true hasNot).symm

/-- What is passed on is sent to an Agent that has a text for a name and can be reached. -/
theorem passOn_entries (agentUuid : Value) (event : Text) (payload : Members Value) (hub : Hub) :
    (passOn agentUuid event payload hub).1 = (asText agentUuid).any (reachable hub) ∧
      KeepsEntries hub (passOn agentUuid event payload hub).2 := by
  cases agentUuid with
  | string uuid => exact ⟨sendToAgent_fst uuid _ hub, keepsEntries_sendToAgent uuid _ hub⟩
  | _ => exact ⟨rfl, KeepsEntries.refl hub⟩

theorem grantedAgent_of_kind (other : call.kind ≠ .terminalOpen) :
    grantedAgent verifyToken call seen = none := by
  unfold grantedAgent
  split
  · rename_i same
    exact absurd same other
  · rfl

theorem grantedAgent_of_length (early : seen.length ≠ 3) :
    grantedAgent verifyToken call seen = none := by
  unfold grantedAgent
  split
  · exact absurd rfl early
  · rfl

theorem askedAgent_of_kind (other : call.kind ≠ .agentMetricsRequest) :
    askedAgent call seen = none := by
  unfold askedAgent
  split
  · rename_i same
    exact absurd same other
  · rfl

theorem askedAgent_of_length (early : seen.length ≠ 1) : askedAgent call seen = none := by
  unfold askedAgent
  split
  · exact absurd rfl early
  · rfl

/-- An action that keeps the entries, of an event that has no Agent to make one for. -/
theorem makes_of_keeps (keeps : KeepsEntries before after)
    (granted : grantedAgent verifyToken call seen = none) (asked : askedAgent call seen = none) :
    Makes platform verifyToken call seen before after := by
  refine ⟨?_, ?_, keeps.2.2.ge, ?_⟩
  · rw [granted]
    exact keeps.1
  · rw [asked]
    exact keeps.2.1
  · rw [granted, asked]
    rintro (some | some) <;> cases some

/-- The check of the Agent is one action, if it allows. -/
theorem heeds_canAccessAgent_checked {agentUuid : Value} {workspaceIndex : Option Number}
    (granted : grantedAgent verifyToken call seen = none) (asked : askedAgent call seen = none) :
    Heeds fine (Makes platform verifyToken call)
      (fun allowed later => allowed = true → ∃ user selects inWorkspace hub,
        signedIn call.userIndex = some user ∧ agentUuid.truthy = true ∧
          uuidFilter platform agentUuid = some selects ∧
            workspaceFilter workspaceIndex = .ok inWorkspace ∧ later = seen ++ [hub] ∧
              (accessibleAgent user selects inWorkspace hub.database).isSome = true) seen
      (canAccessAgent platform call.userIndex agentUuid workspaceIndex) := by
  rw [canAccessAgent]
  split
  · exact heeds_pure fun allowed => absurd allowed Bool.false_ne_true
  · rename_i user signed
    split
    · rename_i truthy
      apply Heeds.bind
      apply heeds_orThrow
      intro selects filtered
      apply Heeds.bind
      apply heeds_fromExcept
      intro inWorkspace parsed
      apply heeds_look fun hub => makes_of_keeps (KeepsEntries.refl hub) granted asked
      exact fun hub _ allowed =>
        ⟨user, selects, inWorkspace, hub, signed, truthy, filtered, parsed, rfl, allowed⟩
    · exact heeds_pure fun allowed => absurd allowed Bool.false_ne_true

/-- An Agent that the check has allowed may be reached, if it is named by a text. -/
theorem mayReach_of_checked {user : Int32} {uuid : Text} {selects : Text → Bool}
    {inWorkspace : ℕ → Bool} {hub : Hub} (signed : signedIn call.userIndex = some user)
    (filtered : uuidFilter platform (.string uuid) = some selects)
    (parsed : workspaceFilter none = .ok inWorkspace)
    (found : (accessibleAgent user selects inWorkspace hub.database).isSome = true) :
    mayReach call.userIndex uuid hub = true := by
  obtain rfl := Option.some.inj filtered
  obtain rfl := Except.ok.inj parsed
  rw [mayReach, signed]
  exact found

/-- An entry is made for the Agent that a packet is passed on to, if that is sent. -/
theorem addEntry_of_passOn {agentUuid : Value} {hub : Hub} {sent : Bool} (client : ℕ)
    (entries : Members TerminalSession)
    (told : sent = (asText agentUuid).any (reachable hub)) :
    addEntry platform hub (entryMade (asText agentUuid) client hub) entries =
      if sent then (asText agentUuid).elim entries fun uuid =>
        Members.define entries (platform.randomUuid hub.drawn) ⟨client, uuid⟩
      else entries := by
  cases agentUuid with
  | string uuid =>
    change sent = reachable hub uuid at told
    cases sent <;> simp [asText, entryMade, addEntry, Option.filter, ← told]
  | _ => cases sent <;> rfl

/-- What opening a terminal does to the entries. -/
theorem openTerminal_entries (client : ℕ) (id : Text) (claims members : Members Value)
    (hub : Hub) :
    (openTerminal platform client id claims members hub).2.terminalSessions =
        addEntry platform hub (entryMade (asText (member claims "agentUuid")) client hub)
          hub.terminalSessions ∧
      (openTerminal platform client id claims members hub).2.metricRequests =
        hub.metricRequests ∧
      (openTerminal platform client id claims members hub).2.drawn = hub.drawn + 1 := by
  have passed := passOn_entries (member claims "agentUuid") "terminal-open"
    [("sessionId", .string (platform.randomUuid hub.drawn)),
      ("cols", intValue (clampDimension (member members "cols") 80)),
      ("rows", intValue (clampDimension (member members "rows") 24))]
    { hub with
      drawn := hub.drawn + 1
      consumedTerminalTokens := hub.consumedTerminalTokens ++ [id]
      terminalTokenTimers := hub.terminalTokenTimers ++
        [(id, hub.now + tokenLifetimeMs claims hub.now)] }
  simp only [openTerminal]
  generalize passOn (member claims "agentUuid") _ _ _ = delivered at passed ⊢
  obtain ⟨sent, after⟩ := delivered
  obtain ⟨told, terminals, requests, drawn⟩ := passed
  have reached : sent = (asText (member claims "agentUuid")).any (reachable hub) := told
  rw [addEntry_of_passOn client hub.terminalSessions reached]
  cases sent <;> cases member claims "agentUuid"
  case true.string uuid =>
    refine ⟨?_, requests, drawn⟩
    change Members.define after.terminalSessions _ _ = _
    rw [terminals]
    rfl
  all_goals exact ⟨terminals, requests, drawn⟩

/-- What asking for metrics does to the entries. -/
theorem requestMetrics_entries (client : ℕ) (agentUuid : Value) (hub : Hub) :
    (requestMetrics platform client agentUuid hub).2.metricRequests =
        addEntry platform hub (entryMade (asText agentUuid) client hub) hub.metricRequests ∧
      (requestMetrics platform client agentUuid hub).2.terminalSessions =
        hub.terminalSessions ∧
      (requestMetrics platform client agentUuid hub).2.drawn = hub.drawn + 1 := by
  have passed := passOn_entries agentUuid "system-metrics-request"
    [("requestId", .string (platform.randomUuid hub.drawn))] { hub with drawn := hub.drawn + 1 }
  simp only [requestMetrics]
  generalize passOn agentUuid _ _ _ = delivered at passed ⊢
  obtain ⟨sent, after⟩ := delivered
  obtain ⟨told, terminals, requests, drawn⟩ := passed
  have reached : sent = (asText agentUuid).any (reachable hub) := told
  rw [addEntry_of_passOn client hub.metricRequests reached]
  cases sent <;> cases agentUuid
  case true.string uuid =>
    refine ⟨?_, terminals, drawn⟩
    change Members.define after.metricRequests _ _ = _
    rw [requests]
    rfl
  all_goals exact ⟨requests, terminals, drawn⟩

/-- Where the checks of an event have passed, the Agent of the token is granted. -/
theorem grantedAgent_of_checks {members claims : Members Value} {verified looked checked : Hub}
    {subject : Number} {id : Text} (kind : call.kind = .terminalOpen)
    (given : packetMembers call.payload = some members)
    (token : verifyToken (member members "token") verified.now = some claims)
    (purpose : isTerminalPurpose (member claims Auth.purposeClaim) = true)
    (sub : (member claims Auth.subjectClaim).toNumber = some subject)
    (named : tokenId claims = some id) (present : id.isEmpty = false)
    (unused : looked.consumedTerminalTokens.contains id = false)
    (truthy : (member claims "agentUuid").truthy = true)
    (user : isUser subject call.userIndex = true)
    (allowed : ∀ uuid, member claims "agentUuid" = .string uuid →
      mayReach call.userIndex uuid checked = true) :
    grantedAgent verifyToken call [verified, looked, checked] =
      asText (member claims "agentUuid") := by
  unfold grantedAgent
  rw [kind]
  cases agent : member claims "agentUuid" with
  | string uuid =>
    rw [agent] at truthy
    have nonempty : uuid.isEmpty = false := by simpa [Value.truthy] using truthy
    simp only [given, token, sub, named, agent, asText, purpose, present, unused, nonempty, user,
      allowed uuid agent, Option.bind_eq_bind, Option.bind_some, Bool.not_false, Bool.and_self,
      if_true]
  | _ => simp [given, token, sub, named, agent, asText]

/-- An event for a terminal makes an entry with its last action. -/
theorem heeds_useTerminalToken_entries {members claims : Members Value} {verified : Hub}
    (kind : call.kind = .terminalOpen) (given : packetMembers call.payload = some members)
    (token : verifyToken (member members "token") verified.now = some claims)
    (purpose : isTerminalPurpose (member claims Auth.purposeClaim) = true) :
    Heeds fine (Makes platform verifyToken call) (fun _ _ => True) [verified]
      (useTerminalToken platform call.client call.userIndex members claims) := by
  have unasked (later : List Hub) : askedAgent call later = none :=
    askedAgent_of_kind (by rw [kind]; decide)
  apply Heeds.bind
  apply heeds_orThrow
  intro subject sub
  split
  · rename_i unit units named
    have named' : tokenId claims = some (unit :: units) := by rw [tokenId, named]
    apply Heeds.bind
    apply heeds_look fun hub => makes_of_keeps (KeepsEntries.refl hub)
      (grantedAgent_of_length (by simp)) (unasked _)
    intro looked _
    split
    · exact heeds_pure trivial
    · rename_i unused
      split
      · rename_i matching
        rw [Bool.and_eq_true] at matching
        apply Heeds.bind
        refine (heeds_canAccessAgent_checked (grantedAgent_of_length (by simp))
          (unasked _)).mono fun allowed later _ checks => ?_
        cases allowed with
        | false => exact heeds_pure trivial
        | true =>
          obtain ⟨user, selects, inWorkspace, checked, signed, -, filtered, parsed, rfl, found⟩ :=
            checks rfl
          refine heeds_step fun hub _ => ⟨?_, trivial⟩
          have granted := @grantedAgent_of_checks verifyToken call members claims verified looked
            checked subject _ kind given token purpose sub named' rfl
            (Bool.eq_false_of_not_eq_true unused) matching.1 matching.2
            (fun uuid text => mayReach_of_checked signed (text ▸ filtered) parsed found)
          obtain ⟨terminals, requests, drawn⟩ := @openTerminal_entries platform call.client
            (unit :: units) claims members hub
          refine ⟨?_, ?_, by omega, fun _ => by omega⟩
          · rw [terminals]
            exact congrArg (fun agent => addEntry platform hub (entryMade agent call.client hub)
              hub.terminalSessions) granted.symm
          · rw [requests, unasked]
            rfl
      · exact heeds_pure trivial
  · exact heeds_pure trivial

/-- Where the check of an event has passed, the Agent it names is asked for. -/
theorem askedAgent_of_checks {members : Members Value} {checked : Hub}
    (kind : call.kind = .agentMetricsRequest) (given : packetMembers call.payload = some members)
    (truthy : (member members "agentUuid").truthy = true)
    (allowed : ∀ uuid, member members "agentUuid" = .string uuid →
      mayReach call.userIndex uuid checked = true) :
    askedAgent call [checked] = asText (member members "agentUuid") := by
  unfold askedAgent
  rw [kind]
  cases agent : member members "agentUuid" with
  | string uuid =>
    rw [agent] at truthy
    have nonempty : uuid.isEmpty = false := by simpa [Value.truthy] using truthy
    simp only [given, agent, asText, nonempty, allowed uuid agent, Option.bind_eq_bind,
      Option.bind_some, Bool.not_false, Bool.and_self, if_true]
  | _ => simp [given, agent, asText]

/-- An event that asks for metrics makes an entry with its last action. -/
theorem heeds_handleAgentMetricsRequest_entries (kind : call.kind = .agentMetricsRequest) :
    Heeds fine (Makes platform verifyToken call) (fun _ _ => True) []
      (handleAgentMetricsRequest platform call.client call.userIndex call.payload) := by
  have ungranted (later : List Hub) : grantedAgent verifyToken call later = none :=
    grantedAgent_of_kind (by rw [kind]; decide)
  apply Heeds.bind
  apply heeds_orThrow
  intro members given
  apply Heeds.bind
  refine (heeds_canAccessAgent_checked (ungranted _)
    (askedAgent_of_length (by simp))).mono fun allowed later _ checks => ?_
  cases allowed with
  | false => exact heeds_pure trivial
  | true =>
    obtain ⟨user, selects, inWorkspace, checked, signed, truthy, filtered, parsed, rfl, found⟩ :=
      checks rfl
    refine heeds_step fun hub _ => ⟨?_, trivial⟩
    have asked := @askedAgent_of_checks call members checked kind given truthy
      fun uuid text => mayReach_of_checked signed (text ▸ filtered) parsed found
    obtain ⟨requests, terminals, drawn⟩ := @requestMetrics_entries platform call.client
      (member members "agentUuid") hub
    refine ⟨?_, ?_, by omega, fun _ => by omega⟩
    · rw [terminals, ungranted]
      rfl
    · rw [requests]
      exact congrArg (fun agent => addEntry platform hub (entryMade agent call.client hub)
        hub.metricRequests) asked.symm

theorem always_access (userIndex : Option Int32) (agentUuid : Value)
    (workspaceIndex : Option Number) :
    Always KeepsEntries (canAccessAgent platform userIndex agentUuid workspaceIndex) := by
  rw [canAccessAgent]
  split
  · exact always_pure _
  · split
    · exact (always_orThrow _ _).bind fun _ => (always_fromExcept _).bind fun _ =>
        always_look KeepsEntries.refl _
    · exact always_pure _

/-- The commands and the subscriptions keep the entries. -/
theorem always_commands (other : call.kind ≠ .terminalOpen)
    (other' : call.kind ≠ .agentMetricsRequest) :
    Always KeepsEntries (consoleProgram platform verifyToken call) := by
  obtain ⟨kind, client, userIndex, payload⟩ := call
  cases kind with
  | command =>
    refine (always_orThrow _ _).bind fun members =>
      (always_access _ _ _).bind fun allowed => ?_
    cases allowed with
    | true => exact always_step fun hub => (passOn_entries _ _ _ hub).2
    | false => exact always_pure _
  | subscribeLog =>
    refine (always_orThrow _ _).bind fun members => (always_orThrow _ _).bind fun _ =>
      (always_orThrow _ _).bind fun _ => Always.bind ?_ fun allowed => ?_
    · rw [canAccessService]
      split
      · exact always_pure _
      · split
        · exact (always_orThrow _ _).bind fun _ => (always_fromExcept _).bind fun _ =>
            (always_fromExcept _).bind fun _ => always_look KeepsEntries.refl _
        · exact always_pure _
    · cases allowed with
      | true =>
        exact (always_look KeepsEntries.refl _).bind fun _ =>
          always_step fun hub => (passOn_entries _ _ _ hub).2
      | false => exact always_pure _
  | unsubscribeLog =>
    refine (always_orThrow _ _).bind fun members => (always_orThrow _ _).bind fun _ =>
      (always_access _ _ _).bind fun allowed => ?_
    cases allowed with
    | true => exact always_step fun hub => (passOn_entries _ _ _ hub).2
    | false => exact always_pure _
  | agentMetricsRequest => exact absurd rfl other'
  | terminalOpen => exact absurd rfl other

/-- What every action of every event does to the entries. -/
theorem heeds_consoleProgram_entries (platform : Platform)
    (verifyToken : Value → ℤ → Option (Members Value)) (call : ConsoleCall) :
    Heeds (fun _ _ => True) (Makes platform verifyToken call) (fun _ _ => True) []
      (consoleProgram platform verifyToken call) := by
  by_cases kind : call.kind = .terminalOpen
  · have unasked (later : List Hub) : askedAgent call later = none :=
      askedAgent_of_kind (by rw [kind]; decide)
    rw [consoleProgram, kind]
    apply Heeds.tryCatch
    · apply Heeds.bind
      apply heeds_orThrow
      intro members given
      apply Heeds.bind
      apply heeds_look fun hub => makes_of_keeps (KeepsEntries.refl hub)
        (grantedAgent_of_length (by simp)) (unasked _)
      intro verified _
      apply Heeds.bind
      apply heeds_orThrow
      intro claims token
      apply Heeds.bind
      apply heeds_require
      intro purpose
      exact heeds_useTerminalToken_entries kind given token purpose
    · exact fun _ _ => heeds_pure trivial
  · by_cases kind' : call.kind = .agentMetricsRequest
    · rw [consoleProgram, kind']
      exact heeds_handleAgentMetricsRequest_entries kind'
    · exact (always_commands kind kind').heeds fun seen before after keeps =>
        makes_of_keeps keeps (grantedAgent_of_kind kind) (askedAgent_of_kind kind')

end Handlers

end ConsoleGateway

end OpticsHub
