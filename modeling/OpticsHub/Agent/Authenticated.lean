import OpticsHub.Agent.Packets
import OpticsHub.Global.TamperEvidence

/-!
# Packets and the secret of the Agent they are handled for

The identity on a socket is written before the secret that its packets are verified
with, and between the two the handler of `register` waits for the database. So two
things decide whether a packet is verified under the secret of the Agent for which it
is handled: that it does not arrive in that gap, and that the secret which the socket
got is still the one that is stored. The answer to a registration closes the gap. What
every action keeps is that a socket on which an Agent was answered last holds the
stored secret of that Agent and a guard, as long as no action replaces a secret.
-/
namespace OpticsHub

open Script Async Program Machine

namespace AgentGateway

open AgentService

/-! ## The property and its condition -/

/-- The Agent to whose registration on a socket a packet is the answer. -/
def answered (client : ℕ) : Outgoing → Option Text
  | .registered socket agent => if socket = client then some agent.uuid else none
  | _ => none

/-- The Agent that the Hub answered last on a socket. -/
def lastRegistered (sent : List Outgoing) (client : ℕ) : Option Text :=
  (sent.filterMap (answered client)).getLast?

/-- A packet other than a registration that reaches its handler while an Agent is bound
to the socket was accepted under the secret of that Agent, with a replay guard. -/
def Authenticated (platform : Platform) (hub : Hub) : Event → Prop
  | .packet client event payload => event ≠ registerEvent →
    ∀ uuid, (receive platform hub client event payload).1.handledFor = some uuid →
      ∃ secret guard, storedSecret hub.database uuid = some secret ∧
        (hub.sockets client).data.signingSecret = some secret ∧
        (hub.sockets client).data.replayGuard = some guard ∧
        (Hash.verify platform.mac event payload (some secret) { now := hub.now }
          (some guard)).1 = .ok ∧
        (receive platform hub client event payload).1 = .judged (some uuid) .ok
  | _ => True

/-- A packet other than a registration does not arrive between the write of an identity
and the answer to its registration. -/
def OutsideGap (hub : Hub) : Event → Prop
  | .packet client event _ => event ≠ registerEvent → (hub.sockets client).connected = true →
    (hub.sockets client).data.agentUuid = none ∨
      (hub.sockets client).data.agentUuid = lastRegistered hub.sent client
  | _ => True

/-- No signing secret that is stored is replaced. -/
def KeepsSecrets (before after : Hub) : Prop :=
  ∀ uuid secret, secret ≠ [] → storedSecret before.database uuid = some secret →
    storedSecret after.database uuid = some secret

/-- A condition on events, as one on moves. -/
def OnEvent (condition : Hub → Event → Prop) (config : State) : Input → Prop
  | .event event => condition config.state event
  | _ => True

/-- The gateway before its first socket. -/
def started (database : Database) (now : ℤ) : State where
  state := { database := database, now := now }

/-- Every packet of a run that is handled for an Agent is authenticated. -/
def EveryPacketAuthenticated (platform : Platform) (database : Database) (now : ℤ)
    (moves : List Input) : Prop :=
  Each (gateway platform) (OnEvent (Authenticated platform)) (started database now) moves

/-- No packet of a run arrives in a gap, and no action of it replaces a secret. -/
def Undisturbed (platform : Platform) (database : Database) (now : ℤ) (moves : List Input) :
    Prop :=
  Each (gateway platform)
    (fun config input => OnEvent OutsideGap config input ∧
      KeepsSecrets config.state (gateway platform config input).2.state)
    (started database now) moves

/-! ## What every action keeps -/

/-- A socket on which an Agent was answered last holds the secret of that Agent. -/
def Attached (hub : Hub) : Prop :=
  ∀ client uuid, lastRegistered hub.sent client = some uuid →
    ∃ secret guard, secret ≠ [] ∧ storedSecret hub.database uuid = some secret ∧
      guardOf hub client = (some secret, some guard, true)

/-- What an action must do, if it replaces no secret. -/
def KeepsAttached (before after : Hub) : Prop :=
  KeepsSecrets before after → Attached before → Attached after

/-- A registered Agent has a secret, and what the registration issued is that secret. -/
def Issued (agent : RegisteredAgent) (hub : Hub) : Prop :=
  ∃ secret, secret ≠ [] ∧ storedSecret hub.database agent.uuid = some secret ∧
    (agent.signingSecret = none ∨ agent.signingSecret = some secret)

/-- What an action must do to keep an invariant, if it replaces no secret. -/
def Upholds (invariant : Hub → Prop) (before after : Hub) : Prop :=
  KeepsSecrets before after → invariant before → invariant after

/-- What an action may do: it keeps the sockets and answers nobody, or it answers an Agent whose
secret is stored, and attached, and what has been issued to it, if anything. -/
structure Permits (guarantee : Hub → Hub → Prop) : Prop where
  kept : ∀ before after, Kept before after → guarantee before after
  answers : ∀ client agent secret before after, Attaches client agent (some secret) before after →
    secret ≠ [] → storedSecret before.database agent.uuid = some secret →
    (agent.signingSecret = none ∨ agent.signingSecret = some secret) → guarantee before after

variable {before after hub : Hub} {client : ℕ}

theorem keepsSecrets_refl (hub : Hub) : KeepsSecrets hub hub := fun _ _ _ stored => stored

theorem KeepsSecrets.trans {first second third : Hub} (keeps : KeepsSecrets first second)
    (keeps' : KeepsSecrets second third) : KeepsSecrets first third :=
  fun uuid secret some stored => keeps' uuid secret some (keeps uuid secret some stored)

theorem Issued.rest {agent : RegisteredAgent} (issued : Issued agent before)
    (keeps : KeepsSecrets before after) : Issued agent after := by
  obtain ⟨secret, present, stored, same⟩ := issued
  exact ⟨secret, present, keeps _ _ present stored, same⟩

theorem lastRegistered_append_kept {sent packets : List Outgoing}
    (foreign : ∀ packet ∈ packets, isRegistered packet = false) (client : ℕ) :
    lastRegistered (sent ++ packets) client = lastRegistered sent client := by
  have silent : packets.filterMap (answered client) = [] := by
    rw [List.filterMap_eq_nil_iff]
    intro packet inside
    cases packet with
    | registered socket agent => exact absurd (foreign _ inside) (by simp [isRegistered])
    | _ => rfl
  rw [lastRegistered, List.filterMap_append, silent, List.append_nil, lastRegistered]

theorem lastRegistered_registered (sent : List Outgoing) (client socket : ℕ)
    (agent : RegisteredAgent) :
    lastRegistered (sent ++ [.registered socket agent]) client =
      if socket = client then some agent.uuid else lastRegistered sent client := by
  rw [lastRegistered, List.filterMap_append]
  by_cases here : socket = client
  · simp [here, answered]
  · simp [here, answered, lastRegistered]

/-- An action that keeps the sockets keeps their secrets attached. -/
theorem keepsAttached_of_kept (kept : Kept before after) : KeepsAttached before after := by
  intro keeps attached client uuid last
  obtain ⟨guards, sent, appended, foreign⟩ := kept
  rw [appended, lastRegistered_append_kept foreign] at last
  obtain ⟨secret, guard, present, stored, held⟩ := attached client uuid last
  exact ⟨secret, guard, present, keeps _ _ present stored, by rw [guards, held]⟩

/-- The answer to a registration may be sent when the secret attached is the stored one. -/
theorem keepsAttached_of_attaches {agent : RegisteredAgent} {secret : Text}
    (attaches : Attaches client agent (some secret) before after) (present : secret ≠ [])
    (stored : storedSecret before.database agent.uuid = some secret) :
    KeepsAttached before after := by
  intro keeps attached other uuid last
  obtain ⟨guards, appended⟩ := attaches
  rw [appended, lastRegistered_registered] at last
  by_cases here : client = other
  · subst here
    rw [if_pos rfl, Option.some.injEq] at last
    subst last
    exact ⟨secret, {}, present, keeps _ _ present stored, by rw [guards, Function.update_self]⟩
  · rw [if_neg here] at last
    obtain ⟨secret', guard, present', stored', held⟩ := attached other uuid last
    refine ⟨secret', guard, present', keeps _ _ present' stored', ?_⟩
    rw [guards, Function.update_of_ne (Ne.symm here), held]

theorem permits_attached : Permits (Upholds Attached) :=
  ⟨fun _ _ => keepsAttached_of_kept, fun _ _ _ _ _ attaches present stored _ =>
    keepsAttached_of_attaches attaches present stored⟩

/-! ## Registrations -/

theorem hasSecret_iff {secret : Option Text} :
    hasSecret secret = true ↔ ∃ text, secret = some text ∧ text ≠ [] := by
  rcases secret with _ | _ | ⟨unit, units⟩ <;> simp [hasSecret]

theorem storedSecret_of_findFirst {database : Database} {uuid : Text} {row : AgentRow}
    (found : database.agents.findFirst (fun row => row.agentUuid == uuid) = some row) :
    storedSecret database uuid = row.agentSigningSecret := by
  rw [storedSecret, secretOf, found, Option.bind_some]

/-- A change to the row of a UUID is a change to its secret. -/
theorem storedSecret_updateMany {database : Database} {uuid : Text} {row : AgentRow}
    {change : AgentRow → AgentRow} {keyed : ∀ row, (change row).agentIndex = row.agentIndex}
    (same : ∀ row, (change row).agentUuid = row.agentUuid)
    (found : database.agents.findFirst (fun row => row.agentUuid == uuid) = some row) :
    storedSecret { database with
        agents := database.agents.updateMany (fun other => other.agentIndex == row.agentIndex)
          change keyed } uuid = (change row).agentSigningSecret := by
  apply storedSecret_of_findFirst
  rw [Table.findFirst_updateMany fun row => by rw [same], found]
  simp

section Handlers

variable (platform : Platform) {guarantee : Hub → Hub → Prop} (permits : Permits guarantee)

include permits

/-- The row found for a text is the one whose secret is stored for it. -/
theorem withstands_findExist (uuid : Value) :
    Withstands KeepsSecrets guarantee
      (fun result hub => ∀ exist text, result = .ok (some exist) → uuid = .string text →
        storedSecret hub.database text = exist.agentSigningSecret)
      (findExist platform uuid) hub := by
  have keeps (hub : Hub) : guarantee hub hub := permits.kept _ _ (kept_refl hub)
  rw [findExist]
  split
  · rw [withstands_bind, withstands_orThrow]
    constructor
    · intro selects selected
      rw [continues_ok, findAgent, withstands_look]
      intro hub' _
      refine ⟨keeps hub', ?_⟩
      rintro exist text found rfl
      rw [uuidFilter, Option.some.injEq] at selected
      subst selected
      exact storedSecret_of_findFirst (Except.ok.inj found)
    · intro _
      rw [continues_error]
      intro _ _ wrong
      cases wrong
  · rw [withstands_pure]
    intro _ _ wrong
    cases wrong

/-- A known Agent keeps its secret or gets one. -/
theorem withstands_updateRegistered (ip uuid : Text) (exist : AgentRow)
    (agentVersion : Option (Option Text)) (protocolVersion : ℤ)
    (known : storedSecret hub.database uuid = exist.agentSigningSecret) :
    Withstands KeepsSecrets guarantee
      (fun result hub => ∀ agent, result = .ok agent → Issued agent hub)
      (updateRegistered platform ip uuid exist agentVersion protocolVersion) hub := by
  rw [updateRegistered, withstands_atomically]
  intro hub' moved
  cases found : hub'.database.agents.findFirst fun row => row.agentUuid == uuid with
  | none =>
    refine ⟨permits.kept _ _ (kept_refl hub'), fun agent wrong => ?_⟩
    cases wrong
  | some row =>
    refine ⟨permits.kept _ _ (kept_of_eq rfl rfl), fun agent same => ?_⟩
    obtain rfl := Except.ok.inj same
    have named : row.agentUuid = uuid := eq_of_beq (Table.mem_of_findFirst found).2
    simp only [Issued, named]
    rw [storedSecret_updateMany ?_ found]
    · by_cases has : hasSecret exist.agentSigningSecret = true
      · obtain ⟨secret, same, present⟩ := hasSecret_iff.mp has
        have kept := moved uuid secret present (known.trans same)
        rw [storedSecret_of_findFirst found] at kept
        exact ⟨secret, present, by simp [has, kept], .inl (if_pos has)⟩
      · exact ⟨platform.randomBytes hub'.drawn, platform.randomBytes_ne_nil _, by simp [has],
          .inr (if_neg has)⟩
    · exact fun _ => rfl

/-- A new Agent gets a secret. -/
theorem withstands_createRegistered (ip : Text) (agentVersion : Option (Option Text))
    (protocolVersion : ℤ) :
    Withstands KeepsSecrets guarantee
      (fun result hub => ∀ agent, result = .ok agent → Issued agent hub)
      (createRegistered platform ip agentVersion protocolVersion) hub := by
  rw [createRegistered, withstands_atomically]
  intro hub' _
  dsimp only
  split
  · refine ⟨permits.kept _ _ (kept_refl hub'), fun agent wrong => ?_⟩
    cases wrong
  · rename_i free
    refine ⟨permits.kept _ _ (kept_of_eq rfl rfl), fun agent same => ?_⟩
    obtain rfl := Except.ok.inj same
    refine ⟨platform.randomBytes hub'.drawn, platform.randomBytes_ne_nil _, ?_, .inr rfl⟩
    have unknown : hub'.database.agents.findFirst
        (fun row => row.agentUuid == platform.randomUuid hub'.drawn) = none := by
      rw [Table.findFirst_eq_none] at free ⊢
      exact fun row inside => (Bool.or_eq_false_iff.mp (free row inside)).2
    rw [storedSecret, secretOf, Table.findFirst_create, unknown]
    simp

/-- A registration ends with a secret stored for the Agent. -/
theorem withstands_registerAgent (ip : Text)
    (agentUuid agentVersion protocolVersion : Option Value) :
    Withstands KeepsSecrets guarantee
      (fun result hub => ∀ agent, result = .ok agent → Issued agent hub)
      (registerAgent platform ip agentUuid agentVersion protocolVersion) hub := by
  have fails {error : Failure} {hub : Hub} (agent : RegisteredAgent)
      (wrong : (.error error : Except Failure RegisteredAgent) = .ok agent) :
      Issued agent hub := by cases wrong
  rw [registerAgent]
  refine (withstands_findExist platform permits _).bind ?_ fun _ _ _ => fails
  intro exist hub known
  rw [withstands_bind, withstands_orThrow]
  refine ⟨fun version _ => ?_, fun _ => fails⟩
  rw [continues_ok, withstands_bind, withstands_orThrow]
  refine ⟨fun protocol _ => ?_, fun _ => fails⟩
  rw [continues_ok]
  split
  · rename_i exist text named
    exact withstands_updateRegistered platform permits _ _ _ _ _ (known exist text rfl named)
  · exact fails
  · exact withstands_createRegistered platform permits _ _ _

theorem withstands_bindAndAttach {agent : RegisteredAgent} (issued : Issued agent hub) :
    Withstands KeepsSecrets guarantee (fun _ _ => True) (bindAndAttach client agent) hub := by
  rw [bindAndAttach]
  split
  · rename_i issuedSecret answered
    rw [withstands_step]
    intro hub' moved
    obtain ⟨secret, present, stored, same⟩ := issued.rest moved
    rw [answered] at same
    obtain rfl : issuedSecret = secret := by simpa using same
    exact ⟨permits.answers _ _ _ _ _ (attaches_bound hub' client agent _) present stored
      (.inr answered), trivial⟩
  · rename_i unissued
    rw [withstands_bind, withstands_step]
    intro hub' moved
    refine ⟨permits.kept _ _ (kept_bindIdentity hub' client agent), ?_⟩
    have bound : Issued agent (bindIdentity client agent hub') := issued.rest moved
    rw [continues_ok, withstands_bind, getSigningSecret, withstands_look]
    intro hub'' moved'
    refine ⟨permits.kept _ _ (kept_refl hub''), ?_⟩
    obtain ⟨secret, present, stored, -⟩ := bound.rest moved'
    rw [continues_ok, withstands_step]
    intro hub''' moved''
    have read : secretOf (· == agent.uuid) hub''.database = some secret := stored
    rw [read]
    exact ⟨permits.answers _ _ _ _ _ (attaches_attachSecret hub''' client agent _) present
      (moved'' _ _ present stored) (.inl unissued), trivial⟩

theorem withstands_handleValidation (payload : Value) :
    Withstands KeepsSecrets guarantee (fun _ _ => True)
      (handleValidation platform client payload) hub := by
  have allowed := permits.kept
  apply (always_orThrow _ _).bind_withstands allowed
  intro members hub
  apply (always_fromExcept _).bind_withstands allowed
  intro refusal hub
  apply (always_orThrow _ _).bind_withstands allowed
  intro _ hub
  cases refusal with
  | some refusal =>
    exact (always_step fun hub => kept_refuse hub client refusal).withstands allowed
  | none =>
    apply (always_proveIdentity platform client payload _).bind_withstands allowed
    intro proved hub
    split
    · apply (always_look kept_refl _).bind_withstands allowed
      intro ip hub
      apply (withstands_registerAgent platform permits _ _ _ _).bind ?_ fun _ _ _ => trivial
      intro agent hub issued
      apply (withstands_bindAndAttach permits (issued agent rfl)).bind ?_ fun _ _ _ => trivial
      intro _ hub _
      apply (always_kept (aside_handleReconnect _ _)).bind_withstands allowed
      intro _ hub
      exact (always_step fun _ => kept_of_eq rfl rfl).withstands allowed
    · trivial

/-- Every handler keeps secrets attached, whatever the others do. -/
theorem withstands_handler (call : Call) :
    Withstands KeepsSecrets guarantee (fun _ _ => True) (handler platform call) hub := by
  have allowed := permits.kept
  cases call with
  | register client payload =>
    apply (always_look kept_refl _).bind_withstands allowed
    intro connected hub
    split
    · exact withstands_handleValidation platform permits payload
    · trivial
  | disconnected client => exact (always_handleDisconnect client).withstands allowed
  | offlineTimer agentUuid => exact (always_kept (aside_offlineTimer agentUuid)).withstands allowed
  | acceptConnectRequest agentCode agentUuid =>
    apply (always_kept (aside_handleAcceptConnectRequest _ _)).bind_withstands allowed
    exact fun _ _ => trivial
  | rejectConnectRequest agentCode agentUuid =>
    apply (always_kept (aside_handleRejectConnectRequest _ _)).bind_withstands allowed
    exact fun _ _ => trivial

end Handlers

/-! ## Events and runs -/

section Runs

variable (platform : Platform)

/-- A packet leaves the secrets where they are. -/
theorem attached_receive {event : Text} {payload : Value} (attached : Attached hub) :
    Attached (receive platform hub client event payload).2 := by
  obtain ⟨database, sent, elsewhere⟩ := receive_frame platform hub client event payload
  intro other uuid last
  rw [sent] at last
  obtain ⟨secret, guard, present, stored, held⟩ := attached other uuid last
  rw [database]
  by_cases here : other = client
  · subst here
    by_cases checked : (hub.sockets other).connected = true ∧ event ≠ registerEvent
    · have has := hasSecret_iff.mpr ⟨secret, rfl, present⟩
      exact ⟨secret, _, present, stored, guardOf_receive platform checked.1 checked.2 has held⟩
    · rw [receive_unchecked platform (by grind)]
      exact ⟨secret, guard, present, stored, held⟩
  · exact ⟨secret, guard, present, stored, (elsewhere other here).trans held⟩

theorem keepsAttached_react (event : Event) :
    KeepsAttached hub (react platform hub event).2 := by
  by_cases packet : ∃ client name payload, event = .packet client name payload
  · obtain ⟨client, name, payload, rfl⟩ := packet
    exact fun _ attached => attached_receive platform attached
  · apply keepsAttached_of_kept
    exact kept_react platform fun client name payload same =>
      packet ⟨client, name, payload, same⟩

/-- Outside the gap, a packet that is handled is authenticated. -/
theorem authenticated_of_attached (attached : Attached hub) {event : Event}
    (outside : OutsideGap hub event) : Authenticated platform hub event := by
  cases event with
  | packet client name payload =>
    intro other uuid handled
    obtain ⟨connected, bound, checked⟩ := receive_handledFor platform handled
    have last : lastRegistered hub.sent client = some uuid := by
      rcases outside other connected with unbound | same
      · rw [bound] at unbound
        cases unbound
      · exact same.symm.trans bound
    obtain ⟨secret, guard, present, stored, held⟩ := attached client uuid last
    simp only [guardOf, Prod.mk.injEq] at held
    obtain ⟨secrets, guards, installed⟩ := held
    rcases checked with (missing | register) | ⟨accepted, judged⟩
    · rw [installed] at missing
      cases missing
    · exact absurd register other
    · rw [secrets, guards] at accepted
      exact ⟨secret, guard, stored, secrets, guards, accepted, judged⟩
  | _ => trivial

/-- An invariant that every handler upholds, and every event, holds after a move that replaces
no secret. -/
theorem upheld_move {ω : Type} {watch : Hub → Hub → ω} {invariant : Hub → Prop} {config : State}
    (permits : Permits (Upholds invariant))
    (events : ∀ hub event, Upholds invariant hub (react platform hub event).2)
    (held : invariant config.state)
    (among : Among KeepsSecrets (Upholds invariant) (fun _ _ _ _ => True) config) (input : Input)
    (keeps : KeepsSecrets config.state
      (Async.move (handler platform) (react platform) watch config input).2.state) :
    invariant (Async.move (handler platform) (react platform) watch config input).2.state ∧
      Among KeepsSecrets (Upholds invariant) (fun _ _ _ _ => True)
        (Async.move (handler platform) (react platform) watch config input).2 := by
  constructor
  · rcases among.guarantees (handler platform) (react platform) watch keepsSecrets_refl
      input with same | moved | ⟨event, rfl, moved⟩
    · rw [same]
      exact held
    · exact moved keeps held
    · rw [moved]
      rw [moved] at keeps
      exact events _ event keeps held
  · exact among.move keepsSecrets_refl KeepsSecrets.trans (fun _ _ _ _ _ _ _ => trivial)
      (withstands_handler platform permits) input keeps

/-- What holds between the moves of an undisturbed run. -/
def Guarded (config : State) : Prop :=
  Attached config.state ∧ Among KeepsSecrets KeepsAttached (fun _ _ _ _ => True) config

theorem guarded_started (database : Database) (now : ℤ) : Guarded (started database now) := by
  refine ⟨fun client uuid last => ?_, fun thread inside => absurd inside List.not_mem_nil⟩
  cases last

theorem Guarded.gateway {config : State} (guarded : Guarded config) {input : Input}
    (keeps : KeepsSecrets config.state (gateway platform config input).2.state) :
    Guarded (gateway platform config input).2 :=
  upheld_move platform permits_attached (fun _ event => keepsAttached_react platform event)
    guarded.1 guarded.2 input keeps

/-- Every packet that is handled for an Agent was accepted under the stored secret of
that Agent, with a replay guard, when none arrives between an identity and the answer
to its registration and no stored secret is replaced. -/
theorem every_packet_authenticated (platform : Platform) (database : Database) (now : ℤ)
    (moves : List Input) (undisturbed : Undisturbed platform database now moves) :
    EveryPacketAuthenticated platform database now moves := by
  apply Along.safe (fun _ => Guarded) ?_ ?_ undisturbed (guarded_started database now)
  · exact fun _ _ _ guarded condition => guarded.gateway platform condition.2
  · intro _ config input guarded condition
    cases input with
    | event event => exact authenticated_of_attached platform guarded.1 condition.1
    | _ => trivial

end Runs

/-! ## A registration with a packet in its gap -/

/-- A platform with the fixed MAC, whose random data are counted. -/
def fixedPlatform : Platform where
  mac := Hash.fixedMac
  randomBytes := fun _ => Hash.fixedSecret
  randomBytes_ne_nil := fun _ => by decide
  randomCode := fun n => List.replicate (n + 1) 0x43
  randomUuid := fun n => List.replicate (n + 1) 0x55
  uuidFilter := fun _ => none
  dnsReply := fun _ => .success []
  subdomainActiveLimit := 1

/-- An Agent with the fixed secret. -/
def knownAgents : Table AgentRow := Table.empty.create fun index =>
  { agentIndex := index
    agentIp := "127.0.0.1"
    agentCode := "CODE"
    agentUuid := "agent"
    agentSigningSecret := some Hash.fixedSecret
    agentName := "CODE"
    agentLastOnline := 0 }

/-- The time of the fixed vector. -/
def fixedTime : ℤ := 1756000000000

/-- The packet with which the Agent registers. -/
def registerPacket : Value :=
  .object (Hash.sign Hash.fixedMac registerEvent
    [("agentUuid", .string "agent"), ("agentVersion", .string "1.0.0"),
      ("protocolVersion", .number (.finite (Decimal.ofInt 1)))]
    (some Hash.fixedSecret) Hash.fixedMessage.timestamp "register")

/-- The Agent opens a socket and registers, and the handler takes some of its actions. -/
def registering (client actions : ℕ) : List Input :=
  [.event (.opened client none "127.0.0.1" none), .start (.register client registerPacket)] ++
    List.replicate actions (.resume client)

/-- The signed packet of the fixed vector arrives on a socket. -/
def statusPacket (client : ℕ) : Input :=
  .event (.packet client "service-status" (.object Hash.fixedPacket.members))

/-- The signed packet arrives after the answer. -/
def answeredRun : List Input := registering 0 9 ++ [statusPacket 0]

/-- A packet without a signature arrives between the identity and the secret. -/
def gapRun : List Input :=
  registering 0 7 ++ [.event (.packet 0 "service-status" (.object []))]

/-- The secrets of all Agents, by UUID. -/
def secretsOf (database : Database) : List (Text × Option Text) :=
  database.agents.rows.map fun row => (row.agentUuid, row.agentSigningSecret)

theorem keepsSecrets_of_eq (same : secretsOf after.database = secretsOf before.database) :
    KeepsSecrets before after := by
  have read (database : Database) (uuid : Text) : storedSecret database uuid =
      ((secretsOf database).find? fun entry => entry.1 == uuid).bind Prod.snd := by
    rw [secretsOf, List.find?_map, Option.bind_map, storedSecret, secretOf, Table.findFirst]
    rfl
  intro uuid secret _ stored
  rw [read, same, ← read, stored]

instance (hub : Hub) : (event : Event) → Decidable (OutsideGap hub event)
  | .packet client event _ =>
    inferInstanceAs (Decidable (event ≠ registerEvent → (hub.sockets client).connected = true →
      (hub.sockets client).data.agentUuid = none ∨
        (hub.sockets client).data.agentUuid = lastRegistered hub.sent client))
  | .opened _ _ _ _ | .closed _ | .disconnectAgent _ | .clock _ => isTrue trivial

instance (config : State) : (input : Input) → Decidable (OnEvent OutsideGap config input)
  | .event event => inferInstanceAs (Decidable (OutsideGap config.state event))
  | .start _ | .resume _ => isTrue trivial

theorem every_packet_authenticated_answeredRun :
    EveryPacketAuthenticated fixedPlatform { agents := knownAgents } fixedTime answeredRun := by
  apply every_packet_authenticated
  have quiet : Each (gateway fixedPlatform)
      (fun config input => OnEvent OutsideGap config input ∧
        secretsOf (gateway fixedPlatform config input).2.state.database =
          secretsOf config.state.database)
      (started { agents := knownAgents } fixedTime) answeredRun := by decide +kernel
  rw [Undisturbed]
  apply Along.mono quiet
  exact fun _ _ _ condition => ⟨condition.1, keepsSecrets_of_eq condition.2⟩

/-- In the gap, a packet without a signature is handled for the Agent. -/
theorem not_every_packet_authenticated_gapRun :
    ¬ EveryPacketAuthenticated fixedPlatform { agents := knownAgents } fixedTime gapRun := by
  intro every
  rw [EveryPacketAuthenticated, Each, gapRun, along_append] at every
  obtain ⟨-, authenticated, -⟩ := every
  have passed : (receive fixedPlatform
      (final (gateway fixedPlatform) (started { agents := knownAgents } fixedTime)
        (registering 0 7)).state 0 "service-status" (.object [])).1 = .passed (some "agent") := by
    decide +kernel
  obtain ⟨_, _, _, _, _, _, judged⟩ := authenticated (by decide) "agent" (by rw [passed]; rfl)
  rw [passed] at judged
  cases judged

end AgentGateway

end OpticsHub
