import OpticsHub.Agent.Authenticated

/-!
# Packets that arrive again

A signed packet is refused the second time because the guard of its socket has
recorded its nonce. The guard lives as long as the registration: every answer to a
registration on a socket brings a fresh guard, and another socket of the same Agent
has a guard of its own. A packet dated further than the window from the recorded one
makes the guard forget it. When none of these comes between the two arrivals, the
guard still holds the nonce, whatever else the Hub does in between.
-/
namespace OpticsHub

open Script Async Program Machine

namespace AgentGateway

open AgentService

/-! ## The property and its condition -/

/-- What an event of a run has handed over for an Agent. -/
def HandedFor (uuid event : Text) (payload : Value) (step : Input × Output) : Prop :=
  ∃ client arrival, step.1 = .event (.packet client event payload) ∧
    step.2.reply = some (some arrival) ∧ arrival.handledFor = some uuid

/-- A signed packet of an Agent whose timestamp the clock admits. -/
def LiveSigned (platform : Platform) (hub : Hub) (uuid event : Text) (payload : Value) : Prop :=
  ∃ envelope, Hash.authentic platform.mac event payload (storedSecret hub.database uuid) =
      some envelope ∧
    ¬ Hash.VerifyOptions.stale { now := hub.now } envelope.timestamp

/-- A live signed packet that is handed over for an Agent was not handed over for it
before, on whichever socket. -/
def FirstTime (platform : Platform) (past : List (Input × Output)) (hub : Hub) : Event → Prop
  | .packet client event payload => event ≠ registerEvent →
    ∀ uuid, (receive platform hub client event payload).1.handledFor = some uuid →
      LiveSigned platform hub uuid event payload →
      ∀ step ∈ past, ¬ HandedFor uuid event payload step
  | _ => True

/-- The envelope of a packet, whether its signature is valid or not. -/
def envelopeOf : Value → Option Hash.Envelope
  | .object members => (Hash.readEnvelope members).toOption
  | _ => none

/-- A packet was verified on a socket and accepted. -/
def AcceptedOn (client : ℕ) (event : Text) (payload : Value) (step : Input × Output) : Prop :=
  step.1 = .event (.packet client event payload) ∧
    ∃ uuid, step.2.reply = some (some (.judged uuid .ok))

/-- No registration was answered on the socket, and no packet that was accepted there or
refused as a replay is dated further than the window from a timestamp. -/
def SparesNonce (client : ℕ) (timestamp : Decimal) (step : Input × Output) : Prop :=
  (∀ agent, .registered client agent ∉ step.2.watched) ∧
  ∀ event payload uuid result, step.1 = .event (.packet client event payload) →
    step.2.reply = some (some (.judged uuid result)) →
    result = .ok ∨ result = .failed .replayed →
    ∀ envelope, envelopeOf payload = some envelope →
      ¬ Hash.ReplayGuard.apart Hash.defaultMaxClockSkewMs envelope.timestamp.toRat
        timestamp.toRat

/-- A packet was accepted on a socket, and every later event spares its nonce. -/
def RememberedOn (client : ℕ) (event : Text) (payload : Value) (past : List (Input × Output)) :
    Prop :=
  ∃ before step after envelope, past = before ++ step :: after ∧
    AcceptedOn client event payload step ∧ envelopeOf payload = some envelope ∧
    ∀ later ∈ after, SparesNonce client envelope.timestamp later

/-- A live signed packet of the Agent on a connected socket, if it was handed over
before, was accepted on this very socket and is remembered there. -/
def RepeatsRemembered (platform : Platform) (past : List (Input × Output)) (hub : Hub) :
    Event → Prop
  | .packet client event payload => event ≠ registerEvent →
    (hub.sockets client).connected = true → ∀ uuid, (hub.sockets client).data.agentUuid = some uuid →
      LiveSigned platform hub uuid event payload →
      (∃ step ∈ past, HandedFor uuid event payload step) →
      RememberedOn client event payload past
  | _ => True

/-- No live signed packet is handed over twice in a run. -/
def HandedOnce (platform : Platform) (database : Database) (now : ℤ) (moves : List Input) : Prop :=
  Along (gateway platform) (fun past => OnEvent (FirstTime platform past)) []
    (started database now) moves

/-- Whenever a live signed packet comes again in a run, its socket remembers it. -/
def RemembersRepeats (platform : Platform) (database : Database) (now : ℤ) (moves : List Input) :
    Prop :=
  Along (gateway platform) (fun past => OnEvent (RepeatsRemembered platform past)) []
    (started database now) moves

/-! ## What a run remembers -/

/-- Every socket with the middleware has a guard with the default window. -/
def Armed (hub : Hub) : Prop :=
  ∀ client secret guard, guardOf hub client = (secret, guard, true) →
    ∃ replays, guard = some replays ∧ replays.windowMs = Hash.defaultMaxClockSkewMs

/-- The guard of a socket holds the nonce of a packet that is valid under its secret. -/
def Holds (platform : Platform) (hub : Hub) (client : ℕ) (event : Text) (payload : Value) : Prop :=
  ∃ secret guard envelope, guardOf hub client = (secret, some guard, true) ∧
    hasSecret secret = true ∧ guard.windowMs = Hash.defaultMaxClockSkewMs ∧
    Hash.authentic platform.mac event payload secret = some envelope ∧
    (envelope.nonce, envelope.timestamp) ∈ guard.seen

variable {platform : Platform} {before after hub : Hub} {client : ℕ}

theorem envelopeOf_authentic {event : Text} {payload : Value} {secret : Option Text}
    {envelope : Hash.Envelope}
    (valid : Hash.authentic platform.mac event payload secret = some envelope) :
    envelopeOf payload = some envelope := by
  rcases secret with _ | _ | ⟨unit, units⟩
  · cases valid
  · cases valid
  cases payload with
  | object members =>
    rw [Hash.authentic_object _ _ _ (by simp)] at valid
    rw [envelopeOf]
    split at valid
    · cases valid
    · rename_i read
      rw [read]
      split at valid
      · exact valid
      · cases valid
  | _ => cases valid

theorem armed_of_kept (kept : Kept before after) (armed : Armed before) : Armed after := by
  rw [Armed, kept.1]
  exact armed

theorem armed_of_attaches {agent : RegisteredAgent} {secret : Option Text}
    (attaches : Attaches client agent secret before after) (armed : Armed before) :
    Armed after := by
  intro other secret' guard held
  rw [attaches.1] at held
  by_cases here : other = client
  · subst here
    rw [Function.update_self] at held
    cases held
    exact ⟨{}, rfl, rfl⟩
  · rw [Function.update_of_ne here] at held
    exact armed other secret' guard held

theorem armed_of_tends (tends : Tends before after) (armed : Armed before) : Armed after := by
  rcases tends with kept | ⟨client, agent, secret, attaches⟩
  · exact armed_of_kept kept armed
  · exact armed_of_attaches attaches armed

/-! ## A packet on an armed socket -/

/-- A packet is taken as a delivery to the guard of its socket, or changes nothing. -/
theorem receive_cases (platform : Platform) (client : ℕ) (armed : Armed hub) (event : Text) (payload : Value) :
    (∃ secret guard, guardOf hub client = (secret, some guard, true) ∧
      guard.windowMs = Hash.defaultMaxClockSkewMs ∧ hasSecret secret = true ∧
      (hub.sockets client).connected = true ∧ event ≠ registerEvent ∧
      (receive platform hub client event payload).1 =
        .judged (hub.sockets client).data.agentUuid
          (Hash.deliver platform.mac guard ⟨event, payload, secret, hub.now⟩).1 ∧
      guardOf (receive platform hub client event payload).2 client =
        (secret, some (Hash.deliver platform.mac guard ⟨event, payload, secret, hub.now⟩).2,
          true)) ∨
    (receive platform hub client event payload).2 = hub ∧
      ∀ uuid result, (receive platform hub client event payload).1 ≠ .judged uuid result := by
  by_cases checked : (hub.sockets client).connected = true ∧ event ≠ registerEvent ∧
      (hub.sockets client).data.packetGuardInstalled = true ∧
      hasSecret (hub.sockets client).data.signingSecret = true
  · obtain ⟨connected, other, installed, has⟩ := checked
    have held : guardOf hub client = ((hub.sockets client).data.signingSecret,
        (hub.sockets client).data.replayGuard, true) := by rw [guardOf, installed]
    obtain ⟨guard, guards, window⟩ := armed client _ _ held
    rw [guards] at held
    refine .inl ⟨_, guard, held, window, has, connected, other, ?_,
      guardOf_receive platform connected other has held⟩
    rw [receive_armed platform connected other has held]
  · refine .inr ?_
    simp only [receive]
    split_ifs with closed unchecked has
    · exact ⟨rfl, fun _ _ same => by cases same⟩
    · exact ⟨rfl, fun _ _ same => by cases same⟩
    · simp_all
    · exact ⟨rfl, fun _ _ same => by cases same⟩

theorem armed_receive (armed : Armed hub) (event : Text) (payload : Value) :
    Armed (receive platform hub client event payload).2 := by
  obtain ⟨-, -, elsewhere⟩ := receive_frame platform hub client event payload
  intro other secret guard held
  by_cases here : other = client
  · subst here
    rcases receive_cases platform other armed event payload with
      ⟨secret', guard', -, window, -, -, -, -, after⟩ | ⟨same, -⟩
    · rw [after] at held
      cases held
      exact ⟨_, rfl, Hash.deliver_windowMs.trans window⟩
    · rw [same] at held
      exact armed other secret guard held
  · rw [elsewhere other here] at held
    exact armed other secret guard held

theorem armed_react (armed : Armed hub) (event : Event) :
    Armed (react platform hub event).2 := by
  by_cases packet : ∃ client name payload, event = .packet client name payload
  · obtain ⟨client, name, payload, rfl⟩ := packet
    exact armed_receive armed name payload
  · refine armed_of_kept (kept_react platform ?_) armed
    exact fun client name payload same => packet ⟨client, name, payload, same⟩

/-! ## Runs -/

/-- Between the moves of a run, guards hold what the past has accepted and spared. -/
def Steady (platform : Platform) (past : List (Input × Output)) (config : State) : Prop :=
  Armed config.state ∧
  (∀ client event payload, RememberedOn client event payload past →
    Holds platform config.state client event payload) ∧
  Among (fun _ _ => True) Tends (fun _ _ _ _ => True) config

/-- What is remembered after one more event was accepted by it or spared by it. -/
theorem RememberedOn.of_append {event : Text} {payload : Value} {past : List (Input × Output)}
    {last : Input × Output} (remembered : RememberedOn client event payload (past ++ [last])) :
    AcceptedOn client event payload last ∨
      RememberedOn client event payload past ∧ ∃ envelope, envelopeOf payload = some envelope ∧
        SparesNonce client envelope.timestamp last := by
  obtain ⟨before, step, after, envelope, split, accepted, read, spared⟩ := remembered
  rcases List.eq_nil_or_concat after with rfl | ⟨after, final, rfl⟩
  · have ends := (List.append_inj' split rfl).2
    rw [List.cons.injEq] at ends
    exact .inl (ends.1 ▸ accepted)
  · rw [List.concat_eq_append, ← List.cons_append, ← List.append_assoc] at split
    obtain ⟨front, ends⟩ := List.append_inj' split rfl
    rw [List.cons.injEq] at ends
    rw [List.concat_eq_append] at spared
    refine .inr ⟨⟨before, step, after, envelope, front, accepted, read, ?_⟩, envelope, read, ?_⟩
    · exact fun later inside => spared later (List.mem_append_left _ inside)
    · exact ends.1 ▸ spared final (List.mem_append_right _ (List.mem_singleton_self _))

theorem Holds.of_guardOf {event : Text} {payload : Value}
    (holds : Holds platform before client event payload)
    (same : guardOf after client = guardOf before client) :
    Holds platform after client event payload := by
  rw [Holds, same]
  exact holds

/-- An action of a handler forgets nothing on a socket without an answer. -/
theorem Holds.of_tends {event : Text} {payload : Value}
    (holds : Holds platform before client event payload) (tends : Tends before after)
    (silent : ∀ agent, .registered client agent ∉ sentBetween before after) :
    Holds platform after client event payload := by
  rcases tends with kept | ⟨socket, agent, secret, guards, appended⟩
  · exact holds.of_guardOf (congrFun kept.1 client)
  · apply holds.of_guardOf
    rw [guards]
    apply Function.update_of_ne
    rintro rfl
    apply silent agent
    rw [sentBetween, appended, List.drop_left]
    exact List.mem_singleton_self _

/-- A packet that is accepted is held. -/
theorem holds_of_accepted (armed : Armed hub) {event : Text} {payload : Value}
    {uuid : Option Text}
    (accepted : (receive platform hub client event payload).1 = .judged uuid .ok) :
    Holds platform (receive platform hub client event payload).2 client event payload := by
  rcases receive_cases platform client armed event payload with
    ⟨secret, guard, -, window, has, -, -, judged, after⟩ | ⟨-, unjudged⟩
  · rw [judged, Arrival.judged.injEq] at accepted
    obtain ⟨envelope, valid, -, -, recorded⟩ := Hash.deliver_ok accepted.2
    exact ⟨secret, _, envelope, after, has, Hash.deliver_windowMs.trans window, valid, recorded⟩
  · exact absurd accepted (unjudged uuid .ok)

/-- A packet that spares a nonce leaves it in the guard. -/
theorem Holds.receive (armed : Armed hub) {socket : ℕ} {name event : Text}
    {packet payload : Value} {envelope : Hash.Envelope}
    (holds : Holds platform hub client event payload) (read : envelopeOf payload = some envelope)
    (spared : socket = client → ∀ uuid result,
      (receive platform hub socket name packet).1 = .judged uuid result →
      result = .ok ∨ result = .failed .replayed →
      ∀ other, envelopeOf packet = some other →
        ¬ Hash.ReplayGuard.apart Hash.defaultMaxClockSkewMs other.timestamp.toRat
          envelope.timestamp.toRat) :
    Holds platform (AgentGateway.receive platform hub socket name packet).2 client event
      payload := by
  by_cases here : socket = client
  · subst here
    rcases receive_cases platform socket armed name packet with
      ⟨secret, guard, held, window, has, -, -, judged, after⟩ | ⟨same, -⟩
    · obtain ⟨secret', guard', envelope', held', -, -, valid, seen⟩ := holds
      rw [held] at held'
      cases held'
      obtain rfl : envelope' = envelope :=
        Option.some.inj ((envelopeOf_authentic valid).symm.trans read)
      refine ⟨secret, _, envelope', after, has, Hash.deliver_windowMs.trans window, valid, ?_⟩
      apply Hash.deliver_keeps_near seen
      intro other authentic timely
      rw [window]
      exact spared rfl _ _ judged (Hash.deliver_of_timely authentic timely) other
        (envelopeOf_authentic authentic)
    · rw [same]
      exact holds
  · apply holds.of_guardOf
    obtain ⟨-, -, elsewhere⟩ := receive_frame platform hub socket name packet
    exact elsewhere client (Ne.symm here)

/-- A packet whose nonce its socket holds is not handed over. -/
theorem Holds.refuses {event : Text} {payload : Value}
    (other : event ≠ registerEvent) (holds : Holds platform hub client event payload)
    (uuid : Text) :
    (AgentGateway.receive platform hub client event payload).1.handledFor ≠ some uuid := by
  intro handled
  obtain ⟨secret, guard, envelope, held, has, window, valid, seen⟩ := holds
  obtain ⟨connected, -, checked⟩ := receive_handledFor platform handled
  rcases checked with (missing | register) | ⟨-, accepted⟩
  · simp [guardOf, missing] at held
  · exact other register
  · rw [receive_armed platform connected other has held, Arrival.judged.injEq] at accepted
    obtain ⟨envelope', valid', -, fresh, -⟩ := Hash.deliver_ok accepted.2
    obtain rfl : envelope = envelope' := Option.some.inj (valid.symm.trans valid')
    apply fresh
    refine List.mem_map_of_mem (Hash.ReplayGuard.mem_prune.mpr ⟨seen, ?_⟩)
    rw [Hash.ReplayGuard.apart, window, sub_self, abs_zero]
    decide +kernel

theorem steady_started (database : Database) (now : ℤ) :
    Steady platform [] (started database now) := by
  refine ⟨fun _ _ _ held => ?_, fun client event payload remembered => ?_, ?_⟩
  · cases held
  · obtain ⟨before, step, after, -, split, -⟩ := remembered
    simp at split
  · exact fun thread inside => absurd inside List.not_mem_nil

/-- Every move keeps a run steady. -/
theorem Steady.gateway {past : List (Input × Output)} {config : State}
    (steady : Steady platform past config) (input : Input) :
    Steady platform (past ++ [(input, (gateway platform config input).1)])
      (gateway platform config input).2 := by
  obtain ⟨armed, remembers, among⟩ := steady
  have among' : Among (fun _ _ => True) Tends (fun _ _ _ _ => True)
      (AgentGateway.gateway platform config input).2 :=
    among.move (fun _ => trivial) (fun _ _ => trivial) (fun _ _ _ _ _ _ _ => trivial)
      (fun call => always_handler platform call config.state) input trivial
  by_cases packet : ∃ socket name value, input = .event (.packet socket name value)
  · obtain ⟨socket, name, value, rfl⟩ := packet
    refine ⟨armed_receive armed name value, fun client event payload remembered => ?_, among'⟩
    rcases remembered.of_append with ⟨same, uuid, replied⟩ | ⟨earlier, envelope, read, spared⟩
    · cases same
      exact holds_of_accepted armed (Option.some.inj (Option.some.inj replied))
    · refine (remembers client event payload earlier).receive armed read ?_
      rintro rfl uuid result judged
      exact spared.2 name value uuid result rfl (congrArg some (congrArg some judged))
  · have tends : Tends config.state (AgentGateway.gateway platform config input).2.state := by
      rcases among.guarantees (handler platform) (react platform) sentBetween (fun _ => trivial)
        input with same | moved | ⟨event, rfl, moved⟩
      · rw [AgentGateway.gateway, same]
        exact .inl (kept_refl _)
      · exact moved
      · rw [AgentGateway.gateway, moved]
        refine .inl (kept_react platform fun client name payload same => packet ?_)
        exact ⟨client, name, payload, congrArg Move.event same⟩
    refine ⟨armed_of_tends tends armed, fun client event payload remembered => ?_, among'⟩
    rcases remembered.of_append with ⟨same, -⟩ | ⟨earlier, -, -, silent, -⟩
    · exact absurd ⟨client, event, payload, same⟩ packet
    · apply (remembers client event payload earlier).of_tends tends
      rwa [AgentGateway.gateway, move_watched] at silent

/-- No live signed packet is handed over twice for an Agent in a run in which each that
comes again comes to the socket that accepted it, without an answer to a registration
there in between, and without a packet there dated further than the window from it. -/
theorem handed_once (platform : Platform) (database : Database) (now : ℤ) (moves : List Input)
    (repeats : RemembersRepeats platform database now moves) :
    HandedOnce platform database now moves := by
  apply Along.safe (Steady platform) ?_ ?_ repeats (steady_started database now)
  · exact fun _ _ input steady _ => steady.gateway input
  · intro past config input steady condition
    cases input with
    | event event =>
      cases event with
      | packet client event payload =>
        intro other uuid handled live step before handed
        obtain ⟨connected, bound, -⟩ := receive_handledFor platform handled
        have remembered := condition other connected uuid bound live ⟨step, before, handed⟩
        exact (steady.2.1 client event payload remembered).refuses other uuid handled
      | _ => trivial
    | _ => trivial

/-! ## The same packet on one socket and on two -/

/-- The state in which the signed packet of the fixed vector has a past. -/
def reached (moves : List Input) : State :=
  final (gateway fixedPlatform) (started { agents := knownAgents } fixedTime) moves

/-- The past itself. -/
def passed (moves : List Input) : List (Input × Output) :=
  trace (gateway fixedPlatform) (started { agents := knownAgents } fixedTime) moves

/-- The signed packet arrives twice on one socket. -/
def repeatedRun : List Input := answeredRun ++ [statusPacket 0]

/-- The Agent registers on a second socket with the packet it sent before, and the signed
packet arrives there too. -/
def reconnectedRun : List Input := (answeredRun ++ registering 1 9) ++ [statusPacket 1]

def isPacket : Input → Bool
  | .event (.packet _ _ _) => true
  | _ => false

theorem repeatsRemembered_of_no_packet {past : List (Input × Output)} {config : State}
    (none : ∀ step ∈ past, isPacket step.1 = false) (input : Input) :
    OnEvent (RepeatsRemembered platform past) config input := by
  cases input with
  | event event =>
    cases event with
    | packet client event payload =>
      rintro - - uuid - - ⟨step, inside, client', arrival, same, -⟩
      have foreign := none step inside
      rw [same] at foreign
      cases foreign
    | _ => trivial
  | _ => trivial

/-- The arrival of the signed packet on the first socket. -/
def accepting : Input × Output :=
  (statusPacket 0, (gateway fixedPlatform (reached (registering 0 9)) (statusPacket 0)).1)

theorem accepting_reply : accepting.2.reply = some (some (.judged (some "agent") .ok)) := by
  decide +kernel

theorem passed_answeredRun : passed answeredRun = passed (registering 0 9) ++ [accepting] :=
  trace_append _ _ _ _

theorem handed_once_repeatedRun :
    HandedOnce fixedPlatform { agents := knownAgents } fixedTime repeatedRun := by
  apply handed_once
  rw [RemembersRepeats, repeatedRun, along_append]
  constructor
  · have first : Along (gateway fixedPlatform)
        (fun past _ _ => ∀ step ∈ past, isPacket step.1 = false) []
        (started { agents := knownAgents } fixedTime) answeredRun := by decide +kernel
    apply first.mono
    exact fun past config input none => repeatsRemembered_of_no_packet none input
  · refine ⟨?_, trivial⟩
    rintro - - uuid - ⟨envelope, valid, -⟩ -
    refine ⟨passed (registering 0 9), accepting, [], envelope, passed_answeredRun,
      ⟨rfl, some "agent", accepting_reply⟩, envelopeOf_authentic valid, ?_⟩
    exact fun later inside => absurd inside List.not_mem_nil

/-- The second socket has a guard of its own, which does not know the packet. -/
theorem not_handed_once_reconnectedRun :
    ¬ HandedOnce fixedPlatform { agents := knownAgents } fixedTime reconnectedRun := by
  intro once
  rw [HandedOnce, reconnectedRun, along_append] at once
  obtain ⟨-, first, -⟩ := once
  have again : (receive fixedPlatform (reached (answeredRun ++ registering 1 9)).state 1
      "service-status" (.object Hash.fixedPacket.members)).1 = .judged (some "agent") .ok := by
    decide +kernel
  have dated : (Hash.authentic Hash.fixedMac "service-status" (.object Hash.fixedPacket.members)
      (storedSecret (reached (answeredRun ++ registering 1 9)).state.database "agent")).map
        Hash.Envelope.timestamp = some ⟨1756, 9, by decide⟩ := by decide +kernel
  obtain ⟨envelope, valid, same⟩ := Option.map_eq_some_iff.mp dated
  have live : LiveSigned fixedPlatform (reached (answeredRun ++ registering 1 9)).state "agent"
      "service-status" (.object Hash.fixedPacket.members) := by
    refine ⟨envelope, valid, ?_⟩
    rw [same]
    decide +kernel
  have inside : accepting ∈ passed (answeredRun ++ registering 1 9) := by
    rw [passed, trace_append, ← passed, passed_answeredRun]
    simp
  exact first (by decide) "agent" (by rw [reached] at again; rw [again]; rfl) live accepting inside
    ⟨0, _, rfl, accepting_reply, rfl⟩

end AgentGateway

end OpticsHub
