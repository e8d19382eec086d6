import OpticsHub.Agent.Registering

/-!
# Secrets that are issued

An Agent without a secret gets one at the write of its registration. What a registration has
read and what it writes go together when no other registration has issued a secret in
between: not between the row and the write, or the other secret is lost, and not between the
proof and the row, or the Agent is bound without a proof.
-/
namespace OpticsHub

open Script Async Program Machine

namespace AgentGateway

open AgentService

/-! ## The properties and their conditions -/

/-- Between two states no secret has come to be. -/
def StillNone (agentUuid : Text) (before after : Hub) : Prop :=
  hasSecret (storedSecret before.database agentUuid) = false →
    hasSecret (storedSecret after.database agentUuid) = false

/-- A registration that has found a row without a secret writes it while it has none. -/
def WritesUnissued : Call → List Hub → Hub → Prop
  | .register _ payload, seen, hub => ∀ uuid ∈ namedAgent payload, Writing uuid seen →
    ∀ looked ∈ lookedUp uuid seen, StillNone uuid looked hub
  | _, _, _ => True

/-- And where it has asked for no proof, it has found a row without a secret. -/
def WritesAsChecked : Call → List Hub → Hub → Prop
  | .register client payload, seen, hub => WritesUnissued (.register client payload) seen hub ∧
    ∀ uuid ∈ namedAgent payload, Writing uuid seen →
      ∀ known ∈ seen[1]?, ∀ looked ∈ lookedUp uuid seen, StillNone uuid known looked
  | _, _, _ => True

/-- The secret of an Agent changes only from none to one. -/
def IssuesOnly (before after : Hub) : Prop :=
  ∀ uuid, storedSecret after.database uuid ≠ storedSecret before.database uuid →
    hasSecret (storedSecret before.database uuid) = false ∧
      hasSecret (storedSecret after.database uuid) = true

/-- Every secret that was sent in an answer is the one that is stored. -/
def AnswersStored (hub : Hub) : Prop :=
  ∀ client agent secret, .registered client agent ∈ hub.sent →
    agent.signingSecret = some secret →
      secret ≠ [] ∧ storedSecret hub.database agent.uuid = some secret

/-- In a run every secret is issued once, and what was sent is stored from then on. -/
def IssuedOnce (platform : Platform) (database : Database) (now : ℤ) (moves : List Input) : Prop :=
  Each (gatewayStates platform)
    (fun config input => IssuesOnly config.state (gatewayStates platform config input).2.state ∧
      AnswersStored (gatewayStates platform config input).2.state)
    (started database now) moves

/-- An action of a registration enters a socket for the Agent that the packet names, whether
it was there before or not. -/
def EntersNamed (client : ℕ) (agentUuid : Text) (seen : List Hub) (before after : Hub) : Prop :=
  Binding agentUuid seen ∨ Members.own after.agentUuidToSocketId agentUuid = some client ∧
    Members.own before.agentUuidToSocketId agentUuid ≠ some client

/-- An action answers the registration with a secret that it has issued. -/
def AnswersWith (client : ℕ) (agentUuid secret : Text) (before after : Hub) : Prop :=
  ∃ agent : RegisteredAgent, agent.uuid = agentUuid ∧ agent.signingSecret = some secret ∧
    after.sent = before.sent ++ [.registered client agent]

/-- Whenever a registration enters its socket for the Agent that the packet names, the Agent
has a secret, and the packet was accepted under it or it was issued by this registration. -/
def BindsByProof (platform : Platform) : Call → List Hub → Hub → Hub → Prop
  | .register client payload, seen, before, after => ∀ uuid ∈ namedAgent payload,
    EntersNamed client uuid seen before after →
      Members.own after.agentUuidToSocketId uuid = some client ∧
        ∃ secret, secret ≠ [] ∧ storedSecret before.database uuid = some secret ∧
          (ProvenBy platform payload secret seen ∨ AnswersWith client uuid secret before after)
  | _, _, _, _ => True

/-- Every registration of a run binds an Agent by proof. -/
def EveryBindingProven (platform : Platform) (database : Database) (now : ℤ)
    (moves : List Input) : Prop :=
  Along (gatewayStates platform)
    (Permitted (handler platform) (react platform) (BindsByProof platform)) []
    (started database now) moves

variable {before after hub : Hub} {client : ℕ} {agentUuid : Text}

/-! ## Secrets are issued once -/

theorem issuesOnly_of_eq
    (same : ∀ uuid, storedSecret after.database uuid = storedSecret before.database uuid) :
    IssuesOnly before after :=
  fun uuid changed => absurd (same uuid) changed

theorem IssuesOnly.keepsSecrets (issues : IssuesOnly before after) : KeepsSecrets before after := by
  intro uuid secret present stored
  by_contra changed
  have none := (issues uuid (stored.symm ▸ changed)).1
  rw [stored, hasSecret_iff.mpr ⟨secret, rfl, present⟩] at none
  cases none

section Issuing

variable (platform : Platform)

/-- The write of a registration issues a secret, or leaves it as it is. -/
theorem issuesOnly_updateRegistered {ip uuid : Text} {exist : AgentRow}
    {agentVersion : Option (Option Text)} {protocolVersion : ℤ}
    (unissued : hasSecret exist.agentSigningSecret = false →
      hasSecret (storedSecret hub.database uuid) = false) :
    IssuesOnly hub
      ((updateRegistered platform ip uuid exist agentVersion protocolVersion).effect hub) := by
  rw [updateRegistered, atomically, Program.effect]
  cases found : hub.database.agents.findFirst fun row => row.agentUuid == uuid with
  | none => exact issuesOnly_of_eq fun _ => rfl
  | some row =>
    intro other changed
    by_cases here : other = uuid
    · subst here
      dsimp only at changed ⊢
      rw [storedSecret_updateMany ?_ found] at changed ⊢
      · cases has : hasSecret exist.agentSigningSecret with
        | false =>
          refine ⟨unissued has, ?_⟩
          have some := hasSecret_iff.mpr ⟨_, rfl, platform.randomBytes_ne_nil hub.drawn⟩
          simpa [has] using some
        | true =>
          refine absurd ?_ changed
          rw [storedSecret_of_findFirst found]
          simp [has]
      · exact fun _ => rfl
      · exact fun _ => rfl
    · refine absurd ?_ changed
      exact storedSecret_updateMany_ne (fun _ => rfl) found here

/-- A new Agent gets a secret, and no other Agent does. -/
theorem issuesOnly_createRegistered {ip : Text} {agentVersion : Option (Option Text)}
    {protocolVersion : ℤ} :
    IssuesOnly hub ((createRegistered platform ip agentVersion protocolVersion).effect hub) := by
  rw [createRegistered, atomically, Program.effect]
  dsimp only
  split
  · exact issuesOnly_of_eq fun _ => rfl
  · intro other changed
    simp only [storedSecret_rowOf, rowOf_create] at changed ⊢
    cases known : rowOf hub.database other with
    | some row => exact absurd (by rw [known]; rfl) changed
    | none =>
      refine ⟨rfl, ?_⟩
      by_cases new : (platform.randomUuid hub.drawn == other) = true
      · rw [if_pos new]
        exact hasSecret_iff.mpr ⟨_, rfl, platform.randomBytes_ne_nil hub.drawn⟩
      · exact absurd (by rw [known, if_neg new]; rfl) changed

theorem always_issuing_handleDisconnect (client : ℕ) :
    Always IssuesOnly (handleDisconnect client) := by
  apply Always.bind
  · apply always_step
    intro hub
    dsimp only
    refine issuesOnly_of_eq fun _ => ?_
    split
    · split <;> rfl
    · rfl
  · intro agentUuid
    cases agentUuid with
    | none => exact always_pure _
    | some agentUuid =>
      have aside := aside_isExpectedRestart agentUuid
      apply (aside.mono fun _ _ step => issuesOnly_of_eq (storedSecret_of_aside step)).bind
      intro expected
      split
      · exact always_pure _
      · exact always_step fun _ => issuesOnly_of_eq fun _ => rfl

/-- Whatever a handler does, secrets are only issued. -/
theorem heeds_handler_issuing (call : Call) :
    Heeds (WritesUnissued call) (fun _ => IssuesOnly) (fun _ _ => True) []
      (handler platform call) := by
  have asides {α : Type} {program : HubProgram α} (aside : Always Aside program)
      (seen : List Hub) :
      Heeds (WritesUnissued call) (fun _ => IssuesOnly) (fun _ _ => True) seen program :=
    aside.heeds fun _ _ _ step => issuesOnly_of_eq (storedSecret_of_aside step)
  cases call with
  | register client payload =>
    apply @heeds_register _ _ _ _ _ fun _ _ => True
    refine ⟨?_, ?_, ?_, ?_, ?_⟩
    · exact fun _ _ _ _ rests => issuesOnly_of_eq rests.secrets
    · intro ip uuid exist version protocol seen hub named found fineHere
      refine ⟨issuesOnly_updateRegistered platform fun none => ?_, fun _ _ => trivial⟩
      obtain ⟨looked, there, row⟩ := found.row
      refine fineHere uuid named found.writing looked there ?_
      rw [storedSecret_rowOf, row, Option.bind_some, none]
    · exact fun _ _ _ _ _ _ => ⟨issuesOnly_createRegistered platform, fun _ _ => trivial⟩
    · exact fun _ _ _ _ _ _ _ => issuesOnly_of_eq fun _ => rfl
    · exact fun _ _ _ _ _ _ => issuesOnly_of_eq fun _ => rfl
  | disconnected client =>
    refine (always_issuing_handleDisconnect client).heeds fun _ _ _ step => step
  | offlineTimer agentUuid => exact asides (aside_offlineTimer agentUuid) []
  | acceptConnectRequest agentCode agentUuid =>
    apply Heeds.bind
    exact (asides (aside_handleAcceptConnectRequest _ _) []).mono fun _ _ _ _ => trivial
  | rejectConnectRequest agentCode agentUuid =>
    apply Heeds.bind
    exact (asides (aside_handleRejectConnectRequest _ _) []).mono fun _ _ _ _ => trivial

theorem database_react (event : Event) : (react platform hub event).2.database = hub.database := by
  cases event with
  | opened client forwardedFor address handshakeAgentUuid =>
    rw [react]
    split <;> rfl
  | closed client => rfl
  | packet client name payload => exact (receive_frame platform hub client name payload).1
  | disconnectAgent agentUuid =>
    rw [react, disconnectAgent]
    split
    · rfl
    · rw [sendToAgent]
      split
      · rfl
      · split <;> rfl
  | clock now => rfl

/-- A move of a run in which secrets are only issued. -/
theorem issuesOnly_move {past : List (Input × Shown (Option Arrival) Hub)} {config : State}
    {input : Input}
    (permitted : Permitted (handler platform) (react platform) (fun _ _ => IssuesOnly) past config
      input) : IssuesOnly config.state (gatewayStates platform config input).2.state := by
  cases input with
  | start call => exact issuesOnly_of_eq fun _ => rfl
  | event event =>
    refine issuesOnly_of_eq fun uuid => ?_
    change storedSecret (react platform config.state event).2.database uuid = _
    rw [database_react]
  | resume index =>
    by_cases running : ∃ thread, config.threads[index]? = some thread ∧ thread.result = none
    · obtain ⟨thread, found, running⟩ := running
      exact permitted thread found running
    · have idle (thread : Thread Call Hub Failure Unit)
          (found : config.threads[index]? = some thread) : thread.result ≠ none :=
        fun none => running ⟨thread, found, none⟩
      rw [(move_idle idle).1]
      exact issuesOnly_of_eq fun _ => rfl

/-- What was sent stays true, and what is sent is true. -/
theorem permits_answersStored : Permits (Upholds AnswersStored) := by
  refine ⟨?_, ?_⟩
  · intro before after kept keeps answers client agent secret inside issued
    obtain ⟨-, sent, appended, foreign⟩ := kept
    rw [appended] at inside
    rcases List.mem_append.mp inside with old | new
    · obtain ⟨present, stored⟩ := answers client agent secret old issued
      exact ⟨present, keeps _ _ present stored⟩
    · have wrong := foreign _ new
      cases wrong
  · intro client agent secret before after attaches present stored same keeps answers other agent'
      secret' inside issued
    rw [attaches.2] at inside
    rcases List.mem_append.mp inside with old | new
    · obtain ⟨present, stored⟩ := answers other agent' secret' old issued
      exact ⟨present, keeps _ _ present stored⟩
    · cases List.mem_singleton.mp new
      rcases same with none | some
      · rw [none] at issued
        cases issued
      · obtain rfl := Option.some.inj (some.symm.trans issued)
        exact ⟨present, keeps _ _ present stored⟩

theorem answersStored_react (event : Event) :
    Upholds AnswersStored hub (react platform hub event).2 := by
  by_cases packet : ∃ client name payload, event = .packet client name payload
  · obtain ⟨client, name, payload, rfl⟩ := packet
    obtain ⟨database, sent, -⟩ := receive_frame platform hub client name payload
    intro _ answers other agent secret inside issued
    change _ ∧ storedSecret (receive platform hub client name payload).2.database _ = _
    rw [database]
    exact answers other agent secret (sent ▸ inside) issued
  · apply permits_answersStored.kept
    exact kept_react platform fun client name payload same =>
      packet ⟨client, name, payload, same⟩

/-- What holds between the moves of a run in which secrets are only issued. -/
def Issuing (config : State) : Prop :=
  AnswersStored config.state ∧
    Among KeepsSecrets (Upholds AnswersStored) (fun _ _ _ _ => True) config

theorem issuing_started (database : Database) (now : ℤ) : Issuing (started database now) :=
  ⟨fun _ _ _ inside => absurd inside List.not_mem_nil,
    fun _ inside => absurd inside List.not_mem_nil⟩

theorem Issuing.move {config : State} (issuing : Issuing config) {input : Input}
    (issues : IssuesOnly config.state (gatewayStates platform config input).2.state) :
    Issuing (gatewayStates platform config input).2 :=
  upheld_move platform permits_answersStored (fun _ event => answersStored_react platform event)
    issuing.1 issuing.2 input issues.keepsSecrets

/-- In every run in which each registration writes the row that it found without a secret
while it has none, every secret is issued once, and what was sent is stored from then on. -/
theorem secrets_issued_once (platform : Platform) (database : Database) (now : ℤ)
    (moves : List Input)
    (unissued : Along (gatewayStates platform) (Met WritesUnissued) [] (started database now)
      moves) : IssuedOnce platform database now moves := by
  have only := permitted_along (heeds_handler_issuing platform)
    { database := database, now := now } moves unissued
  apply Along.safe (fun _ => Issuing) ?_ ?_ only (issuing_started database now)
  · exact fun _ _ _ issuing permitted => issuing.move platform (issuesOnly_move platform permitted)
  · intro _ config input issuing permitted
    have issues := issuesOnly_move platform permitted
    exact ⟨issues, (issuing.move platform issues).1⟩

end Issuing

/-! ## Two registrations of an Agent without a secret -/

instance (agentUuid : Text) (seen : List Hub) : Decidable (Writing agentUuid seen) :=
  inferInstanceAs (Decidable (_ ∧ ∃ looked ∈ lookedUp agentUuid seen, _ = true))

instance (agentUuid : Text) (before after : Hub) : Decidable (StillNone agentUuid before after) :=
  inferInstanceAs (Decidable (_ = false → _ = false))

instance : (call : Call) → (seen : List Hub) → (hub : Hub) →
    Decidable (WritesUnissued call seen hub)
  | .register _ payload, seen, hub =>
    inferInstanceAs (Decidable (∀ uuid ∈ namedAgent payload, Writing uuid seen →
      ∀ looked ∈ lookedUp uuid seen, StillNone uuid looked hub))
  | .disconnected _, _, _ | .offlineTimer _, _, _ | .acceptConnectRequest _ _, _, _
  | .rejectConnectRequest _ _, _, _ => isTrue trivial

/-- The fixed platform, with other random bytes each time. -/
def countedPlatform : Platform :=
  { fixedPlatform with
    randomBytes := fun n => List.replicate (n + 1) 0x61
    randomBytes_ne_nil := fun _ => List.cons_ne_nil _ _ }

/-- An Agent from the time before signatures. -/
def legacyAgents : Table AgentRow := Table.empty.create fun index =>
  { agentIndex := index
    agentIp := "127.0.0.1"
    agentCode := "CODE"
    agentUuid := "agent"
    agentName := "CODE"
    agentLastOnline := 0 }

/-- The packet with which such an Agent registers. -/
def unsignedPacket : Value :=
  .object [("agentUuid", .string "agent"), ("agentVersion", .string "1.0.0"),
    ("protocolVersion", .number (.finite (Decimal.ofInt 1)))]

/-- The Agent opens a socket and registers without a signature, and the handler takes some of
its actions. -/
def enrolling (client actions : ℕ) : List Input :=
  [.event (.opened client none "127.0.0.1" none), .start (.register client unsignedPacket)] ++
    List.replicate actions (.resume client)

theorem secrets_issued_once_enrolled :
    IssuedOnce countedPlatform { agents := legacyAgents } fixedTime (enrolling 0 9) := by
  apply secrets_issued_once
  decide +kernel

/-- Two registrations have found the row before either writes it. -/
def overlappingEnrolments : List Input := enrolling 0 4 ++ enrolling 1 4 ++ [.resume 0]

/-- The second write replaces the secret that the first has issued. -/
theorem not_secrets_issued_once_overlapping :
    ¬ IssuedOnce countedPlatform { agents := legacyAgents } fixedTime
      (overlappingEnrolments ++ [.resume 1]) := by
  intro once
  obtain ⟨-, ⟨issues, -⟩, -⟩ := (along_append _ _).mp once
  obtain ⟨none, -⟩ := issues "agent" (by decide +kernel)
  revert none
  decide +kernel

/-! ## Agents are bound by proof -/

/-- What is known of a registered Agent by the states that the registration has met. -/
def KnownBy (platform : Platform) (payload : Value) (agent : RegisteredAgent)
    (seen : List Hub) : Prop :=
  (∀ secret, agent.signingSecret = some secret → secret ≠ []) ∧
    ∀ uuid, namedAgent payload = some uuid →
      (Binding uuid seen → agent.uuid = uuid) ∧
      (agent.signingSecret = none → agent.uuid = uuid ∧ ∃ secret, secret ≠ [] ∧
        (∃ known ∈ seen, storedSecret known.database uuid = some secret) ∧
        ProvenBy platform payload secret seen)

/-- A registration binds the Agent that its packet names with a secret it has read and the
packet was accepted under, or with one it has issued. -/
def BindsAsRead (platform : Platform) : Call → List Hub → Hub → Hub → Prop
  | .register client payload, seen, before, after => ∀ uuid, namedAgent payload = some uuid →
    EntersNamed client uuid seen before after →
      Members.own after.agentUuidToSocketId uuid = some client ∧ ∃ secret, secret ≠ [] ∧
        ((∃ known ∈ seen, storedSecret known.database uuid = some secret) ∧
            ProvenBy platform payload secret seen ∨
          after.database = before.database ∧ AnswersWith client uuid secret before after)
  | _, _, _, _ => True

section Binding

variable (platform : Platform) {payload : Value} {seen : List Hub}

/-- An action that keeps the map enters no socket, outside the binding. -/
theorem bindsAsRead_of_map (outside : NotBinding payload seen)
    (map : after.agentUuidToSocketId = before.agentUuidToSocketId) :
    BindsAsRead platform (.register client payload) seen before after := by
  rintro uuid named (binding | ⟨entered, fresh⟩)
  · exact absurd binding (outside uuid named)
  · rw [map] at entered
    exact absurd entered fresh

/-- An action that enters a socket for an Agent enters it for the one named. -/
theorem EntersNamed.eq {agent : RegisteredAgent} {uuid : Text}
    (enters : EntersNamed client uuid seen before after)
    (binding : Binding uuid seen → agent.uuid = uuid)
    (map : after.agentUuidToSocketId =
      Members.define before.agentUuidToSocketId agent.uuid client) : agent.uuid = uuid := by
  rcases enters with at' | ⟨entered, fresh⟩
  · exact binding at'
  · by_contra differs
    rw [map, Members.own_define_ne _ (Ne.symm differs)] at entered
    exact fresh entered

/-- A registration that has found a row and does not issue a secret was accepted under the
secret of the row. -/
theorem Found.proven {exist : AgentRow} {uuid : Text}
    (found : Found platform payload uuid (some exist) seen)
    (checked : ∀ known ∈ seen[1]?, ∀ looked ∈ lookedUp uuid seen, StillNone uuid known looked)
    (has : hasSecret exist.agentSigningSecret = true) :
    ∃ secret, secret ≠ [] ∧ (∃ known ∈ seen, storedSecret known.database uuid = some secret) ∧
      ProvenBy platform payload secret seen := by
  obtain ⟨known, second, none | ⟨secret, present, stored, proven⟩⟩ := found.admitted
  · obtain ⟨looked, there, row⟩ := found.row
    have none' := checked known second looked there none
    rw [storedSecret_rowOf, row, Option.bind_some, has] at none'
    cases none'
  · exact ⟨secret, present, ⟨known, List.mem_of_getElem? second, stored⟩, proven⟩

/-- The write of a known Agent leaves the map alone, and issues a secret if there was none. -/
theorem updateRegistered_outcome (ip uuid : Text) (exist : AgentRow)
    (version : Option (Option Text)) (protocol : ℤ) (hub : Hub) :
    ((updateRegistered platform ip uuid exist version protocol).effect hub).agentUuidToSocketId =
        hub.agentUuidToSocketId ∧
      ∀ agent, (updateRegistered platform ip uuid exist version protocol).next hub =
          .done (.ok agent) → agent.uuid = uuid ∧ agent.signingSecret =
        if hasSecret exist.agentSigningSecret then none
        else some (platform.randomBytes hub.drawn) := by
  rw [updateRegistered, atomically, Program.effect, Program.next]
  cases found : hub.database.agents.findFirst fun row => row.agentUuid == uuid with
  | none => exact ⟨rfl, fun agent wrong => by cases wrong⟩
  | some row =>
    refine ⟨rfl, fun agent result => ?_⟩
    cases result
    exact ⟨beq_iff_eq.mp (Table.mem_of_findFirst found).2, rfl⟩

/-- A new Agent is made without a change to the map, and has a secret. -/
theorem createRegistered_outcome (ip : Text) (version : Option (Option Text)) (protocol : ℤ)
    (hub : Hub) :
    ((createRegistered platform ip version protocol).effect hub).agentUuidToSocketId =
        hub.agentUuidToSocketId ∧
      ∀ agent, (createRegistered platform ip version protocol).next hub = .done (.ok agent) →
        agent.signingSecret = some (platform.randomBytes hub.drawn) := by
  rw [createRegistered, atomically, Program.effect, Program.next]
  dsimp only
  split
  · exact ⟨rfl, fun agent wrong => by cases wrong⟩
  · refine ⟨rfl, fun agent result => ?_⟩
    cases result
    rfl

theorem registers_binding :
    Registers platform client payload (WritesAsChecked (.register client payload))
      (BindsAsRead platform (.register client payload)) (KnownBy platform payload) := by
  refine ⟨?_, ?_, ?_, ?_, ?_⟩
  · exact fun _ _ _ outside rests => bindsAsRead_of_map platform outside rests.map
  · rintro ip uuid exist version protocol seen hub named found ⟨-, checked⟩
    obtain ⟨map, written⟩ := updateRegistered_outcome platform ip uuid exist version protocol hub
    refine ⟨bindsAsRead_of_map platform (found.notBinding named) map, fun agent result => ?_⟩
    obtain ⟨rfl, issued⟩ := written agent result
    refine ⟨fun secret same => ?_, fun other same => ?_⟩
    · rw [issued] at same
      split at same
      · cases same
      · obtain rfl := Option.some.inj same
        exact platform.randomBytes_ne_nil _
    · obtain rfl := Option.some.inj (named.symm.trans same)
      refine ⟨fun _ => rfl, fun unissued => ⟨rfl, ?_⟩⟩
      have has : hasSecret exist.agentSigningSecret = true := by
        by_contra none
        rw [issued, if_neg none] at unissued
        cases unissued
      obtain ⟨secret, present, ⟨known, inside, stored⟩, met, member, accepted⟩ :=
        found.proven platform (checked _ named found.writing) has
      exact ⟨secret, present, ⟨known, List.mem_append_left _ inside, stored⟩, met,
        List.mem_append_left _ member, accepted⟩
  · intro ip version protocol seen hub past
    obtain ⟨map, made⟩ := createRegistered_outcome platform ip version protocol hub
    refine ⟨bindsAsRead_of_map platform past.here map, fun agent result => ?_⟩
    have issued := made agent result
    refine ⟨fun secret same => ?_, fun uuid named => ⟨fun binding => ?_, fun unissued => ?_⟩⟩
    · obtain rfl := Option.some.inj (issued.symm.trans same)
      exact platform.randomBytes_ne_nil _
    · exact absurd binding ((past.append hub).here uuid named)
    · rw [issued] at unissued
      cases unissued
  · rintro agent secret seen hub ⟨nonempty, known⟩ issued - uuid named enters
    obtain ⟨bound, -⟩ := known uuid named
    obtain rfl := enters.eq bound rfl
    refine ⟨Members.own_define _ _ _, secret, nonempty secret issued, .inr ⟨rfl, agent, rfl,
      issued, rfl⟩⟩
  · rintro agent seen hub ⟨-, known⟩ unissued - uuid named enters
    obtain ⟨bound, proven⟩ := known uuid named
    obtain ⟨rfl, secret, present, read, proof⟩ := proven unissued
    exact ⟨Members.own_define _ _ _, secret, present, .inl ⟨read, proof⟩⟩

/-- Whatever a handler does, it binds as it has read. -/
theorem heeds_handler_binding (call : Call) :
    Heeds (WritesAsChecked call) (BindsAsRead platform call) (fun _ _ => True) []
      (handler platform call) := by
  cases call with
  | register client payload => exact heeds_register (registers_binding platform)
  | _ => exact heeds_anything (fun _ _ _ => trivial) _

/-- What has been read is still stored, and what was sent is stored too. -/
theorem BindsAsRead.byProof {call : Call} (binds : BindsAsRead platform call seen before after)
    (kept : ∀ state ∈ seen, KeepsSecrets state before) (answers : AnswersStored after) :
    BindsByProof platform call seen before after := by
  cases call with
  | register client payload =>
    intro uuid named enters
    obtain ⟨entered, secret, present, learnt⟩ := binds uuid named enters
    refine ⟨entered, secret, present, ?_⟩
    rcases learnt with ⟨⟨known, inside, stored⟩, proven⟩ | ⟨database, agent, rfl, issued, sent⟩
    · exact ⟨kept known inside uuid secret present stored, .inl proven⟩
    · have answered := (answers client agent secret (by simp [sent]) issued).2
      exact ⟨database ▸ answered, .inr ⟨agent, rfl, issued, sent⟩⟩
  | _ => trivial

/-- What holds in a run in which registrations write as they have checked: the secrets of all
its states are still stored. -/
def Proving (platform : Platform) (past : List (Input × Shown (Option Arrival) Hub))
    (config : State) : Prop :=
  Heeding WritesAsChecked (BindsAsRead platform) past config ∧
    Heeding WritesUnissued (fun _ _ => IssuesOnly) past config ∧ Issuing config ∧
    ∀ state ∈ past.map fun event => event.2.watched, KeepsSecrets state config.state

variable {past : List (Input × Shown (Option Arrival) Hub)} {config : State}

theorem unissued_of_checked {call : Call} (checked : WritesAsChecked call seen hub) :
    WritesUnissued call seen hub := by
  cases call with
  | register client payload => exact checked.1
  | _ => trivial

theorem Proving.issues (proving : Proving platform past config) {input : Input}
    (met : Met WritesAsChecked past config input) :
    IssuesOnly config.state (gatewayStates platform config input).2.state :=
  issuesOnly_move platform
    (proving.2.1.permitted input (met.mono fun _ _ _ => unissued_of_checked))

theorem Proving.move (proving : Proving platform past config) {input : Input}
    (met : Met WritesAsChecked past config input) :
    Proving platform (past ++ [(input, (gatewayStates platform config input).1)])
      (gatewayStates platform config input).2 := by
  have issues := proving.issues platform met
  obtain ⟨binding, heeding, issuing, kept⟩ := proving
  refine ⟨binding.move (heeds_handler_binding platform) input met,
    heeding.move (heeds_handler_issuing platform) input
      (met.mono fun _ _ _ => unissued_of_checked), issuing.move platform issues, ?_⟩
  intro state inside
  rw [List.map_append, List.mem_append] at inside
  rcases inside with before | last
  · exact (kept state before).trans issues.keepsSecrets
  · obtain rfl := List.mem_singleton.mp last
    change KeepsSecrets (gatewayStates platform config input).1.watched _
    rw [move_watched]
    exact issues.keepsSecrets

/-- In every run in which each registration writes the row of an Agent while it has a secret
just if it had one when the registration asked for a proof, every binding is proven. -/
theorem agents_bound_by_proof (platform : Platform) (database : Database) (now : ℤ)
    (moves : List Input)
    (checked : Along (gatewayStates platform) (Met WritesAsChecked) [] (started database now)
      moves) : EveryBindingProven platform database now moves := by
  apply Along.safe (Proving platform) ?_ ?_ checked
  · refine ⟨⟨rfl, ?_⟩, ⟨rfl, ?_⟩, issuing_started database now, ?_⟩
    · exact fun index thread found => by simp [started] at found
    · exact fun index thread found => by simp [started] at found
    · exact fun state inside => absurd inside List.not_mem_nil
  · exact fun past config input proving met => proving.move platform met
  · intro past config input proving met
    have answers := (proving.move platform met).2.2.1.1
    have permitted : Permitted (handler platform) (react platform) (BindsAsRead platform) past
        config input := proving.1.permitted input met
    cases input with
    | resume index =>
      intro thread found running
      refine (permitted thread found running).byProof platform ?_ answers
      exact fun state inside => proving.2.2.2 state (statesMet_subset _ _ inside)
    | _ => trivial

end Binding

/-! ## A secret that is issued before the row is found -/

instance : (call : Call) → (seen : List Hub) → (hub : Hub) →
    Decidable (WritesAsChecked call seen hub)
  | .register client payload, seen, hub =>
    inferInstanceAs (Decidable (WritesUnissued (.register client payload) seen hub ∧
      ∀ uuid ∈ namedAgent payload, Writing uuid seen →
        ∀ known ∈ seen[1]?, ∀ looked ∈ lookedUp uuid seen, StillNone uuid known looked))
  | .disconnected _, _, _ | .offlineTimer _, _, _ | .acceptConnectRequest _ _, _, _
  | .rejectConnectRequest _ _, _, _ => isTrue trivial

theorem agents_bound_by_proof_registered :
    EveryBindingProven fixedPlatform { agents := knownAgents } fixedTime registeredRun := by
  apply agents_bound_by_proof
  decide +kernel

/-- The second socket is asked for no proof, and then the first one registers. -/
def enrolledBetween : List Input :=
  enrolling 0 0 ++ enrolling 1 2 ++ List.replicate 6 (.resume 0) ++ List.replicate 3 (.resume 1)

/-- The socket and the packet of a registration. -/
def Call.registration : Call → Option (ℕ × Value)
  | .register client payload => some (client, payload)
  | _ => none

/-- A binding is not proven when the packet was never accepted and nothing is answered. -/
theorem not_bindsByProof {platform : Platform} {call : Call} {seen : List Hub}
    (names : (call.registration.map fun packet => (packet.1, namedAgent packet.2)) =
      some (client, some agentUuid))
    (enters : Members.own after.agentUuidToSocketId agentUuid = some client ∧
      Members.own before.agentUuidToSocketId agentUuid ≠ some client)
    (unproven : ∀ packet ∈ call.registration, ∀ secret ∈ storedSecret before.database agentUuid,
      ∀ met ∈ seen, (Hash.verify platform.mac registerEvent packet.2 (some secret)
        { now := met.now } none).1 ≠ .ok)
    (silent : after.sent.length = before.sent.length) :
    ¬ BindsByProof platform call seen before after := by
  intro binds
  cases call with
  | register socket payload =>
    obtain ⟨same, named⟩ := Prod.mk.inj (Option.some.inj names)
    obtain rfl : socket = client := same
    obtain ⟨-, secret, -, stored, ⟨met, inside, accepted⟩ | ⟨agent, -, -, sent⟩⟩ :=
      binds agentUuid named (.inr enters)
    · exact unproven _ rfl secret stored met inside accepted
    · rw [sent, List.length_append] at silent
      exact absurd silent (by simp)
  | _ => cases names

/-- The second socket is bound under the secret of the first one. -/
theorem not_agents_bound_by_proof_between :
    ¬ EveryBindingProven countedPlatform { agents := legacyAgents } fixedTime
      (enrolledBetween ++ [.resume 1]) := by
  intro proven
  have last := ((along_append _ _).mp proven).2.1
  refine @not_bindsByProof _ _ 1 "agent" _ _ _ ?_ ?_ ?_ ?_ (last (Option.get _
    (by decide +kernel)) (Option.some_get _).symm (Option.isNone_iff_eq_none.mp (by decide +kernel)))
  · decide +kernel
  · decide +kernel
  · decide +kernel
  · decide +kernel

end AgentGateway

end OpticsHub
