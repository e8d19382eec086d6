import OpticsHub.Agent.StatusDuties

/-!
# The status of an Agent and its sockets

The row of an Agent says that it is online or offline, and its sockets say whether it is there. A
registration writes online before it binds the Agent to a socket. Whoever ends the last socket has
to see to it that online does not stay: the handler of the closed socket sets a timer, or records
that the Agent restarts for its update, and the timer writes offline after it has looked at the
map. The timeout of an update does the same.

Three things break the agreement. A socket may be entered for an Agent when nobody will clean it up
any more. An Agent that is sent away is forgotten before its socket closes, so the handler of that
socket does nothing. And whoever writes offline has looked for a socket earlier, and only in the
map. Everything else, in any order, leaves status and sockets in agreement once nothing is under
way.
-/
namespace OpticsHub

open Script Async Program Machine

namespace AgentGateway

open AgentService AgentUpdateService ReleaseCatalogService

/-! ## The property -/

/-- An Agent has a connected socket on which it is registered. -/
def HasSocket (hub : Hub) (agentUuid : Text) : Prop :=
  ∃ client, (hub.sockets client).connected = true ∧
    (hub.sockets client).data.agentUuid = some agentUuid

/-- An Agent with a connected socket is not offline, and one that has none, and no update under
way, is not online. -/
def StatusAgrees (hub : Hub) : Prop :=
  ∀ agentUuid row, rowOf hub.database agentUuid = some row → row.agentDeletedAt = none →
    (HasSocket hub agentUuid → row.agentStatus ≠ .offline) ∧
      (¬ HasSocket hub agentUuid → inFlight row.agentUpdatePhase = false →
        row.agentStatus ≠ .online)

/-- No handler is running, no closed socket waits for its clean-up, and no timer is pending. -/
structure AtRest (config : Crowd LifecycleCall) : Prop where
  ended : ∀ thread ∈ config.threads, thread.result ≠ none
  cleaned : Quiet (gatewayPart config)
  noTimer : config.state.offlineTimers = []

/-! ## The machine -/

/-- Something that the rest of the Hub does at once: nothing to the sockets and the statuses. -/
structure OtherWork where
  change : Hub → Hub
  raises : ∀ hub, RaisesNone hub (change hub)
  keeps : ∀ hub agentUuid, standing (change hub) agentUuid = standing hub agentUuid

def otherWork (hub : Hub) (work : OtherWork) : Option Unit × Hub := (none, work.change hub)

/-- The process has prepared the database, and nothing is connected. -/
def hubStarted (database : Database) (now : ℤ) : Crowd LifecycleCall where
  state := (onHubStart.run { database := database, now := now }).2

section Machine

variable (platform : Platform) (release : Hub → Text → Option AgentRelease)

/-- The gateway and the update service, with the rest of the Hub. -/
abbrev hubStates : Transition (Crowd LifecycleCall) (CrowdInput LifecycleCall OtherWork)
    (Shown (Option Unit) Hub) :=
  company platform (lifecycle release) otherWork

/-- In every state of a run that is at rest, the statuses agree with the sockets. -/
def StatusAgreesAtRest (database : Database) (now : ℤ)
    (moves : List (CrowdInput LifecycleCall OtherWork)) : Prop :=
  Each (hubStates platform release)
    (fun config input => AtRest (hubStates platform release config input).2 →
      StatusAgrees (hubStates platform release config input).2.state)
    (hubStarted database now) moves

/-- An Agent that is sent away, and thereby forgotten, is not online. -/
def SendsAwayOffline (config : Crowd LifecycleCall) :
    CrowdInput LifecycleCall OtherWork → Prop
  | .event (.gateway (.disconnectAgent agentUuid)) =>
    (getAgentSocket config.state agentUuid).isSome = true →
      standing config.state agentUuid ≠ some (.online, none)
  | _ => True

/-- A move that writes an Agent offline finds no connected socket of it, and no call whose next
action binds it to one. -/
def WritesOfflineInTime (config : Crowd LifecycleCall) (after : Hub) : Prop :=
  ∀ agentUuid, standing config.state agentUuid ≠ some (.offline, none) →
    standing after agentUuid = some (.offline, none) →
      ¬ HasSocket config.state agentUuid ∧
        ∀ thread ∈ config.threads, ¬ HasSocket (thread.program.effect config.state) agentUuid

/-- The moves that go wrong are not made. -/
structure KeepsWatch (config : Crowd LifecycleCall)
    (input : CrowdInput LifecycleCall OtherWork) : Prop where
  enters : EntersInTime config (hubStates platform release config input).2.state
  sends : SendsAwayOffline config input
  writes : WritesOfflineInTime config (hubStates platform release config input).2.state

end Machine

/-! ## What events do -/

/-- A socket is opened. -/
structure OpensSocket (client : ℕ) (before after : Hub) : Prop where
  closed : (before.sockets client).opened = false
  opened : (after.sockets client).opened = true
  others : ∀ other ≠ client, after.sockets other = before.sockets other
  identities : ∀ other, identityOf after other = identityOf before other

section Events

variable (platform : Platform) {agentUuid : Text} {hub : Hub}

/-- Sending an Agent away forgets its socket and its timer. -/
theorem disconnectAgent_frame (agentUuid : Text) (hub : Hub) :
    (disconnectAgent agentUuid hub).2 = hub ∨
      (getAgentSocket hub agentUuid).isSome = true ∧ ∃ sent, (disconnectAgent agentUuid hub).2 =
        { clearOfflineTimer agentUuid hub with
          sent := sent
          agentUuidToSocketId := Members.erase hub.agentUuidToSocketId agentUuid } := by
  rw [disconnectAgent]
  split
  · exact .inl rfl
  · rename_i found
    refine .inr ⟨Option.isSome_iff_exists.mpr ⟨_, found⟩,
      (sendToAgent agentUuid (.command .disconnect) hub).2.sent, ?_⟩
    rw [sendToAgent_frame]
    rfl

theorem standing_react (event : Event) (agentUuid : Text) :
    standing (react platform hub event).2 agentUuid = standing hub agentUuid := by
  rw [standing, database_react, standing]

/-- An event opens a socket, or binds nobody. -/
theorem opens_or_bindsNone (event : Event) :
    BindsNone hub (react platform hub event).2 ∨
      ∃ client, OpensSocket client hub (react platform hub event).2 := by
  cases event with
  | opened client forwardedFor address handshakeAgentUuid =>
    have kept := (sheds_react platform hub
      (.opened client forwardedFor address handshakeAgentUuid)).identities
    rw [react] at kept ⊢
    split at kept
    · rw [if_pos ‹_›]
      exact .inl (bindsNone_of_eq rfl)
    · rename_i unopened
      rw [if_neg unopened]
      refine .inr ⟨client, Bool.not_eq_true _ ▸ unopened, ?_, fun other elsewhere => ?_, kept⟩
      · simp only [Function.update_self]
      · exact Function.update_of_ne elsewhere _ _
  | closed client => exact .inl (bindsNone_disconnect hub client)
  | packet client name payload =>
    left
    rw [react]
    simp only [receive]
    split_ifs
    · exact bindsNone_of_eq rfl
    · exact bindsNone_of_eq rfl
    · dsimp only
      exact bindsNone_setData fun _ => ⟨rfl, rfl⟩
    · exact bindsNone_of_eq rfl
  | disconnectAgent agentUuid =>
    left
    rw [react]
    rcases disconnectAgent_frame agentUuid hub with same | ⟨-, sent, same⟩
    · rw [same]
      exact bindsNone_of_eq rfl
    · rw [same]
      exact bindsNone_of_eq rfl
  | clock now => exact .inl (bindsNone_of_eq rfl)

/-- An Agent stays attended to, if none is sent away while it is online. -/
theorem Minded.react (minded : Minded agentUuid hub) (event : Event)
    (offline : ∀ uuid, event = .disconnectAgent uuid → (getAgentSocket hub uuid).isSome = true →
      standing hub uuid ≠ some (.online, none)) :
    Minded agentUuid (AgentGateway.react platform hub event).2 := by
  have standings : standing (AgentGateway.react platform hub event).2 agentUuid =
      standing hub agentUuid := standing_react platform event agentUuid
  cases event with
  | opened client forwardedFor address handshakeAgentUuid =>
    rw [AgentGateway.react]
    split
    · exact minded
    · exact minded
  | closed client => exact minded
  | packet client name payload =>
    refine minded.of_eq standings ?_ ?_
    · rw [AgentGateway.react]
      simp only [receive]
      split_ifs <;> exact id
    · rw [AgentGateway.react]
      simp only [receive]
      split_ifs <;> rfl
  | disconnectAgent uuid =>
    rw [AgentGateway.react]
    rcases disconnectAgent_frame uuid hub with same | ⟨present, sent, same⟩
    · rw [same]
      exact minded
    · rw [same]
      by_cases named : uuid = agentUuid
      · subst named
        exact minded_of_standing (offline uuid rfl present)
      · refine minded.of_eq rfl (mem_clearOfflineTimer named hub).mpr ?_
        change Members.own (Members.erase _ _) _ = _
        rw [Members.own_erase, if_neg fun same => named same.symm]
  | clock now => exact minded

end Events

/-! ## What holds along a run -/

/-- No Agent that is offline has a connected socket, and no call is about to change that. -/
structure Accounted (platform : Platform) (config : Crowd LifecycleCall) : Prop where
  connected : ∀ client, (config.state.sockets client).connected = true →
    (config.state.sockets client).opened = true
  unopened : ∀ client, (config.state.sockets client).opened = false →
    (config.state.sockets client).data.agentUuid = none
  registering : ∀ thread ∈ config.threads, ∀ client payload,
    thread.call = .gateway (.register client payload) →
      thread.program = handler platform (.register client payload) ∨ thread.result ≠ none ∨
        (config.state.sockets client).opened = true
  sequence : InSequence BindsNone bindsFor mayBindFor config
  agrees : ∀ agentUuid, standing config.state agentUuid = some (.offline, none) →
    ¬ HasSocket config.state agentUuid

section Runs

variable {platform : Platform} {release : Hub → Text → Option AgentRelease}
  {config : Crowd LifecycleCall} {input : CrowdInput LifecycleCall OtherWork}
  {agentUuid : Text} {before after : Hub}

/-- What a move does to the sockets and their identities. -/
inductive Touches (before after : Hub) : Prop where
  | plain (binds : BindsNone before after)
  | opens (client : ℕ) (opens : OpensSocket client before after)
      (standings : ∀ uuid, standing after uuid = standing before uuid)
  | binds (client : ℕ) (agentUuid : Text) (opened : (before.sockets client).opened = true)
      (may : MayBind client agentUuid before) (binds : Binds client agentUuid before after)

/-- A registration that binds an Agent has found its socket open. -/
theorem Accounted.binds_opened (accounted : Accounted platform config)
    {thread : Thread (Duty LifecycleCall) Hub Failure Unit} (inside : thread ∈ config.threads)
    {client : ℕ} {payload : Value} (called : thread.call = .gateway (.register client payload))
    (binds : Binds client agentUuid config.state (thread.program.effect config.state)) :
    (config.state.sockets client).opened = true := by
  by_contra unopened
  have carried := binds.identity
  have idle (silent : thread.program.effect config.state = config.state) : False := by
    rw [silent, accounted.unopened client (Bool.not_eq_true _ ▸ unopened)] at carried
    cases carried
  rcases accounted.registering thread inside client payload called with fresh | ended | opened
  · refine idle ?_
    rw [fresh]
    rfl
  · exact idle (Thread.effect_of_ended ended config.state)
  · exact unopened opened

/-- Every move binds nobody, or opens a socket, or binds an Agent as it may. -/
theorem Accounted.touches (accounted : Accounted platform config) :
    Touches config.state (hubStates platform release config input).2.state := by
  cases input with
  | start call => exact .plain (bindsNone_of_eq rfl)
  | event event =>
    cases event with
    | gateway event =>
      rcases @opens_or_bindsNone platform config.state event with binds | ⟨client, opens⟩
      · exact .plain binds
      · exact .opens client opens fun uuid => standing_react platform event uuid
    | beside work => exact .plain (work.raises config.state).toBindsNone
  | resume index =>
    by_cases running : ∃ thread, config.threads[index]? = some thread ∧ thread.result = none
    · obtain ⟨thread, found, running⟩ := running
      rw [(move_resume found running).1]
      rcases accounted.sequence.takes found running with plain | ⟨uuid, may, binds⟩
      · exact .plain (plain config.state)
      · cases called : thread.call with
        | beside call =>
          rw [called] at may
          exact may.elim
        | gateway call =>
          rw [called] at may binds
          cases call with
          | register client payload =>
            refine .binds client uuid ?_ may (binds config.state)
            exact accounted.binds_opened (List.mem_of_getElem? found) called (binds config.state)
          | _ => exact may.elim
    · have idle (thread : Thread (Duty LifecycleCall) Hub Failure Unit)
          (found : config.threads[index]? = some thread) : thread.result ≠ none :=
        fun none => running ⟨thread, found, none⟩
      rw [(move_idle idle).1]
      exact .plain (bindsNone_of_eq rfl)

theorem Touches.opened (touches : Touches before after) {client : ℕ}
    (opened : (before.sockets client).opened = true) : (after.sockets client).opened = true := by
  cases touches with
  | plain binds => exact (binds.opened client).trans opened
  | opens other opens =>
    by_cases here : client = other
    · subst here
      exact opens.opened
    · rw [opens.others client here]
      exact opened
  | binds other uuid _ may binds => exact (binds.opened client).trans opened

theorem Touches.closed (touches : Touches before after) {client : ℕ}
    (closed : ClosedSocket before client) : ClosedSocket after client := by
  refine ⟨touches.opened closed.1, ?_⟩
  cases touches with
  | plain binds =>
    by_contra connected
    have still := binds.connected client (Bool.not_eq_false _ ▸ connected)
    rw [closed.2] at still
    cases still
  | opens other opens =>
    have elsewhere : client ≠ other := by
      rintro rfl
      exact absurd closed.1 (by rw [opens.closed]; decide)
    rw [opens.others client elsewhere]
    exact closed.2
  | binds other uuid opened may binds => exact (binds.connected client).trans closed.2

/-- No Agent that is offline gets a connected socket, and none is set offline that has one. -/
theorem Touches.agrees (touches : Touches before after)
    (unopened : ∀ client, (before.sockets client).opened = false →
      (before.sockets client).data.agentUuid = none)
    (agrees : ∀ agentUuid, standing before agentUuid = some (.offline, none) →
      ¬ HasSocket before agentUuid)
    (writes : ∀ agentUuid, standing before agentUuid ≠ some (.offline, none) →
      standing after agentUuid = some (.offline, none) → ¬ HasSocket before agentUuid)
    (agentUuid : Text) (offline : standing after agentUuid = some (.offline, none)) :
    ¬ HasSocket after agentUuid := by
  rintro ⟨client, connected, carries⟩
  cases touches with
  | plain binds =>
    have has : HasSocket before agentUuid := ⟨client, binds.connected client connected,
      (congrArg Prod.snd (binds.identities client)).symm.trans carries⟩
    by_cases was : standing before agentUuid = some (.offline, none)
    · exact agrees agentUuid was has
    · exact writes agentUuid was offline has
  | opens other opens standings =>
    have carried := (congrArg Prod.snd (opens.identities client)).symm.trans carries
    change (before.sockets client).data.agentUuid = some agentUuid at carried
    by_cases here : client = other
    · subst here
      rw [unopened client opens.closed] at carried
      cases carried
    · rw [opens.others client here] at connected
      exact agrees agentUuid ((standings agentUuid).symm.trans offline) ⟨client, connected, carried⟩
  | binds other uuid opened may binds =>
    have was := (binds.standings agentUuid).symm.trans offline
    have still := (binds.connected client).symm.trans connected
    by_cases here : client = other
    · subst here
      obtain rfl := Option.some.inj (binds.identity.symm.trans carries)
      rcases may with closed | other
      · rw [closed.2] at still
        cases still
      · exact other was
    · exact agrees agentUuid was ⟨client, still,
        (congrArg Prod.snd (binds.others client here)).symm.trans carries⟩

/-- What a call is ready for stays so, if nobody is set offline who is about to be bound to a
connected socket. -/
theorem Accounted.spares (accounted : Accounted platform config)
    (touches : Touches config.state after) (writes : WritesOfflineInTime config after)
    {thread : Thread (Duty LifecycleCall) Hub Failure Unit} (inside : thread ∈ config.threads)
    {uuid : Text} (binds : ∀ hub, bindsFor thread.call uuid hub (thread.program.effect hub))
    (may : mayBindFor thread.call uuid config.state) : mayBindFor thread.call uuid after := by
  cases called : thread.call with
  | beside call =>
    rw [called] at may
    exact may.elim
  | gateway call =>
    rw [called] at may binds
    cases call with
    | register client payload =>
      rcases may with closed | online
      · exact .inl (touches.closed closed)
      · by_cases offline : standing after uuid = some (.offline, none)
        · have here := binds config.state
          have opened := accounted.binds_opened inside called here
          refine .inl (touches.closed ⟨opened, ?_⟩)
          by_contra connected
          refine (writes uuid online offline).2 thread inside ⟨client, ?_, here.identity⟩
          exact (here.connected client).trans (Bool.not_eq_false _ ▸ connected)
        · exact .inr offline
    | _ => exact may.elim

/-- A registration starts with a look at its socket, and goes on only if that is connected. -/
theorem Accounted.registers (accounted : Accounted platform config)
    (touches : Touches config.state (hubStates platform release config input).2.state) :
    ∀ thread ∈ (hubStates platform release config input).2.threads, ∀ client payload,
      thread.call = .gateway (.register client payload) →
        thread.program = handler platform (.register client payload) ∨ thread.result ≠ none ∨
          ((hubStates platform release config input).2.state.sockets client).opened = true := by
  intro thread inside client payload called
  rcases mem_threads_cases inside with
    before | ⟨call, -, same, program⟩ | ⟨index, before, -, found, running, same, program⟩
  · exact (accounted.registering thread before client payload called).imp_right
      (Or.imp_right touches.opened)
  · obtain rfl := same.symm.trans called
    exact .inl program
  · have was := accounted.registering before (List.mem_of_getElem? found) client payload
      (same.symm.trans called)
    rcases was with fresh | ended | opened
    · rw [fresh] at program
      change thread.program = (if (config.state.sockets client).connected then
        handleValidation platform client payload else pure ()) at program
      split at program
      · exact .inr (.inr (touches.opened (accounted.connected client ‹_›)))
      · refine .inr (.inl ?_)
        rw [Thread.result, program]
        exact Option.some_ne_none _
    · exact absurd running ended
    · exact .inr (.inr (touches.opened opened))

theorem Accounted.move (accounted : Accounted platform config)
    (writes : WritesOfflineInTime config (hubStates platform release config input).2.state) :
    Accounted platform (hubStates platform release config input).2 := by
  have touches : Touches config.state (hubStates platform release config input).2.state :=
    accounted.touches
  refine ⟨fun client connected => ?_, fun client unopened => ?_, accounted.registers touches, ?_,
    ?_⟩
  · cases touches with
    | plain binds =>
      exact (binds.opened client).trans
        (accounted.connected client (binds.connected client connected))
    | opens other opens =>
      by_cases here : client = other
      · subst here
        exact opens.opened
      · rw [opens.others client here] at connected ⊢
        exact accounted.connected client connected
    | binds other uuid opened may binds =>
      exact (binds.opened client).trans
        (accounted.connected client ((binds.connected client).symm.trans connected))
  · have before : (config.state.sockets client).opened = false := by
      by_contra opened
      rw [touches.opened (Bool.not_eq_false _ ▸ opened)] at unopened
      cases unopened
    have none := accounted.unopened client before
    cases touches with
    | plain binds => exact (congrArg Prod.snd (binds.identities client)).trans none
    | opens other opens => exact (congrArg Prod.snd (opens.identities client)).trans none
    | binds other uuid opened may binds =>
      have elsewhere : client ≠ other := by
        rintro rfl
        rw [opened] at before
        cases before
      exact (congrArg Prod.snd (binds.others client elsewhere)).trans none
  · refine accounted.sequence.move (sequenced_duty platform release) input ?_
    exact fun index thread found _ uuid binds may =>
      accounted.spares touches writes (List.mem_of_getElem? found) binds may
  · exact touches.agrees accounted.unopened accounted.agrees fun uuid was offline =>
      (writes uuid was offline).1

/-! ### The start -/

theorem raisesNone_trans {first second third : Hub} (one : RaisesNone first second)
    (two : RaisesNone second third) : RaisesNone first third := by
  refine ⟨⟨fun client => ?_, fun client held => ?_, fun client => ?_⟩, ?_, ?_, fun uuid => ?_, ?_⟩
  · rw [two.opened, one.opened]
  · exact one.connected client (two.connected client held)
  · rw [two.identities, one.identities]
  · rw [two.map, one.map]
  · rw [two.timers, one.timers]
  · rcases two.standings uuid with same | lowered
    · rw [same]
      exact one.standings uuid
    · exact .inr lowered
  · exact fun coded => two.coded (one.coded coded)

theorem raisesNone_afterLowering : Always RaisesNone (do
    markServicesOffline fun row => row.agentDeletedAt.isNone
    resetStalePhases) := by
  refine Always.bind (always_step fun _ => raisesNone_of_eq rfl rfl rfl rfl) fun _ => ?_
  refine always_step fun _ => raisesNone_updateMany ?_ ?_ ?_ rfl rfl rfl rfl
  · exact fun _ => rfl
  · exact fun _ => ⟨rfl, rfl, rfl⟩
  · exact fun _ => .inl rfl

/-- The write that sets all Agents offline when the process starts. -/
def allOffline (hub : Hub) : Hub :=
  hub.write fun database =>
    { database with
      agents := database.agents.updateMany (fun row => row.agentDeletedAt.isNone) fun row =>
        { row with agentStatus := .offline, agentLastOnline := hub.now } }

theorem raisesNone_allOffline (hub : Hub) : RaisesNone hub (allOffline hub) := by
  refine raisesNone_updateMany ?_ ?_ ?_ rfl rfl rfl rfl
  · exact fun _ => rfl
  · exact fun _ => ⟨rfl, rfl, rfl⟩
  · exact fun _ => .inr fun wrong => by cases wrong

theorem raisesNone_hubStarted (database : Database) (now : ℤ) :
    RaisesNone (allOffline { database := database, now := now }) (hubStarted database now).state :=
  raisesNone_afterLowering.run raisesNone_refl raisesNone_trans _

/-- Nobody is online when the process starts. -/
theorem standing_allOffline (hub : Hub) (agentUuid : Text) :
    standing (allOffline hub) agentUuid ≠ some (.online, none) := by
  refine Eq.trans_ne (standing_updateMany ?_ ?_ rfl agentUuid) ?_
  · exact fun _ => rfl
  · exact fun _ => rfl
  · cases rowOf hub.database agentUuid with
    | none => exact fun wrong => by cases wrong
    | some row =>
      rw [Option.map_some]
      split
      · exact fun wrong => by cases wrong
      · rename_i deleted
        intro online
        have standing := Option.some.inj online
        rw [(Prod.mk.inj standing).2] at deleted
        exact deleted rfl

theorem accounted_hubStarted (platform : Platform) (database : Database) (now : ℤ) :
    Accounted platform (hubStarted database now) := by
  have raises := raisesNone_trans (raisesNone_allOffline { database := database, now := now })
    (raisesNone_hubStarted database now)
  have unconnected (client : ℕ) :
      ((hubStarted database now).state.sockets client).connected ≠ true := by
    intro connected
    cases raises.connected client connected
  refine ⟨fun client connected => absurd connected (unconnected client), fun client _ => ?_,
    fun thread inside => ?_, fun thread inside => ?_, fun uuid _ => ?_⟩
  · exact congrArg Prod.snd (raises.identities client)
  · cases inside
  · cases inside
  · rintro ⟨client, connected, -⟩
    exact unconnected client connected

theorem minded_hubStarted (database : Database) (now : ℤ) (agentUuid : Text) :
    Minded agentUuid (hubStarted database now).state := by
  apply minded_of_standing
  rcases (raisesNone_hubStarted database now).standings agentUuid with same | lowered
  · rw [same]
    exact standing_allOffline _ agentUuid
  · exact lowered none

theorem traced_hubStarted {database : Database}
    (coded : ∀ row ∈ database.agents, row.agentCode ≠ []) (now : ℤ) :
    Traced (gatewayPart (hubStarted database now)) := by
  have raises := raisesNone_trans (raisesNone_allOffline { database := database, now := now })
    (raisesNone_hubStarted database now)
  refine ⟨raises.coded coded, fun uuid client found => ?_, fun thread inside => ?_⟩
  · change Members.own (hubStarted database now).state.agentUuidToSocketId uuid = _ at found
    rw [raises.map] at found
    cases found
  · cases inside

end Runs

/-! ## Agreement -/

section Agreement

variable (platform : Platform) (release : Hub → Text → Option AgentRelease)

/-- What is left of every program tidies up. -/
def tidyRest (agentUuid : Text) (_ : Duty LifecycleCall) (seen : List Hub)
    (program : HubProgram Unit) : Prop :=
  Tidy agentUuid seen program

/-- The invariant of a run. -/
structure InAgreement (past : List (CrowdInput LifecycleCall OtherWork × Shown (Option Unit) Hub))
    (config : Crowd LifecycleCall) : Prop where
  heeding : Heeding (fun _ _ => Coded) DutyHandles past config
  traced : Traced (gatewayPart config)
  accounted : Accounted platform config
  tidying : ∀ agentUuid, Attending (tidyRest agentUuid) past config
  minded : ∀ agentUuid, Mended (fun _ => True) (fun _ => True) (Minded agentUuid) config

variable {platform release}
  {past : List (CrowdInput LifecycleCall OtherWork × Shown (Option Unit) Hub)}
  {config : Crowd LifecycleCall}

theorem inAgreement_hubStarted {database : Database}
    (coded : ∀ row ∈ database.agents, row.agentCode ≠ []) (now : ℤ) :
    InAgreement platform [] (hubStarted database now) := by
  refine ⟨⟨rfl, fun index thread found => ?_⟩, traced_hubStarted coded now,
    accounted_hubStarted platform database now, fun uuid => ⟨rfl, fun index thread found => ?_⟩,
    fun uuid => .inl (minded_hubStarted database now uuid)⟩
  · simp [hubStarted] at found
  · simp [hubStarted] at found

theorem InAgreement.move (agreement : InAgreement platform past config)
    (codes : ∀ n, platform.randomCode n ≠ []) (uuids : ∀ n, platform.randomUuid n ≠ [])
    {input : CrowdInput LifecycleCall OtherWork}
    (keeps : KeepsWatch platform release config input) :
    InAgreement platform (past ++ [(input, (hubStates platform release config input).1)])
      (hubStates platform release config input).2 := by
  have met : Met (fun _ _ => Coded) past config input := by
    cases input with
    | resume index => exact fun _ _ _ => agreement.traced.coded
    | _ => trivial
  have silent : Met (fun _ _ _ => True) past config input := by
    cases input <;> simp [Met]
  have heeds := heeds_duty platform (lifecycle release) codes uuids fun call =>
    (raisesNone_lifecycle release call).mono fun _ _ step => step.sheds
  refine ⟨agreement.heeding.move heeds input met, ?_, agreement.accounted.move keeps.writes, ?_, ?_⟩
  · refine agreement.traced.among ?_ keeps.enters (agreement.heeding.permitted input met)
    exact fun hub work => (work.raises hub).sheds
  · intro uuid
    refine (agreement.tidying uuid).move (fun call => tidy_duty platform release call) ?_ input
      silent
    exact fun call seen effect next state tidies _ => (tidies state trivial).2
  · intro uuid
    refine (agreement.minded uuid).move (agreement.tidying uuid) trivial input silent ?_
    rintro event rfl minded
    cases event with
    | gateway event =>
      refine minded.react platform event ?_
      rintro sent rfl present
      exact keeps.sends present
    | beside work => exact (work.raises config.state).minded minded

/-- When nothing is under way any more, an Agent that is online is in the map, with a connected
socket. -/
theorem InAgreement.statusAgrees (agreement : InAgreement platform past config)
    (rest : AtRest config) : StatusAgrees config.state := by
  intro uuid row found kept
  have said : standing config.state uuid = some (row.agentStatus, none) := by
    rw [standing, found, Option.map_some, kept]
  constructor
  · intro has offline
    exact agreement.accounted.agrees uuid (by rw [said, offline]) has
  · intro lonely _ online
    have minded := (agreement.minded uuid).well_of_ended fun thread inside _ =>
      rest.ended thread inside
    rcases minded (by rw [said, online]) with timer | entry
    · rw [rest.noTimer] at timer
      cases timer
    · obtain ⟨client, entry⟩ := Option.isSome_iff_exists.mp entry
      obtain ⟨connected, carries⟩ := agreement.traced.live rest.cleaned uuid client entry
      exact lonely ⟨client, connected, carries⟩

/-- In every run from the start of the process in which no entry is made too late, no Agent is
sent away that is online, and none is set offline that is there, the statuses agree with the
sockets whenever the Hub is at rest. -/
theorem status_agrees_at_rest (platform : Platform) (codes : ∀ n, platform.randomCode n ≠ [])
    (uuids : ∀ n, platform.randomUuid n ≠ []) (release : Hub → Text → Option AgentRelease)
    (database : Database) (coded : ∀ row ∈ database.agents, row.agentCode ≠ []) (now : ℤ)
    (moves : List (CrowdInput LifecycleCall OtherWork))
    (keeps : Each (hubStates platform release) (KeepsWatch platform release)
      (hubStarted database now) moves) :
    StatusAgreesAtRest platform release database now moves := by
  apply Along.safe (fun past config => InAgreement platform past config) ?_ ?_ keeps
    (inAgreement_hubStarted coded now)
  · exact fun past config input agreement keeps => agreement.move codes uuids keeps
  · exact fun past config input agreement keeps rest =>
      (agreement.move codes uuids keeps).statusAgrees rest

end Agreement

/-! ## An Agent that comes back while it is set offline -/

instance (config : Crowd LifecycleCall) (after : Hub) : Decidable (EntersInTime config after) :=
  @Members.decidableForallOwn _ (fun uuid client =>
    Members.own config.state.agentUuidToSocketId uuid ≠ some client →
      cleanUpBegun (gatewayPart config) client = false ∧
        ∀ other, Members.own config.state.agentUuidToSocketId other = some client → other = uuid)
    _ (fun _ _ => inferInstance) _

instance (config : Crowd LifecycleCall) :
    (input : CrowdInput LifecycleCall OtherWork) → Decidable (SendsAwayOffline config input)
  | .event (.gateway (.disconnectAgent agentUuid)) =>
    inferInstanceAs (Decidable ((getAgentSocket config.state agentUuid).isSome = true →
      standing config.state agentUuid ≠ some (.online, none)))
  | .event (.gateway (.opened _ _ _ _)) | .event (.gateway (.closed _))
  | .event (.gateway (.packet _ _ _)) | .event (.gateway (.clock _)) | .event (.beside _)
  | .start _ | .resume _ => isTrue trivial

/-- After a move no row is offline that was not offline before. -/
def SetsNoneOffline (config : Crowd LifecycleCall) (after : Hub) : Prop :=
  ∀ row ∈ after.database.agents.rows, row.agentStatus = .offline → row.agentDeletedAt = none →
    standing config.state row.agentUuid = some (.offline, none)

instance (config : Crowd LifecycleCall) (after : Hub) : Decidable (SetsNoneOffline config after) :=
  inferInstanceAs (Decidable (∀ row ∈ after.database.agents.rows, _))

theorem SetsNoneOffline.inTime {config : Crowd LifecycleCall} {after : Hub}
    (none : SetsNoneOffline config after) : WritesOfflineInTime config after := by
  intro uuid was offline
  obtain ⟨row, found, said⟩ := Option.map_eq_some_iff.mp offline
  obtain ⟨inside, named⟩ := Table.mem_of_findFirst found
  obtain ⟨status, deleted⟩ := Prod.mk.inj said
  refine absurd ?_ was
  rw [← beq_iff_eq.mp named]
  exact none row inside status deleted

theorem StatusAgrees.standing_ne {hub : Hub} (agrees : StatusAgrees hub) {agentUuid : Text}
    (has : HasSocket hub agentUuid) : standing hub agentUuid ≠ some (.offline, none) := by
  intro offline
  obtain ⟨row, found, said⟩ := Option.map_eq_some_iff.mp offline
  obtain ⟨status, deleted⟩ := Prod.mk.inj said
  exact (agrees agentUuid row found deleted).1 has status

/-- No release is known. -/
def noRelease : Hub → Text → Option AgentRelease := fun _ _ => none

theorem status_agrees_at_rest_registered :
    StatusAgreesAtRest fixedPlatform noRelease { agents := knownAgents } fixedTime
      (registeredRun.map inCrowd) := by
  apply status_agrees_at_rest
  · exact fun n => List.cons_ne_nil _ _
  · exact fun n => List.cons_ne_nil _ _
  · change ∀ row ∈ knownAgents.rows, row.agentCode ≠ []
    decide
  · have undisturbed : Each (hubStates fixedPlatform noRelease)
        (fun config input =>
          EntersInTime config (hubStates fixedPlatform noRelease config input).2.state ∧
          SendsAwayOffline config input ∧
          SetsNoneOffline config (hubStates fixedPlatform noRelease config input).2.state)
        (hubStarted { agents := knownAgents } fixedTime) (registeredRun.map inCrowd) := by
      decide +kernel
    refine undisturbed.mono ?_
    exact fun _ config input checked => ⟨checked.1, checked.2.1, checked.2.2.inTime⟩

/-- The Agent is gone when its timer fires, and registers again before it is set offline. -/
def lateOfflineRun : List Input :=
  registeredRun ++ [.event (.closed 0), .start (.disconnected 0)] ++
    List.replicate 3 (.resume 1) ++ [.start (.offlineTimer "agent"), .resume 2] ++
    [.event (.opened 1 none "127.0.0.1" none), .start (.register 1 registerPacket)] ++
    List.replicate 11 (.resume 3) ++ List.replicate 4 (.resume 2) ++ [.resume 2]

/-- The Agent has a connected socket and is offline. -/
theorem not_status_agrees_at_rest_late :
    ¬ StatusAgreesAtRest fixedPlatform noRelease { agents := knownAgents } fixedTime
      (lateOfflineRun.map inCrowd) := by
  intro agrees
  rw [lateOfflineRun, List.map_append] at agrees
  have last := ((along_append _ _).mp agrees).2.1
  have rest := last ⟨by decide +kernel, ⟨by decide +kernel, by decide +kernel⟩, by decide +kernel⟩
  exact rest.standing_ne (⟨1, by decide +kernel, by decide +kernel⟩ : HasSocket _ "agent")
    (by decide +kernel)

end AgentGateway

end OpticsHub
