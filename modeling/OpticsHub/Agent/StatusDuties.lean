import OpticsHub.Agent.Company
import OpticsHub.Agent.StatusChanges
import OpticsHub.Async.Sequence

/-!
# How the calls keep the status of an Agent

Online is written before the Agent is bound, and an Agent is taken from the map before its row is
lowered. So there are states between in which nobody seems to care for an Agent that is online, and
the call that has got there comes to the action that makes up for it. The other way round, an Agent
is bound right after a write that says online, so it is bound while it is offline only if another
call has set it offline in between.
-/
namespace OpticsHub

open Script Async Program Machine

namespace AgentGateway

open AgentService AgentUpdateService ReleaseCatalogService

/-! ## Somebody sees to it that online does not stay -/

/-- If the row of an Agent says online, a timer is set for the Agent, or it is in the map. -/
def Minded (agentUuid : Text) (hub : Hub) : Prop :=
  standing hub agentUuid = some (.online, none) →
    agentUuid ∈ hub.offlineTimers ∨ (Members.own hub.agentUuidToSocketId agentUuid).isSome = true

/-- A program that leaves online unattended comes to see to it. -/
abbrev Tidy {α : Type} (agentUuid : Text) (seen : List Hub) (program : HubProgram α) : Prop :=
  Tidies True (fun _ _ => True) (fun _ => True) (Minded agentUuid) seen program

/-- A program comes to see to it. -/
abbrev Attends {α : Type} (agentUuid : Text) (program : HubProgram α) : Prop :=
  Mends (fun _ => True) (Minded agentUuid) program

section Minding

variable {agentUuid : Text} {before after hub : Hub} {client : ℕ} {seen : List Hub} {α : Type}

theorem minded_of_standing (lower : standing hub agentUuid ≠ some (.online, none)) :
    Minded agentUuid hub :=
  fun online => absurd online lower

theorem Minded.of_eq (minded : Minded agentUuid before)
    (standings : standing after agentUuid = standing before agentUuid)
    (timers : agentUuid ∈ before.offlineTimers → agentUuid ∈ after.offlineTimers)
    (map : Members.own after.agentUuidToSocketId agentUuid =
      Members.own before.agentUuidToSocketId agentUuid) : Minded agentUuid after := by
  rw [Minded, standings, map]
  exact fun online => (minded online).imp_left timers

theorem RaisesNone.minded (raises : RaisesNone before after) (minded : Minded agentUuid before) :
    Minded agentUuid after := by
  rcases raises.standings agentUuid with same | lowered
  · refine minded.of_eq same (fun inside => ?_) (by rw [raises.map])
    rwa [raises.timers]
  · exact minded_of_standing (lowered none)

theorem tidy_of_raisesNone {program : HubProgram α} (raises : Always RaisesNone program) :
    Tidy agentUuid seen program :=
  raises.tidies fun _ _ step => step.minded

/-- The timer of another Agent is cleared. -/
theorem mem_clearOfflineTimer {other : Text} (differs : other ≠ agentUuid) (hub : Hub) :
    agentUuid ∈ (clearOfflineTimer other hub).offlineTimers ↔ agentUuid ∈ hub.offlineTimers :=
  AgentUpdateService.mem_filter_timers differs hub.offlineTimers

/-! ### Registrations -/

theorem minded_bindIdentity {agent : RegisteredAgent} (named : agent.uuid = agentUuid)
    (hub : Hub) : Minded agentUuid (bindIdentity client agent hub) := by
  subst named
  refine fun _ => .inr ?_
  change (Members.own (Members.define hub.agentUuidToSocketId agent.uuid client) _).isSome = true
  rw [Members.own_define]
  rfl

/-- A binding attends to its Agent and leaves the others alone. -/
theorem Minded.bindIdentity (agent : RegisteredAgent) (minded : Minded agentUuid hub) :
    Minded agentUuid (bindIdentity client agent hub) := by
  by_cases named : agent.uuid = agentUuid
  · exact minded_bindIdentity named hub
  · refine minded.of_eq rfl (mem_clearOfflineTimer named hub).mpr ?_
    exact Members.own_define_ne _ (fun same => named same.symm) _

theorem attends_bindAndAttach {agent : RegisteredAgent} (named : agent.uuid = agentUuid) :
    Attends agentUuid (bindAndAttach client agent) := by
  rw [bindAndAttach]
  split
  · apply mends_last
    exact fun hub _ => (raisesNone_attachSecret _ _ _ _).minded (minded_bindIdentity named hub)
  · apply mends_step
    exact fun hub _ => minded_bindIdentity named hub

theorem tidy_bindAndAttach (agent : RegisteredAgent) :
    Tidy agentUuid seen (bindAndAttach client agent) := by
  rw [bindAndAttach]
  split
  · refine fun hub _ => ⟨fun minded => .inl ?_, trivial⟩
    exact (raisesNone_attachSecret _ _ _ _).minded (minded.bindIdentity agent)
  · apply tidies_step
    · exact fun hub _ minded => .inl (minded.bindIdentity agent)
    · refine fun hub _ => tidy_of_raisesNone ((raisesNone_look _).bind fun secret => ?_)
      exact always_step fun hub => raisesNone_attachSecret _ _ _ _

variable (platform : Platform) {rest : RegisteredAgent → HubProgram α}
  (attends : ∀ agent, agent.uuid = agentUuid → Attends agentUuid (rest agent))
  (later : ∀ agent seen, Tidy agentUuid seen (rest agent))

include attends later

/-- The write of a registration says online, and its binding attends to that. -/
theorem tidy_updateRegistered (ip uuid : Text) (exist : AgentRow)
    (version : Option (Option Text)) (protocol : ℤ) :
    Tidy agentUuid seen (updateRegistered platform ip uuid exist version protocol >>= rest) := by
  apply tidies_atomically
  · intro hub _ minded
    split
    · exact .inl minded
    · rename_i row found
      by_cases named : row.agentUuid = agentUuid
      · exact .inr ⟨trivial, _, rfl, attends _ named⟩
      · refine .inl (minded.of_eq ?_ id rfl)
        obtain rfl : row.agentUuid = uuid := beq_iff_eq.mp (Table.mem_of_findFirst found).2
        refine congrArg (Option.map _) (rowOf_updateMany_ne ?_ found fun same => named same.symm)
        exact fun _ => rfl
  · exact fun hub agent _ _ => later agent _

theorem tidy_createRegistered (ip : Text) (version : Option (Option Text)) (protocol : ℤ) :
    Tidy agentUuid seen (createRegistered platform ip version protocol >>= rest) := by
  apply tidies_atomically
  · intro hub _ minded
    dsimp only
    split
    · exact .inl minded
    · by_cases named : platform.randomUuid hub.drawn = agentUuid
      · exact .inr ⟨trivial, _, rfl, attends _ named⟩
      · refine .inl (minded.of_eq ?_ id rfl)
        rw [standing, rowOf_create, standing]
        rw [if_neg fun same => named (beq_iff_eq.mp same), Option.or_none]
  · exact fun hub agent _ _ => later agent _

theorem tidy_registerAgent (ip : Text) (uuid version protocol : Option Value) :
    Tidy agentUuid seen (registerAgent platform ip uuid version protocol >>= rest) := by
  rw [registerAgent]
  simp only [bind_assoc]
  refine (raisesNone_findExist platform _).tidies_bind (fun _ _ step => step.minded)
    fun exist seen => ?_
  apply tidies_orThrow
  intro version _
  apply tidies_orThrow
  intro protocol _
  split
  · exact tidy_updateRegistered platform attends later _ _ _ _ _
  · exact tidies_throw _
  · exact tidy_createRegistered platform attends later _ _ _

end Minding

/-! ### All calls -/

section Calls

variable (platform : Platform) (release : Hub → Text → Option AgentRelease) {agentUuid : Text}
  {before after hub : Hub} {seen : List Hub}

theorem tidy_handleValidation (client : ℕ) (payload : Value) :
    Tidy agentUuid seen (handleValidation platform client payload) := by
  rw [handleValidation]
  apply tidies_orThrow
  intro members _
  apply tidies_fromExcept
  intro refusal _
  apply tidies_orThrow
  intro _ _
  cases refusal with
  | some refusal =>
    exact tidy_of_raisesNone (always_step fun hub => raisesNone_refuse client refusal hub)
  | none =>
    refine (raisesNone_proveIdentity platform client payload _).tidies_bind
      (fun _ _ step => step.minded) fun proved seen => ?_
    split
    · apply tidies_look
      intro hub _
      apply tidy_registerAgent
      · exact fun agent named => (attends_bindAndAttach named).bind _
      · exact fun agent seen => (tidy_bindAndAttach agent).bind fun _ _ =>
          tidy_of_raisesNone (raisesNone_afterBinding agent _)
    · exact tidies_pure _

/-- A status other than online is written to the row of an Agent. -/
theorem minded_lowered {change : AgentRow → AgentRow}
    (keyed : ∀ row, (change row).agentIndex = row.agentIndex)
    (same : ∀ row, (change row).agentUuid = row.agentUuid)
    (lower : ∀ row, (change row).agentStatus ≠ .online)
    (agents : after.database.agents =
      before.database.agents.updateMany (fun row => row.agentUuid == agentUuid) change keyed) :
    Minded agentUuid after := by
  apply minded_of_standing
  rw [standing_updateMany keyed same agents]
  cases found : rowOf before.database agentUuid with
  | none => exact fun wrong => by cases wrong
  | some row =>
    rw [Option.map_some, if_pos (Table.mem_of_findFirst found).2]
    exact fun online => lower row (congrArg Prod.fst (Option.some.inj online))

/-- A clean-up that has taken an Agent from the map records its restart or sets its timer. -/
theorem attends_leaving : Attends agentUuid (do
    let expected ← AgentUpdateService.isExpectedRestart agentUuid
    if expected then pure ()
    else step fun hub => ((),
      { clearOfflineTimer agentUuid hub with
        offlineTimers := (clearOfflineTimer agentUuid hub).offlineTimers ++ [agentUuid] })) := by
  have schedules : Attends agentUuid (step fun hub => ((),
      { clearOfflineTimer agentUuid hub with
        offlineTimers := (clearOfflineTimer agentUuid hub).offlineTimers ++ [agentUuid] }) :
      HubProgram Unit) := by
    apply mends_last
    exact fun hub _ _ => .inl (List.mem_append_right _ (List.mem_singleton_self agentUuid))
  rw [isExpectedRestart]
  simp only [bind_assoc]
  apply mends_after
  intro hub
  dsimp only
  split
  · exact schedules
  · split
    · simp only [bind_assoc]
      apply mends_step
      intro hub _
      refine minded_lowered ?_ ?_ ?_ rfl
      · exact fun _ => rfl
      · exact fun _ => rfl
      · exact fun _ wrong => by cases wrong
    · exact schedules

theorem attends_markAgentOffline : Attends agentUuid (markAgentOffline agentUuid) := by
  apply mends_after
  intro hub
  apply mends_after
  intro hub
  apply mends_step
  intro hub _
  refine minded_lowered ?_ ?_ ?_ rfl
  · exact fun _ => rfl
  · exact fun _ => rfl
  · exact fun _ wrong => by cases wrong

/-- A clean-up that takes an Agent from the map attends to it. -/
theorem tidy_handleDisconnect (client : ℕ) :
    Tidy agentUuid seen (handleDisconnect client) := by
  apply tidies_step
  · intro hub _ minded
    dsimp only
    split
    · rename_i unit units _ _
      split
      · by_cases named : unit :: units = agentUuid
        · subst named
          exact .inr ⟨trivial, attends_leaving⟩
        · refine .inl (minded.of_eq rfl id ?_)
          change Members.own (Members.erase _ _) _ = _
          rw [Members.own_erase, if_neg fun same => named same.symm]
      · exact .inl minded
    · exact .inl minded
  · intro hub _
    split
    · exact tidies_pure _
    · rename_i uuid _
      refine (raisesNone_isExpectedRestart uuid).tidies_bind (fun _ _ step => step.minded)
        fun expected seen => ?_
      split
      · exact tidies_pure _
      · refine fun hub _ => ⟨fun minded => .inl (minded.of_eq rfl (fun inside => ?_) rfl), trivial⟩
        by_cases named : uuid = agentUuid
        · exact List.mem_append_right _ (List.mem_singleton.mpr named.symm)
        · exact List.mem_append_left _ ((mem_clearOfflineTimer named hub).mpr inside)

/-- A timer that fires finds the Agent in the map, or it is set offline. -/
theorem tidy_offlineTimer (uuid : Text) : Tidy agentUuid seen (offlineTimer uuid) := by
  have fired (gone : Bool) (seen : List Hub) :
      Tidy agentUuid seen (if gone then markAgentOffline uuid else pure ()) := by
    split
    · exact tidy_of_raisesNone (raisesNone_markAgentOffline uuid)
    · exact tidies_pure _
  apply tidies_step
  · intro hub _ minded
    split
    · by_cases named : uuid = agentUuid
      · subst named
        cases gone : Members.own hub.agentUuidToSocketId uuid with
        | none => exact .inr ⟨trivial, attends_markAgentOffline⟩
        | some client => exact .inl fun _ => .inr (Option.isSome_iff_exists.mpr ⟨client, gone⟩)
      · exact .inl (minded.of_eq rfl (mem_clearOfflineTimer named hub).mpr rfl)
    · exact .inl minded
  · exact fun hub _ => fired _ _

theorem tidy_duty (call : Duty LifecycleCall) :
    Tidy agentUuid [] (duty platform (lifecycle release) call) := by
  cases call with
  | beside call => exact tidy_of_raisesNone (raisesNone_lifecycle release call)
  | gateway call =>
    cases call with
    | register client payload =>
      apply tidies_look
      intro hub _
      split
      · exact tidy_handleValidation platform client payload
      · exact tidies_pure _
    | disconnected client => exact tidy_handleDisconnect client
    | offlineTimer uuid => exact tidy_offlineTimer uuid
    | acceptConnectRequest agentCode agentUuid =>
      refine tidy_of_raisesNone ?_
      exact (raisesNone_handleAcceptConnectRequest _ _).bind fun _ => always_pure _
    | rejectConnectRequest agentCode agentUuid =>
      refine tidy_of_raisesNone ?_
      exact (raisesNone_handleRejectConnectRequest _ _).bind fun _ => always_pure _

end Calls

/-! ## A registration binds an Agent that is not offline -/

/-- A socket gets the identity of an Agent. -/
structure Binds (client : ℕ) (agentUuid : Text) (before after : Hub) : Prop where
  opened : ∀ other, (after.sockets other).opened = (before.sockets other).opened
  connected : ∀ other, (after.sockets other).connected = (before.sockets other).connected
  identity : (after.sockets client).data.agentUuid = some agentUuid
  others : ∀ other ≠ client, identityOf after other = identityOf before other
  standings : ∀ uuid, standing after uuid = standing before uuid

/-- A socket may get the identity of an Agent that is not offline. For a closed one it does not
matter. -/
def MayBind (client : ℕ) (agentUuid : Text) (hub : Hub) : Prop :=
  ClosedSocket hub client ∨ standing hub agentUuid ≠ some (.offline, none)

/-- What a call does when it binds an Agent. -/
def bindsFor : Duty LifecycleCall → Text → Hub → Hub → Prop
  | .gateway (.register client _), agentUuid => Binds client agentUuid
  | _, _ => fun _ _ => False

/-- When a call may bind an Agent. -/
def mayBindFor : Duty LifecycleCall → Text → Hub → Prop
  | .gateway (.register client _), agentUuid => MayBind client agentUuid
  | _, _ => fun _ => False

section Binding

variable {client : ℕ} {agentUuid : Text} {before after hub left : Hub} {α : Type}

theorem binds_bindIdentity (agent : RegisteredAgent) (hub : Hub) :
    Binds client agent.uuid hub (bindIdentity client agent hub) := by
  refine ⟨fun other => ?_, fun other => ?_, ?_, fun other elsewhere => ?_, fun uuid => rfl⟩
  · simp only [bindIdentity, setData_opened]
  · simp only [bindIdentity, setData_connected]
  · simp [bindIdentity]
  · simp [identityOf, bindIdentity, Hub.setData_of_ne _ _ _ elsewhere]

/-- A secret is attached in the same action. -/
theorem Binds.attachSecret (binds : Binds client agentUuid before after) (agent : RegisteredAgent)
    (secret : Option Text) :
    Binds client agentUuid before (AgentGateway.attachSecret client agent secret after) := by
  have kept := (raisesNone_attachSecret client agent secret after).identities
  refine ⟨fun other => ?_, fun other => ?_, ?_, fun other elsewhere => ?_, binds.standings⟩
  · simp only [AgentGateway.attachSecret, Hub.emit_sockets, setData_opened, binds.opened]
  · simp only [AgentGateway.attachSecret, Hub.emit_sockets, setData_connected, binds.connected]
  · exact (congrArg Prod.snd (kept client)).trans binds.identity
  · exact (kept other).trans (binds.others other elsewhere)

abbrev SequencedFor (client : ℕ) (post : α → Hub → Prop) (left : Hub) (program : HubProgram α) :
    Prop :=
  Sequenced BindsNone (Binds client) (MayBind client) post left program

theorem sequenced_bindAndAttach {agent : RegisteredAgent}
    (online : standing left agent.uuid ≠ some (.offline, none)) :
    SequencedFor client (fun _ _ => True) left (bindAndAttach client agent) := by
  rw [bindAndAttach]
  split
  · apply sequenced_special
    · exact .inr online
    · exact fun hub => (binds_bindIdentity agent hub).attachSecret agent _
    · exact fun _ => trivial
  · apply Sequenced.bind
    apply sequenced_special
    · exact .inr online
    · exact fun hub => binds_bindIdentity agent hub
    · intro hub
      apply Always.sequenced
      refine ((raisesNone_look _).mono fun _ _ step => step.toBindsNone).bind fun secret => ?_
      exact always_step fun hub => (raisesNone_attachSecret _ _ _ _).toBindsNone

variable (platform : Platform)

/-- After its write the Agent is online. -/
theorem sequenced_updateRegistered (ip uuid : Text) (exist : AgentRow)
    (version : Option (Option Text)) (protocol : ℤ) :
    SequencedFor client (fun agent left => standing left agent.uuid ≠ some (.offline, none)) left
      (updateRegistered platform ip uuid exist version protocol) := by
  apply sequenced_atomically
  · intro hub
    split
    · exact bindsNone_of_eq rfl
    · exact bindsNone_of_eq rfl
  · intro hub agent returned
    split at returned
    · cases returned
    · rename_i row found
      obtain rfl := Except.ok.inj returned
      obtain rfl : row.agentUuid = uuid := beq_iff_eq.mp (Table.mem_of_findFirst found).2
      refine Eq.trans_ne (standing_updateMany_key ?_ ?_ found rfl) ?_
      · exact fun _ => rfl
      · exact fun _ => rfl
      · exact fun wrong => by cases wrong

theorem sequenced_createRegistered (ip : Text) (version : Option (Option Text)) (protocol : ℤ) :
    SequencedFor client (fun agent left => standing left agent.uuid ≠ some (.offline, none)) left
      (createRegistered platform ip version protocol) := by
  apply sequenced_atomically
  · intro hub
    dsimp only
    split
    · exact bindsNone_of_eq rfl
    · exact bindsNone_of_eq rfl
  · intro hub agent returned
    dsimp only at returned ⊢
    split at returned
    · cases returned
    · rename_i free
      obtain rfl := Except.ok.inj returned
      have new : rowOf hub.database (platform.randomUuid hub.drawn) = none := by
        refine Table.findFirst_eq_none.mpr fun row inside => ?_
        exact (Bool.or_eq_false_iff.mp (Table.findFirst_eq_none.mp free row inside)).2
      dsimp only
      rw [standing, rowOf_create, new, Option.none_or, if_pos (beq_self_eq_true _)]
      exact fun wrong => by cases wrong

theorem sequenced_registerAgent (ip : Text) (uuid version protocol : Option Value) :
    SequencedFor client (fun agent left => standing left agent.uuid ≠ some (.offline, none)) left
      (registerAgent platform ip uuid version protocol) := by
  rw [registerAgent]
  have looks := (raisesNone_findExist platform (uuid.getD .undefined)).mono
    fun _ _ step => step.toBindsNone
  refine looks.sequenced_bind fun exist left => ?_
  refine (always_orThrow _ _).sequenced_bind fun version left => ?_
  refine (always_orThrow _ _).sequenced_bind fun protocol left => ?_
  split
  · exact sequenced_updateRegistered platform _ _ _ _ _
  · exact trivial
  · exact sequenced_createRegistered platform _ _ _

theorem sequenced_handleValidation (client : ℕ) (payload : Value) :
    SequencedFor client (fun _ _ => True) left (handleValidation platform client payload) := by
  rw [handleValidation]
  refine (always_orThrow _ _).sequenced_bind fun members left => ?_
  refine (always_fromExcept _).sequenced_bind fun refusal left => ?_
  refine (always_orThrow _ _).sequenced_bind fun _ left => ?_
  cases refusal with
  | some refusal =>
    apply Always.sequenced
    exact always_step fun hub => (raisesNone_refuse client refusal hub).toBindsNone
  | none =>
    have proves := (raisesNone_proveIdentity platform client payload
      ((Members.own members "agentUuid").getD .undefined)).mono fun _ _ step => step.toBindsNone
    refine proves.sequenced_bind fun proved left => ?_
    split
    · have looks := (raisesNone_look fun hub => clientIp (hub.sockets client)).mono
        fun _ _ step => step.toBindsNone
      refine looks.sequenced_bind fun ip left => ?_
      apply Sequenced.bind
      refine (sequenced_registerAgent platform _ _ _ _).mono fun agent left online => ?_
      apply Sequenced.bind
      refine (sequenced_bindAndAttach online).mono fun _ left _ => ?_
      exact ((raisesNone_afterBinding agent _).mono fun _ _ step => step.toBindsNone).sequenced
    · exact trivial

/-! ### All calls -/

theorem bindsNone_handleDisconnect (client : ℕ) : Always BindsNone (handleDisconnect client) := by
  refine Always.bind (always_step fun hub => ?_) fun agentUuid => ?_
  · dsimp only
    split
    · split
      · exact bindsNone_of_eq rfl
      · exact bindsNone_of_eq rfl
    · exact bindsNone_of_eq rfl
  · cases agentUuid with
    | none => exact always_pure _
    | some agentUuid =>
      refine ((raisesNone_isExpectedRestart agentUuid).mono fun _ _ step => step.toBindsNone).bind
        fun expected => ?_
      split
      · exact always_pure _
      · exact always_step fun hub => bindsNone_of_eq rfl

theorem bindsNone_offlineTimer (agentUuid : Text) : Always BindsNone (offlineTimer agentUuid) := by
  refine Always.bind (always_step fun hub => ?_) fun gone => ?_
  · split
    · exact bindsNone_of_eq rfl
    · exact bindsNone_of_eq rfl
  · split
    · exact (raisesNone_markAgentOffline agentUuid).mono fun _ _ step => step.toBindsNone
    · exact always_pure _

/-- Every call binds an Agent only when it may. -/
theorem sequenced_duty (release : Hub → Text → Option AgentRelease) (call : Duty LifecycleCall)
    (left : Hub) :
    Sequenced BindsNone (bindsFor call) (mayBindFor call) (fun _ _ => True) left
      (duty platform (lifecycle release) call) := by
  cases call with
  | beside call =>
    exact ((raisesNone_lifecycle release call).mono fun _ _ step => step.toBindsNone).sequenced
  | gateway call =>
    cases call with
    | register client payload =>
      have looks := (raisesNone_look fun hub => (hub.sockets client).connected).mono
        fun _ _ step => step.toBindsNone
      refine looks.sequenced_bind fun connected left => ?_
      split
      · exact sequenced_handleValidation platform client payload
      · exact trivial
    | disconnected client => exact (bindsNone_handleDisconnect client).sequenced
    | offlineTimer agentUuid => exact (bindsNone_offlineTimer agentUuid).sequenced
    | acceptConnectRequest agentCode agentUuid =>
      refine Always.sequenced (Always.bind ?_ fun _ => always_pure _)
      exact (raisesNone_handleAcceptConnectRequest _ _).mono fun _ _ step => step.toBindsNone
    | rejectConnectRequest agentCode agentUuid =>
      refine Always.sequenced (Always.bind ?_ fun _ => always_pure _)
      exact (raisesNone_handleRejectConnectRequest _ _).mono fun _ _ step => step.toBindsNone

end Binding

end AgentGateway

end OpticsHub
