import OpticsHub.Agent.RemoteUpdate
import OpticsHub.Async.Mending

/-!
# Runs of the update service

Requests, reports of the Agent, its reconnects and disconnects, and the timers of updates
all work on the phase in the row of the Agent. Each reads the phase first and writes it
later, and they interleave. Here they run beside a rest of the Hub that does anything else,
but keeps the updates as they are: only this service writes the phase and the target, arms
and clears the timers, and orders updates.
-/
namespace OpticsHub

open Script Async Program Machine

namespace AgentUpdateService

open AgentService AgentGateway ReleaseCatalogService

/-! ## Calls -/

inductive LifecycleCall where
  | requestUpdate (agentUuid : Text) (version : Value)
  | recordProgress (agentUuid line : Text)
  | recordFailure (agentUuid message : Text)
  | isExpectedRestart (agentUuid : Text)
  | handleReconnect (agentUuid : Text) (reportedVersion : Option Text)
  | acknowledge (agentUuid : Text)
  | updateTimer (agentUuid : Text)

/-- The Agent whose update a call is about. -/
def LifecycleCall.agentUuid : LifecycleCall → Text
  | .requestUpdate agentUuid _ => agentUuid
  | .recordProgress agentUuid _ => agentUuid
  | .recordFailure agentUuid _ => agentUuid
  | .isExpectedRestart agentUuid => agentUuid
  | .handleReconnect agentUuid _ => agentUuid
  | .acknowledge agentUuid => agentUuid
  | .updateTimer agentUuid => agentUuid

/-- The updates stay as they are: those of the Agents that are there, the timers, and what
has been ordered. An Agent that is new has no update under way. -/
structure KeepsUpdates (before after : Hub) : Prop where
  updates : ∀ agentUuid,
    updateOf agentUuid after.database = updateOf agentUuid before.database ∨
      updateOf agentUuid before.database = none ∧ underWay agentUuid after.database = false
  timers : after.updateTimers = before.updateTimers
  orders : ∃ sent, after.sent = before.sent ++ sent ∧ ∀ packet ∈ sent, ordersUpdate packet = false

/-- Something that the rest of the Hub does at once. -/
structure RestOfHub where
  change : Hub → Hub
  keeps : ∀ hub, KeepsUpdates hub (change hub)

def restOfHub (hub : Hub) (rest : RestOfHub) : Unit × Hub := ((), rest.change hub)

section Calls

variable (release : Hub → Text → Option AgentRelease)

def lifecycle : LifecycleCall → HubProgram Unit
  | .requestUpdate agentUuid version => AgentUpdateService.requestUpdate release agentUuid version
  | .recordProgress agentUuid line => AgentUpdateService.recordProgress agentUuid line
  | .recordFailure agentUuid message => AgentUpdateService.recordFailure agentUuid message
  | .isExpectedRestart agentUuid => do
    let _ ← AgentUpdateService.isExpectedRestart agentUuid
  | .handleReconnect agentUuid reportedVersion =>
    AgentUpdateService.handleReconnect agentUuid reportedVersion
  | .acknowledge agentUuid => AgentUpdateService.acknowledge agentUuid
  | .updateTimer agentUuid => AgentUpdateService.updateTimer agentUuid

abbrev UpdateConfig := Config LifecycleCall Hub Failure Unit

abbrev UpdateMove := Move LifecycleCall RestOfHub

/-- Calls of the service that interleave, while the rest of the Hub keeps the updates. -/
abbrev updates : Transition UpdateConfig UpdateMove (Shown Unit Hub) :=
  observed (lifecycle release) restOfHub

end Calls

/-! ## Other Agents -/

section Others

variable {agentUuid other : Text} {before after : Hub} {database : Database}

/-- The update of one Agent stays as it is, with its timer. -/
structure KeepsUpdateOf (agentUuid : Text) (before after : Hub) : Prop where
  update : updateOf agentUuid after.database = updateOf agentUuid before.database
  timer : agentUuid ∈ after.updateTimers ↔ agentUuid ∈ before.updateTimers

theorem keepsUpdateOf_refl (hub : Hub) : KeepsUpdateOf agentUuid hub hub := ⟨rfl, Iff.rfl⟩

theorem keepsUpdateOf_of_eq (agents : after.database.agents = before.database.agents)
    (timers : after.updateTimers = before.updateTimers) : KeepsUpdateOf agentUuid before after :=
  ⟨by rw [updateOf, agents, updateOf], by rw [timers]⟩

/-- What a write to the agents does to an update. -/
theorem updateOf_updateMany {selected : AgentRow → Bool} {change : AgentRow → AgentRow}
    (keyed : ∀ row, (change row).agentIndex = row.agentIndex)
    (same : ∀ row, (change row).agentUuid = row.agentUuid) :
    updateOf agentUuid { database with
        agents := database.agents.updateMany selected change keyed } =
      (database.agents.findFirst fun row => row.agentUuid == agentUuid).map fun row =>
        if selected row then ((change row).agentUpdatePhase, (change row).agentUpdateTarget)
        else (row.agentUpdatePhase, row.agentUpdateTarget) := by
  rw [updateOf, Table.findFirst_updateMany fun row => by rw [same], Option.map_map]
  refine congrArg (Option.map · _) (funext fun row => ?_)
  rw [Function.comp_apply]
  split <;> rfl

/-- A write that leaves phase and target as they are. -/
theorem updateOf_kept {selected : AgentRow → Bool} {change : AgentRow → AgentRow}
    (keyed : ∀ row, (change row).agentIndex = row.agentIndex)
    (same : ∀ row, (change row).agentUuid = row.agentUuid)
    (kept : ∀ row, (change row).agentUpdatePhase = row.agentUpdatePhase ∧
      (change row).agentUpdateTarget = row.agentUpdateTarget) :
    updateOf agentUuid { database with
        agents := database.agents.updateMany selected change keyed } =
      updateOf agentUuid database := by
  rw [updateOf_updateMany keyed same, updateOf]
  refine congrArg (Option.map · _) (funext fun row => ?_)
  rw [(kept row).1, (kept row).2, ite_self]

/-! ## What the parts of the calls do -/

/-- The write of a transition. -/
def writePhase (agentUuid : Text) (phase : AgentUpdatePhase) (fields : AgentRow → AgentRow)
    (keyed : ∀ row, (fields row).agentIndex = row.agentIndex) (hub : Hub) : Hub :=
  hub.write fun database =>
    { database with
      agents := database.agents.updateMany (fun row => row.agentUuid == agentUuid)
        (fun row => { fields row with agentUpdatePhase := phase }) keyed }

/-- What follows the write: the row is read back for the consoles. -/
def announce (agentUuid : Text) (phase : AgentUpdatePhase) : HubProgram Unit := do
  let agent ← findAgent fun row => row.agentUuid == agentUuid
  step fun hub => ((),
    match agent with
    | none => hub
    | some agent =>
      match agent.agentParentWorkspace with
      | none => hub
      | some workspaceIndex =>
        { hub with
          console := hub.console ++
            [.agentUpdate workspaceIndex agentUuid agent.agentCode agent.agentVersion phase
              agent.agentUpdateTarget agent.agentUpdateMessage agent.agentUpdateStartedAt] })

/-- The write, as the Agent sees it. -/
theorem updateOf_writePhase {phase : AgentUpdatePhase} {fields : AgentRow → AgentRow}
    {keyed : ∀ row, (fields row).agentIndex = row.agentIndex}
    (same : ∀ row, (fields row).agentUuid = row.agentUuid) (hub : Hub) :
    updateOf agentUuid (writePhase agentUuid phase fields keyed hub).database =
      (hub.database.agents.findFirst fun row => row.agentUuid == agentUuid).map fun row =>
        (phase, (fields row).agentUpdateTarget) := by
  have write := @updateOf_updateMany agentUuid hub.database (fun row => row.agentUuid == agentUuid)
    (fun row => { fields row with agentUpdatePhase := phase }) keyed same
  refine write.trans ?_
  cases found : hub.database.agents.findFirst fun row => row.agentUuid == agentUuid with
  | none => rfl
  | some row => simp only [Option.map_some, if_pos (Table.mem_of_findFirst found).2]

/-- The write, as another Agent sees it. -/
theorem updateOf_writePhase_other (differs : other ≠ agentUuid) {phase : AgentUpdatePhase}
    {fields : AgentRow → AgentRow} {keyed : ∀ row, (fields row).agentIndex = row.agentIndex}
    (same : ∀ row, (fields row).agentUuid = row.agentUuid) (hub : Hub) :
    updateOf agentUuid (writePhase other phase fields keyed hub).database =
      updateOf agentUuid hub.database := by
  have write := @updateOf_updateMany agentUuid hub.database (fun row => row.agentUuid == other)
    (fun row => { fields row with agentUpdatePhase := phase }) keyed same
  refine write.trans ?_
  rw [updateOf]
  cases found : hub.database.agents.findFirst fun row => row.agentUuid == agentUuid with
  | none => rfl
  | some row =>
    have named := beq_iff_eq.mp (Table.mem_of_findFirst found).2
    have elsewhere : ¬ (row.agentUuid == other) = true := by
      rw [beq_iff_eq, named]
      exact fun equal => differs equal.symm
    simp only [Option.map_some, if_neg elsewhere]

theorem recordPhase_eq (agentUuid : Text) (phase : AgentUpdatePhase)
    (fields : AgentRow → AgentRow) (keyed : ∀ row, (fields row).agentIndex = row.agentIndex) :
    recordPhase agentUuid phase fields keyed =
      step (fun hub => ((), writePhase agentUuid phase fields keyed hub)) >>=
        fun _ => announce agentUuid phase :=
  rfl

/-- Nothing changes but what the consoles have been told. -/
def Announces (before after : Hub) : Prop := ∃ console, after = { before with console := console }

theorem announces_refl (hub : Hub) : Announces hub hub := ⟨hub.console, rfl⟩

theorem always_announce (agentUuid : Text) (phase : AgentUpdatePhase) :
    Always Announces (announce agentUuid phase) := by
  refine Always.bind (always_look announces_refl _) fun agent => ?_
  apply always_step
  intro hub
  cases agent with
  | none => exact announces_refl hub
  | some agent =>
    dsimp only
    split
    · exact announces_refl hub
    · exact ⟨_, rfl⟩

theorem keepsUpdateOf_of_announces (announces : Announces before after) :
    KeepsUpdateOf agentUuid before after := by
  obtain ⟨console, rfl⟩ := announces
  exact ⟨rfl, Iff.rfl⟩

/-- What is done to the timer of one Agent does not touch that of another. -/
theorem mem_filter_timers (differs : other ≠ agentUuid) (timers : List Text) :
    agentUuid ∈ timers.filter (· != other) ↔ agentUuid ∈ timers := by
  rw [List.mem_filter, and_iff_left]
  exact bne_iff_ne.mpr fun same => differs same.symm

/-- A status is written to rows of the agents. -/
theorem keepsUpdateOf_updateStatus (selected : AgentRow → Bool) (status : AgentStatus) :
    Always (KeepsUpdateOf agentUuid)
      (updateAgents selected fun row => { row with agentStatus := status }) := by
  refine always_step fun hub => ⟨?_, Iff.rfl⟩
  apply updateOf_kept
  · exact fun _ => rfl
  · exact fun _ => ⟨rfl, rfl⟩

end Others

/-! ## What the actions of a call do -/

/-- The phases that a call writes. -/
def LifecycleCall.records : LifecycleCall → AgentUpdatePhase → Bool
  | .requestUpdate _ _, phase => phase == .requested
  | .recordProgress _ _, phase => inFlight phase
  | .recordFailure _ _, phase => phase == .failed
  | .isExpectedRestart _, phase => phase == .restarting
  | .handleReconnect _ _, phase => phase == .succeeded || phase == .rolledBack
  | .acknowledge _, phase => phase == .idle
  | .updateTimer _, phase => phase == .failed

/-- The target that a call leaves with a phase that it writes. -/
def LifecycleCall.retarget : LifecycleCall → Option Text → Option Text
  | .requestUpdate _ version, _ => version.toText
  | .acknowledge _, _ => none
  | _, target => target

/-- A relation that every action of a call keeps to: it leaves the updates as they are, or
sets the timer of its Agent, or writes a phase to it. -/
structure Covers (call : LifecycleCall) (steps : Hub → Hub → Prop) : Prop where
  kept : ∀ before after, (∀ agentUuid, KeepsUpdateOf agentUuid before after) → steps before after
  timed : ∀ (hub : Hub) timers,
    (∀ other ≠ call.agentUuid, other ∈ timers ↔ other ∈ hub.updateTimers) →
      steps hub { hub with updateTimers := timers }
  written : ∀ phase fields keyed hub, call.records phase = true →
    (∀ row, (fields row).agentUuid = row.agentUuid ∧
      (fields row).agentUpdateTarget = call.retarget row.agentUpdateTarget) →
      steps hub (writePhase call.agentUuid phase fields keyed hub)

section Actions

variable {call : LifecycleCall} {steps : Hub → Hub → Prop} (covers : Covers call steps)

include covers

theorem Covers.look {α : Type} (view : Hub → α) : Always steps (look view : HubProgram α) :=
  always_look (fun hub => covers.kept hub hub fun _ => keepsUpdateOf_refl hub) view

theorem Covers.updateStatus (selected : AgentRow → Bool) (status : AgentStatus) :
    Always steps (updateAgents selected fun row => { row with agentStatus := status }) :=
  always_step fun hub => covers.kept _ _ fun _ => ((keepsUpdateOf_updateStatus _ _).next hub).1

theorem Covers.recordPhase {phase : AgentUpdatePhase} {fields : AgentRow → AgentRow}
    {keyed : ∀ row, (fields row).agentIndex = row.agentIndex}
    (records : call.records phase = true)
    (same : ∀ row, (fields row).agentUuid = row.agentUuid ∧
      (fields row).agentUpdateTarget = call.retarget row.agentUpdateTarget) :
    Always steps (recordPhase call.agentUuid phase fields keyed) := by
  rw [recordPhase_eq]
  refine Always.bind (always_step fun hub => covers.written _ _ keyed hub records same) fun _ => ?_
  exact (always_announce _ phase).mono fun before after announces =>
    covers.kept before after fun _ => keepsUpdateOf_of_announces announces

theorem Covers.transition {phase : AgentUpdatePhase} (message : Text)
    (records : call.records phase = true)
    (kept : ∀ target, call.retarget target = target) :
    Always steps (transition call.agentUuid phase message) := by
  rw [transition_eq]
  exact covers.recordPhase records fun row => ⟨rfl, (kept _).symm⟩

/-- The timers of other Agents are not touched. -/
theorem Covers.clearTimeout : Always steps (clearTimeout call.agentUuid) :=
  always_step fun hub => covers.timed hub _ fun _ differs => mem_filter_timers differs.symm _

theorem Covers.armTimeout : Always steps (armTimeout call.agentUuid) := by
  refine always_step fun hub => covers.timed hub _ fun other differs => ?_
  rw [List.mem_append, mem_filter_timers differs.symm, List.mem_singleton, or_iff_left differs]

end Actions

/-- What a call does, action by action. -/
theorem Covers.lifecycle {call : LifecycleCall} {steps : Hub → Hub → Prop}
    (covers : Covers call steps) (release : Hub → Text → Option AgentRelease) :
    Always steps (lifecycle release call) := by
  cases call with
  | requestUpdate agentUuid version =>
    have refl (hub : Hub) : steps hub hub := covers.kept _ _ fun _ => keepsUpdateOf_refl hub
    refine (always_orThrow _ _).bind fun text => ?_
    refine (always_require _ _).bind fun _ => ?_
    refine (always_updatableAgent refl agentUuid).bind fun agent => ?_
    split
    · refine (always_assertInstallable refl release _).bind fun _ => ?_
      refine Always.bind (always_step fun hub => ?_) fun sent => ?_
      · rw [sendToAgent_frame]
        exact covers.kept _ _ fun _ => keepsUpdateOf_of_eq rfl rfl
      · refine (always_require _ _).bind fun _ => ?_
        refine Always.bind (covers.recordPhase rfl ?_) fun _ => covers.armTimeout
        exact fun _ => ⟨rfl, rfl⟩
    · exact always_throw _
  | recordProgress agentUuid line =>
    refine (covers.look _).bind fun agent => ?_
    cases agent with
    | none => exact always_pure _
    | some agent =>
      dsimp only
      split
      · rename_i flying
        refine covers.transition _ ?_ fun _ => rfl
        split
        · rfl
        · exact flying
      · exact always_pure _
  | recordFailure agentUuid message =>
    refine (covers.look _).bind fun agent => ?_
    cases agent with
    | none => exact always_pure _
    | some agent =>
      dsimp only
      split
      · exact covers.clearTimeout.bind fun _ => covers.transition _ rfl fun _ => rfl
      · exact always_pure _
  | isExpectedRestart agentUuid =>
    refine Always.bind ?_ fun _ => always_pure _
    refine (covers.look _).bind fun agent => ?_
    cases agent with
    | none => exact always_pure _
    | some agent =>
      dsimp only
      split
      · refine (covers.updateStatus _ _).bind fun _ => ?_
        exact (covers.transition _ rfl fun _ => rfl).bind fun _ => always_pure _
      · exact always_pure _
  | handleReconnect agentUuid reportedVersion =>
    refine (covers.look _).bind fun agent => ?_
    cases agent with
    | none => exact always_pure _
    | some agent =>
      dsimp only
      split
      · refine covers.clearTimeout.bind fun _ => ?_
        split
        · split <;> exact covers.transition _ rfl fun _ => rfl
        · exact covers.transition _ rfl fun _ => rfl
      · exact always_pure _
  | acknowledge agentUuid =>
    refine covers.recordPhase rfl ?_
    exact fun _ => ⟨rfl, rfl⟩
  | updateTimer agentUuid =>
    refine Always.bind (always_step fun hub =>
      covers.timed hub _ fun _ differs => mem_filter_timers differs.symm _) fun armed => ?_
    split
    · refine (covers.look _).bind fun agent => ?_
      cases agent with
      | none => exact always_pure _
      | some agent =>
        dsimp only
        split
        · refine (covers.transition _ rfl fun _ => rfl).bind fun _ => ?_
          refine (covers.look _).bind fun connected => ?_
          split
          · exact always_pure _
          · exact covers.updateStatus _ _
        · exact always_pure _
    · exact always_pure _

/-- A call about another Agent leaves an update as it is. -/
theorem keepsUpdateOf_lifecycle {agentUuid : Text}
    (release : Hub → Text → Option AgentRelease) {call : LifecycleCall}
    (differs : call.agentUuid ≠ agentUuid) :
    Always (KeepsUpdateOf agentUuid) (lifecycle release call) := by
  refine Covers.lifecycle ⟨fun _ _ kept => kept agentUuid, ?_, ?_⟩ release
  · exact fun hub timers others => ⟨rfl, others agentUuid differs.symm⟩
  · intro phase fields keyed hub _ same
    exact ⟨updateOf_writePhase_other differs (fun row => (same row).1) hub, Iff.rfl⟩

/-- An update stays as it is, or a call about its Agent writes a phase, and the target. -/
def Advances (call : LifecycleCall) (agentUuid : Text) (before after : Hub) : Prop :=
  updateOf agentUuid after.database = updateOf agentUuid before.database ∨
    call.agentUuid = agentUuid ∧ ∃ phase, call.records phase = true ∧
      updateOf agentUuid after.database =
        (updateOf agentUuid before.database).map fun update => (phase, call.retarget update.2)

theorem advances_lifecycle (release : Hub → Text → Option AgentRelease) (call : LifecycleCall)
    (agentUuid : Text) : Always (Advances call agentUuid) (lifecycle release call) := by
  refine Covers.lifecycle ⟨fun _ _ kept => .inl (kept agentUuid).update, ?_, ?_⟩ release
  · exact fun _ _ _ => .inl rfl
  · intro phase fields keyed hub records same
    have uuid (row : AgentRow) := (same row).1
    by_cases own : call.agentUuid = agentUuid
    · subst own
      refine .inr ⟨rfl, phase, records, ?_⟩
      rw [updateOf_writePhase uuid, updateOf, Option.map_map]
      exact congrArg (Option.map · _) (funext fun row => Prod.ext rfl (same row).2)
    · exact .inl (updateOf_writePhase_other own uuid hub)

/-! ## When a call writes -/

/-- How many actions a call takes before it writes the phase. -/
def LifecycleCall.writesAt : LifecycleCall → ℕ
  | .requestUpdate _ _ => 3
  | .recordProgress _ _ => 1
  | .recordFailure _ _ => 2
  | .isExpectedRestart _ => 2
  | .handleReconnect _ _ => 2
  | .acknowledge _ => 0
  | .updateTimer _ => 2

/-- An action writes the phase when it is time to, or leaves the updates as they are. -/
def WritesOnce (writesAt : ℕ) (seen : List Hub) (before after : Hub) : Prop :=
  seen.length = writesAt ∨
    ∀ agentUuid, updateOf agentUuid after.database = updateOf agentUuid before.database

section Writes

variable {writesAt : ℕ} {seen : List Hub} {agentUuid : Text} {post : Unit → List Hub → Prop}

theorem heeds_glance {α : Type} {post : α → List Hub → Prop} {view : Hub → α}
    (held : ∀ hub, post (view hub) (seen ++ [hub])) :
    Heeds (fun _ _ => True) (WritesOnce writesAt) post seen (look view : HubProgram α) :=
  heeds_look (fun _ => .inr fun _ => rfl) fun hub _ => held hub

/-- Actions that leave the updates as they are. -/
theorem heeds_kept {α : Type} {post : α → List Hub → Prop} {action : Hub → α × Hub}
    (kept : ∀ hub agentUuid, updateOf agentUuid (action hub).2.database =
      updateOf agentUuid hub.database)
    (held : ∀ hub, post (action hub).1 (seen ++ [hub])) :
    Heeds (fun _ _ => True) (WritesOnce writesAt) post seen (step action : HubProgram α) :=
  heeds_step fun hub _ => ⟨.inr (kept hub), held hub⟩

theorem heeds_updateStatus {post : Unit → List Hub → Prop} (selected : AgentRow → Bool)
    (status : AgentStatus) (held : ∀ hub, post () (seen ++ [hub])) :
    Heeds (fun _ _ => True) (WritesOnce writesAt) post seen
      (updateAgents selected fun row => { row with agentStatus := status }) :=
  heeds_step fun hub _ =>
    ⟨.inr fun _ => ((keepsUpdateOf_updateStatus _ _).next hub).1.update, held hub⟩

/-- A transition at its time. -/
theorem heeds_recordPhase {phase : AgentUpdatePhase} {fields : AgentRow → AgentRow}
    {keyed : ∀ row, (fields row).agentIndex = row.agentIndex} (time : seen.length = writesAt) :
    Heeds (fun _ _ => True) (WritesOnce writesAt) (fun _ _ => True) seen
      (recordPhase agentUuid phase fields keyed) := by
  rw [recordPhase_eq]
  refine Heeds.bind (heeds_step fun hub _ => ⟨.inl time, ?_⟩)
  refine (always_announce agentUuid phase).heeds fun seen before after announces => ?_
  exact .inr fun _ => (keepsUpdateOf_of_announces announces).update

theorem heeds_transition {phase : AgentUpdatePhase} {message : Text}
    (time : seen.length = writesAt) :
    Heeds (fun _ _ => True) (WritesOnce writesAt) (fun _ _ => True) seen
      (transition agentUuid phase message) := by
  rw [transition_eq]
  exact heeds_recordPhase time

end Writes

/-- A call writes the phase with one of its actions only. -/
theorem lifecycle_writesOnce (release : Hub → Text → Option AgentRelease)
    (call : LifecycleCall) :
    Heeds (fun _ _ => True) (WritesOnce call.writesAt) (fun _ _ => True) []
      (lifecycle release call) := by
  cases call with
  | requestUpdate agentUuid version =>
    refine Heeds.bind (heeds_orThrow fun text _ => ?_)
    refine Heeds.bind (heeds_require fun _ => ?_)
    have first : Heeds (fun _ _ => True) (WritesOnce 3) (fun _ seen => seen.length = 1) []
        (updatableAgent agentUuid) := by
      refine Heeds.bind (heeds_glance fun hub => ?_)
      refine Heeds.bind (heeds_orThrow fun agent _ => ?_)
      refine Heeds.bind (heeds_require fun _ => ?_)
      refine Heeds.bind (heeds_require fun _ => ?_)
      exact Heeds.bind (heeds_require fun _ => heeds_pure rfl)
    refine Heeds.bind (first.mono fun agent seen _ one => ?_)
    split
    · refine Heeds.bind (Heeds.bind (heeds_glance fun hub => ?_))
      refine Heeds.bind (heeds_orThrow fun found _ => ?_)
      split
      · exact trivial
      · refine heeds_pure ?_
        refine Heeds.bind (heeds_kept (fun hub _ => ?_) fun hub => ?_)
        · rw [sendToAgent_frame]
        · refine Heeds.bind (heeds_require fun _ => ?_)
          refine Heeds.bind ((heeds_recordPhase ?_).mono fun _ seen _ _ => ?_)
          · simp [one, LifecycleCall.writesAt]
          · exact heeds_kept (fun _ _ => rfl) fun _ => trivial
    · exact trivial
  | recordProgress agentUuid line =>
    refine Heeds.bind (heeds_glance fun hub => ?_)
    cases hub.database.agents.findFirst fun row => row.agentUuid == agentUuid with
    | none => exact heeds_pure trivial
    | some agent =>
      dsimp only
      split
      · exact heeds_transition rfl
      · exact heeds_pure trivial
  | recordFailure agentUuid message =>
    refine Heeds.bind (heeds_glance fun hub => ?_)
    cases hub.database.agents.findFirst fun row => row.agentUuid == agentUuid with
    | none => exact heeds_pure trivial
    | some agent =>
      dsimp only
      split
      · refine Heeds.bind (heeds_kept (fun _ _ => rfl) fun _ => ?_)
        exact heeds_transition rfl
      · exact heeds_pure trivial
  | isExpectedRestart agentUuid =>
    refine Heeds.bind (Heeds.bind (heeds_glance fun hub => ?_))
    cases hub.database.agents.findFirst fun row => row.agentUuid == agentUuid with
    | none => exact heeds_pure trivial
    | some agent =>
      dsimp only
      split
      · refine Heeds.bind (heeds_updateStatus _ _ fun _ => ?_)
        refine Heeds.bind ((heeds_transition rfl).mono fun _ _ _ _ => ?_)
        exact heeds_pure trivial
      · exact heeds_pure trivial
  | handleReconnect agentUuid reportedVersion =>
    refine Heeds.bind (heeds_glance fun hub => ?_)
    cases hub.database.agents.findFirst fun row => row.agentUuid == agentUuid with
    | none => exact heeds_pure trivial
    | some agent =>
      dsimp only
      split
      · refine Heeds.bind (heeds_kept (fun _ _ => rfl) fun _ => ?_)
        split
        · split <;> exact heeds_transition rfl
        · exact heeds_transition rfl
      · exact heeds_pure trivial
  | acknowledge agentUuid => exact heeds_recordPhase rfl
  | updateTimer agentUuid =>
    refine Heeds.bind (heeds_kept (fun _ _ => rfl) fun _ => ?_)
    split
    · refine Heeds.bind (heeds_glance fun hub => ?_)
      cases hub.database.agents.findFirst fun row => row.agentUuid == agentUuid with
      | none => exact heeds_pure trivial
      | some agent =>
        dsimp only
        split
        · refine Heeds.bind ((heeds_transition rfl).mono fun _ seen _ _ => ?_)
          refine Heeds.bind (heeds_glance fun hub => ?_)
          split
          · exact heeds_pure trivial
          · exact heeds_updateStatus _ _ fun _ => trivial
        · exact heeds_pure trivial
    · exact heeds_pure trivial

/-- All its other actions leave the updates as they are. -/
theorem updateOf_other_action {release : Hub → Text → Option AgentRelease} {call : LifecycleCall}
    {seen : List Hub} (other : seen.length ≠ call.writesAt) (hub : Hub) (agentUuid : Text) :
    updateOf agentUuid (((lifecycle release call).after seen).effect hub).database =
      updateOf agentUuid hub.database := by
  cases running : ((lifecycle release call).after seen).finished with
  | true =>
    cases rest : (lifecycle release call).after seen with
    | done result => rfl
    | act effect next =>
      rw [rest] at running
      cases running
  | false =>
    have once := (lifecycle_writesOnce release call).effect_after seen hub running
    exact (once.resolve_left other) agentUuid

end AgentUpdateService

end OpticsHub
