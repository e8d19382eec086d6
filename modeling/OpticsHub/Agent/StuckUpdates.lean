import OpticsHub.Agent.UpdateRuns

/-!
# Updates that are under way without a timer

An update that is under way has a timer, or else it could stay under way for ever: the next
request is refused until it has ended. A request writes the phase and then arms the timer;
a failure and a reconnect clear it and then write the end. So there are states between in
which the timer is missing, and the call that has got there comes to the action that makes
up for it. What can go wrong is a write that comes late: a line of the log, or a lost
connection, is recorded for an update that has ended meanwhile, and puts it under way again.
-/
namespace OpticsHub

open Script Async Program Machine

namespace AgentUpdateService

open AgentService AgentGateway ReleaseCatalogService

/-! ## The property and its condition -/

/-- If the update of an Agent is under way, its timer is armed. -/
def Watched (agentUuid : Text) (hub : Hub) : Prop :=
  underWay agentUuid hub.database = true → agentUuid ∈ hub.updateTimers

instance (agentUuid : Text) (hub : Hub) : Decidable (Watched agentUuid hub) :=
  inferInstanceAs (Decidable (_ → _))

/-- No call about an Agent is in progress. -/
def NoneInProgress (agentUuid : Text) (config : UpdateConfig) : Prop :=
  ∀ thread ∈ config.threads, thread.call.agentUuid = agentUuid → thread.result ≠ none

instance (agentUuid : Text) (config : UpdateConfig) : Decidable (NoneInProgress agentUuid config) :=
  inferInstanceAs (Decidable (∀ thread ∈ config.threads, _))

/-- In every state of a run, each Agent about which no call is in progress has the timer of
an update that is under way armed. -/
def NoStuckUpdate (release : Hub → Text → Option AgentRelease) (start : Hub)
    (moves : List UpdateMove) : Prop :=
  Each (updates release)
    (fun config input => ∀ agentUuid,
      NoneInProgress agentUuid (updates release config input).2 →
        Watched agentUuid (updates release config input).2.state)
    { state := start } moves

/-- A line of the log, or a lost connection, is recorded for an update that is still under way
when the phase is written, or that has its timer. -/
def RecordsInTime : LifecycleCall → List Hub → Hub → Prop
  | .recordProgress agentUuid _, [_], hub =>
    underWay agentUuid hub.database = true ∨ agentUuid ∈ hub.updateTimers
  | .isExpectedRestart agentUuid, [_, _], hub =>
    underWay agentUuid hub.database = true ∨ agentUuid ∈ hub.updateTimers
  | _, _, _ => True

instance : (call : LifecycleCall) → (seen : List Hub) → (hub : Hub) →
    Decidable (RecordsInTime call seen hub)
  | .recordProgress agentUuid _, [_], hub =>
    inferInstanceAs (Decidable (underWay agentUuid hub.database = true ∨ _))
  | .isExpectedRestart agentUuid, [_, _], hub =>
    inferInstanceAs (Decidable (underWay agentUuid hub.database = true ∨ _))
  | .recordProgress _ _, [], _ | .recordProgress _ _, _ :: _ :: _, _ => isTrue trivial
  | .isExpectedRestart _, [], _ | .isExpectedRestart _, [_], _
  | .isExpectedRestart _, _ :: _ :: _ :: _, _ => isTrue trivial
  | .requestUpdate _ _, _, _ | .recordFailure _ _, _, _ | .handleReconnect _ _, _, _
  | .acknowledge _, _, _ | .updateTimer _, _, _ => isTrue trivial

/-! ## What the calls do -/

section Calls

variable {agentUuid : Text} {before after hub : Hub} {may : Prop} {sound : Hub → Prop}
  {fine : List Hub → Hub → Prop} {seen : List Hub}

theorem watched_of_keeps (keeps : KeepsUpdateOf agentUuid before after)
    (watched : Watched agentUuid before) : Watched agentUuid after := by
  rw [Watched, underWay, keeps.update, keeps.timer]
  exact watched

/-- An update that has ended needs no timer. -/
theorem watched_of_settled (settled : underWay agentUuid hub.database = false) :
    Watched agentUuid hub := by
  intro flying
  rw [settled] at flying
  cases flying

theorem watched_writePhase {phase : AgentUpdatePhase} (settled : inFlight phase = false)
    {fields : AgentRow → AgentRow} {keyed : ∀ row, (fields row).agentIndex = row.agentIndex}
    (same : ∀ row, (fields row).agentUuid = row.agentUuid) (hub : Hub) :
    Watched agentUuid (writePhase agentUuid phase fields keyed hub) := by
  apply watched_of_settled
  rw [underWay, updateOf_writePhase same]
  cases hub.database.agents.findFirst fun row => row.agentUuid == agentUuid with
  | none => rfl
  | some row => exact settled

/-- Announcing a transition spoils nothing. -/
theorem tidies_announce (phase : AgentUpdatePhase) :
    Tidies may fine sound (Watched agentUuid) seen (announce agentUuid phase) :=
  (always_announce agentUuid phase).tidies fun _ _ step =>
    watched_of_keeps (keepsUpdateOf_of_announces step)

/-- The end of an update is written well, whatever the state. -/
theorem tidies_settle {phase : AgentUpdatePhase} (settled : inFlight phase = false)
    (fields : AgentRow → AgentRow) (keyed : ∀ row, (fields row).agentIndex = row.agentIndex)
    (same : ∀ row, (fields row).agentUuid = row.agentUuid) :
    Tidies may fine sound (Watched agentUuid) seen (recordPhase agentUuid phase fields keyed) := by
  rw [recordPhase_eq]
  apply tidies_step
  · exact fun hub _ _ => .inl (watched_writePhase settled same hub)
  · exact fun hub _ => tidies_announce phase

theorem mends_settle {phase : AgentUpdatePhase} (settled : inFlight phase = false)
    (fields : AgentRow → AgentRow) (keyed : ∀ row, (fields row).agentIndex = row.agentIndex)
    (same : ∀ row, (fields row).agentUuid = row.agentUuid) :
    Mends sound (Watched agentUuid) (recordPhase agentUuid phase fields keyed) := by
  rw [recordPhase_eq]
  exact mends_step (fun hub _ => watched_writePhase settled same hub) _

/-- A transition to an end, with a message. -/
theorem tidies_end {phase : AgentUpdatePhase} (settled : inFlight phase = false)
    (message : Text) :
    Tidies may fine sound (Watched agentUuid) seen (transition agentUuid phase message) := by
  rw [transition_eq]
  exact tidies_settle settled _ _ fun _ => rfl

theorem mends_end {phase : AgentUpdatePhase} (settled : inFlight phase = false)
    (message : Text) :
    Mends sound (Watched agentUuid) (transition agentUuid phase message) := by
  rw [transition_eq]
  exact mends_settle settled _ _ fun _ => rfl

/-- A phase under way is written in time. -/
theorem tidies_advance (phase : AgentUpdatePhase) (message : Text)
    (inTime : ∀ hub, fine seen hub →
      underWay agentUuid hub.database = true ∨ agentUuid ∈ hub.updateTimers) :
    Tidies may fine sound (Watched agentUuid) seen (transition agentUuid phase message) := by
  rw [transition_eq, recordPhase_eq]
  apply tidies_step
  · exact fun hub met watched => .inl fun _ => (inTime hub met).elim watched id
  · exact fun hub _ => tidies_announce phase

/-- The timer is cleared for an end that is about to be written. -/
theorem tidies_clearTimeout {rest : Unit → HubProgram Unit} (may' : may)
    (mends : Mends sound (Watched agentUuid) (rest ()))
    (later : ∀ seen, Tidies may fine sound (Watched agentUuid) seen (rest ())) :
    Tidies may fine sound (Watched agentUuid) seen (clearTimeout agentUuid >>= rest) := by
  apply tidies_step
  · exact fun hub _ _ => .inr ⟨may', mends⟩
  · exact fun hub _ => later _

theorem tidies_handleReconnect (may' : may) (reportedVersion : Option Text) :
    Tidies may fine sound (Watched agentUuid) seen
      (handleReconnect agentUuid reportedVersion) := by
  apply tidies_look
  intro hub _
  cases hub.database.agents.findFirst fun row => row.agentUuid == agentUuid with
  | none => exact tidies_pure _
  | some agent =>
    dsimp only
    split
    · apply tidies_clearTimeout may'
      · split
        · split <;> exact mends_end rfl _
        · exact mends_end rfl _
      · intro seen
        split
        · split <;> exact tidies_end rfl _
        · exact tidies_end rfl _
    · exact tidies_pure _

theorem tidies_recordFailure (may' : may) (message : Text) :
    Tidies may fine sound (Watched agentUuid) seen (recordFailure agentUuid message) := by
  apply tidies_look
  intro hub _
  cases hub.database.agents.findFirst fun row => row.agentUuid == agentUuid with
  | none => exact tidies_pure _
  | some agent =>
    dsimp only
    split
    · apply tidies_clearTimeout may'
      · exact mends_end rfl _
      · exact fun seen => tidies_end rfl _
    · exact tidies_pure _

theorem tidies_recordProgress (line : Text)
    (inTime : ∀ seen hub, fine [seen] hub →
      underWay agentUuid hub.database = true ∨ agentUuid ∈ hub.updateTimers) :
    Tidies may fine sound (Watched agentUuid) [] (recordProgress agentUuid line) := by
  apply tidies_look
  intro hub _
  cases hub.database.agents.findFirst fun row => row.agentUuid == agentUuid with
  | none => exact tidies_pure _
  | some agent =>
    dsimp only
    split
    · exact tidies_advance _ _ fun after met => inTime hub after met
    · exact tidies_pure _

theorem tidies_isExpectedRestart
    (inTime : ∀ first second hub, fine [first, second] hub →
      underWay agentUuid hub.database = true ∨ agentUuid ∈ hub.updateTimers) :
    Tidies may fine sound (Watched agentUuid) [] (isExpectedRestart agentUuid) := by
  apply tidies_look
  intro hub _
  cases hub.database.agents.findFirst fun row => row.agentUuid == agentUuid with
  | none => exact tidies_pure _
  | some agent =>
    dsimp only
    split
    · apply tidies_step
      · intro restarted _ watched
        refine .inl (watched_of_keeps ?_ watched)
        exact ((keepsUpdateOf_updateStatus _ _).next restarted).1
      · intro restarted _
        refine (tidies_advance _ _ fun after met => inTime hub restarted after met).bind ?_
        exact fun _ _ => tidies_pure _
    · exact tidies_pure _

/-- The timer has fired: an update that is still under way is ended. -/
theorem mends_expire : Mends sound (Watched agentUuid) (expire agentUuid) := by
  apply mends_look
  intro hub _
  cases found : hub.database.agents.findFirst fun row => row.agentUuid == agentUuid with
  | none =>
    refine .inl (watched_of_settled ?_)
    rw [underWay, updateOf, found]
    rfl
  | some agent =>
    dsimp only
    split
    · exact .inr ((mends_end rfl _).bind _)
    · rename_i settled
      refine .inl (watched_of_settled ?_)
      rw [underWay, updateOf, found]
      exact Bool.not_eq_true _ ▸ settled

theorem tidies_expire : Tidies may fine sound (Watched agentUuid) seen (expire agentUuid) := by
  apply tidies_look
  intro hub _
  cases hub.database.agents.findFirst fun row => row.agentUuid == agentUuid with
  | none => exact tidies_pure _
  | some agent =>
    dsimp only
    split
    · refine (tidies_end rfl _).bind fun _ seen => ?_
      apply tidies_look
      intro hub _
      split
      · exact tidies_pure _
      · exact (keepsUpdateOf_updateStatus _ _).tidies fun _ _ => watched_of_keeps
    · exact tidies_pure _

theorem tidies_updateTimer (may' : may) :
    Tidies may fine sound (Watched agentUuid) seen (updateTimer agentUuid) := by
  apply tidies_step
  · intro hub _ watched
    by_cases armed : hub.updateTimers.contains agentUuid = true
    · refine .inr ⟨may', ?_⟩
      rw [if_pos armed]
      exact mends_expire
    · refine .inl fun flying => absurd (watched flying) ?_
      exact fun inside => armed (List.contains_iff_mem.mpr inside)
  · intro hub _
    split
    · exact tidies_expire
    · exact tidies_pure _

/-- What follows the write of a request ends with the timer. -/
theorem mends_announce_arm (phase : AgentUpdatePhase) :
    Mends sound (Watched agentUuid)
      (announce agentUuid phase >>= fun _ => armTimeout agentUuid) := by
  rw [announce, findAgent, bind_assoc']
  apply mends_after
  intro hub
  apply mends_after
  intro hub'
  apply mends_last
  exact fun hub _ _ => List.mem_append_right _ List.mem_cons_self

theorem tidies_requestUpdate (release : Hub → Text → Option AgentRelease) (may' : may)
    (version : Value) :
    Tidies may fine sound (Watched agentUuid) seen
      (requestUpdate release agentUuid version) := by
  have keeps : ∀ before after, KeepsUpdateOf agentUuid before after →
      Watched agentUuid before → Watched agentUuid after := fun _ _ => watched_of_keeps
  apply tidies_orThrow
  intro text _
  apply tidies_require
  intro _
  apply (always_updatableAgent keepsUpdateOf_refl agentUuid).tidies_bind keeps
  intro agent seen
  split
  · refine (always_assertInstallable keepsUpdateOf_refl release _).tidies_bind keeps ?_
    intro _ seen
    apply tidies_step
    · intro hub _ watched
      rw [sendToAgent_frame]
      exact .inl watched
    · intro hub _
      apply tidies_require
      intro _
      rw [recordPhase_eq, bind_assoc']
      apply tidies_step
      · exact fun hub _ _ => .inr ⟨may', mends_announce_arm _⟩
      · intro hub _
        refine (tidies_announce _).bind fun _ seen => ?_
        have arms : Always (fun _ after => Watched agentUuid after) (armTimeout agentUuid) :=
          always_step fun hub _ => List.mem_append_right _ List.mem_cons_self
        exact arms.tidies fun _ _ armed _ => armed
  · exact tidies_throw _

/-- A call about an Agent mends what it spoils; one about another Agent spoils nothing. -/
theorem tidies_lifecycle (release : Hub → Text → Option AgentRelease) (call : LifecycleCall) :
    Tidies (call.agentUuid = agentUuid) (RecordsInTime call) sound (Watched agentUuid) []
      (lifecycle release call) := by
  by_cases own : call.agentUuid = agentUuid
  · subst own
    cases call with
    | requestUpdate agentUuid version => exact tidies_requestUpdate release rfl version
    | recordProgress agentUuid line => exact tidies_recordProgress line fun _ _ met => met
    | recordFailure agentUuid message => exact tidies_recordFailure rfl message
    | isExpectedRestart agentUuid =>
      refine (tidies_isExpectedRestart fun _ _ _ met => met).bind ?_
      exact fun _ _ => tidies_pure _
    | handleReconnect agentUuid reportedVersion => exact tidies_handleReconnect rfl reportedVersion
    | acknowledge agentUuid =>
      apply tidies_settle
      · rfl
      · exact fun _ => rfl
    | updateTimer agentUuid => exact tidies_updateTimer rfl
  · exact (keepsUpdateOf_lifecycle release own).tidies fun _ _ => watched_of_keeps

end Calls

/-! ## Runs -/

theorem watched_restOfHub {agentUuid : Text} {hub : Hub} (rest : RestOfHub)
    (watched : Watched agentUuid hub) : Watched agentUuid (restOfHub hub rest).2 := by
  obtain ⟨updates, timers, -⟩ := rest.keeps hub
  rcases updates agentUuid with same | ⟨-, settled⟩
  · rw [Watched, underWay, restOfHub, same, timers]
    exact watched
  · exact watched_of_settled settled

/-- No update is under way when the Hub has started. -/
theorem watched_resetStalePhases (agentUuid : Text) (hub : Hub) :
    Watched agentUuid (resetStalePhases.run hub).2 := by
  apply watched_of_settled
  have write := @updateOf_updateMany agentUuid hub.database
    (fun row => inFlight row.agentUpdatePhase) (fun row =>
      { row with
        agentUpdatePhase := .failed
        agentUpdateMessage := some "Hub가 재시작되어 업데이트 결과를 확인하지 못했습니다." })
    (fun _ => rfl) (fun _ => rfl)
  rw [underWay]
  refine (congrArg (fun update => Option.any (fun update => inFlight update.1) update) write).trans ?_
  cases hub.database.agents.findFirst fun row => row.agentUuid == agentUuid with
  | none => rfl
  | some row =>
    rw [Option.map_some, Option.any_some]
    split
    · rfl
    · rename_i settled
      exact Bool.not_eq_true _ ▸ settled

/-- In every run from the start of the Hub in which every line of a log and every lost
connection is recorded in time, no update is stuck. -/
theorem no_stuck_update (release : Hub → Text → Option AgentRelease) (hub : Hub)
    (moves : List UpdateMove)
    (inTime : Along (updates release) (Met RecordsInTime) []
      { state := (resetStalePhases.run hub).2 } moves) :
    NoStuckUpdate release (resetStalePhases.run hub).2 moves := by
  let Tidy (agentUuid : Text) (call : LifecycleCall) (seen : List Hub)
      (program : HubProgram Unit) : Prop :=
    program.Tidies (call.agentUuid = agentUuid) (RecordsInTime call) (fun _ => True)
      (Watched agentUuid) seen
  let Owner (agentUuid : Text) (call : LifecycleCall) : Prop := call.agentUuid = agentUuid
  have moved : ∀ past config input agentUuid, Attending (Tidy agentUuid) past config ∧
      Mended (Owner agentUuid) (fun _ => True) (Watched agentUuid) config →
      Met RecordsInTime past config input →
      Attending (Tidy agentUuid) (past ++ [(input, (updates release config input).1)])
          (updates release config input).2 ∧
        Mended (Owner agentUuid) (fun _ => True) (Watched agentUuid)
          (updates release config input).2 := by
    rintro past config input agentUuid ⟨attending, mended⟩ met
    constructor
    · refine attending.move (fun call => tidies_lifecycle release call) ?_ input met
      exact fun call seen effect next state tidies fine => (tidies state fine).2
    · refine mended.move attending trivial input met ?_
      exact fun rest _ => watched_restOfHub rest
  apply inTime.safe (fun past config => ∀ agentUuid, Attending (Tidy agentUuid) past config ∧
    Mended (Owner agentUuid) (fun _ => True) (Watched agentUuid) config)
  · exact fun past config input held met agentUuid =>
      moved past config input agentUuid (held agentUuid) met
  · exact fun past config input held met agentUuid none =>
      (moved past config input agentUuid (held agentUuid) met).2.well_of_ended none
  · intro agentUuid
    refine ⟨⟨rfl, fun index thread found => by simp at found⟩, .inl ?_⟩
    exact watched_resetStalePhases agentUuid hub

/-! ## A line of the log that comes late -/

/-- The update is requested, and a line of the log is about to be recorded. -/
def requestedUpdate : List UpdateMove :=
  .start (.requestUpdate "U" (.string "0.7.0")) :: List.replicate 7 (.resume 0) ++
    [.start (.recordProgress "U" "Pulling"), .resume 1]

/-- The line is recorded, and then the failure. -/
def failedUpdate : List UpdateMove :=
  requestedUpdate ++ List.replicate 3 (.resume 1) ++
    .start (.recordFailure "U" "no space left") :: List.replicate 5 (.resume 2)

/-- The failure is recorded while the line waits for the database. -/
def revivedUpdate : List UpdateMove :=
  requestedUpdate ++ .start (.recordFailure "U" "no space left") :: List.replicate 5 (.resume 2) ++
    List.replicate 2 (.resume 1) ++ [.resume 1]

theorem no_stuck_update_failed :
    NoStuckUpdate everyRelease (resetStalePhases.run updatableHub).2 failedUpdate := by
  apply no_stuck_update
  decide +kernel

/-- The line puts the failed update under way again, and its timer is gone. -/
theorem not_no_stuck_update_revived :
    ¬ NoStuckUpdate everyRelease (resetStalePhases.run updatableHub).2 revivedUpdate := by
  intro watched
  have last := ((along_append _ _).mp watched).2.1 "U"
  revert last
  decide +kernel

end AgentUpdateService

end OpticsHub
