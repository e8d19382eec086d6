import OpticsHub.Agent.UpdateOrders
import OpticsHub.Agent.StuckUpdates

/-!
# How an update ends

The Hub learns how an update has ended from the Agent: from the version that it reports
when it registers again, or from the report that the update has failed. Both are read
against the phase in the row of the Agent. A report is lost when it comes before the
request has recorded the order, and it is overwritten when something that was decided
before it is written after it. Once the order is recorded the row has the phase of an
update under way, or the result, with the version that was requested. What comes in time
leaves that as it is.
-/
namespace OpticsHub

open Script Async Program Machine

namespace AgentUpdateService

open AgentService AgentGateway ReleaseCatalogService

/-! ## Reports -/

/-- The phase of the update of an Agent. -/
def phaseOf (agentUuid : Text) (hub : Hub) : Option AgentUpdatePhase :=
  (updateOf agentUuid hub.database).map Prod.fst

/-- The version that a call has requested. -/
def requestedVersion (config : UpdateConfig) (index : ℕ) : Option Text :=
  (config.threads[index]?).bind fun thread =>
    match thread.call with
    | .requestUpdate _ (.string version) => some version
    | _ => none

/-- Whether a call has come to its end. -/
def hasEnded (config : UpdateConfig) (index : ℕ) : Bool :=
  (config.threads[index]?).any fun thread => thread.result.isSome

/-- Whether a call has ended without an exception. -/
def hasSucceeded (config : UpdateConfig) (index : ℕ) : Bool :=
  (config.threads[index]?).any fun thread =>
    match thread.result with
    | some (.ok _) => true
    | _ => false

/-- Whether an Agent reports the version that is the target of its update. -/
def reportsTarget (agentUuid : Text) (reportedVersion : Option Text) (database : Database) :
    Bool :=
  match reportedVersion with
  | some (unit :: units) =>
    (updateOf agentUuid database).any fun update => update.2 == some (unit :: units)
  | _ => false

/-- Whether a call can be made while nothing but lines of the log, lost connections,
failures and timeouts come. -/
def isFailing : LifecycleCall → Bool
  | .recordProgress _ _ | .recordFailure _ _ | .isExpectedRestart _ | .updateTimer _ => true
  | _ => false

/-- Whether a call can be made while nothing but lines of the log, lost connections and
registrations come. -/
def isRestarting : LifecycleCall → Bool
  | .recordProgress _ _ | .isExpectedRestart _ | .handleReconnect _ _ => true
  | _ => false

section Properties

variable (release : Hub → Text → Option AgentRelease) (start : Hub) (agentUuid : Text)
  (first : List UpdateMove) (request : ℕ) (before : List UpdateMove)

/-- Where a run has come to that has gone on after the order of a request. -/
abbrev onwards (later : List UpdateMove) : UpdateConfig :=
  reached release start (first ++ .resume request :: later)

/-- A failure that is reported after the order, in a run with no later registration, result
that is closed, or request, is the result when the request and the report have ended. -/
def FailureReported (message : Text) (after : List UpdateMove) : Prop :=
  orders release agentUuid (reached release start first) (.resume request) = true →
  (∀ call, Move.start call ∈ before ++ after → call.agentUuid = agentUuid →
    isFailing call = true) →
  hasEnded (onwards release start first request
    (before ++ .start (.recordFailure agentUuid message) :: after)) request = true →
  hasEnded (onwards release start first request
    (before ++ .start (.recordFailure agentUuid message) :: after))
    (onwards release start first request before).threads.length = true →
  phaseOf agentUuid (onwards release start first request
    (before ++ .start (.recordFailure agentUuid message) :: after)).state = some .failed

/-- A registration that reports the version of a request that has succeeded, and that is the
last one, in a run in which there is no other request, result that is closed, failure, or
timeout after the order, makes the update succeed in the end. -/
def SuccessReported (version : Text) (after : List UpdateMove) : Prop :=
  orders release agentUuid (reached release start first) (.resume request) = true →
  requestedVersion (reached release start first) request = some version →
  (∀ call, Move.start call ∈ before ++ after → call.agentUuid = agentUuid →
    isRestarting call = true) →
  (∀ reported, Move.start (.handleReconnect agentUuid reported) ∉ after) →
  hasSucceeded (onwards release start first request
    (before ++ .start (.handleReconnect agentUuid (some version)) :: after)) request = true →
  NoneInProgress agentUuid (onwards release start first request
    (before ++ .start (.handleReconnect agentUuid (some version)) :: after)) →
  phaseOf agentUuid (onwards release start first request
    (before ++ .start (.handleReconnect agentUuid (some version)) :: after)).state =
      some .succeeded

end Properties

/-! ## In time -/

/-- What a call must find that is about to write the phase: the update is still under way, or
the version that it has decided about is the target. -/
def WritesInTime : LifecycleCall → List Hub → Hub → Prop
  | .recordProgress agentUuid _, [_], hub => underWay agentUuid hub.database = true
  | .isExpectedRestart agentUuid, [_, _], hub => underWay agentUuid hub.database = true
  | .handleReconnect agentUuid reportedVersion, [looked, _], _ =>
    reportsTarget agentUuid reportedVersion looked.database = true
  | _, _, _ => True

instance : (call : LifecycleCall) → (seen : List Hub) → (hub : Hub) →
    Decidable (WritesInTime call seen hub)
  | .recordProgress agentUuid _, [_], hub =>
    inferInstanceAs (Decidable (underWay agentUuid hub.database = true))
  | .isExpectedRestart agentUuid, [_, _], hub =>
    inferInstanceAs (Decidable (underWay agentUuid hub.database = true))
  | .handleReconnect agentUuid reportedVersion, [looked, _], _ =>
    inferInstanceAs (Decidable (reportsTarget agentUuid reportedVersion looked.database = true))
  | .recordProgress _ _, [], _ => isTrue trivial
  | .recordProgress _ _, _ :: _ :: _, _ => isTrue trivial
  | .isExpectedRestart _, [], _ => isTrue trivial
  | .isExpectedRestart _, [_], _ => isTrue trivial
  | .isExpectedRestart _, _ :: _ :: _ :: _, _ => isTrue trivial
  | .handleReconnect _ _, [], _ => isTrue trivial
  | .handleReconnect _ _, [_], _ => isTrue trivial
  | .handleReconnect _ _, _ :: _ :: _ :: _, _ => isTrue trivial
  | .requestUpdate _ _, _, _ => isTrue trivial
  | .recordFailure _ _, _, _ => isTrue trivial
  | .acknowledge _, _, _ => isTrue trivial
  | .updateTimer _, _, _ => isTrue trivial

/-- After an order, only the request itself and calls of some kind act on the Agent, they
write in time, and the call that closes the update looks at it when no order is about to be
recorded. -/
def ActsInTime (kind : LifecycleCall → Bool) (agentUuid : Text) (request closing : ℕ)
    (past : List (UpdateMove × Shown Unit Hub)) (config : UpdateConfig) : UpdateMove → Prop
  | .resume index => ∀ thread ∈ config.threads[index]?, thread.result = none →
      (thread.call.agentUuid = agentUuid → index = request ∨ kind thread.call = true) ∧
      WritesInTime thread.call (statesMet past index thread.started) config.state ∧
      (index = closing → (statesMet past index thread.started).length = 0 →
        ∀ other ∈ List.range config.threads.length,
          recording agentUuid past config other = false)
  | _ => True

instance (kind : LifecycleCall → Bool) (agentUuid : Text) (request closing : ℕ)
    (past : List (UpdateMove × Shown Unit Hub)) (config : UpdateConfig) :
    (input : UpdateMove) → Decidable (ActsInTime kind agentUuid request closing past config input)
  | .resume index => inferInstanceAs (Decidable (∀ thread ∈ config.threads[index]?, _))
  | .start _ => isTrue trivial
  | .event _ => isTrue trivial

/-- In time after the order of a request, up to the end of a run in which a call that closes
the update starts at some place. -/
def InTimeAfter (kind : LifecycleCall → Bool) (release : Hub → Text → Option AgentRelease)
    (start : Hub) (agentUuid : Text) (first : List UpdateMove) (request : ℕ)
    (before : List UpdateMove) (call : LifecycleCall) (after : List UpdateMove) : Prop :=
  Along (updates release)
    (ActsInTime kind agentUuid request (onwards release start first request before).threads.length)
    (trace (updates release) { state := start } (first ++ [.resume request]))
    (onwards release start first request []) (before ++ .start call :: after)

instance (kind : LifecycleCall → Bool) (release : Hub → Text → Option AgentRelease)
    (start : Hub) (agentUuid : Text) (first : List UpdateMove) (request : ℕ)
    (before : List UpdateMove) (call : LifecycleCall) (after : List UpdateMove) :
    Decidable (InTimeAfter kind release start agentUuid first request before call after) :=
  inferInstanceAs (Decidable (Along _ _ _ _ _))

/-! ## An update with its target -/

section Held

variable {goal : AgentUpdatePhase} {agentUuid version : Text} {before after hub : Hub}

/-- The update of an Agent to a version is under way, or it has come to the goal. -/
def Held (goal : AgentUpdatePhase) (agentUuid version : Text) (hub : Hub) : Prop :=
  ∃ phase, updateOf agentUuid hub.database = some (phase, some version) ∧
    (inFlight phase = true ∨ phase = goal)

/-- It has come to the goal. -/
def Concluded (goal : AgentUpdatePhase) (agentUuid version : Text) (hub : Hub) : Prop :=
  updateOf agentUuid hub.database = some (goal, some version)

/-- The update goes on, or stays at the goal. -/
structure Carries (goal : AgentUpdatePhase) (agentUuid version : Text) (before after : Hub) :
    Prop where
  held : Held goal agentUuid version before → Held goal agentUuid version after
  concluded : Concluded goal agentUuid version before → Concluded goal agentUuid version after

theorem Concluded.held (concluded : Concluded goal agentUuid version hub) :
    Held goal agentUuid version hub :=
  ⟨goal, concluded, .inr rfl⟩

theorem carries_refl (hub : Hub) : Carries goal agentUuid version hub hub := ⟨id, id⟩

theorem Carries.trans {third : Hub} (first : Carries goal agentUuid version before after)
    (second : Carries goal agentUuid version after third) :
    Carries goal agentUuid version before third :=
  ⟨fun held => second.held (first.held held),
    fun concluded => second.concluded (first.concluded concluded)⟩

theorem carries_of_same
    (same : updateOf agentUuid after.database = updateOf agentUuid before.database) :
    Carries goal agentUuid version before after := by
  constructor
  · rintro ⟨phase, update, open'⟩
    exact ⟨phase, same.trans update, open'⟩
  · exact fun concluded => same.trans concluded

/-- A write of the goal, or of a phase under way to an update that is still under way. -/
theorem carries_of_write (settled : inFlight goal = false) {phase : AgentUpdatePhase}
    (written : updateOf agentUuid after.database =
      (updateOf agentUuid before.database).map fun update => (phase, update.2))
    (may : phase = goal ∨
      inFlight phase = true ∧ underWay agentUuid before.database = true) :
    Carries goal agentUuid version before after := by
  constructor
  · rintro ⟨phase', update, -⟩
    refine ⟨phase, ?_, may.symm.imp And.left id⟩
    rw [written, update, Option.map_some]
  · intro concluded
    rcases may with rfl | ⟨-, flying⟩
    · rw [Concluded, written, concluded, Option.map_some]
    · obtain ⟨update, present, open'⟩ := underWay_iff.mp flying
      rw [concluded] at present
      obtain rfl := Option.some.inj present
      rw [settled] at open'
      cases open'

/-! ## Calls in time -/

variable {release : Hub → Text → Option AgentRelease}

/-- What a transition does first, as its Agent sees it. -/
theorem updateOf_transition (phase : AgentUpdatePhase) (message : Text) (hub : Hub) :
    updateOf agentUuid ((transition agentUuid phase message).effect hub).database =
      (updateOf agentUuid hub.database).map fun update => (phase, update.2) := by
  rw [transition_eq, recordPhase_eq]
  change updateOf agentUuid (writePhase agentUuid phase _ _ hub).database = _
  refine (updateOf_writePhase ?_ hub).trans ?_
  · exact fun _ => rfl
  · rw [updateOf, Option.map_map]
    rfl

/-- A registration that has found its version to be the target writes that the update has
succeeded. -/
theorem handleReconnect_succeeds {reportedVersion : Option Text} {looked : Hub} (cleared : Hub)
    (reports : reportsTarget agentUuid reportedVersion looked.database = true) (hub : Hub) :
    let after := ((handleReconnect agentUuid reportedVersion).after [looked, cleared]).effect hub
    updateOf agentUuid after.database = updateOf agentUuid hub.database ∨
      updateOf agentUuid after.database =
        (updateOf agentUuid hub.database).map fun update => (.succeeded, update.2) := by
  dsimp only
  rw [handleReconnect, findAgent, look, after_cons, next_step_bind]
  cases found : looked.database.agents.findFirst fun row => row.agentUuid == agentUuid with
  | none => exact .inl rfl
  | some agent =>
    dsimp only
    split
    · rw [after_cons, after_nil, clearTimeout, next_step_bind]
      cases reportedVersion with
      | none => cases reports
      | some reported =>
        cases reported with
        | nil => cases reports
        | cons unit units =>
          rw [reportsTarget, updateOf, found, Option.map_some, Option.any_some,
            beq_iff_eq] at reports
          have target : agent.agentUpdateTarget = some (unit :: units) := reports
          rw [target]
          dsimp only
          rw [if_pos rfl]
          exact .inr (updateOf_transition _ _ hub)
    · exact .inl rfl

/-- Lines of the log and lost connections that are recorded in time, whatever the goal. -/
theorem carries_advance (settled : inFlight goal = false) {call : LifecycleCall} {seen : List Hub}
    (flying : seen.length = call.writesAt → underWay agentUuid hub.database = true)
    (advances : ∀ phase, call.records phase = true → inFlight phase = true)
    (kept : ∀ target, call.retarget target = target) :
    Carries goal agentUuid version hub
      (((lifecycle release call).after seen).effect hub) := by
  by_cases time : seen.length = call.writesAt
  · rcases ((advances_lifecycle release call agentUuid).after seen).effect
      (fun _ => .inl rfl) hub with same | ⟨-, phase, records, written⟩
    · exact carries_of_same same
    · simp only [kept] at written
      exact carries_of_write settled written (.inr ⟨advances phase records, flying time⟩)
  · exact carries_of_same (updateOf_other_action time hub agentUuid)

theorem carries_recordProgress (settled : inFlight goal = false) {seen : List Hub} {line : Text}
    (inTime : WritesInTime (.recordProgress agentUuid line) seen hub) :
    Carries goal agentUuid version hub
      (((lifecycle release (.recordProgress agentUuid line)).after seen).effect hub) := by
  refine carries_advance settled (fun time => ?_) (fun _ records => records) fun _ => rfl
  obtain ⟨looked, rfl⟩ := List.length_eq_one_iff.mp time
  exact inTime

theorem carries_isExpectedRestart (settled : inFlight goal = false) {seen : List Hub}
    (inTime : WritesInTime (.isExpectedRestart agentUuid) seen hub) :
    Carries goal agentUuid version hub
      (((lifecycle release (.isExpectedRestart agentUuid)).after seen).effect hub) := by
  refine carries_advance settled (fun time => ?_) (fun phase records => ?_) fun _ => rfl
  · obtain ⟨looked, lowered, rfl⟩ := List.length_eq_two.mp time
    exact inTime
  · obtain rfl : phase = .restarting := beq_iff_eq.mp records
    rfl

/-- A call that writes nothing but the goal. -/
theorem carries_goal (settled : inFlight goal = false) {call : LifecycleCall} (seen : List Hub)
    (closes : ∀ phase, call.records phase = true → phase = goal)
    (kept : ∀ target, call.retarget target = target) :
    Carries goal agentUuid version hub
      (((lifecycle release call).after seen).effect hub) := by
  rcases ((advances_lifecycle release call agentUuid).after seen).effect
    (fun _ => .inl rfl) hub with same | ⟨-, phase, records, written⟩
  · exact carries_of_same same
  · simp only [kept] at written
    exact carries_of_write settled written (.inl (closes phase records))

theorem carries_handleReconnect {reportedVersion : Option Text} {seen : List Hub}
    (inTime : WritesInTime (.handleReconnect agentUuid reportedVersion) seen hub) :
    Carries .succeeded agentUuid version hub
      (((lifecycle release (.handleReconnect agentUuid reportedVersion)).after seen).effect hub) := by
  by_cases time : seen.length = 2
  · obtain ⟨looked, cleared, rfl⟩ := List.length_eq_two.mp time
    rcases handleReconnect_succeeds cleared inTime hub with same | written
    · exact carries_of_same same
    · exact carries_of_write rfl written (.inl rfl)
  · exact carries_of_same (updateOf_other_action time hub agentUuid)

/-- While calls of some kind act in time, an update is carried on to a goal. -/
def CarriesAll (release : Hub → Text → Option AgentRelease) (kind : LifecycleCall → Bool)
    (goal : AgentUpdatePhase) (agentUuid version : Text) : Prop :=
  ∀ call seen hub, call.agentUuid = agentUuid → kind call = true → WritesInTime call seen hub →
    Carries goal agentUuid version hub (((lifecycle release call).after seen).effect hub)

theorem carriesAll_failing : CarriesAll release isFailing .failed agentUuid version := by
  rintro call seen hub rfl kind inTime
  cases call with
  | recordProgress agentUuid line => exact carries_recordProgress rfl inTime
  | isExpectedRestart agentUuid => exact carries_isExpectedRestart rfl inTime
  | recordFailure agentUuid message =>
    exact carries_goal rfl seen (fun _ records => beq_iff_eq.mp records) fun _ => rfl
  | updateTimer agentUuid =>
    exact carries_goal rfl seen (fun _ records => beq_iff_eq.mp records) fun _ => rfl
  | _ => cases kind

theorem carriesAll_restarting :
    CarriesAll release isRestarting .succeeded agentUuid version := by
  rintro call seen hub rfl kind inTime
  cases call with
  | recordProgress agentUuid line => exact carries_recordProgress rfl inTime
  | isExpectedRestart agentUuid => exact carries_isExpectedRestart rfl inTime
  | handleReconnect agentUuid reportedVersion => exact carries_handleReconnect inTime
  | _ => cases kind

/-! ## The call that closes the update -/

/-- From a state in which the update is held, a transition to the goal comes to it, whatever
carries the update on meanwhile. -/
theorem withstands_transition (held : Held goal agentUuid version hub) (message : Text) :
    Withstands (Carries goal agentUuid version) (fun _ _ => True)
      (fun _ => Concluded goal agentUuid version) (transition agentUuid goal message) hub := by
  rw [transition_eq, recordPhase_eq]
  refine (withstands_bind _ _).mpr fun after carries => ⟨trivial, ?_⟩
  refine (always_announce agentUuid goal).withstands_keeping ?_ ?_ ?_
  · intro before after announces concluded
    exact (keepsUpdateOf_of_announces announces).update.trans concluded
  · exact fun before after carries => carries.concluded
  · obtain ⟨phase, update, -⟩ := carries.held held
    have written := @updateOf_transition agentUuid goal message after
    rw [update, Option.map_some] at written
    exact written

/-- A call that comes to the goal once it has looked at the Agent. -/
def Closes (release : Hub → Text → Option AgentRelease) (call : LifecycleCall)
    (goal : AgentUpdatePhase) (agentUuid version : Text) : Prop :=
  ∀ hub, (lifecycle release call).finished = false ∧
    (lifecycle release call).effect hub = hub ∧
    (Held goal agentUuid version hub →
      ((lifecycle release call).next hub).Withstands (Carries goal agentUuid version)
        (fun _ _ => True) (fun _ => Concluded goal agentUuid version) hub)

/-- The phase of an update that is held, as a call finds it in the row. -/
theorem Held.row (held : Held goal agentUuid version hub) :
    ∃ agent, (hub.database.agents.findFirst fun row => row.agentUuid == agentUuid) = some agent ∧
      agent.agentUpdateTarget = some version ∧
      (inFlight agent.agentUpdatePhase = false → Concluded goal agentUuid version hub) := by
  obtain ⟨phase, update, open'⟩ := held
  obtain ⟨agent, found, same⟩ := Option.map_eq_some_iff.mp update
  obtain ⟨rfl, target⟩ := Prod.mk.inj same
  refine ⟨agent, found, target, fun settled => ?_⟩
  rcases open' with flying | rfl
  · rw [settled] at flying
    cases flying
  · exact update

/-- The timer is cleared before the transition. -/
theorem withstands_clearTimeout (held : Held goal agentUuid version hub) (message : Text) :
    Withstands (Carries goal agentUuid version) (fun _ _ => True)
      (fun _ => Concluded goal agentUuid version)
      (clearTimeout agentUuid >>= fun _ => transition agentUuid goal message) hub := by
  refine (withstands_bind _ _).mpr fun after carries => ⟨trivial, ?_⟩
  refine withstands_transition ?_ message
  exact carries.held held

theorem closes_recordFailure (message : Text) :
    Closes release (.recordFailure agentUuid message) .failed agentUuid version := by
  refine fun hub => ⟨rfl, rfl, fun held => ?_⟩
  obtain ⟨agent, found, -, settled⟩ := held.row
  change Withstands _ _ _ (Program.next (recordFailure agentUuid message) hub) hub
  rw [recordFailure, findAgent, look, next_step_bind, found]
  dsimp only
  split
  · exact withstands_clearTimeout held _
  · rename_i ended
    exact settled (Bool.not_eq_true _ ▸ ended)

theorem closes_handleReconnect (named : version ≠ []) :
    Closes release (.handleReconnect agentUuid (some version)) .succeeded agentUuid version := by
  refine fun hub => ⟨rfl, rfl, fun held => ?_⟩
  obtain ⟨agent, found, target, settled⟩ := held.row
  change Withstands _ _ _ (Program.next (handleReconnect agentUuid (some version)) hub) hub
  rw [handleReconnect, findAgent, look, next_step_bind, found]
  dsimp only
  split
  · cases version with
    | nil => exact absurd rfl named
    | cons unit units =>
      rw [target]
      dsimp only
      rw [if_pos rfl]
      exact withstands_clearTimeout held _
  · rename_i ended
    exact settled (Bool.not_eq_true _ ▸ ended)

end Held

/-! ## Runs after an order -/

section Runs

variable {release : Hub → Text → Option AgentRelease} {goal : AgentUpdatePhase}
  {agentUuid version : Text} {kind : LifecycleCall → Bool} {request closing : ℕ}
  {past : List (UpdateMove × Shown Unit Hub)} {config : UpdateConfig}

/-- The request of an order has recorded it. -/
def Recorded (agentUuid version : Text) (request : ℕ)
    (past : List (UpdateMove × Shown Unit Hub)) (config : UpdateConfig) : Prop :=
  ∃ thread, config.threads[request]? = some thread ∧
    thread.call = .requestUpdate agentUuid (.string version) ∧
    3 < (statesMet past request thread.started).length

theorem Followed.recorded_move (followed : Followed release past config)
    (recorded : Recorded agentUuid version request past config) (input : UpdateMove) :
    Recorded agentUuid version request
      (past ++ [(input, (updates release config input).1)]) (updates release config input).2 := by
  obtain ⟨thread, found, call, written⟩ := recorded
  obtain ⟨after, found', call', started, -⟩ := move_thread found input
  refine ⟨after, found', call'.trans call, ?_⟩
  rw [started, statesMet_move input (followed.following.2 request thread found).1,
    List.length_append]
  exact Nat.lt_of_lt_of_le written (Nat.le_add_right _ _)

/-- What has been ordered and recorded is carried on by every move in time. -/
theorem Followed.carries (followed : Followed release past config)
    (all : CarriesAll release kind goal agentUuid version)
    (recorded : Recorded agentUuid version request past config) (input : UpdateMove)
    (inTime : ActsInTime kind agentUuid request closing past config input) :
    Carries goal agentUuid version config.state (updates release config input).2.state := by
  cases input with
  | start call => exact carries_refl config.state
  | event rest =>
    rcases (rest.keeps config.state).updates agentUuid with same | ⟨missing, -⟩
    · exact carries_of_same same
    · have none {update : AgentUpdatePhase × Option Text}
          (present : updateOf agentUuid config.state.database = some update) : False := by
        rw [missing] at present
        cases present
      exact ⟨fun held => (none held.choose_spec.1).elim, fun there => (none there).elim⟩
  | resume index =>
    cases found : config.threads[index]? with
    | none =>
      refine carries_of_same ?_
      rw [(move_idle fun thread here => absurd (found.symm.trans here) (by simp)).1]
    | some acting =>
      rw [move_effect found]
      by_cases running : acting.result = none
      · rw [(followed.following.2 index acting found).2]
        by_cases own : acting.call.agentUuid = agentUuid
        · by_cases same : index = request
          · subst same
            obtain ⟨thread, requested, call, written⟩ := recorded
            obtain rfl := Option.some.inj (found.symm.trans requested)
            refine carries_of_same (updateOf_other_action ?_ config.state agentUuid)
            rw [call]
            exact Nat.ne_of_gt written
          · obtain ⟨may, writes, -⟩ := inTime acting found running
            exact all _ _ _ own ((may own).resolve_left same) writes
        · have keeps := ((keepsUpdateOf_lifecycle release own).after
            (statesMet past index acting.started)).effect keepsUpdateOf_refl config.state
          exact carries_of_same keeps.update
      · rw [Thread.effect_of_ended running]
        exact carries_refl config.state

/-- The request of an order is about to record it, or it has, and the update is held. -/
def Ordered (goal : AgentUpdatePhase) (agentUuid version : Text) (request : ℕ)
    (past : List (UpdateMove × Shown Unit Hub)) (config : UpdateConfig) : Prop :=
  (requestedVersion config request = some version ∧
    recording agentUuid past config request = true) ∨
  (Recorded agentUuid version request past config ∧ Held goal agentUuid version config.state)

theorem requestedVersion_move (known : requestedVersion config request = some version)
    (input : UpdateMove) :
    requestedVersion (updates release config input).2 request = some version := by
  obtain ⟨thread, found, named⟩ := Option.bind_eq_some_iff.mp known
  obtain ⟨after, found', call, -⟩ := move_thread found input
  rw [requestedVersion, found', Option.bind_some, call]
  exact named

theorem Followed.ordered_move (followed : Followed release past config)
    (all : CarriesAll release kind goal agentUuid version)
    (ordered : Ordered goal agentUuid version request past config) (input : UpdateMove)
    (inTime : ActsInTime kind agentUuid request closing past config input) :
    Ordered goal agentUuid version request
      (past ++ [(input, (updates release config input).1)]) (updates release config input).2 := by
  rcases ordered with ⟨known, recording'⟩ | ⟨recorded, held⟩
  · cases resumed : input.resumes request with
    | false =>
      exact .inl ⟨requestedVersion_move known input, followed.recording_move recording' resumed⟩
    | true =>
      cases input with
      | resume index =>
        obtain rfl : index = request := beq_iff_eq.mp resumed
        obtain ⟨thread, text, found, call, -, update⟩ := followed.records recording'
        rw [requestedVersion, found, Option.bind_some, call] at known
        obtain rfl := Option.some.inj known
        refine .inr ⟨?_, _, update, .inl rfl⟩
        obtain ⟨_, here, -, -, three⟩ := recording_iff.mp recording'
        obtain rfl := Option.some.inj (found.symm.trans here)
        obtain ⟨after, found', call', started, -⟩ := move_thread found (.resume index)
        refine ⟨after, found', call'.trans call, ?_⟩
        rw [started, statesMet_move _ (followed.following.2 index thread found).1,
          List.length_append, three, resumed, if_pos rfl]
        exact Nat.lt_succ_self 3
      | start call => cases resumed
      | event rest => cases resumed
  · refine .inr ⟨followed.recorded_move recorded input, ?_⟩
    exact (followed.carries all recorded input inTime).held held

/-- The call that closes the update has not looked at the Agent, or it is on its way to the
goal, from an update that was recorded. -/
def Closing (goal : AgentUpdatePhase) (agentUuid version : Text) (call : LifecycleCall)
    (request closing : ℕ) (past : List (UpdateMove × Shown Unit Hub)) (config : UpdateConfig) :
    Prop :=
  ∃ thread, config.threads[closing]? = some thread ∧ thread.call = call ∧
    ((statesMet past closing thread.started).length = 0 ∨
      Recorded agentUuid version request past config ∧
      thread.program.Withstands (Carries goal agentUuid version) (fun _ _ => True)
        (fun _ => Concluded goal agentUuid version) config.state)

theorem Followed.closing_start (followed : Followed release past config) (call : LifecycleCall) :
    Closing goal agentUuid version call request config.threads.length
      (past ++ [(.start call, (updates release config (.start call)).1)])
      (updates release config (.start call)).2 := by
  refine ⟨_, List.getElem?_concat_length, rfl, .inl ?_⟩
  change (statesMet _ _ config.moves).length = 0
  rw [followed.following.1, statesMet_started _ _ call rfl]
  rfl

theorem Followed.closing_move (followed : Followed release past config)
    (all : CarriesAll release kind goal agentUuid version) {call : LifecycleCall}
    (closes : Closes release call goal agentUuid version)
    (ordered : Ordered goal agentUuid version request past config)
    (closingCall : Closing goal agentUuid version call request closing past config)
    (input : UpdateMove)
    (inTime : ActsInTime kind agentUuid request closing past config input) :
    Closing goal agentUuid version call request closing
      (past ++ [(input, (updates release config input).1)]) (updates release config input).2 := by
  obtain ⟨thread, found, rfl, state⟩ := closingCall
  obtain ⟨inPast, brought⟩ := followed.following.2 closing thread found
  obtain ⟨after, found', call', started, rest⟩ := move_thread found input
  refine ⟨after, found', call', ?_⟩
  rw [started, statesMet_move input inPast, List.length_append, rest]
  cases resumed : input.resumes closing with
  | false =>
    rw [if_neg Bool.false_ne_true, if_neg Bool.false_ne_true]
    refine state.imp id fun onItsWay => ?_
    obtain ⟨recorded, withstands⟩ := onItsWay
    refine ⟨followed.recorded_move recorded input, ?_⟩
    refine withstands.rest Carries.trans ?_ (followed.carries all recorded input inTime)
    exact fun _ _ _ concluded carries => carries.concluded concluded
  | true =>
    cases input with
    | resume index =>
      obtain rfl : index = closing := beq_iff_eq.mp resumed
      rw [move_effect found]
      refine .inr ?_
      rcases state with fresh | ⟨recorded, withstands⟩
      · rw [List.eq_nil_of_length_eq_zero fresh, after_nil] at brought
        obtain ⟨looks, starts, closed⟩ := closes config.state
        obtain ⟨-, -, none⟩ := inTime thread found (result_eq_none (brought ▸ looks))
        rcases ordered with ⟨-, recording'⟩ | ⟨recorded, held⟩
        · obtain ⟨thread', found', -⟩ := recording_iff.mp recording'
          have inside := (List.getElem?_eq_some_iff.mp found').1
          rw [none rfl fresh request (List.mem_range.mpr inside)] at recording'
          cases recording'
        · refine ⟨followed.recorded_move recorded (.resume index), ?_⟩
          rw [if_pos rfl, brought, starts]
          exact closed held
      · refine ⟨followed.recorded_move recorded (.resume index), ?_⟩
        rw [if_pos rfl]
        exact withstands.next (carries_refl config.state)
    | start call => cases resumed
    | event rest => cases resumed

/-- After an order the request is about to record it, with the version that it names. -/
theorem recording_onwards {start : Hub} {first : List UpdateMove}
    (ordered : orders release agentUuid (reached release start first) (.resume request) = true) :
    recording agentUuid (trace (updates release) { state := start } (first ++ [.resume request]))
        (onwards release start first request []) request = true ∧
      ∃ text, isTag text = true ∧
        requestedVersion (onwards release start first request []) request = some text := by
  have followed := followed_reached release start first
  obtain ⟨index, same, recording'⟩ := followed.recording_of_orders ordered
  injection same with same
  subst same
  rw [onwards, reached, trace_append, final_append]
  refine ⟨recording', ?_⟩
  obtain ⟨thread, text, found, call, tagged, -⟩ :=
    (followed.move (.resume request)).records recording'
  refine ⟨text, tagged, ?_⟩
  change requestedVersion (updates release (reached release start first) _).2 request = some text
  rw [requestedVersion, found, Option.bind_some, call]

/-- A call that closes an update after its order, and acts in time, has brought it to the goal
when it has ended. -/
theorem concluded_of_closed {start : Hub} {first before after : List UpdateMove}
    {call : LifecycleCall} (all : CarriesAll release kind goal agentUuid version)
    (closes : Closes release call goal agentUuid version)
    (ordered : orders release agentUuid (reached release start first) (.resume request) = true)
    (known : requestedVersion (onwards release start first request []) request = some version)
    (inTime : InTimeAfter kind release start agentUuid first request before call after)
    (ended : ∀ thread, (onwards release start first request
      (before ++ .start call :: after)).threads[(onwards release start first request
        before).threads.length]? = some thread → thread.call = call → thread.result ≠ none) :
    Concluded goal agentUuid version
      (onwards release start first request (before ++ .start call :: after)).state := by
  have later (moves : List UpdateMove) : onwards release start first request moves =
      final (updates release) (onwards release start first request []) moves := by
    rw [onwards, ← List.singleton_append, ← List.append_assoc]
    exact final_append _ _ _ _
  obtain ⟨early, here, late⟩ := (along_append _ _).mp inTime
  obtain ⟨followed, ordered'⟩ := early.invariant
    (fun past config => Followed release past config ∧
      Ordered goal agentUuid version request past config)
    (fun past config input held inTime =>
      ⟨held.1.move input, held.1.ordered_move all held.2 input inTime⟩)
    ⟨followed_reached release start (first ++ [.resume request]),
      .inl ⟨known, (recording_onwards ordered).1⟩⟩
  rw [← later before] at here late followed ordered'
  obtain ⟨followed', -, thread, found, own, state⟩ := late.invariant
    (fun past config => Followed release past config ∧
      Ordered goal agentUuid version request past config ∧
      Closing goal agentUuid version call request
        (onwards release start first request before).threads.length past config)
    (fun past config input held inTime =>
      ⟨held.1.move input, held.1.ordered_move all held.2.1 input inTime,
        held.1.closing_move all closes held.2.1 held.2.2 input inTime⟩)
    ⟨followed.move (.start call), followed.ordered_move all ordered' (.start call) here,
      followed.closing_start call⟩
  have whole : onwards release start first request (before ++ .start call :: after) =
      final (updates release)
        (updates release (onwards release start first request before) (.start call)).2 after := by
    rw [later, final_append, ← later]
    rfl
  rw [whole] at ended ⊢
  have ending := ended thread found own
  rcases state with fresh | ⟨-, withstands⟩
  · have brought := (followed'.following.2 _ thread found).2
    rw [List.eq_nil_of_length_eq_zero fresh, after_nil, own] at brought
    exact absurd (result_eq_none (brought ▸ (closes start).1)) ending
  · obtain ⟨_, program, _, _⟩ := thread
    cases program with
    | done result => exact withstands
    | act effect next => exact absurd rfl ending

end Runs

/-- A failure is reported by every call that takes its place in time. -/
theorem failure_reported (release : Hub → Text → Option AgentRelease) (start : Hub)
    (agentUuid message : Text) (first : List UpdateMove) (request : ℕ)
    (before after : List UpdateMove)
    (inTime : InTimeAfter isFailing release start agentUuid first request before
      (.recordFailure agentUuid message) after) :
    FailureReported release start agentUuid first request before message after := by
  intro ordered _ _ ended
  obtain ⟨-, version, -, known⟩ := recording_onwards ordered
  have concluded := concluded_of_closed carriesAll_failing (closes_recordFailure message) ordered
    known inTime ?_
  · rw [phaseOf, concluded, Option.map_some]
  · intro thread found _ running
    rw [hasEnded, found, Option.any_some, running] at ended
    cases ended

/-- A request looks at the Agent and at the catalogue. -/
def aboutToOrder : List UpdateMove :=
  [.start (.requestUpdate "U" (.string "0.7.0")), .resume 0, .resume 0]

theorem failure_reported_recorded :
    FailureReported everyRelease updatableHub "U" aboutToOrder 0 (List.replicate 4 (.resume 0))
      "no space left" (List.replicate 5 (.resume 1)) := by
  apply failure_reported
  decide +kernel

/-- The failure is reported before the order is recorded. -/
theorem not_failure_reported_early :
    ¬ FailureReported everyRelease updatableHub "U" aboutToOrder 0 [] "no space left"
      (.resume 1 :: List.replicate 4 (.resume 0)) := by
  intro reported
  have phase := reported (by decide +kernel) (fun call inside => by simp at inside)
    (by decide +kernel) (by decide +kernel)
  revert phase
  decide +kernel

/-- The last registration decides. -/
theorem success_reported (release : Hub → Text → Option AgentRelease) (start : Hub)
    (agentUuid version : Text) (first : List UpdateMove) (request : ℕ)
    (before after : List UpdateMove)
    (inTime : InTimeAfter isRestarting release start agentUuid first request before
      (.handleReconnect agentUuid (some version)) after) :
    SuccessReported release start agentUuid first request before version after := by
  intro ordered requested _ _ _ ended
  obtain ⟨-, text, tagged, known⟩ := recording_onwards ordered
  have same := @requestedVersion_move release version request _ requested (.resume request)
  have last : onwards release start first request [] =
      (updates release (reached release start first) (.resume request)).2 :=
    final_append _ _ _ _
  rw [last, same] at known
  obtain rfl := Option.some.inj known
  have named : version ≠ [] := by
    rintro rfl
    cases tagged
  have concluded := concluded_of_closed carriesAll_restarting (closes_handleReconnect named)
    ordered (last ▸ same) inTime ?_
  · rw [phaseOf, concluded, Option.map_some]
  · rintro thread found own
    refine ended thread (List.mem_of_getElem? found) ?_
    rw [own]
    rfl

/-- The request ends, the connection is lost, and the Agent registers with its version. -/
def restarted (reportedVersion : Text) : List UpdateMove :=
  List.replicate 4 (.resume 0) ++
    .start (.isExpectedRestart "U") :: List.replicate 5 (.resume 1) ++
    .start (.handleReconnect "U" (some reportedVersion)) :: List.replicate 5 (.resume 2)

theorem success_reported_twice :
    SuccessReported everyRelease updatableHub "U" aboutToOrder 0 (restarted "0.7.0") "0.7.0"
      [.resume 3] := by
  apply success_reported
  decide +kernel

/-- The Agent registers once with its old version while it fetches the new one. -/
theorem not_success_reported_early :
    ¬ SuccessReported everyRelease updatableHub "U" aboutToOrder 0 (restarted "0.6.0") "0.7.0"
      [.resume 3] := by
  intro reported
  have kind (call : LifecycleCall) (inside : Move.start call ∈ restarted "0.6.0" ++ [.resume 3])
      (_ : call.agentUuid = "U") : isRestarting call = true := by
    simp [restarted] at inside
    rcases inside with rfl | rfl <;> rfl
  have phase := reported (by decide +kernel) (by decide +kernel) kind
    (fun version inside => by simp at inside) (by decide +kernel) (by decide +kernel)
  revert phase
  decide +kernel

end AgentUpdateService

end OpticsHub
