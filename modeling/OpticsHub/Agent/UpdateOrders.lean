import OpticsHub.Agent.UpdateRuns

/-!
# One update at a time

A request for an update looks at the row of the Agent, later at the catalogue, sends the
order, and only then records that the update is under way. So two requests for one Agent
both send an order when neither has recorded its own before the other looks, and so does a
request that comes after somebody has closed an update that is still under way. In every
other run an update ends before the next one is ordered.
-/
namespace OpticsHub

open Script Async Program Machine

namespace AgentUpdateService

open AgentService AgentGateway ReleaseCatalogService

/-! ## Orders -/

/-- Whether a call is a request for an update of an Agent. -/
def LifecycleCall.requests (agentUuid : Text) : LifecycleCall → Bool
  | .requestUpdate requested _ => requested == agentUuid
  | _ => false

section Runs

variable (release : Hub → Text → Option AgentRelease)

/-- Whether a request for an update of an Agent sends the packet that orders it. -/
def orders (agentUuid : Text) (config : UpdateConfig) : UpdateMove → Bool
  | .resume index =>
    (config.threads[index]?).any fun thread => thread.call.requests agentUuid &&
      ((updates release config (.resume index)).2.state.sent.drop config.state.sent.length).any
        ordersUpdate
  | _ => false

/-- Whether a request has sent its order, after it has looked at the Agent and at the
catalogue, and has not recorded it yet. -/
def recording (agentUuid : Text) (past : List (UpdateMove × Shown Unit Hub))
    (config : UpdateConfig) (index : ℕ) : Bool :=
  (config.threads[index]?).any fun thread => thread.call.requests agentUuid &&
    thread.result.isNone && (statesMet past index thread.started).length == 3

/-- Where a run has come to. -/
abbrev reached (start : Hub) (moves : List UpdateMove) : UpdateConfig :=
  final (updates release) { state := start } moves

/-- What the next action of a call must find after the states that were met. -/
def FindsInTurn (past : List (UpdateMove × Shown Unit Hub)) (config : UpdateConfig)
    (index : ℕ) : LifecycleCall → List Hub → Prop
  | .requestUpdate agentUuid _, _ =>
    orders release agentUuid config (.resume index) = true →
      underWay agentUuid config.state.database = false ∧
        ∀ other ∈ List.range config.threads.length,
          recording agentUuid past config other = false
  | .acknowledge agentUuid, [] => underWay agentUuid config.state.database = false
  | _, _ => True

instance (past : List (UpdateMove × Shown Unit Hub)) (config : UpdateConfig) (index : ℕ) :
    (call : LifecycleCall) → (seen : List Hub) →
      Decidable (FindsInTurn release past config index call seen)
  | .requestUpdate _ _, _ => inferInstanceAs (Decidable (_ → _ ∧ _))
  | .acknowledge _, [] => inferInstanceAs (Decidable (_ = false))
  | .acknowledge _, _ :: _ => isTrue trivial
  | .recordProgress _ _, _ => isTrue trivial
  | .recordFailure _ _, _ => isTrue trivial
  | .isExpectedRestart _, _ => isTrue trivial
  | .handleReconnect _ _, _ => isTrue trivial
  | .updateTimer _, _ => isTrue trivial

/-- An order is sent only if still no update of the Agent is under way and no other request
is about to record its order, and a result is closed only if no update is under way. -/
def InTurn (past : List (UpdateMove × Shown Unit Hub)) (config : UpdateConfig) :
    UpdateMove → Prop
  | .resume index => ∀ thread ∈ config.threads[index]?,
      FindsInTurn release past config index thread.call (statesMet past index thread.started)
  | _ => True

instance (past : List (UpdateMove × Shown Unit Hub)) (config : UpdateConfig) :
    (input : UpdateMove) → Decidable (InTurn release past config input)
  | .resume index => inferInstanceAs (Decidable (∀ thread ∈ config.threads[index]?, _))
  | .start _ => isTrue trivial
  | .event _ => isTrue trivial

end Runs

/-! ## What a request does, step by step -/

section Requests

variable {release : Hub → Text → Option AgentRelease} {agentUuid : Text} {version : Value}

/-- What a request comes to that has looked at the Agent and at the catalogue: it is refused,
or it may go on with an Agent that the first look has found. -/
def Ordering (agentUuid : Text) (version : Value) (first : Hub) (rest : HubProgram Unit) : Prop :=
  (∃ error, rest = throw error) ∨
    ∃ text agent, version = .string text ∧ isTag text = true ∧
      (first.database.agents.findFirst fun row =>
        row.agentUuid == agentUuid && row.agentDeletedAt.isNone) = some agent ∧
      rest = orderUpdate agentUuid text agent

/-- The first look ends the request or finds an Agent that can be updated. -/
theorem updatableAgent_looks : ∃ later, updatableAgent agentUuid = .act id later ∧ ∀ first,
    (∃ error, later first = throw error) ∨
      ∃ agent, (first.database.agents.findFirst fun row =>
        row.agentUuid == agentUuid && row.agentDeletedAt.isNone) = some agent ∧
        later first = pure agent := by
  refine ⟨_, rfl, fun first => ?_⟩
  simp only [Program.bind, require_bind]
  cases first.database.agents.findFirst fun row =>
      row.agentUuid == agentUuid && row.agentDeletedAt.isNone with
  | none => exact .inl ⟨_, rfl⟩
  | some agent =>
    simp only [orThrow, pure_bind']
    split
    · split
      · split
        · exact .inr ⟨agent, rfl, rfl⟩
        · exact .inl ⟨_, rfl⟩
      · exact .inl ⟨_, rfl⟩
    · exact .inl ⟨_, rfl⟩

/-- The second ends it or finds that the version can be installed. -/
theorem assertInstallable_looks (text : Text) :
    ∃ later, assertInstallable release text = .act id later ∧ ∀ second,
      (∃ error, later second = throw error) ∨ ∃ found, later second = pure found := by
  refine ⟨_, rfl, fun second => ?_⟩
  simp only [Program.bind]
  cases release second text with
  | none => exact .inl ⟨_, rfl⟩
  | some found =>
    simp only [orThrow, pure_bind']
    split
    · exact .inl ⟨_, rfl⟩
    · exact .inr ⟨found, rfl⟩

/-- Two looks come before the order. -/
theorem requestUpdate_looks (first second hub : Hub) :
    (requestUpdate release agentUuid version).effect hub = hub ∧
      ((requestUpdate release agentUuid version).next first).effect hub = hub ∧
      Ordering agentUuid version first
        ((requestUpdate release agentUuid version).after [first, second]) := by
  obtain ⟨later, looks, outcome⟩ := @updatableAgent_looks agentUuid
  have refused (error : Failure) {program : HubProgram Unit} (ended : program = throw error) :
      program.effect hub = hub ∧ (program.next first).effect hub = hub ∧
        Ordering agentUuid version first (program.after [first, second]) := by
    rw [ended]
    exact ⟨rfl, rfl, .inl ⟨error, rfl⟩⟩
  cases read : version.toText with
  | none =>
    refine refused .internal ?_
    rw [requestUpdate, read]
    rfl
  | some text =>
    simp only [requestUpdate, read, orThrow, pure_bind', require_bind, looks, act_bind]
    split
    · rename_i tagged
      refine ⟨rfl, ?_⟩
      change (Program.effect (later first >>= _) hub = hub) ∧
        Ordering agentUuid version first (Program.after (later first >>= _) [second])
      rcases outcome first with ⟨error, refused⟩ | ⟨agent, found, accepted⟩
      · rw [refused]
        exact ⟨rfl, .inl ⟨error, rfl⟩⟩
      · rw [accepted, pure_bind']
        cases version with
        | string version =>
          obtain rfl : version = text := Option.some.inj read
          obtain ⟨last, checks, installable⟩ := @assertInstallable_looks release version
          simp only [checks, act_bind]
          refine ⟨rfl, ?_⟩
          change Ordering agentUuid (.string version) first (last second >>= _)
          rcases installable second with ⟨error, refused⟩ | ⟨found', passed⟩
          · rw [refused]
            exact .inl ⟨error, rfl⟩
          · rw [passed]
            exact .inr ⟨version, agent, rfl, tagged, found, rfl⟩
        | _ => exact ⟨rfl, .inl ⟨_, rfl⟩⟩
    · exact refused _ rfl

/-- The order is sent, and recorded next if there was a socket. -/
theorem orderUpdate_act (text : Text) (agent : AgentRow) :
    ∃ fields : Hub → AgentRow → AgentRow,
    ∃ keyed : ∀ hub row, (fields hub row).agentIndex = row.agentIndex,
      (∀ hub row, (fields hub row).agentUuid = row.agentUuid ∧
        (fields hub row).agentUpdateTarget = some text) ∧
      orderUpdate agentUuid text agent =
        .act (fun hub => (sendToAgent agentUuid (.updateAgent text) hub).2) fun hub =>
          if (sendToAgent agentUuid (.updateAgent text) hub).1 = true then
            .act (writePhase agentUuid .requested (fields hub) (keyed hub)) fun _ =>
              announce agentUuid .requested >>= fun _ => armTimeout agentUuid
          else throw agentIsNotConnected := by
  refine ⟨fun hub row =>
    { row with
      agentUpdateTarget := some text
      agentUpdateMessage := some (requestedMessage agent.agentVersion text)
      agentUpdateStartedAt := some hub.now }, fun _ _ => rfl, fun _ _ => ⟨rfl, rfl⟩, ?_⟩
  simp only [orderUpdate, require_bind, recordPhase_eq]
  rfl

/-- What is left of a request that has sent its order: it has been refused, or it writes the
phase next, to a row that the first look has found. -/
theorem requestUpdate_records (first second third : Hub) :
    (∃ error, (requestUpdate release agentUuid version).after [first, second, third] =
      throw error) ∨
    ∃ text fields keyed, version = .string text ∧ isTag text = true ∧
      (updateOf agentUuid first.database).isSome = true ∧
      (∀ row, (fields row).agentUuid = row.agentUuid ∧
        (fields row).agentUpdateTarget = some text) ∧
      (requestUpdate release agentUuid version).after [first, second, third] =
        (step fun hub => ((), writePhase agentUuid .requested fields keyed hub)) >>= fun _ =>
          announce agentUuid .requested >>= fun _ => armTimeout agentUuid := by
  have split : (requestUpdate release agentUuid version).after [first, second, third] =
      ((requestUpdate release agentUuid version).after [first, second]).next third :=
    after_append _ [first, second] [third]
  rw [split]
  rcases (@requestUpdate_looks release agentUuid version first second third).2.2 with
    ⟨error, refused⟩ | ⟨text, agent, rfl, tagged, found, rest⟩
  · rw [refused]
    exact .inl ⟨error, rfl⟩
  · obtain ⟨fields, keyed, same, shape⟩ := @orderUpdate_act agentUuid text agent
    rw [rest, shape]
    dsimp only [Program.next]
    split
    · refine .inr ⟨text, fields third, keyed third, rfl, tagged, ?_, same third, rfl⟩
      obtain ⟨inside, selected⟩ := Table.mem_of_findFirst found
      rw [updateOf, Option.isSome_map, Option.isSome_iff_ne_none]
      intro missing
      have other := Table.findFirst_eq_none.mp missing agent inside
      rw [(Bool.and_eq_true_iff.mp selected).1] at other
      cases other
    · exact .inl ⟨_, rfl⟩

/-- Nothing is sent by any action but the third. -/
theorem requestUpdate_silent {seen : List Hub} (other : seen.length ≠ 2) (hub : Hub) :
    (((requestUpdate release agentUuid version).after seen).effect hub).sent = hub.sent := by
  rcases seen with _ | ⟨first, _ | ⟨second, _ | ⟨third, rest⟩⟩⟩
  · exact congrArg Hub.sent (@requestUpdate_looks release agentUuid version hub hub hub).1
  · exact congrArg Hub.sent (@requestUpdate_looks release agentUuid version first hub hub).2.1
  · exact absurd rfl other
  · have split : (requestUpdate release agentUuid version).after (first :: second :: third :: rest) =
        ((requestUpdate release agentUuid version).after [first, second, third]).after rest :=
      after_append _ [first, second, third] rest
    rw [split]
    have silent : Always (fun before after : Hub => after.sent = before.sent)
        ((requestUpdate release agentUuid version).after [first, second, third]) := by
      rcases @requestUpdate_records release agentUuid version first second third with
        ⟨error, refused⟩ | ⟨text, fields, keyed, -, -, -, -, shape⟩
      · rw [refused]
        exact always_throw _
      · rw [shape]
        refine Always.bind (always_step fun hub => rfl) fun _ => ?_
        refine Always.bind ?_ fun _ => always_step fun hub => rfl
        refine (always_announce agentUuid .requested).mono ?_
        rintro before after ⟨console, rfl⟩
        rfl
    exact (silent.after rest).effect (fun _ => rfl) hub

/-- What a request sends, it goes on to record. -/
theorem requestUpdate_sends {seen : List Hub} {hub : Hub}
    (sends : ((((requestUpdate release agentUuid version).after seen).effect hub).sent.drop
      hub.sent.length).any ordersUpdate = true) :
    seen.length = 2 ∧
      (((requestUpdate release agentUuid version).after seen).next hub).finished = false := by
  have silent {program : HubProgram Unit} (kept : (program.effect hub).sent = hub.sent) :
      ((program.effect hub).sent.drop hub.sent.length).any ordersUpdate = false := by
    rw [kept, List.drop_length]
    rfl
  by_cases third : seen.length = 2
  · refine ⟨third, ?_⟩
    obtain ⟨first, second, rfl⟩ := List.length_eq_two.mp third
    rcases (@requestUpdate_looks release agentUuid version first second hub).2.2 with
      ⟨error, refused⟩ | ⟨text, agent, rfl, tagged, found, rest⟩
    · rw [refused] at sends
      rw [silent rfl] at sends
      cases sends
    · obtain ⟨fields, keyed, same, shape⟩ := @orderUpdate_act agentUuid text agent
      rw [rest, shape] at sends ⊢
      dsimp only [Program.next]
      split
      · rfl
      · rename_i unsent
        rw [silent ?_] at sends
        · cases sends
        · change (sendToAgent agentUuid (.updateAgent text) hub).2.sent = hub.sent
          revert unsent
          rw [sendToAgent]
          split
          · exact fun _ => rfl
          · split
            · exact fun unsent => absurd rfl unsent
            · exact fun _ => rfl
  · rw [silent (requestUpdate_silent third hub)] at sends
    cases sends

end Requests

/-! ## What is known in a run -/

section Known

variable {release : Hub → Text → Option AgentRelease} {agentUuid : Text}
  {past : List (UpdateMove × Shown Unit Hub)} {config : UpdateConfig}

/-- An Agent that has been there is there, and every call is where the states that it has met
have brought it. -/
structure Followed (release : Hub → Text → Option AgentRelease)
    (past : List (UpdateMove × Shown Unit Hub)) (config : UpdateConfig) : Prop where
  following : Following (lifecycle release) past config
  known : ∀ agentUuid, ∀ event ∈ past, (updateOf agentUuid event.2.watched.database).isSome = true →
    (updateOf agentUuid config.state.database).isSome = true

/-- What a move does to an update: nothing, unless the Agent is new or a call about it writes
a phase. -/
theorem Followed.update (followed : Followed release past config) (agentUuid : Text)
    (input : UpdateMove) :
    updateOf agentUuid (updates release config input).2.state.database =
        updateOf agentUuid config.state.database ∨
      (updateOf agentUuid config.state.database = none ∧
        underWay agentUuid (updates release config input).2.state.database = false) ∨
      ∃ index thread phase, input = .resume index ∧ config.threads[index]? = some thread ∧
        thread.call.agentUuid = agentUuid ∧ thread.call.records phase = true ∧
        updateOf agentUuid (updates release config input).2.state.database =
          (updateOf agentUuid config.state.database).map fun update =>
            (phase, thread.call.retarget update.2) := by
  cases input with
  | start call => exact .inl rfl
  | event rest =>
    exact ((rest.keeps config.state).updates agentUuid).imp id .inl
  | resume index =>
    cases found : config.threads[index]? with
    | none =>
      refine .inl ?_
      rw [(move_idle fun thread here => absurd (found.symm.trans here) (by simp)).1]
    | some thread =>
      rw [move_effect found, (followed.following.2 index thread found).2]
      have advances := ((advances_lifecycle release thread.call agentUuid).after
        (statesMet past index thread.started)).effect (fun _ => .inl rfl) config.state
      refine advances.imp id fun written => .inr ?_
      obtain ⟨own, phase, records, same⟩ := written
      exact ⟨index, thread, phase, rfl, found, own, records, same⟩

theorem Followed.move (followed : Followed release past config) (input : UpdateMove) :
    Followed release (past ++ [(input, (updates release config input).1)])
      (updates release config input).2 := by
  refine ⟨followed.following.move input, fun agentUuid event inside there => ?_⟩
  have before : (updateOf agentUuid config.state.database).isSome = true := by
    rcases List.mem_append.mp inside with earlier | last
    · exact followed.known agentUuid event earlier there
    · rw [List.mem_singleton.mp last, move_watched] at there
      exact there
  rcases followed.update agentUuid input with same | ⟨missing, -⟩ | ⟨_, _, _, -, -, -, -, same⟩
  · rw [same]
    exact before
  · rw [missing] at before
    cases before
  · rw [same, Option.isSome_map]
    exact before

theorem followed_start (release : Hub → Text → Option AgentRelease) (start : Hub) :
    Followed release [] { state := start } :=
  ⟨⟨rfl, fun index thread found => by simp at found⟩, fun _ _ inside => by simp at inside⟩

/-- This is known wherever a run comes to. -/
theorem followed_reached (release : Hub → Text → Option AgentRelease) (start : Hub)
    (moves : List UpdateMove) :
    Followed release (trace (updates release) { state := start } moves)
      (reached release start moves) := by
  induction moves using List.reverseRecOn with
  | nil => exact followed_start release start
  | append_singleton moves last ih =>
    rw [trace_append, reached, final_append]
    exact ih.move last

theorem requests_iff {call : LifecycleCall} :
    call.requests agentUuid = true ↔ ∃ version, call = .requestUpdate agentUuid version := by
  constructor
  · intro requests
    cases call with
    | requestUpdate requested version =>
      obtain rfl : requested = agentUuid := beq_iff_eq.mp requests
      exact ⟨version, rfl⟩
    | _ => cases requests
  · rintro ⟨version, rfl⟩
    exact beq_self_eq_true agentUuid

theorem recording_iff {index : ℕ} : recording agentUuid past config index = true ↔
    ∃ thread, config.threads[index]? = some thread ∧
      thread.call.requests agentUuid = true ∧ thread.result = none ∧
      (statesMet past index thread.started).length = 3 := by
  rw [recording]
  cases config.threads[index]? with
  | none => simp
  | some thread =>
    simp only [Option.any_some, Bool.and_eq_true, Option.isNone_iff_eq_none, beq_iff_eq,
      Option.some.injEq, exists_eq_left', and_assoc]

/-- The result of a call that has not come to its end. -/
theorem result_eq_none {thread : Thread LifecycleCall Hub Failure Unit}
    (running : thread.program.finished = false) : thread.result = none := by
  obtain ⟨call, program, started, ended⟩ := thread
  cases program with
  | done result => cases running
  | act effect next => rfl

/-- A request that sends its order is about to record it. -/
theorem Followed.recording_of_orders (followed : Followed release past config)
    {input : UpdateMove} (ordered : orders release agentUuid config input = true) :
    ∃ index, input = .resume index ∧ recording agentUuid
      (past ++ [(input, (updates release config input).1)]) (updates release config input).2
        index = true := by
  cases input with
  | resume index =>
    refine ⟨index, rfl, recording_iff.mpr ?_⟩
    rw [orders, Option.any_eq_true] at ordered
    obtain ⟨thread, found, ordered⟩ := ordered
    obtain ⟨requests, sends⟩ := Bool.and_eq_true_iff.mp ordered
    obtain ⟨version, call⟩ := requests_iff.mp requests
    obtain ⟨inTime, brought⟩ := followed.following.2 index thread found
    rw [call] at brought
    obtain ⟨after, found', call', started, rest⟩ := move_thread found (.resume index)
    rw [Move.resumes, beq_self_eq_true, if_pos rfl, brought] at rest
    refine ⟨after, found', call' ▸ requests, ?_⟩
    rw [started, statesMet_move _ inTime, Move.resumes, beq_self_eq_true, if_pos rfl,
      List.length_append, List.length_singleton]
    rw [move_effect found, brought] at sends
    obtain ⟨third, goesOn⟩ := requestUpdate_sends sends
    exact ⟨result_eq_none (rest ▸ goesOn), congrArg (· + 1) third⟩
  | start call => cases ordered
  | event rest => cases ordered

/-- When a request records its order, the update is under way. -/
theorem Followed.records (followed : Followed release past config) {index : ℕ}
    (recorded : recording agentUuid past config index = true) :
    ∃ thread text, config.threads[index]? = some thread ∧
      thread.call = .requestUpdate agentUuid (.string text) ∧ isTag text = true ∧
      updateOf agentUuid (updates release config (.resume index)).2.state.database =
        some (.requested, some text) := by
  obtain ⟨thread, found, requests, running, met⟩ := recording_iff.mp recorded
  obtain ⟨version, call⟩ := requests_iff.mp requests
  obtain ⟨inTime, brought⟩ := followed.following.2 index thread found
  rw [call] at brought
  obtain ⟨first, second, third, seen⟩ := List.length_eq_three.mp met
  rw [seen] at brought
  rcases @requestUpdate_records release agentUuid version first second third with
    ⟨error, refused⟩ | ⟨text, fields, keyed, rfl, tagged, there, same, shape⟩
  · rw [Thread.result, brought.trans refused] at running
    cases running
  · refine ⟨thread, text, found, call, tagged, ?_⟩
    have known : (updateOf agentUuid config.state.database).isSome = true := by
      have met : first ∈ statesMet past index thread.started := by
        rw [seen]
        exact List.mem_cons_self
      obtain ⟨event, inside, rfl⟩ := List.mem_map.mp (statesMet_subset _ _ met)
      exact followed.known agentUuid event inside there
    rw [move_effect found, brought.trans shape]
    change updateOf agentUuid (writePhase agentUuid .requested fields keyed config.state).database
      = _
    rw [updateOf_writePhase fun row => (same row).1]
    rw [updateOf, Option.isSome_map] at known
    obtain ⟨row, present⟩ := Option.isSome_iff_exists.mp known
    rw [present, Option.map_some, (same row).2]

/-- A request stays about to record its order while others move. -/
theorem Followed.recording_move (followed : Followed release past config) {index : ℕ}
    (recorded : recording agentUuid past config index = true) {input : UpdateMove}
    (other : input.resumes index = false) :
    recording agentUuid (past ++ [(input, (updates release config input).1)])
      (updates release config input).2 index = true := by
  obtain ⟨thread, found, requests, running, met⟩ := recording_iff.mp recorded
  obtain ⟨after, found', call, started, rest⟩ := move_thread found input
  rw [other, if_neg Bool.false_ne_true] at rest
  refine recording_iff.mpr ⟨after, found', call ▸ requests, ?_, ?_⟩
  · rw [Thread.result, rest]
    exact running
  · rw [started, statesMet_move _ (followed.following.2 index thread found).1, other,
      if_neg Bool.false_ne_true, List.append_nil]
    exact met

end Known

/-! ## From one order to the next -/

section Between

variable {release : Hub → Text → Option AgentRelease} {agentUuid : Text}
  {past : List (UpdateMove × Shown Unit Hub)} {config : UpdateConfig}

theorem underWay_iff {database : Database} : underWay agentUuid database = true ↔
    ∃ update, updateOf agentUuid database = some update ∧ inFlight update.1 = true :=
  Option.any_eq_true _ _

end Between

end AgentUpdateService

end OpticsHub
