import OpticsHub.Workspaces.LinkCalls

/-!
# Serial orders for overlapping calls

The calls that have ended are explained by the order of their writes, with a call that
fails at the place of its look. A call that is midway is alone with the agent, and what
is left of it does what the whole of it would have done in the serial state. A move of a
call keeps this as long as the call is not disturbed, so that in the end a serial order
explains them all.
-/
namespace OpticsHub

open Script Async Program Machine

namespace WorkspaceService

open AgentService AgentGateway

/-! ## Runs -/

section Runs

/-- Every call is at a stage, and those that have ended are explained by an order. The one
that is midway is the one on its way. -/
structure InTurn (start : Hub) (past : List (LinkInput × LinkOutput)) (config : LinkState)
    (order : List LinkCall) (owner : Option ℕ) : Prop where
  framed : Framed start.database config.state.database
  coupled : Coupled config.state.database
  base : Framed start.database (serial linkProgram start order).2.database
  moves : config.moves = past.length
  stage : ∀ index thread, config.threads[index]? = some thread → thread.result = none →
    thread.started ≤ past.length ∧
      Stage start.database config.state.database thread.call
        (actionsTaken past index thread.started) thread.program
  explained : Explained linkProgram SameHub start config order owner
  midway : ∀ index, owner = some index ↔ Midway past config index

variable {start : Hub} {past : List (LinkInput × LinkOutput)} {config config' : LinkState}
  {order : List LinkCall} {owner : Option ℕ} {event : LinkInput × LinkOutput}

theorem inTurn_start (coupled : Coupled start.database) :
    InTurn start [] { state := start } [] none where
  framed := ⟨rfl, rfl⟩
  coupled := coupled
  base := ⟨rfl, rfl⟩
  moves := rfl
  stage := fun _ _ found => by simp at found
  explained := ⟨List.Perm.refl _, sameHub_equivalence.refl start⟩
  midway := fun _ => iff_of_false nofun fun ⟨_, found, _⟩ => by simp at found

/-- A call that is not the one that moves is where it was. -/
theorem midway_of_ne {other : ℕ} (found : config'.threads[other]? = config.threads[other]?)
    (moved : event.1.resumes other = false)
    (started : ∀ thread, config.threads[other]? = some thread → thread.result = none →
      thread.started ≤ past.length) :
    Midway (past ++ [event]) config' other ↔ Midway past config other := by
  rw [Midway, Midway, found]
  refine exists_congr fun thread => and_congr_right fun here => and_congr_right fun running => ?_
  rw [actionsTaken_append (started thread here running), moved]
  rfl

/-- A new call, or a move that does nothing. -/
theorem InTurn.idle (turn : InTurn start past config order owner)
    (states : config'.state = config.state) (moves : config'.moves = config.moves + 1)
    (threads : config'.threads = config.threads)
    (idle : ∀ index thread, config.threads[index]? = some thread → thread.result = none →
      event.1.resumes index = false) :
    InTurn start (past ++ [event]) config' order owner := by
  have taken {index : ℕ} {thread : Thread LinkCall Hub Failure LinkReply}
      (found : config.threads[index]? = some thread) (running : thread.result = none) :
      actionsTaken (past ++ [event]) index thread.started =
        actionsTaken past index thread.started := by
    rw [actionsTaken_append (turn.stage index thread found running).1, idle index thread found
      running]
    rfl
  constructor
  · rw [states]
    exact turn.framed
  · rw [states]
    exact turn.coupled
  · exact turn.base
  · rw [moves, turn.moves, List.length_append, List.length_singleton]
  · intro index thread found running
    rw [threads] at found
    obtain ⟨started, stage⟩ := turn.stage index thread found running
    rw [states, taken found running, List.length_append]
    exact ⟨by omega, stage⟩
  · have before := turn.explained
    refine ⟨by rw [threads]; exact before.results, ?_⟩
    have present := before.present
    cases owner with
    | none => rwa [Present, states]
    | some owner => rwa [Present, states, threads]
  · intro index
    rw [turn.midway index, Midway, Midway, threads]
    refine exists_congr fun thread => and_congr_right fun found => and_congr_right fun running => ?_
    rw [taken found running]

/-- A new call is at its first stage. -/
theorem InTurn.starts (turn : InTurn start past config order owner) {call : LinkCall}
    (states : config'.state = config.state) (moves : config'.moves = config.moves + 1)
    (threads : config'.threads = config.threads ++
      [Thread.continue call (linkProgram call) config.moves config.moves])
    (other : ∀ index, event.1.resumes index = false) :
    InTurn start (past ++ [event]) config' order owner := by
  have running : (linkProgram call).finished = false := by cases call <;> rfl
  have cases_found {index : ℕ} {thread : Thread LinkCall Hub Failure LinkReply}
      (found : config'.threads[index]? = some thread) :
      config.threads[index]? = some thread ∨
        thread = Thread.continue call (linkProgram call) config.moves config.moves := by
    rw [threads, List.getElem?_append] at found
    split at found
    · exact .inl found
    · exact .inr (List.mem_singleton.mp (List.mem_of_getElem? found))
  have kept {index : ℕ} {thread : Thread LinkCall Hub Failure LinkReply}
      (found : config.threads[index]? = some thread) : config'.threads[index]? = some thread := by
    rw [threads, List.getElem?_append_left (List.getElem?_eq_some_iff.mp found).1, found]
  have taken {index : ℕ} {thread : Thread LinkCall Hub Failure LinkReply}
      (found : config.threads[index]? = some thread) (open' : thread.result = none) :
      actionsTaken (past ++ [event]) index thread.started =
        actionsTaken past index thread.started := by
    rw [actionsTaken_append (turn.stage index thread found open').1, other]
    rfl
  have fresh (index : ℕ) : actionsTaken (past ++ [event]) index config.moves = 0 := by
    rw [actionsTaken_append turn.moves.le, other, turn.moves, actionsTaken, List.drop_length]
    rfl
  constructor
  · rw [states]
    exact turn.framed
  · rw [states]
    exact turn.coupled
  · exact turn.base
  · rw [moves, turn.moves, List.length_append, List.length_singleton]
  · intro index thread found open'
    rw [states, List.length_append]
    rcases cases_found found with before | rfl
    · obtain ⟨started, stage⟩ := turn.stage index thread before open'
      rw [taken before open']
      exact ⟨by omega, stage⟩
    · refine ⟨?_, ?_⟩
      · change config.moves ≤ _
        rw [turn.moves]
        omega
      · change Stage _ _ call (actionsTaken (past ++ [event]) index config.moves) (linkProgram call)
        rw [fresh]
        exact .fresh call
  · exact turn.explained.call_starts running states threads
  · intro index
    rw [turn.midway index]
    constructor
    · rintro ⟨thread, found, open', late⟩
      exact ⟨thread, kept found, open', by rwa [taken found open']⟩
    · rintro ⟨thread, found, open', late⟩
      rcases cases_found found with before | rfl
      · exact ⟨thread, before, open', by rwa [taken before open'] at late⟩
      · change call.writesAfter < actionsTaken (past ++ [event]) index config.moves at late
        rw [fresh] at late
        omega

/-- A call that has not ended takes an action. What is left of it is at the next stage, and
the stages of the others do not notice. -/
theorem InTurn.acts (turn : InTurn start past config order owner) {index : ℕ}
    {thread : Thread LinkCall Hub Failure LinkReply} {order' : List LinkCall} {owner' : Option ℕ}
    (found : config.threads[index]? = some thread) (running : thread.result = none)
    (resumed : ∀ other, event.1.resumes other = (index == other))
    (moves : config'.moves = config.moves + 1)
    (threads : config'.threads = config.threads.set index
      (Thread.continue thread.call (thread.program.next config.state) thread.started config.moves))
    (framed : Framed start.database config'.state.database)
    (coupled : Coupled config'.state.database)
    (base : Framed start.database (serial linkProgram start order').2.database)
    (next : (thread.program.next config.state).finished = true ∨
      Stage start.database config'.state.database thread.call
        (actionsTaken past index thread.started + 1) (thread.program.next config.state))
    (others : config'.state.database = config.state.database ∨
      ∀ other, other ≠ index → ¬ Midway past config other)
    (explained : Explained linkProgram SameHub start config' order' owner')
    (own : owner' = some index ↔ (thread.program.next config.state).finished = false ∧
      thread.call.writesAfter < actionsTaken past index thread.started + 1)
    (foreign : ∀ other, other ≠ index → (owner' = some other ↔ Midway past config other)) :
    InTurn start (past ++ [event]) config' order' owner' := by
  have inside : index < config.threads.length := (List.getElem?_eq_some_iff.mp found).1
  have here : config'.threads[index]? = some (Thread.continue thread.call
      (thread.program.next config.state) thread.started config.moves) := by
    rw [threads, List.getElem?_set_self inside]
  have elsewhere {other : ℕ} (differs : other ≠ index) :
      config'.threads[other]? = config.threads[other]? := by
    rw [threads, List.getElem?_set_ne differs.symm]
  have started := (turn.stage index thread found running).1
  have taken : actionsTaken (past ++ [event]) index thread.started =
      actionsTaken past index thread.started + 1 := by
    rw [actionsTaken_append started, resumed, beq_self_eq_true]
    rfl
  have unmoved {other : ℕ} (differs : other ≠ index) : event.1.resumes other = false := by
    rw [resumed]
    exact beq_eq_false_iff_ne.mpr differs.symm
  have result (rest : HubProgram LinkReply) (started moves : ℕ) :
      (Thread.continue thread.call rest started moves).result = none ↔ rest.finished = false := by
    cases rest <;> simp [Thread.continue, Thread.result, Program.finished]
  constructor
  · exact framed
  · exact coupled
  · exact base
  · rw [moves, turn.moves, List.length_append, List.length_singleton]
  · intro other thread' found' running'
    rw [List.length_append]
    by_cases differs : other = index
    · subst differs
      obtain rfl := Option.some.inj (here.symm.trans found')
      rw [result] at running'
      refine ⟨Nat.le_add_right_of_le started, ?_⟩
      change Stage _ _ thread.call (actionsTaken (past ++ [event]) other thread.started)
        (thread.program.next config.state)
      rw [taken]
      refine next.resolve_left fun finished => ?_
      rw [finished] at running'
      cases running'
    · rw [elsewhere differs] at found'
      obtain ⟨started', stage⟩ := turn.stage other thread' found' running'
      refine ⟨Nat.le_add_right_of_le started', ?_⟩
      rw [actionsTaken_append started', unmoved differs]
      rcases others with same | alone
      · rwa [same]
      · apply stage.before_write
        by_contra late
        exact alone other differs ⟨thread', found', running', Nat.lt_of_not_le late⟩
  · exact explained
  · intro other
    by_cases differs : other = index
    · subst differs
      rw [own, Midway, here]
      constructor
      · rintro ⟨goes, late⟩
        refine ⟨_, rfl, (result _ _ _).mpr goes, ?_⟩
        change thread.call.writesAfter < actionsTaken (past ++ [event]) other thread.started
        rwa [taken]
      · rintro ⟨thread', same, running', late⟩
        obtain rfl := Option.some.inj same
        refine ⟨(result _ _ _).mp running', ?_⟩
        rwa [← taken]
    · rw [foreign other differs]
      refine (midway_of_ne (elsewhere differs) (unmoved differs) ?_).symm
      exact fun thread' found' running' => (turn.stage other thread' found' running').1

/-- Nobody is on the way when nobody is midway. -/
theorem InTurn.alone (turn : InTurn start past config order owner)
    (nobody : ∀ index, ¬ Midway past config index) :
    owner = none ∧ SameHub config.state (serial linkProgram start order).2 := by
  have present := turn.explained.present
  cases owner with
  | none => exact ⟨rfl, present⟩
  | some owner => exact absurd ((turn.midway owner).mp rfl) (nobody owner)

/-- The base that a call which ends leaves behind. -/
theorem framed_orderAfter {call : LinkCall} {rest : HubProgram LinkReply} {base : Database}
    (before : Framed base (serial linkProgram start order).2.database)
    (ends : ∀ result, rest = .done result →
      Framed base ((linkProgram call).run (serial linkProgram start order).2).2.database) :
    Framed base (serial linkProgram start (orderAfter order call rest)).2.database := by
  cases rest with
  | done result =>
    rw [orderAfter, serial_append]
    exact ends result rfl
  | act effect next => exact before

theorem not_midway {index : ℕ} {thread : Thread LinkCall Hub Failure LinkReply}
    (found : config.threads[index]? = some thread)
    (early : actionsTaken past index thread.started ≤ thread.call.writesAfter) :
    ¬ Midway past config index := by
  rintro ⟨thread', found', -, late⟩
  obtain rfl := Option.some.inj (found.symm.trans found')
  omega

theorem linking_resume {index : ℕ} {thread : Thread LinkCall Hub Failure LinkReply}
    (found : config.threads[index]? = some thread) (running : thread.result = none) :
    (linking config (.resume index)).2.state = thread.program.effect config.state ∧
      (linking config (.resume index)).2.threads = config.threads.set index
        (Thread.continue thread.call (thread.program.next config.state) thread.started
          config.moves) :=
  move_resume found running

/-- A move of a call that is not disturbed keeps the order, and a call that writes leaves
the agents of other workspaces alone. -/
theorem InTurn.resume (turn : InTurn start past config order owner)
    (distinct : DistinctCodes start.database) {index : ℕ}
    {thread : Thread LinkCall Hub Failure LinkReply}
    (found : config.threads[index]? = some thread) (running : thread.result = none)
    (undisturbed : Undisturbed past config (.resume index)) :
    (∃ order' owner', InTurn start (past ++ [(.resume index, (linking config (.resume index)).1)])
        (linking config (.resume index)).2 order' owner') ∧
      ∀ workspaceIdx, thread.call.workspace = some workspaceIdx →
        ∀ row ∈ config.state.database.agents, row.agentParentWorkspace ≠ none →
          row.agentParentWorkspace ≠ some workspaceIdx →
          row ∈ (linking config (.resume index)).2.state.database.agents := by
  obtain ⟨states, threads⟩ := linking_resume found running
  obtain ⟨started, stage⟩ := turn.stage index thread found running
  obtain ⟨others, accepted⟩ := undisturbed thread found running
  rcases Nat.lt_trichotomy (actionsTaken past index thread.started) thread.call.writesAfter with
    early | here | late
  · -- the call looks: nothing changes, and if it ends, it has the result of a call alone
    obtain ⟨quiet, next⟩ := stage.look turn.framed distinct
      (Nat.le_of_lt_succ early)
    rw [quiet] at states
    have midway := not_midway found early.le
    have unowned : owner ≠ some index := fun own => midway ((turn.midway index).mp own)
    have ends : ∀ result, thread.program.next config.state = .done result →
        (linkProgram thread.call).run (serial linkProgram start order).2 =
          (result, (serial linkProgram start order).2) := by
      intro result done
      rcases next with ⟨goes, -⟩ | ⟨result', done', whole⟩
      · rw [done] at goes
        cases goes
      · obtain rfl : result' = result := by
          rw [done] at done'
          exact (Program.done.inj done').symm
        refine whole _ turn.base fun looking => ?_
        have nobody (other : ℕ) : ¬ Midway past config other := by
          by_cases differs : other = index
          · rwa [differs]
          · exact others looking.ge other differs
        exact (turn.alone nobody).2.database
    refine ⟨⟨orderAfter order thread.call (thread.program.next config.state), owner, ?_⟩, ?_⟩
    · refine turn.acts found running (fun _ => rfl) (move_moves _) threads ?_ ?_ ?_ ?_
        (.inl (by rw [states])) ?_ ?_ fun other _ => turn.midway other
      · rw [states]
        exact turn.framed
      · rw [states]
        exact turn.coupled
      · exact framed_orderAfter turn.base fun result done => by
          rw [ends result done]
          exact turn.base
      · rw [states]
        rcases next with ⟨-, stage⟩ | ⟨result, done, -⟩
        · exact .inr stage
        · exact .inl (by rw [done]; rfl)
      · exact turn.explained.aside sameHub_equivalence respects_linkProgram found running unowned
          states threads fun result done => .of_eq sameHub_equivalence (ends result done)
      · exact iff_of_false unowned fun late => absurd late.2 (by omega)
    · intro workspaceIdx _ row inside _ _
      rwa [states]
  · -- the call writes: it takes its place in the order
    have looking : thread.call.looksAfter ≤ actionsTaken past index thread.started := by
      rw [here, LinkCall.writesAfter]
      omega
    have nobody (other : ℕ) : ¬ Midway past config other := by
      by_cases differs : other = index
      · rw [differs]
        exact not_midway found here.le
      · exact others looking other differs
    obtain ⟨rfl, same⟩ := turn.alone nobody
    have writes := stage.write turn.framed turn.coupled distinct here
      (accepted here)
    have outcome : SameOutcome SameHub
        ((thread.program.next config.state).run (linking config (.resume index)).2.state)
        ((linkProgram thread.call).run (serial linkProgram start order).2) := by
      rw [states, Program.run_next]
      exact writes.whole.trans sameHub_equivalence (respects_linkProgram thread.call _ _ same)
    have keeps := writes.keeps
    rw [← states] at keeps
    refine ⟨⟨_, _, turn.acts found running (fun _ => rfl) (move_moves _) threads keeps.framed
      keeps.coupled ?_ ?_ (.inr (others looking))
      (turn.explained.take found running threads outcome) ?_ ?_⟩, keeps.own⟩
    · refine framed_orderAfter turn.base fun result done => ?_
      rw [done] at outcome
      have after := outcome.2.database
      rw [after]
      exact keeps.framed
    · rw [states]
      exact writes.next
    · cases thread.program.next config.state with
      | done result => exact iff_of_false (fun own => by cases own) fun late => Bool.noConfusion late.1
      | act effect next => exact iff_of_true rfl ⟨rfl, by omega⟩
    · intro other differs
      refine iff_of_false ?_ (nobody other)
      cases thread.program.next config.state with
      | done result => exact fun running => by cases running
      | act effect next => exact fun own => differs (Option.some.inj own).symm
  · -- the call is on its way
    have own : owner = some index := (turn.midway index).mpr ⟨thread, found, running, late⟩
    subst own
    obtain ⟨thread', found', -, before⟩ := turn.explained.present
    obtain rfl := Option.some.inj (found.symm.trans found')
    obtain ⟨keeps, next⟩ := stage.close turn.framed turn.coupled late
    have outcome : SameOutcome SameHub
        ((thread.program.next config.state).run (linking config (.resume index)).2.state)
        ((linkProgram thread.call).run (serial linkProgram start order).2) := by
      rw [states, Program.run_next]
      exact before
    rw [← states] at keeps next
    have alone (other : ℕ) (differs : other ≠ index) : ¬ Midway past config other := fun midway =>
      differs (Option.some.inj ((turn.midway other).mpr midway)).symm
    refine ⟨⟨_, _, turn.acts found running (fun _ => rfl) (move_moves _) threads keeps.framed
      keeps.coupled ?_ next (.inr alone)
      (turn.explained.take found running threads outcome) ?_ ?_⟩, keeps.own⟩
    · refine framed_orderAfter turn.base fun result done => ?_
      rw [done] at outcome
      have after := outcome.2.database
      rw [after]
      exact keeps.framed
    · cases thread.program.next config.state with
      | done result => exact iff_of_false (fun own => by cases own) fun late => Bool.noConfusion late.1
      | act effect next => exact iff_of_true rfl ⟨rfl, by omega⟩
    · intro other differs
      refine iff_of_false ?_ (alone other differs)
      cases thread.program.next config.state with
      | done result => exact fun running => by cases running
      | act effect next => exact fun own => differs (Option.some.inj own).symm

/-- The agent with a code is asked for or linked. -/
def Bound (database : Database) (agentCode : Text) : Prop :=
  ∃ row, (database.agents.findFirst fun row => row.agentCode == agentCode) = some row ∧
    row.agentConnection ≠ .unlinked

/-- An agent that is asked for is bound. -/
theorem bound_written {database : Database} {agentCode : Text} {row : AgentRow}
    {parent : Option ℕ}
    (present : (database.agents.findFirst fun row => row.agentCode == agentCode) = some row) :
    Bound (written database row (relink .requested parent) fun _ => rfl) agentCode := by
  refine ⟨relink .requested parent row, ?_, nofun⟩
  refine (@Table.findFirst_updateMany _ _ database.agents _ (relink .requested parent)
    (fun _ => rfl) _ fun _ => rfl).trans ?_
  rw [present, Option.map_some, if_pos (beq_self_eq_true _)]

theorem request_bound {hub : Hub} {owner : Int32} {workspaceIdx : ℕ} {code name : Text}
    (bound : Bound hub.database code.toUpperCase) :
    wp (linkProgram (.request owner workspaceIdx code name)) (fun _ _ => False)
      (fun _ after => after.database = hub.database) hub := by
  obtain ⟨row, found, connection⟩ := bound
  simp only [linkProgram, asRequested, requestConnectWorkspaceAndAgent, requestAgent, wp_bind,
    wp_look, wp_orThrow, findAgent, freeAgent, wp_require, wp_pure, found]
  refine ⟨fun _ _ => ⟨fun other same => ⟨fun first => ⟨fun second => ?_, fun _ => trivial⟩,
    fun _ => trivial⟩, fun _ => trivial⟩, fun _ => trivial⟩
  obtain rfl := Option.some.inj same
  cases connections : row.agentConnection with
  | unlinked => exact absurd connections connection
  | requested => exact absurd connections first
  | linked => exact absurd connections second

theorem request_binds {hub : Hub} {owner : Int32} {workspaceIdx : ℕ} {code name : Text} :
    wp (linkProgram (.request owner workspaceIdx code name))
      (fun _ after => Bound after.database code.toUpperCase) (fun _ _ => True) hub := by
  simp only [linkProgram, asRequested, requestConnectWorkspaceAndAgent, requestAgent, wp_bind,
    wp_look, wp_orThrow, findAgent, freeAgent, wp_require, wp_pure]
  refine ⟨fun rawWorkspace _ => ⟨fun rawAgent found => ⟨fun _ => ⟨fun _ => ?_, fun _ => trivial⟩,
    fun _ => trivial⟩, fun _ => trivial⟩, fun _ => trivial⟩
  have codes : rawAgent.agentCode = code.toUpperCase :=
    beq_iff_eq.mp (Table.mem_of_findFirst found).2
  rw [placeRequest, wp_bind]
  apply wp_updateAgent
  · exact fun _ => trivial
  · intro row present
    rw [codes] at present
    simp only [announceRequest, send, wp_bind, wp_step]
    split
    · have bound : Bound (hub.write fun database => written database row
          (relink .requested (some workspaceIdx)) fun _ => rfl).database code.toUpperCase :=
        bound_written present
      rw [← sendToAgent_database] at bound
      exact bound
    · rw [rollBack, wp_bind]
      apply wp_updateAgent
      · exact fun _ => trivial
      · exact fun _ _ => (wp_atomically_error rfl).mpr trivial

/-- What happens to the requests for one agent, one after another. -/
theorem serial_requests (agentCode : Text) (order : List LinkCall)
    (requests : ∀ call ∈ order, call.isRequest = true ∧ call.agentCode = agentCode) (hub : Hub) :
    (serial linkProgram hub order).1.countP (fun entry => entry.2.toBool) ≤ 1 ∧
      (Bound hub.database agentCode →
        (serial linkProgram hub order).1.countP (fun entry => entry.2.toBool) = 0) := by
  induction order generalizing hub with
  | nil => exact ⟨Nat.zero_le 1, fun _ => rfl⟩
  | cons call rest ih =>
    have later := ih (fun other inside => requests other (List.mem_cons_of_mem _ inside))
      ((linkProgram call).run hub).2
    obtain ⟨isRequest, codes⟩ := requests call List.mem_cons_self
    cases call with
    | request owner workspaceIdx code name =>
      change code.toUpperCase = agentCode at codes
      subst codes
      have binds := (wp_iff_run (linkProgram (.request owner workspaceIdx code name))).mp
        (@request_binds hub _ _ _ _)
      have keeps (bound : Bound hub.database code.toUpperCase) :=
        (wp_iff_run (linkProgram (.request owner workspaceIdx code name))).mp (request_bound bound)
      simp only [serial, List.countP_cons]
      cases outcome : (linkProgram (.request owner workspaceIdx code name)).run hub with
      | mk result after =>
        rw [outcome] at binds keeps later
        cases result with
        | ok reply =>
          refine ⟨?_, fun bound => (keeps bound).elim⟩
          rw [later.2 binds]
          rfl
        | error failure =>
          refine ⟨later.1, fun bound => ?_⟩
          have same : after.database = hub.database := keeps bound
          exact later.2 (by rw [same]; exact bound)
    | _ => cases isRequest

/-- Of requests for one agent that a serial order explains, at most one is successful. -/
theorem Serialisable.oneRequest {config : LinkState} {agentCode : Text}
    (serialisable : Serialisable linkProgram SameHub start config)
    (requests : ∀ thread ∈ config.threads, thread.call.isRequest = true ∧
      thread.call.agentCode = agentCode) :
    (config.threads.countP fun thread => LinkReply.succeeded thread.result) ≤ 1 := by
  obtain ⟨order, same, -⟩ := serialisable
  have calls : (config.threads.map Thread.call).Perm order := by
    have firsts := same.map Prod.fst
    rw [List.map_map, List.map_map] at firsts
    exact firsts.trans (List.Perm.of_eq (map_fst_serial linkProgram start order))
  have only : ∀ call ∈ order, call.isRequest = true ∧ call.agentCode = agentCode := by
    intro call inside
    obtain ⟨thread, present, rfl⟩ := List.mem_map.mp (calls.mem_iff.mpr inside)
    exact requests thread present
  calc (config.threads.countP fun thread => LinkReply.succeeded thread.result)
      = (config.threads.map fun thread => (thread.call, thread.result)).countP
          fun entry => LinkReply.succeeded entry.2 := by
        rw [List.countP_map]
        rfl
    _ = (serial linkProgram start order).1.countP fun entry => entry.2.toBool := by
        rw [same.countP_eq, List.countP_map]
        rfl
    _ ≤ 1 := (serial_requests agentCode order only start).1

/-- A move of a call that has ended, or of none, does nothing. -/
theorem linking_idle {config : LinkState} {index : ℕ}
    (idle : ∀ thread, config.threads[index]? = some thread → thread.result ≠ none) :
    (linking config (.resume index)).2.state = config.state ∧
      (linking config (.resume index)).2.threads = config.threads :=
  move_idle idle

/-- Every move that is not disturbed keeps the calls in turn. -/
theorem InTurn.step (turn : InTurn start past config order owner)
    (distinct : DistinctCodes start.database) (input : LinkInput)
    (undisturbed : Undisturbed past config input) :
    ∃ order' owner', InTurn start (past ++ [(input, (linking config input).1)])
      (linking config input).2 order' owner' := by
  cases input with
  | start call => exact ⟨order, owner, turn.starts rfl rfl rfl fun _ => rfl⟩
  | resume index =>
    by_cases running : ∃ thread, config.threads[index]? = some thread ∧ thread.result = none
    · obtain ⟨thread, found, running⟩ := running
      exact (turn.resume distinct found running undisturbed).1
    · have idle (thread : Thread LinkCall Hub Failure LinkReply)
          (found : config.threads[index]? = some thread) : thread.result ≠ none :=
        fun open' => running ⟨thread, found, open'⟩
      obtain ⟨states, threads⟩ := linking_idle idle
      refine ⟨order, owner, turn.idle states (move_moves _) threads fun other thread found open' => ?_⟩
      refine beq_eq_false_iff_ne.mpr ?_
      rintro rfl
      exact idle thread found open'
  | event event => exact event.elim

theorem InTurn.own (turn : InTurn start past config order owner)
    (distinct : DistinctCodes start.database) (input : LinkInput)
    (undisturbed : Undisturbed past config input) : OwnAgentsOnly config input := by
  cases input with
  | start call => exact trivial
  | resume index =>
    intro thread found workspaceIdx made row inside bound foreign
    cases ended : thread.result with
    | none =>
      exact (turn.resume distinct found ended undisturbed).2 workspaceIdx made row inside bound
        foreign
    | some result =>
      have idle (thread' : Thread LinkCall Hub Failure LinkReply)
          (found' : config.threads[index]? = some thread') : thread'.result ≠ none := by
        obtain rfl := Option.some.inj (found.symm.trans found')
        simp [ended]
      rwa [(linking_idle idle).1]
  | event event => exact event.elim

/-- When every write of a call finds the agent as the call wants it, and no call looks at the
agent or writes it while another is midway, the calls are as good as made one after
another. -/
theorem linked_in_turn (start : Hub) (distinct : DistinctCodes start.database)
    (coupled : Coupled start.database) (moves : List LinkInput)
    (undisturbed : Along linking Undisturbed [] { state := start } moves) :
    LinkedInTurn start moves := by
  have keeps (past : List (LinkInput × LinkOutput)) (config : LinkState) (input : LinkInput)
      (turn : ∃ order owner, InTurn start past config order owner)
      (undisturbed : Undisturbed past config input) :
      ∃ order owner, InTurn start (past ++ [(input, (linking config input).1)])
        (linking config input).2 order owner := by
    obtain ⟨order, owner, turn⟩ := turn
    exact turn.step distinct input undisturbed
  have starts : ∃ order owner, InTurn start [] { state := start } order owner :=
    ⟨[], none, inTurn_start coupled⟩
  have whole := Along.invariant _ keeps undisturbed starts
  obtain ⟨order, owner, turn⟩ := whole
  constructor
  · exact turn.explained.serialisable
  · intro requests agentCode codes
    have ended := turn.explained.serialisable fun thread inside => (requests thread inside).1
    exact Serialisable.oneRequest ended fun thread inside =>
      ⟨(requests thread inside).2, codes thread inside⟩
  · refine Along.safe _ keeps ?_ undisturbed starts
    rintro past config input ⟨order, owner, turn⟩ undisturbed
    exact turn.own distinct input undisturbed

end Runs

/-! ## Two requests at once -/

instance (past : List (LinkInput × LinkOutput)) (config : LinkState) (index : ℕ) :
    Decidable (Midway past config index) :=
  decidable_of_iff ((config.threads[index]?).any (fun thread => thread.result.isNone &&
      decide (thread.call.writesAfter < actionsTaken past index thread.started)) = true) (by
    simp only [Option.any_eq_true, Bool.and_eq_true, Option.isNone_iff_eq_none, decide_eq_true_eq]
    rfl)

instance (past : List (LinkInput × LinkOutput)) (config : LinkState) :
    (input : LinkInput) → Decidable (Undisturbed past config input)
  | .resume index =>
    decidable_of_iff ((config.threads[index]?).all (fun thread => thread.result.isSome ||
        decide ((thread.call.looksAfter ≤ actionsTaken past index thread.started →
            ∀ other < config.threads.length, other ≠ index → ¬ Midway past config other) ∧
          (actionsTaken past index thread.started = thread.call.writesAfter →
            thread.call.accepts config.state.database = true))) = true) (by
      have bounded (other : ℕ) (midway : Midway past config other) :
          other < config.threads.length := by
        obtain ⟨thread, found, -⟩ := midway
        exact (List.getElem?_eq_some_iff.mp found).1
      rw [Option.all_eq_true]
      refine forall_congr' fun thread => imp_congr_right fun _ => ?_
      rw [Bool.or_eq_true, decide_eq_true_eq, Option.isSome_iff_ne_none, or_iff_not_imp_left,
        not_not]
      refine imp_congr_right fun _ => and_congr_left fun _ => imp_congr_right fun _ => ?_
      exact forall_congr' fun other => ⟨fun held differs midway =>
        held (bounded other midway) differs midway, fun held _ => held⟩)
  | .start _ => isTrue trivial
  | .event _ => isTrue trivial

instance (database : Database) : Decidable (DistinctCodes database) :=
  inferInstanceAs (Decidable (List.Nodup _))

instance (database : Database) : Decidable (Coupled database) :=
  inferInstanceAs (Decidable (∀ agent ∈ database.agents.rows, _))

/-- Two workspaces, and an agent that is connected and unlinked. -/
def oneAgent : Hub := final (serve AgentGateway.fixedPlatform) twoWorkspaces (linkingCalls.take 2)

/-- Both workspaces ask for the agent. The second looks at it after the first has asked, and
the agent accepts and is released. -/
def askInTurn : List LinkInput :=
  [.start (.request 1 1 "C" "owner"), .start (.request 1 2 "C" "owner"), .resume 0, .resume 1,
    .resume 0, .resume 0, .resume 0, .resume 1, .start (.accept "C" "U"), .resume 2, .resume 2,
    .resume 2, .start (.disconnect 1 1 "C"), .resume 3, .resume 3, .resume 3]

theorem linked_in_turn_askInTurn : LinkedInTurn oneAgent askInTurn := by
  apply linked_in_turn
  · decide +kernel
  · decide +kernel
  · decide +kernel

/-- Both workspaces look at the agent before one of them has asked. -/
def askAtOnce : List LinkInput :=
  [.start (.request 1 1 "C" "owner"), .start (.request 1 2 "C" "owner"), .resume 0, .resume 1,
    .resume 0, .resume 1, .resume 0, .resume 0, .resume 1, .resume 1]

theorem not_linked_askAtOnce : ¬ LinkedInTurn oneAgent askAtOnce := by
  intro linked
  have one := linked.oneRequest (by decide +kernel) "C" (by decide +kernel)
  revert one
  decide +kernel

end WorkspaceService

end OpticsHub
