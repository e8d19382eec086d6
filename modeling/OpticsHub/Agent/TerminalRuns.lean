import OpticsHub.Agent.TerminalRelays
import OpticsHub.Async.Guarantees

/-!
# What passes between consoles and Agents

Along a run an entry is there exactly if the last action of an event has made it and nothing has
ended it since, because no identifier is drawn twice. So what passes between the consoles and the
Agents is what those entries carry that have begun and have not ended, and nothing passes any more
under an identifier once its entry has ended.
-/
namespace OpticsHub

open Script Async Program Machine

namespace ConsoleGateway

open AgentService AgentGateway

/-! ## Entries in order -/

/-- No two entries have one identifier, and all identifiers were drawn. -/
structure InOrder (platform : Platform) (drawn : ℕ) (entries : Members TerminalSession) : Prop where
  distinct : (Members.keys entries).Nodup
  taken : ∀ id ∈ Members.keys entries, ∃ n < drawn, id = platform.randomUuid n

/-- The terminals and the requests are in order. -/
structure Filed (platform : Platform) (hub : Hub) : Prop where
  terminals : InOrder platform hub.drawn hub.terminalSessions
  requests : InOrder platform hub.drawn hub.metricRequests

section Order

variable {platform : Platform} {drawn drawn' : ℕ} {entries : Members TerminalSession} {hub : Hub}
  {id : Text} {entry : TerminalSession}

theorem inOrder_nil (drawn : ℕ) : InOrder platform drawn [] :=
  ⟨List.nodup_nil, fun _ inside => absurd inside List.not_mem_nil⟩

theorem InOrder.filter (inOrder : InOrder platform drawn entries) (le : drawn ≤ drawn')
    (keep : Text × TerminalSession → Bool) : InOrder platform drawn' (entries.filter keep) := by
  have fewer : (Members.keys (entries.filter keep)).Sublist (Members.keys entries) :=
    List.filter_sublist.map Prod.fst
  refine ⟨inOrder.distinct.sublist fewer, fun id inside => ?_⟩
  obtain ⟨n, before, same⟩ := inOrder.taken id (fewer.subset inside)
  exact ⟨n, by omega, same⟩

/-- The identifier that is drawn next is not there. -/
theorem InOrder.fresh (inOrder : InOrder platform drawn entries)
    (unique : Function.Injective platform.randomUuid) :
    platform.randomUuid drawn ∉ Members.keys entries := by
  intro inside
  obtain ⟨n, before, same⟩ := inOrder.taken _ inside
  exact absurd (unique same) (by omega)

theorem InOrder.addEntry (inOrder : InOrder platform hub.drawn entries)
    (unique : Function.Injective platform.randomUuid) (made : Option TerminalSession)
    (le : hub.drawn ≤ drawn') (less : made.isSome → hub.drawn < drawn') :
    InOrder platform drawn' (addEntry platform hub made entries) := by
  cases made with
  | none =>
    refine ⟨inOrder.distinct, fun id inside => ?_⟩
    obtain ⟨n, before, same⟩ := inOrder.taken id inside
    exact ⟨n, by omega, same⟩
  | some entry =>
    have fresh := inOrder.fresh unique
    change InOrder platform drawn' (Members.define entries _ entry)
    rw [Members.define_of_notMem fresh]
    have keys : Members.keys (entries ++ [(platform.randomUuid hub.drawn, entry)]) =
        Members.keys entries ++ [platform.randomUuid hub.drawn] := List.map_append
    refine ⟨?_, fun id inside => ?_⟩
    · rw [keys]
      exact inOrder.distinct.append (List.nodup_singleton _) (by simpa using fresh)
    · rw [keys, List.mem_append, List.mem_singleton] at inside
      rcases inside with before | rfl
      · obtain ⟨n, before, same⟩ := inOrder.taken id before
        exact ⟨n, by omega, same⟩
      · exact ⟨hub.drawn, less rfl, rfl⟩

/-- An entry is there after one was made if it was there, or has just been made. -/
theorem InOrder.own_addEntry (inOrder : InOrder platform hub.drawn entries)
    (unique : Function.Injective platform.randomUuid) (made : Option TerminalSession) :
    Members.own (ConsoleGateway.addEntry platform hub made entries) id = some entry ↔
      (made = some entry ∧ platform.randomUuid hub.drawn = id) ∨
        Members.own entries id = some entry := by
  cases made with
  | none => simp [ConsoleGateway.addEntry]
  | some made =>
    have fresh := inOrder.fresh unique
    change Members.own (Members.define entries _ made) id = some entry ↔ _
    by_cases same : platform.randomUuid hub.drawn = id
    · subst same
      have absent : Members.own entries (platform.randomUuid hub.drawn) ≠ some entry :=
        fun found => fresh
          (List.mem_map_of_mem ((Members.own_eq_some_iff inOrder.distinct).mp found))
      rw [Members.own_define]
      simp [absent]
    · rw [Members.own_define_ne _ (Ne.symm same)]
      simp [same]

/-- An entry is there after some were forgotten if it was there and is none of them. -/
theorem InOrder.own_filter (inOrder : InOrder platform drawn entries)
    (keep : Text × TerminalSession → Bool) :
    Members.own (entries.filter keep) id = some entry ↔
      Members.own entries id = some entry ∧ keep (id, entry) = true := by
  rw [Members.own_eq_some_iff (inOrder.filter le_rfl keep).distinct,
    Members.own_eq_some_iff inOrder.distinct, List.mem_filter]

end Order

/-! ## Along a run -/

section Runs

variable (platform : Platform) (verifyToken : Value → ℤ → Option (Members Value)) (id : Text)
  (entry : TerminalSession)

/-- A move makes an entry: the last action of an event that has an Agent to make it for. -/
def MakesEntry (agent : ConsoleCall → List Hub → Option Text)
    (past : List (Move ConsoleCall LineEvent × Shown (List Transmission) Hub))
    (config : Config ConsoleCall Hub Failure ConsoleReply) : Move ConsoleCall LineEvent → Prop
  | .resume index => ∃ thread, config.threads[index]? = some thread ∧ thread.result = none ∧
      entryMade (agent thread.call (statesMet past index thread.started)) thread.call.client
        config.state = some entry ∧
      platform.randomUuid config.state.drawn = id
  | _ => False

/-- A move ends an entry. -/
def EndsEntry (ends : Hub → Text → TerminalSession → LineEvent → Bool)
    (_ : List (Move ConsoleCall LineEvent × Shown (List Transmission) Hub))
    (config : Config ConsoleCall Hub Failure ConsoleReply) : Move ConsoleCall LineEvent → Prop
  | .event event => ends config.state id entry event = true
  | _ => False

/-- A map of which an action makes the entries for some Agent, and an event ends some. -/
structure IsBook (book : Hub → Members TerminalSession)
    (agent : ConsoleCall → List Hub → Option Text)
    (ends : Hub → Text → TerminalSession → LineEvent → Bool) : Prop where
  inOrder : ∀ hub, Filed platform hub → InOrder platform hub.drawn (book hub)
  makes : ∀ call seen before after, Makes platform verifyToken call seen before after →
    book after = addEntry platform before (entryMade (agent call seen) call.client before)
      (book before)
  keeps : ∀ hub event, Filed platform hub → book (ConsoleGateway.relay platform hub event).2 =
    (book hub).filter fun entry => !ends hub entry.1 entry.2 event

theorem isBook_terminals : IsBook platform verifyToken Hub.terminalSessions
    (grantedAgent verifyToken) (endsTerminal platform) where
  inOrder _ filed := filed.terminals
  makes _ _ _ _ makes := makes.terminals
  keeps _ event filed := relay_terminals filed.terminals.distinct event

theorem isBook_requests :
    IsBook platform verifyToken Hub.metricRequests askedAgent (endsRequest platform) where
  inOrder _ filed := filed.requests
  makes _ _ _ _ makes := makes.requests
  keeps _ event filed := relay_requests filed.requests.distinct filed.terminals.distinct event

/-- A terminal was opened in a run under an identifier, by a console that was allowed to open it on
its Agent, and nothing has ended it since. -/
def TerminalSince (start : Hub) (moves : List (Move ConsoleCall LineEvent)) : Prop :=
  Since (lines platform verifyToken) (MakesEntry platform id entry (grantedAgent verifyToken))
    (EndsEntry id entry (endsTerminal platform)) [] { state := start } moves

/-- An Agent was asked for its metrics in a run under an identifier, by a console that was allowed
to, and nothing has ended the request since. -/
def RequestSince (start : Hub) (moves : List (Move ConsoleCall LineEvent)) : Prop :=
  Since (lines platform verifyToken) (MakesEntry platform id entry askedAgent)
    (EndsEntry id entry (endsRequest platform)) [] { state := start } moves

end Runs

section Runs

variable {platform : Platform} {verifyToken : Value → ℤ → Option (Members Value)} {id : Text}
  {entry : TerminalSession} {hub before after : Hub}
  {past : List (Move ConsoleCall LineEvent × Shown (List Transmission) Hub)}
  {config : Config ConsoleCall Hub Failure ConsoleReply} {input : Move ConsoleCall LineEvent}

theorem Filed.makes (filed : Filed platform before)
    (unique : Function.Injective platform.randomUuid) {call : ConsoleCall} {seen : List Hub}
    (makes : Makes platform verifyToken call seen before after) : Filed platform after := by
  have made {agent : Option Text} (some : (entryMade agent call.client before).isSome) :
      agent.isSome = true := by
    cases agent with
    | none => cases some
    | some agent => rfl
  refine ⟨?_, ?_⟩
  · rw [makes.terminals]
    exact filed.terminals.addEntry unique _ makes.drawn fun some => makes.taken (.inl (made some))
  · rw [makes.requests]
    exact filed.requests.addEntry unique _ makes.drawn fun some => makes.taken (.inr (made some))

theorem Filed.relay (filed : Filed platform hub) (event : LineEvent) :
    Filed platform (relay platform hub event).2 := by
  have le := @relay_drawn platform hub filed.terminals.distinct event
  refine ⟨?_, ?_⟩
  · rw [relay_terminals filed.terminals.distinct]
    exact filed.terminals.filter le _
  · rw [relay_requests filed.requests.distinct filed.terminals.distinct]
    exact filed.requests.filter le _

/-- Every move keeps the entries in order. -/
theorem Filed.move (filed : Filed platform config.state)
    (unique : Function.Injective platform.randomUuid)
    (permitted : Permitted (consoleProgram platform verifyToken) (ConsoleGateway.relay platform)
      (Makes platform verifyToken) past config input) :
    Filed platform (lines platform verifyToken config input).2.state := by
  cases input with
  | start call => exact filed
  | event event => exact filed.relay event
  | resume index =>
    rcases resume_cases (consoleProgram platform verifyToken) (ConsoleGateway.relay platform) config
      index with ⟨thread, found, running⟩ | ⟨-, same⟩
    · exact filed.makes unique (permitted thread found running)
    · rw [same]
      exact filed

/-- The entries of a map after a move: those that it makes, and those that it does not end. -/
theorem IsBook.own_move {book : Hub → Members TerminalSession}
    {agent : ConsoleCall → List Hub → Option Text}
    {ends : Hub → Text → TerminalSession → LineEvent → Bool}
    (isBook : IsBook platform verifyToken book agent ends)
    (unique : Function.Injective platform.randomUuid) (filed : Filed platform config.state)
    (permitted : Permitted (consoleProgram platform verifyToken) (ConsoleGateway.relay platform)
      (Makes platform verifyToken) past config input) :
    Members.own (book (lines platform verifyToken config input).2.state) id = some entry ↔
      MakesEntry platform id entry agent past config input ∨
        Members.own (book config.state) id = some entry ∧
          ¬ EndsEntry id entry ends past config input := by
  have inOrder := isBook.inOrder _ filed
  cases input with
  | start call =>
    change Members.own (book config.state) id = some entry ↔ False ∨ _ ∧ ¬ False
    rw [not_false_eq_true, and_true, false_or]
  | event event =>
    change Members.own (book (ConsoleGateway.relay platform config.state event).2) id =
      some entry ↔ False ∨ _ ∧ ¬ (ends config.state id entry event = true)
    rw [isBook.keeps _ _ filed, inOrder.own_filter, false_or, Bool.not_eq_true',
      Bool.not_eq_true]
  | resume index =>
    change _ ↔ _ ∨ _ ∧ ¬ False
    rw [not_false_eq_true, and_true]
    rcases resume_cases (consoleProgram platform verifyToken) (ConsoleGateway.relay platform) config
      index with ⟨thread, found, running⟩ | ⟨idle, same⟩
    · rw [isBook.makes _ _ _ _ (permitted thread found running), inOrder.own_addEntry unique]
      refine or_congr_left ⟨fun made => ⟨thread, found, running, made⟩, ?_⟩
      rintro ⟨thread', found', -, made⟩
      obtain rfl := Option.some.inj (found.symm.trans found')
      exact made
    · rw [same, or_iff_right]
      rintro ⟨thread, found, none, -⟩
      exact idle thread found none

/-- Along every run the actions do to the entries what they may, and the entries are in order. -/
theorem filed_along (unique : Function.Injective platform.randomUuid) {start : Hub}
    (filed : Filed platform start) (moves : List (Move ConsoleCall LineEvent)) :
    Along (lines platform verifyToken) (fun past config input =>
        Permitted (consoleProgram platform verifyToken) (ConsoleGateway.relay platform)
          (Makes platform verifyToken) past config input ∧ Filed platform config.state) []
      { state := start } moves := by
  have permitted : Along (lines platform verifyToken)
      (Permitted (consoleProgram platform verifyToken) (ConsoleGateway.relay platform)
        (Makes platform verifyToken)) [] { state := start } moves :=
    permitted_along (heeds_consoleProgram_entries platform verifyToken) start moves
      ((along_trivial _ _ _).mono fun _ _ input _ => by cases input <;> simp [Met])
  refine permitted.safe (fun _ config => Filed platform config.state) ?_ ?_ filed
  · exact fun past config input filed permitted => filed.move unique permitted
  · exact fun past config input filed permitted => ⟨permitted, filed⟩

/-- Entries are in order at the end of a run. -/
theorem filed_final (unique : Function.Injective platform.randomUuid) {start : Hub}
    (filed : Filed platform start) (moves : List (Move ConsoleCall LineEvent)) :
    Filed platform (final (lines platform verifyToken) { state := start } moves).state :=
  (filed_along unique filed moves).invariant (fun _ config => Filed platform config.state)
    (fun _ _ _ filed held => filed.move unique held.1) filed

/-- An entry is in a map at the end of a run exactly if it was made and has not ended since. -/
theorem IsBook.own_iff_since {book : Hub → Members TerminalSession}
    {agent : ConsoleCall → List Hub → Option Text}
    {ends : Hub → Text → TerminalSession → LineEvent → Bool}
    (isBook : IsBook platform verifyToken book agent ends)
    (unique : Function.Injective platform.randomUuid) {start : Hub} (filed : Filed platform start)
    (empty : book start = []) (moves : List (Move ConsoleCall LineEvent)) :
    Members.own (book (final (lines platform verifyToken) { state := start } moves).state) id =
        some entry ↔
      Since (lines platform verifyToken) (MakesEntry platform id entry agent)
        (EndsEntry id entry ends) [] { state := start } moves := by
  refine (filed_along unique filed moves).since_iff
    (fun config => Members.own (book config.state) id = some entry) ?_ ?_
  · rw [empty]
    exact fun found => by cases found
  · exact fun past config input held => isBook.own_move unique held.2 held.1

/-- In every run, whatever passes at an event between a console and an Agent is carried by a
terminal that was opened and has not ended since, or answers a request that was made and has not
ended since; and what these carry passes. -/
theorem passes_iff_since (platform : Platform) (unique : Function.Injective platform.randomUuid)
    (verifyToken : Value → ℤ → Option (Members Value)) (start : Hub)
    (closed : start.terminalSessions = []) (idle : start.metricRequests = [])
    (moves : List (Move ConsoleCall LineEvent)) (event : LineEvent) (transmission : Transmission) :
    transmission ∈ (ConsoleGateway.relay platform
        (final (lines platform verifyToken) { state := start } moves).state event).1 ↔
      (∃ id entry, TerminalSince platform verifyToken id entry start moves ∧
        transmission ∈ carried platform
          (final (lines platform verifyToken) { state := start } moves).state id entry event) ∨
      ∃ id entry, RequestSince platform verifyToken id entry start moves ∧
        transmission ∈ answered platform
          (final (lines platform verifyToken) { state := start } moves).state id entry event := by
  have starts : Filed platform start := ⟨closed ▸ inOrder_nil _, idle ▸ inOrder_nil _⟩
  have filed := @filed_final platform verifyToken unique start starts moves
  rw [mem_relay filed.terminals.distinct filed.requests.distinct]
  simp only [TerminalSince, RequestSince,
    ← (isBook_terminals platform verifyToken).own_iff_since unique starts closed,
    ← (isBook_requests platform verifyToken).own_iff_since unique starts idle,
    Members.own_eq_some_iff filed.terminals.distinct,
    Members.own_eq_some_iff filed.requests.distinct, Prod.exists]

/-- An identifier of a map has been drawn and has no entry. -/
def Over (platform : Platform) (book : Hub → Members TerminalSession) (id : Text) (hub : Hub) :
    Prop :=
  (∃ n < hub.drawn, id = platform.randomUuid n) ∧ ∀ entry, Members.own (book hub) id ≠ some entry

/-- Identifiers are drawn one after another. -/
theorem drawn_le_move (filed : Filed platform config.state)
    (permitted : Permitted (consoleProgram platform verifyToken) (ConsoleGateway.relay platform)
      (Makes platform verifyToken) past config input) :
    config.state.drawn ≤ (lines platform verifyToken config input).2.state.drawn := by
  cases input with
  | start call => exact le_rfl
  | event event => exact relay_drawn filed.terminals.distinct event
  | resume index =>
    rcases resume_cases (consoleProgram platform verifyToken) (ConsoleGateway.relay platform) config
      index with ⟨thread, found, running⟩ | ⟨-, same⟩
    · exact (permitted thread found running).drawn
    · rw [same]

/-- An entry that a move ends is over, and one that is over stays so. -/
theorem IsBook.over_move {book : Hub → Members TerminalSession}
    {agent : ConsoleCall → List Hub → Option Text}
    {ends : Hub → Text → TerminalSession → LineEvent → Bool}
    (isBook : IsBook platform verifyToken book agent ends)
    (unique : Function.Injective platform.randomUuid) (filed : Filed platform config.state)
    (permitted : Permitted (consoleProgram platform verifyToken) (ConsoleGateway.relay platform)
      (Makes platform verifyToken) past config input)
    (taken : ∃ n < config.state.drawn, id = platform.randomUuid n)
    (ended : ∀ entry, Members.own (book config.state) id = some entry →
      EndsEntry id entry ends past config input) :
    Over platform book id (lines platform verifyToken config input).2.state := by
  obtain ⟨n, before, rfl⟩ := taken
  have le := drawn_le_move filed permitted
  refine ⟨⟨n, by omega, rfl⟩, fun entry found => ?_⟩
  rcases (isBook.own_move unique filed permitted).mp found with makes | ⟨found, open'⟩
  · cases input with
    | resume index =>
      obtain ⟨thread, -, -, -, same⟩ := makes
      exact absurd (unique same) (by omega)
    | start call => exact makes
    | event event => exact makes
  · exact open' (ended entry found)

/-- What an event ends is over at the end of every run that goes on from there. -/
theorem IsBook.over_final {book : Hub → Members TerminalSession}
    {agent : ConsoleCall → List Hub → Option Text}
    {ends : Hub → Text → TerminalSession → LineEvent → Bool}
    (isBook : IsBook platform verifyToken book agent ends)
    (unique : Function.Injective platform.randomUuid) {start : Hub} (filed : Filed platform start)
    (before later : List (Move ConsoleCall LineEvent)) (event : LineEvent)
    (found : Members.own (book (final (lines platform verifyToken) { state := start }
      before).state) id = some entry)
    (ended : ends (final (lines platform verifyToken) { state := start } before).state id entry
      event = true) :
    Over platform book id (final (lines platform verifyToken) { state := start }
      (before ++ .event event :: later)).state := by
  obtain ⟨-, last, after⟩ := (along_append before (.event event :: later)).mp
    (@filed_along platform verifyToken unique start filed (before ++ .event event :: later))
  have inOrder := isBook.inOrder _ last.2
  have inside : id ∈ Members.keys (book (final (lines platform verifyToken) { state := start }
      before).state) :=
    List.mem_map_of_mem ((Members.own_eq_some_iff inOrder.distinct).mp found)
  rw [final_append]
  refine after.invariant (fun _ config => Over platform book id config.state) ?_ ?_
  · exact fun past config input gone held => isBook.over_move unique held.2 held.1 gone.1
      fun entry found => absurd found (gone.2 entry)
  · refine isBook.over_move unique last.2 last.1 (inOrder.taken id inside) fun entry' found' => ?_
    obtain rfl := Option.some.inj (found.symm.trans found')
    exact ended

/-- In every run, a terminal or a request that has ended never comes back: nothing was opened under
its identifier at any later moment, so nothing passes under it any more. -/
theorem ended_for_good (platform : Platform) (unique : Function.Injective platform.randomUuid)
    (verifyToken : Value → ℤ → Option (Members Value)) (start : Hub)
    (closed : start.terminalSessions = []) (idle : start.metricRequests = []) (id : Text)
    (entry : TerminalSession) (before later : List (Move ConsoleCall LineEvent))
    (event : LineEvent) :
    (TerminalSince platform verifyToken id entry start before →
      endsTerminal platform (final (lines platform verifyToken) { state := start } before).state id
        entry event = true →
      ∀ entry', ¬ TerminalSince platform verifyToken id entry' start
        (before ++ .event event :: later)) ∧
    (RequestSince platform verifyToken id entry start before →
      endsRequest platform (final (lines platform verifyToken) { state := start } before).state id
        entry event = true →
      ∀ entry', ¬ RequestSince platform verifyToken id entry' start
        (before ++ .event event :: later)) := by
  have starts : Filed platform start := ⟨closed ▸ inOrder_nil _, idle ▸ inOrder_nil _⟩
  have terminals := isBook_terminals platform verifyToken
  have requests := isBook_requests platform verifyToken
  constructor
  · intro opened ended entry' back
    have found := (terminals.own_iff_since unique starts closed before).mpr opened
    have gone := terminals.over_final unique starts before later event found ended
    exact gone.2 entry' ((terminals.own_iff_since unique starts closed _).mpr back)
  · intro opened ended entry' back
    have found := (requests.own_iff_since unique starts idle before).mpr opened
    have gone := requests.over_final unique starts before later event found ended
    exact gone.2 entry' ((requests.own_iff_since unique starts idle _).mpr back)

end Runs

/-! ## One terminal -/

theorem randomUuid_fixedPlatform : Function.Injective fixedPlatform.randomUuid := by
  intro first second same
  have lengths := congrArg List.length same
  simpa [fixedPlatform] using lengths

/-- The identifier that is drawn next. -/
def nextIdentifier : Text := fixedPlatform.randomUuid linkedTerminalHub.drawn

/-- The first owner opens a terminal. -/
def opensOne : List (Move ConsoleCall LineEvent) :=
  [.start (presentsToken 0), .resume 0, .resume 0, .resume 0, .resume 0]

/-- What the owner types into the terminal. -/
def typesInto : LineEvent :=
  .typed .input 0 (.object [("sessionId", .string nextIdentifier), ("data", .string "ls")])

/-- What is typed passes, so the terminal is open. -/
theorem passes_iff_since_opensOne :
    ∃ id entry, TerminalSince fixedPlatform verifyIssued id entry linkedTerminalHub opensOne := by
  have passes : 0 < (ConsoleGateway.relay fixedPlatform (final (lines fixedPlatform verifyIssued)
      { state := linkedTerminalHub } opensOne).state typesInto).1.length := by decide +kernel
  obtain ⟨transmission, inside⟩ := List.exists_mem_of_length_pos passes
  rcases (passes_iff_since fixedPlatform randomUuid_fixedPlatform verifyIssued linkedTerminalHub rfl
      rfl opensOne typesInto transmission).mp inside with
    ⟨id, entry, opened, -⟩ | ⟨id, entry, -, answers⟩
  · exact ⟨id, entry, opened⟩
  · cases answers

/-- The owner goes away, and nothing is open under the identifier any more. -/
theorem ended_for_good_opensOne :
    ¬ ∃ entry, TerminalSince fixedPlatform verifyIssued nextIdentifier entry linkedTerminalHub
      (opensOne ++ [.event (.consoleGone 0)]) := by
  have starts : Filed fixedPlatform linkedTerminalHub := ⟨inOrder_nil _, inOrder_nil _⟩
  have opened := ((isBook_terminals fixedPlatform verifyIssued).own_iff_since
    randomUuid_fixedPlatform starts rfl opensOne).mp
    (by decide +kernel : Members.own (final (lines fixedPlatform verifyIssued)
      { state := linkedTerminalHub } opensOne).state.terminalSessions nextIdentifier =
        some ⟨0, "U"⟩)
  rintro ⟨entry, back⟩
  exact (ended_for_good fixedPlatform randomUuid_fixedPlatform verifyIssued linkedTerminalHub rfl
    rfl nextIdentifier ⟨0, "U"⟩ opensOne [] (.consoleGone 0)).1 opened (by decide) entry back

end ConsoleGateway

end OpticsHub
