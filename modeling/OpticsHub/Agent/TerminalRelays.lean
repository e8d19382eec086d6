import OpticsHub.Agent.TerminalEntries

/-!
# What passes at one event

Each entry of the maps decides for itself what it carries and what ends it: the handlers do to all
entries what is done to each of them alone.
-/
namespace OpticsHub

open Script Async Program Machine

namespace ConsoleGateway

open AgentService AgentGateway

/-! ## One entry alone -/

/-- Whether a packet names an identifier. -/
def isNamed (payload : Value) (key id : Text) : Bool := asText (memberOf payload key) == some id

section Entries

variable (platform : Platform) (hub : Hub) (id : Text) (entry : TerminalSession)

/-- The Agent whose packet the middleware lets pass. -/
def saidBy (client : ℕ) (event : Text) (payload : Value) : Option Text :=
  (receive platform hub client event payload).1.handledFor.filter fun agentUuid =>
    !agentUuid.isEmpty

/-- What an event of a terminal comes to at its Agent. -/
def delivered (event : Text) (payload : Value) : List Transmission :=
  if reachable hub entry.agentUuid then [.toAgent entry.agentUuid event payload] else []

/-- What a terminal carries of what its console does. -/
def carriedTyped (payload : Value) : TypedKind → List Transmission
  | .input =>
    if isInput (memberOf payload "data") then delivered hub entry "terminal-input" payload else []
  | .resize =>
    delivered hub entry "terminal-resize" (.object [("sessionId", memberOf payload "sessionId"),
      ("cols", intValue (clampDimension (memberOf payload "cols") 80)),
      ("rows", intValue (clampDimension (memberOf payload "rows") 24))])
  | .close => delivered hub entry "terminal-close" payload

/-- What a terminal carries of what its Agent says. -/
def carriedReport (payload : Value) : ReportKind → List Transmission
  | .metrics => []
  | .ready => [.toConsole entry.consoleSocketId "terminal-ready" payload]
  | .output =>
    if (asText (memberOf payload "data")).isSome then
      [.toConsole entry.consoleSocketId "terminal-output" payload]
    else []
  | .closed => [.toConsole entry.consoleSocketId "terminal-closed" payload]

/-- What a terminal carries at an event. -/
def carried : LineEvent → List Transmission
  | .typed kind client payload =>
    if entry.consoleSocketId == client && isNamed payload "sessionId" id then
      carriedTyped hub entry payload kind
    else []
  | .consoleGone client =>
    if entry.consoleSocketId == client then
      delivered hub entry "terminal-close" (.object [("sessionId", .string id)])
    else []
  | .reported kind client payload =>
    if saidBy platform hub client kind.event payload == some entry.agentUuid &&
        isNamed payload "sessionId" id then
      carriedReport entry payload kind
    else []
  | .agentGone agentUuid =>
    if entry.agentUuid == agentUuid then
      [.toConsole entry.consoleSocketId "terminal-closed"
        (.object [("sessionId", .string id), ("reason", .string "Agent disconnected.")])]
    else []
  | _ => []

/-- Whether an event ends a terminal. -/
def endsTerminal : LineEvent → Bool
  | .typed .close client payload =>
    entry.consoleSocketId == client && isNamed payload "sessionId" id
  | .consoleGone client => entry.consoleSocketId == client
  | .reported .closed client payload =>
    saidBy platform hub client "terminal-closed" payload == some entry.agentUuid &&
      isNamed payload "sessionId" id
  | .agentGone agentUuid => entry.agentUuid == agentUuid
  | _ => false

/-- What a request is answered with at an event. -/
def answered : LineEvent → List Transmission
  | .reported .metrics client payload =>
    if saidBy platform hub client "system-metrics" payload == some entry.agentUuid &&
        isNamed payload "requestId" id then
      [.toConsole entry.consoleSocketId "agent-metrics"
        (.object [("agentUuid", .string entry.agentUuid), ("metrics", memberOf payload "metrics")])]
    else []
  | _ => []

/-- Whether an event ends a request. -/
def endsRequest : LineEvent → Bool
  | .consoleGone client => entry.consoleSocketId == client
  | .reported .metrics client payload =>
    saidBy platform hub client "system-metrics" payload == some entry.agentUuid &&
      isNamed payload "requestId" id
  | .agentGone agentUuid => entry.agentUuid == agentUuid
  | .metricTimer requestId => id == requestId
  | _ => false

end Entries

/-! ## All entries -/

section Relays

variable {entries : Members TerminalSession} {chosen : TerminalSession → Bool} {payload : Value}
  {key : Text} {transmission : Transmission}

/-- The entry chosen under the identifier of a packet is the one that is chosen and named. -/
theorem chosen_iff (distinct : (Members.keys entries).Nodup) {entry : TerminalSession} :
    (entryOf entries (memberOf payload key)).filter chosen = some entry ↔
      ∃ id, (id, entry) ∈ entries ∧ (chosen entry && isNamed payload key id) = true := by
  rw [Option.filter_eq_some_iff, entryOf, Option.bind_eq_some_iff]
  simp only [Members.own_eq_some_iff distinct, Bool.and_eq_true, isNamed, beq_iff_eq]
  constructor
  · rintro ⟨⟨id, named, inside⟩, selected⟩
    exact ⟨id, inside, selected, named⟩
  · rintro ⟨id, inside, selected, named⟩
    exact ⟨⟨id, named, inside⟩, selected⟩

/-- What is told of the chosen entry is told of all that are chosen and named. -/
theorem mem_chosen_iff (distinct : (Members.keys entries).Nodup)
    (told : TerminalSession → List Transmission) :
    transmission ∈ ((entryOf entries (memberOf payload key)).filter chosen).elim [] told ↔
      ∃ entry ∈ entries, transmission ∈
        if chosen entry.2 && isNamed payload key entry.1 then told entry.2 else [] := by
  constructor
  · intro carries
    cases found : (entryOf entries (memberOf payload key)).filter chosen with
    | none =>
      rw [found] at carries
      cases carries
    | some entry =>
      rw [found] at carries
      obtain ⟨id, inside, selected⟩ := (chosen_iff distinct).mp found
      exact ⟨(id, entry), inside, by rwa [if_pos selected]⟩
  · rintro ⟨⟨id, entry⟩, inside, carries⟩
    split at carries
    · rename_i selected
      rw [(chosen_iff distinct).mpr ⟨id, inside, selected⟩]
      exact carries
    · cases carries

/-- Forgetting the chosen entry forgets all that are chosen and named. -/
theorem withoutEntry_of_chosen (distinct : (Members.keys entries).Nodup) {entry : TerminalSession}
    (found : (entryOf entries (memberOf payload key)).filter chosen = some entry) :
    withoutEntry entries (memberOf payload key) =
      entries.filter fun other => !(chosen other.2 && isNamed payload key other.1) := by
  obtain ⟨id, inside, selected⟩ := (chosen_iff distinct).mp found
  rw [Bool.and_eq_true, isNamed, beq_iff_eq] at selected
  rw [withoutEntry, selected.2, Option.elim_some, Members.erase]
  refine List.filter_congr fun other inside' => ?_
  rw [isNamed, selected.2]
  by_cases same : other.1 = id
  · obtain rfl : other = (id, entry) := Members.eq_of_key_eq distinct inside' inside same
    simp [selected.1]
  · have apart : (some id == some other.1) = false :=
      beq_false_of_ne fun equal => same (Option.some.inj equal).symm
    rw [apart, Bool.and_false, Bool.not_false, bne_iff_ne]
    exact same

/-- Where no entry is chosen, none is forgotten. -/
theorem filter_of_not_chosen (distinct : (Members.keys entries).Nodup)
    (missed : (entryOf entries (memberOf payload key)).filter chosen = none) :
    (entries.filter fun other => !(chosen other.2 && isNamed payload key other.1)) = entries := by
  refine List.filter_eq_self.mpr fun other inside => ?_
  rw [Bool.not_eq_true', ← Bool.not_eq_true]
  intro selected
  have found := (chosen_iff distinct).mpr ⟨other.1, inside, selected⟩
  rw [missed] at found
  cases found

end Relays

section Handlers

variable {platform : Platform} {hub : Hub} {client : ℕ} {payload : Value}
  {transmission : Transmission}

/-- Nothing of the entries is changed where an event of a terminal is passed on. -/
theorem forward_eq (entry : TerminalSession) (event : Text) (payload : Value) (hub : Hub) :
    (forward entry event payload hub).1 = delivered hub entry event payload ∧
      KeepsEntries hub (forward entry event payload hub).2 := by
  refine ⟨?_, keepsEntries_sendToAgent _ _ _⟩
  simp only [forward, delivered, sendToAgent_fst]

/-- Passing an event on leaves the Agents that can be reached. -/
theorem delivered_forward (entry : TerminalSession) (event : Text) (payload : Value) (hub : Hub) :
    delivered (forward entry event payload hub).2 = delivered hub := by
  have frame := sendToAgent_frame entry.agentUuid (.forConsole event payload) hub
  change delivered (sendToAgent entry.agentUuid (.forConsole event payload) hub).2 = _
  rw [frame]
  rfl

theorem keepsEntries_receive (event : Text) :
    KeepsEntries hub (receive platform hub client event payload).2 := by
  simp only [receive]
  split
  · exact KeepsEntries.refl hub
  · split
    · exact KeepsEntries.refl hub
    · split
      · exact ⟨rfl, rfl, rfl⟩
      · exact KeepsEntries.refl hub

/-- A packet is handed on for the Agent whose packet it is. -/
theorem handOn_eq (event : Text) (forward : Text → Value → Hub → List Transmission × Hub) :
    handOn platform event forward client payload hub =
      (saidBy platform hub client event payload).elim
        ([], (receive platform hub client event payload).2) fun agentUuid =>
          forward agentUuid payload (receive platform hub client event payload).2 := by
  rw [handOn, saidBy]
  cases (receive platform hub client event payload).1.handledFor with
  | none => rfl
  | some agentUuid => cases agentUuid <;> rfl

/-- What a console does with a terminal is carried by the one that it owns and names. -/
theorem relay_typed (kind : TypedKind) :
    (relay platform hub (.typed kind client payload)).1 =
      ((entryOf hub.terminalSessions (memberOf payload "sessionId")).filter
        fun session => session.consoleSocketId == client).elim [] fun entry =>
          carriedTyped hub entry payload kind := by
  change _ = (ownedTerminalSession hub client (memberOf payload "sessionId")).elim [] _
  cases owned : ownedTerminalSession hub client (memberOf payload "sessionId") with
  | none =>
    cases kind <;> simp only [relay, handleTerminalInput, handleTerminalResize,
      handleTerminalClose, owned, Option.elim_none]
  | some entry =>
    cases kind with
    | input =>
      simp only [relay, handleTerminalInput, owned, carriedTyped, Option.elim_some]
      split
      · exact (forward_eq _ _ _ _).1
      · rfl
    | resize =>
      simp only [relay, handleTerminalResize, owned, carriedTyped, Option.elim_some]
      exact (forward_eq _ _ _ _).1
    | close =>
      simp only [relay, handleTerminalClose, owned, carriedTyped, Option.elim_some]
      exact (forward_eq _ _ _ _).1

theorem keepsEntries_handleTerminalInput :
    KeepsEntries hub (handleTerminalInput client payload hub).2 := by
  rw [handleTerminalInput]
  split
  · split
    · exact (forward_eq _ _ _ _).2
    · exact KeepsEntries.refl hub
  · exact KeepsEntries.refl hub

theorem keepsEntries_handleTerminalResize :
    KeepsEntries hub (handleTerminalResize client payload hub).2 := by
  rw [handleTerminalResize]
  split
  · exact (forward_eq _ _ _ _).2
  · exact KeepsEntries.refl hub

/-- A terminal that its console closes is forgotten, and no other is. -/
theorem handleTerminalClose_entries (distinct : (Members.keys hub.terminalSessions).Nodup) :
    (handleTerminalClose client payload hub).2.terminalSessions =
        (hub.terminalSessions.filter fun entry =>
          !(entry.2.consoleSocketId == client && isNamed payload "sessionId" entry.1)) ∧
      (handleTerminalClose client payload hub).2.metricRequests = hub.metricRequests ∧
      (handleTerminalClose client payload hub).2.drawn = hub.drawn := by
  cases owned : ownedTerminalSession hub client (memberOf payload "sessionId") with
  | none =>
    simp only [handleTerminalClose, owned, and_self, and_true]
    exact (filter_of_not_chosen distinct owned).symm
  | some entry =>
    obtain ⟨terminals, requests, drawn⟩ := (forward_eq entry "terminal-close" payload hub).2
    simp only [handleTerminalClose, owned, terminals, requests, drawn, and_self, and_true]
    exact withoutEntry_of_chosen distinct owned

theorem keepsEntries_closeAll (entries : Members TerminalSession) :
    KeepsEntries hub (closeAll client entries hub).2 := by
  induction entries generalizing hub with
  | nil => exact KeepsEntries.refl hub
  | cons entry rest ih =>
    rw [closeAll]
    split
    · exact (forward_eq _ _ _ _).2.trans ih
    · exact ih

/-- A closed console is told to the Agents of all its terminals. -/
theorem mem_closeAll (entries : Members TerminalSession) :
    transmission ∈ (closeAll client entries hub).1 ↔ ∃ entry ∈ entries, transmission ∈
      if entry.2.consoleSocketId == client then
        delivered hub entry.2 "terminal-close" (.object [("sessionId", .string entry.1)])
      else [] := by
  induction entries generalizing hub with
  | nil => simp [closeAll]
  | cons entry rest ih =>
    rw [closeAll, List.exists_mem_cons_iff]
    split
    · rw [List.mem_append, (forward_eq _ _ _ _).1, ih, delivered_forward]
    · rw [ih]
      simp

/-- What an Agent says of a terminal is carried by the one of its own that it names. -/
theorem forward_report (agentUuid : Text) :
    (forwardTerminalReady agentUuid payload hub).1 =
        (agentTerminalSession hub agentUuid (memberOf payload "sessionId")).elim []
          (fun entry => carriedReport entry payload .ready) ∧
      (forwardTerminalOutput agentUuid payload hub).1 =
        (agentTerminalSession hub agentUuid (memberOf payload "sessionId")).elim []
          (fun entry => carriedReport entry payload .output) ∧
      (forwardTerminalClosed agentUuid payload hub).1 =
        (agentTerminalSession hub agentUuid (memberOf payload "sessionId")).elim []
          fun entry => carriedReport entry payload .closed := by
  cases own : agentTerminalSession hub agentUuid (memberOf payload "sessionId") with
  | none =>
    simp only [forwardTerminalReady, forwardTerminalOutput, forwardTerminalClosed, own,
      Option.elim_none, and_self]
  | some entry =>
    simp only [forwardTerminalReady, forwardTerminalOutput, forwardTerminalClosed, own,
      carriedReport, Option.elim_some, true_and, and_true]
    split <;> rfl

/-- An Agent says something of the entries that are its own, and nobody of none. -/
theorem filter_said (said : Option Text) (entry : Option TerminalSession) :
    entry.filter (fun session => said == some session.agentUuid) =
      said.elim none fun agentUuid =>
        entry.filter fun session => session.agentUuid == agentUuid := by
  cases said with
  | none => cases entry <;> rfl
  | some agentUuid =>
    refine congrArg entry.filter (funext fun session => ?_)
    by_cases same : session.agentUuid = agentUuid
    · simp [same]
    · simp [same, Ne.symm same]

/-- What is handed on for an Agent is told by the entry of its own that it names. -/
theorem handOn_fst {event : Text} {forward : Text → Value → Hub → List Transmission × Hub}
    {key : Text} {told : TerminalSession → List Transmission}
    {entries : Hub → Members TerminalSession}
    (kept : entries (receive platform hub client event payload).2 = entries hub)
    (forwards : ∀ agentUuid hub, (forward agentUuid payload hub).1 =
      ((entryOf (entries hub) (memberOf payload key)).filter fun session =>
        session.agentUuid == agentUuid).elim [] told) :
    (handOn platform event forward client payload hub).1 =
      ((entryOf (entries hub) (memberOf payload key)).filter fun session =>
        saidBy platform hub client event payload == some session.agentUuid).elim [] told := by
  rw [handOn_eq, filter_said]
  cases saidBy platform hub client event payload with
  | none => rfl
  | some agentUuid =>
    rw [Option.elim_some, Option.elim_some, forwards, kept]

/-- What an Agent says of a terminal is carried by the one of its own that it names. -/
theorem relay_reported {kind : ReportKind} (terminal : kind ≠ .metrics) :
    (relay platform hub (.reported kind client payload)).1 =
      ((entryOf hub.terminalSessions (memberOf payload "sessionId")).filter fun session =>
        saidBy platform hub client kind.event payload == some session.agentUuid).elim []
          fun entry => carriedReport entry payload kind := by
  cases kind with
  | metrics => exact absurd rfl terminal
  | ready =>
    exact handOn_fst (keepsEntries_receive _).1 fun agentUuid hub => (forward_report agentUuid).1
  | output =>
    exact handOn_fst (keepsEntries_receive _).1 fun agentUuid hub => (forward_report agentUuid).2.1
  | closed =>
    exact handOn_fst (keepsEntries_receive _).1 fun agentUuid hub => (forward_report agentUuid).2.2

/-- What an Agent answers is told by the request of its own that it names, which is forgotten. -/
theorem forward_metrics (agentUuid : Text) :
    (forwardSystemMetrics agentUuid payload hub).1 =
        ((entryOf hub.metricRequests (memberOf payload "requestId")).filter fun request =>
          request.agentUuid == agentUuid).elim [] (fun entry =>
            [.toConsole entry.consoleSocketId "agent-metrics" (.object
              [("agentUuid", .string entry.agentUuid),
                ("metrics", memberOf payload "metrics")])]) ∧
      (forwardSystemMetrics agentUuid payload hub).2.metricRequests =
        ((entryOf hub.metricRequests (memberOf payload "requestId")).filter fun request =>
          request.agentUuid == agentUuid).elim hub.metricRequests fun _ =>
            withoutEntry hub.metricRequests (memberOf payload "requestId") := by
  cases own : (entryOf hub.metricRequests (memberOf payload "requestId")).filter
      fun request => request.agentUuid == agentUuid with
  | none => simp only [forwardSystemMetrics, own, Option.elim_none, and_self]
  | some entry =>
    obtain rfl := beq_iff_eq.mp (Option.filter_eq_some_iff.mp own).2
    simp only [forwardSystemMetrics, own, Option.elim_some, and_self]

/-- A terminal that its Agent closes is forgotten. -/
theorem forwardTerminalClosed_terminals (agentUuid : Text) :
    (forwardTerminalClosed agentUuid payload hub).2.terminalSessions =
      ((entryOf hub.terminalSessions (memberOf payload "sessionId")).filter fun session =>
        session.agentUuid == agentUuid).elim hub.terminalSessions fun _ =>
          withoutEntry hub.terminalSessions (memberOf payload "sessionId") := by
  change _ = (agentTerminalSession hub agentUuid (memberOf payload "sessionId")).elim _ _
  cases own : agentTerminalSession hub agentUuid (memberOf payload "sessionId") <;>
    simp only [forwardTerminalClosed, own, Option.elim_none, Option.elim_some]

/-- What is forgotten as an Agent speaks is its own entry that it names. -/
theorem handOn_forgets {event : Text} {forward : Text → Value → Hub → List Transmission × Hub}
    {key : Text} {entries : Hub → Members TerminalSession}
    (kept : entries (receive platform hub client event payload).2 = entries hub)
    (distinct : (Members.keys (entries hub)).Nodup)
    (forgets : ∀ agentUuid hub, entries (forward agentUuid payload hub).2 =
      ((entryOf (entries hub) (memberOf payload key)).filter fun session =>
        session.agentUuid == agentUuid).elim (entries hub) fun _ =>
          withoutEntry (entries hub) (memberOf payload key)) :
    entries (handOn platform event forward client payload hub).2 =
      (entries hub).filter fun entry =>
        !(saidBy platform hub client event payload == some entry.2.agentUuid &&
          isNamed payload key entry.1) := by
  have whole : entries (handOn platform event forward client payload hub).2 =
      ((entryOf (entries hub) (memberOf payload key)).filter fun session =>
        saidBy platform hub client event payload == some session.agentUuid).elim (entries hub)
          fun _ => withoutEntry (entries hub) (memberOf payload key) := by
    rw [handOn_eq, filter_said]
    cases saidBy platform hub client event payload with
    | none => exact kept
    | some agentUuid =>
      rw [Option.elim_some, Option.elim_some, forgets, kept]
  rw [whole]
  cases found : (entryOf (entries hub) (memberOf payload key)).filter fun session =>
      saidBy platform hub client event payload == some session.agentUuid with
  | none => exact (filter_of_not_chosen distinct found).symm
  | some entry => exact withoutEntry_of_chosen distinct found

/-- What nothing of a handler changes is kept as an Agent speaks. -/
theorem handOn_keeps {event : Text} {forward : Text → Value → Hub → List Transmission × Hub}
    {γ : Type} {view : Hub → γ}
    (kept : view (receive platform hub client event payload).2 = view hub)
    (keeps : ∀ agentUuid hub, view (forward agentUuid payload hub).2 = view hub) :
    view (handOn platform event forward client payload hub).2 = view hub := by
  rw [handOn_eq]
  cases saidBy platform hub client event payload with
  | none => exact kept
  | some agentUuid => exact (keeps agentUuid _).trans kept

/-- What an Agent answers is told by the request of its own that it names. -/
theorem relay_metrics :
    (relay platform hub (.reported .metrics client payload)).1 =
      ((entryOf hub.metricRequests (memberOf payload "requestId")).filter fun session =>
        saidBy platform hub client "system-metrics" payload == some session.agentUuid).elim []
          fun entry => [.toConsole entry.consoleSocketId "agent-metrics" (.object
            [("agentUuid", .string entry.agentUuid), ("metrics", memberOf payload "metrics")])] :=
  handOn_fst (keepsEntries_receive _).2.1 fun agentUuid _ => (forward_metrics agentUuid).1

theorem forwardTerminalReady_snd (agentUuid : Text) :
    (forwardTerminalReady agentUuid payload hub).2 = hub := by
  rw [forwardTerminalReady]
  split <;> rfl

theorem forwardTerminalOutput_snd (agentUuid : Text) :
    (forwardTerminalOutput agentUuid payload hub).2 = hub := by
  rw [forwardTerminalOutput]
  split
  · split <;> rfl
  · rfl

theorem forwardTerminalClosed_keeps (agentUuid : Text) :
    (forwardTerminalClosed agentUuid payload hub).2.metricRequests = hub.metricRequests ∧
      (forwardTerminalClosed agentUuid payload hub).2.drawn = hub.drawn := by
  rw [forwardTerminalClosed]
  split <;> exact ⟨rfl, rfl⟩

theorem forwardSystemMetrics_keeps (agentUuid : Text) :
    (forwardSystemMetrics agentUuid payload hub).2.terminalSessions = hub.terminalSessions ∧
      (forwardSystemMetrics agentUuid payload hub).2.drawn = hub.drawn := by
  rw [forwardSystemMetrics]
  split <;> exact ⟨rfl, rfl⟩

/-- Where nothing is done for an Agent that says something, the entries are kept. -/
theorem keepsEntries_handOn {event : Text} {forward : Text → Value → Hub → List Transmission × Hub}
    (same : ∀ agentUuid hub, (forward agentUuid payload hub).2 = hub) :
    KeepsEntries hub (handOn platform event forward client payload hub).2 :=
  ⟨handOn_keeps (keepsEntries_receive _).1 fun _ _ => congrArg _ (same _ _),
    handOn_keeps (keepsEntries_receive _).2.1 fun _ _ => congrArg _ (same _ _),
    handOn_keeps (keepsEntries_receive _).2.2 fun _ _ => congrArg _ (same _ _)⟩

end Handlers

/-! ## All entries at one event -/

section Events

variable {platform : Platform} {hub : Hub} {transmission : Transmission}

theorem filter_keep (entries : Members TerminalSession) :
    (entries.filter fun _ => !false) = entries :=
  List.filter_eq_self.mpr fun _ _ => rfl

/-- The terminals after an event are those that it does not end. -/
theorem relay_terminals (distinct : (Members.keys hub.terminalSessions).Nodup)
    (event : LineEvent) :
    (relay platform hub event).2.terminalSessions = hub.terminalSessions.filter fun entry =>
      !endsTerminal platform hub entry.1 entry.2 event := by
  cases event with
  | typed kind client payload =>
    cases kind with
    | input => exact keepsEntries_handleTerminalInput.1.trans (filter_keep _).symm
    | resize => exact keepsEntries_handleTerminalResize.1.trans (filter_keep _).symm
    | close => exact (handleTerminalClose_entries distinct).1
  | consoleGone client => rfl
  | reported kind client payload =>
    cases kind with
    | metrics =>
      exact (handOn_keeps (keepsEntries_receive _).1 fun agentUuid hub =>
        (forwardSystemMetrics_keeps agentUuid).1).trans (filter_keep _).symm
    | ready =>
      exact (keepsEntries_handOn fun agentUuid _ =>
        forwardTerminalReady_snd agentUuid).1.trans (filter_keep _).symm
    | output =>
      exact (keepsEntries_handOn fun agentUuid _ =>
        forwardTerminalOutput_snd agentUuid).1.trans (filter_keep _).symm
    | closed =>
      exact handOn_forgets (keepsEntries_receive _).1 distinct fun agentUuid hub =>
        forwardTerminalClosed_terminals agentUuid
  | agentGone agentUuid => rfl
  | metricTimer requestId => exact (filter_keep _).symm
  | elsewhere change => exact (filter_keep _).symm

/-- The requests after an event are those that it does not end. -/
theorem relay_requests (distinct : (Members.keys hub.metricRequests).Nodup)
    (distinct' : (Members.keys hub.terminalSessions).Nodup) (event : LineEvent) :
    (relay platform hub event).2.metricRequests = hub.metricRequests.filter fun entry =>
      !endsRequest platform hub entry.1 entry.2 event := by
  cases event with
  | typed kind client payload =>
    cases kind with
    | input => exact keepsEntries_handleTerminalInput.2.1.trans (filter_keep _).symm
    | resize => exact keepsEntries_handleTerminalResize.2.1.trans (filter_keep _).symm
    | close => exact (handleTerminalClose_entries distinct').2.1.trans (filter_keep _).symm
  | consoleGone client => rfl
  | reported kind client payload =>
    cases kind with
    | metrics =>
      exact handOn_forgets (keepsEntries_receive _).2.1 distinct fun agentUuid hub =>
        (forward_metrics agentUuid).2
    | ready =>
      exact (keepsEntries_handOn fun agentUuid _ =>
        forwardTerminalReady_snd agentUuid).2.1.trans (filter_keep _).symm
    | output =>
      exact (keepsEntries_handOn fun agentUuid _ =>
        forwardTerminalOutput_snd agentUuid).2.1.trans (filter_keep _).symm
    | closed =>
      exact (handOn_keeps (keepsEntries_receive _).2.1 fun agentUuid hub =>
        (forwardTerminalClosed_keeps agentUuid).1).trans (filter_keep _).symm
  | agentGone agentUuid => rfl
  | metricTimer requestId => rfl
  | elsewhere change => exact (filter_keep _).symm

/-- No event takes back an identifier that was drawn. -/
theorem relay_drawn (distinct : (Members.keys hub.terminalSessions).Nodup) (event : LineEvent) :
    hub.drawn ≤ (relay platform hub event).2.drawn := by
  cases event with
  | typed kind client payload =>
    cases kind with
    | input => exact keepsEntries_handleTerminalInput.2.2.ge
    | resize => exact keepsEntries_handleTerminalResize.2.2.ge
    | close => exact (handleTerminalClose_entries distinct).2.2.ge
  | consoleGone client => exact (keepsEntries_closeAll hub.terminalSessions).2.2.ge
  | reported kind client payload =>
    refine le_of_eq (Eq.symm ?_)
    cases kind with
    | metrics =>
      exact handOn_keeps (keepsEntries_receive _).2.2 fun agentUuid hub =>
        (forwardSystemMetrics_keeps agentUuid).2
    | ready =>
      exact (keepsEntries_handOn fun agentUuid _ => forwardTerminalReady_snd agentUuid).2.2
    | output =>
      exact (keepsEntries_handOn fun agentUuid _ => forwardTerminalOutput_snd agentUuid).2.2
    | closed =>
      exact handOn_keeps (keepsEntries_receive _).2.2 fun agentUuid hub =>
        (forwardTerminalClosed_keeps agentUuid).2
  | agentGone agentUuid => exact le_rfl
  | metricTimer requestId => exact le_rfl
  | elsewhere change => exact le_max_left _ _

/-- What passes at an event is what the terminals carry and the requests are answered with. -/
theorem mem_relay (distinct : (Members.keys hub.terminalSessions).Nodup)
    (distinct' : (Members.keys hub.metricRequests).Nodup) (event : LineEvent) :
    transmission ∈ (relay platform hub event).1 ↔
      (∃ entry ∈ hub.terminalSessions,
        transmission ∈ carried platform hub entry.1 entry.2 event) ∨
      ∃ entry ∈ hub.metricRequests,
        transmission ∈ answered platform hub entry.1 entry.2 event := by
  have silent (entries : Members TerminalSession) :
      ¬ ∃ entry ∈ entries, transmission ∈ ([] : List Transmission) := by simp
  cases event with
  | typed kind client payload =>
    rw [relay_typed, mem_chosen_iff distinct]
    exact (or_iff_left (silent _)).symm
  | consoleGone client =>
    exact (mem_closeAll _).trans (or_iff_left (silent _)).symm
  | reported kind client payload =>
    cases kind with
    | metrics =>
      refine Iff.trans ?_ (or_iff_right ?_).symm
      · rw [relay_metrics, mem_chosen_iff distinct']
        rfl
      · simp [carried, carriedReport]
    | ready =>
      rw [relay_reported (by decide), mem_chosen_iff distinct]
      exact (or_iff_left (silent _)).symm
    | output =>
      rw [relay_reported (by decide), mem_chosen_iff distinct]
      exact (or_iff_left (silent _)).symm
    | closed =>
      rw [relay_reported (by decide), mem_chosen_iff distinct]
      exact (or_iff_left (silent _)).symm
  | agentGone agentUuid =>
    refine Iff.trans ?_ (or_iff_left (silent _)).symm
    simp only [relay, toldClosed, carried, List.mem_map, List.mem_filter, and_assoc]
    refine exists_congr fun entry => and_congr_right fun _ => ?_
    split
    · rename_i same
      rw [List.mem_singleton, and_iff_right same]
      exact eq_comm
    · rename_i differs
      exact iff_of_false (fun both => differs both.1) List.not_mem_nil
  | metricTimer requestId => exact iff_of_false (by simp [relay]) (by simp [carried, answered])
  | elsewhere change => exact iff_of_false (by simp [relay]) (by simp [carried, answered])

end Events

end ConsoleGateway

end OpticsHub
