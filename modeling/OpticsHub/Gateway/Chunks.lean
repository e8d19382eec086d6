import OpticsHub.Gateway.Server

/-!
# The head of a request in pieces

The bytes of a public connection come cut into any number of events. The handler of the proxy
gathers them, and judges the head from all that it has gathered once the empty line is there. A
head that is routed takes the handler off the connection. One that is rejected leaves it there, so
bytes that come in a later event are gathered and judged again, and the connection is ended again.
-/
namespace OpticsHub

open Script Net

namespace Gateway

/-! ## What the bytes of a connection amount to -/

/-- What the handler makes of the bytes that it has gathered. -/
inductive Verdict where
  | incomplete
  | rejected (outcome : PageOutcome) (context : ErrorContext)
  | routed (headerEnd : ℕ) (host rayId : Text) (route : Route)
  deriving DecidableEq

namespace Verdict

def isRejected : Verdict → Bool
  | .rejected _ _ => true
  | _ => false

/-- With what the connection is to be ended. -/
def pages : Verdict → List Piece
  | .rejected outcome context => [.page outcome context]
  | _ => []

theorem ne_incomplete_of_isRejected {verdict : Verdict} (rejected : verdict.isRejected = true) :
    verdict ≠ .incomplete := by
  rintro rfl
  exact Bool.false_ne_true rejected

/-- A rejected head has one page. -/
theorem length_pages_of_isRejected {verdict : Verdict} (rejected : verdict.isRejected = true) :
    verdict.pages.length = 1 := by
  cases verdict with
  | rejected outcome context => rfl
  | _ => exact absurd rejected Bool.false_ne_true

end Verdict

section Chunks

variable (identifiers : Identifiers) (client : ℕ)

/-- What the handler makes of the lines of a head. -/
def judgeHead (headerEnd : ℕ) (header : List Text) : Verdict :=
  match header.find? (isHeader hostName) with
  | none => .rejected .missingHost ⟨[], none, identifiers.requestId client, readCfRay header⟩
  | some hostLine =>
    match parseRouteFromHostHeader hostLine with
    | none =>
      .rejected .invalidRoute
        ⟨hostOf hostLine, none, identifiers.requestId client, readCfRay header⟩
    | some route => .routed headerEnd (hostOf hostLine) (readCfRay header) route

def judge (buffer : Bytes) : Verdict :=
  match indexOf emptyLine buffer with
  | none => .incomplete
  | some index => judgeHead identifiers client index (splitLines (decodeUtf8 (buffer.take index)))

/-- What the handler does to a connection whose bytes it has judged. -/
def follow (buffer : Bytes) (state : State) : Verdict → List Observation × State
  | .incomplete => ([], state)
  | .rejected outcome context => ([], state.endPage client outcome context)
  | .routed headerEnd host rayId route =>
    askHub identifiers client true
      (((state.onClient client fun vars =>
        { vars with
          buffer := withRequestIdHeader buffer headerEnd (identifiers.requestId client)
          host := host
          rayId := rayId
          route := route }).listen (.client client) .none).onSocket (.client client) Duplex.pause)

/-- The handler judges what it has gathered and follows the verdict. -/
theorem onClientData_eq (chunk : Bytes) (state : State) :
    onClientData identifiers client chunk state =
      follow identifiers client ((state.clients client).buffer ++ chunk)
        (state.onClient client fun vars =>
          { vars with buffer := (state.clients client).buffer ++ chunk })
        (judge identifiers client ((state.clients client).buffer ++ chunk)) := by
  dsimp only [onClientData, judge]
  cases indexOf emptyLine ((state.clients client).buffer ++ chunk) with
  | none => rfl
  | some index =>
    dsimp only [judgeHead]
    generalize splitLines (decodeUtf8 (((state.clients client).buffer ++ chunk).take index)) = lines
    cases lines.find? (isHeader hostName) with
    | none => rfl
    | some hostLine =>
      dsimp only
      cases parseRouteFromHostHeader hostLine with
      | none => rfl
      | some route => rfl

variable {identifiers client}

/-- Bytes that come later do not change what was judged. -/
theorem judge_append {buffer : Bytes} (complete : judge identifiers client buffer ≠ .incomplete)
    (more : Bytes) :
    judge identifiers client (buffer ++ more) = judge identifiers client buffer := by
  cases found : indexOf emptyLine buffer with
  | none =>
    rw [judge, found] at complete
    exact absurd rfl complete
  | some index =>
    have fits := indexOf_le found
    have same : (buffer ++ more).take index = buffer.take index :=
      List.take_append_of_le_length (by omega)
    rw [judge, judge, found, indexOf_append found]
    simp only [same]

/-- The end of the head is where the empty line was found. -/
theorem indexOf_of_routed {buffer : Bytes} {headerEnd : ℕ} {host rayId : Text} {route : Route}
    (routed : judge identifiers client buffer = .routed headerEnd host rayId route) :
    indexOf emptyLine buffer = some headerEnd := by
  cases found : indexOf emptyLine buffer with
  | none =>
    rw [judge, found] at routed
    cases routed
  | some index =>
    simp only [judge, found, judgeHead] at routed
    split at routed
    · cases routed
    · split at routed
      · cases routed
      · obtain ⟨rfl, -, -, -⟩ := Verdict.routed.inj routed
        rfl

/-! ## What is seen of a connection -/

variable (identifiers client)

/-- Bytes come and are handed over in one event. -/
def dataEvent (chunk : Bytes) : List Event :=
  [.receive (.client client) chunk, .deliver (.client client) chunk.length]

/-- With what the handler of the data of a connection calls `socket.end` at a step. -/
def endedBy (state : State) : Event → List Piece
  | .deliver id count =>
    if id = .client client ∧ (state.sockets id).delivers count ∧ state.listeners id = .onData then
      (judge identifiers client
        ((state.clients client).buffer ++ (state.sockets id).chunk count)).pages
    else []
  | _ => []

/-- With what the handler calls `socket.end` in a run. -/
def endings (state : State) : List Event → List Piece
  | [] => []
  | event :: rest =>
    endedBy identifiers client state event ++ endings (step identifiers state event).2 rest

structure Reading where
  /-- With what `socket.end` is called. -/
  ends : List Piece
  shown : List Observation
  written : List Piece
  route : Route
  /-- What the handler stores, and then what the connection has not handed over. -/
  gathered : Bytes
  deriving DecidableEq

/-- What is seen of a connection whose bytes come in a number of events. -/
def reading (state : State) (chunks : List Bytes) : Reading :=
  let events := chunks.flatMap (dataEvent client)
  let last := Machine.final (step identifiers) state events
  { ends := endings identifiers client state events
    shown := (Machine.trace (step identifiers) state events).flatMap Prod.snd
    written := (last.sockets (.client client)).written
    route := (last.clients client).route
    gathered := (last.clients client).buffer ++ (last.sockets (.client client)).pending }

/-- The state once the bytes of an event have come and were handed over. -/
def afterData (state : State) (chunk : Bytes) : State :=
  Machine.final (step identifiers) state (dataEvent client chunk)

/-- The pages that the connection is ended with at an event. -/
def endsAt (state : State) (chunk : Bytes) : List Piece :=
  endings identifiers client state (dataEvent client chunk)

/-- What an event shows. -/
def shownAt (state : State) (chunk : Bytes) : List Observation :=
  (Machine.trace (step identifiers) state (dataEvent client chunk)).flatMap Prod.snd

variable {identifiers client}

theorem reading_cons (state : State) (chunk : Bytes) (rest : List Bytes) :
    reading identifiers client state (chunk :: rest) =
      let later := reading identifiers client (afterData identifiers client state chunk) rest
      { later with
        ends := endsAt identifiers client state chunk ++ later.ends
        shown := shownAt identifiers client state chunk ++ later.shown } := by
  simp only [reading, afterData, endsAt, shownAt, List.flatMap_cons, dataEvent, List.cons_append,
    List.nil_append, Machine.final, Machine.trace, endings, List.append_assoc, List.flatMap_nil,
    List.append_nil]

/-! ## A connection that gathers -/

/-- The handler has gathered bytes, and nothing else has happened. -/
structure Gathers (client : ℕ) (buffer : Bytes) (state : State) : Prop where
  listener : state.listeners (.client client) = .onData
  vars : state.clients client = { buffer := buffer }
  socket : state.sockets (.client client) = { consumed := buffer }

/-- The handler has gathered bytes, and ended the connection with a page. -/
structure Ended (client : ℕ) (page : Piece) (buffer : Bytes) (state : State) : Prop where
  listener : state.listeners (.client client) = .onData
  vars : state.clients client = { buffer := buffer }
  socket : state.sockets (.client client) =
    { consumed := buffer, written := [page], ended := true }

/-- The handler has stored a head and was taken off, and bytes wait in the connection. -/
structure Handed (client : ℕ) (stored : Bytes) (route : Route) (waiting : Bytes) (state : State) :
    Prop where
  buffer : (state.clients client).buffer = stored
  route : (state.clients client).route = route
  flowing : (state.sockets (.client client)).flowing = false
  pending : (state.sockets (.client client)).pending = waiting
  written : (state.sockets (.client client)).written = []
  receives : (state.sockets (.client client)).receives = true

section Events

variable {state : State} {buffer stored waiting chunk : Bytes} {page : Piece} {route : Route}

/-- The connection once bytes have come. -/
def cameIn (client : ℕ) (state : State) (chunk : Bytes) : State :=
  state.onSocket (.client client) (Duplex.receive chunk)

theorem cameIn_socket :
    (cameIn client state chunk).sockets (.client client) =
      (state.sockets (.client client)).receive chunk := by
  simp [cameIn, State.onSocket]

/-- An event whose bytes are not handed over leaves them waiting. -/
theorem data_idle (receives : (state.sockets (.client client)).receives = true)
    (idle : ((state.sockets (.client client)).receive chunk).delivers chunk.length = false) :
    endsAt identifiers client state chunk = [] ∧ shownAt identifiers client state chunk = [] ∧
      afterData identifiers client state chunk = cameIn client state chunk := by
  have came : step identifiers state (.receive (.client client) chunk) =
      ([], cameIn client state chunk) := by rw [step, if_pos receives, cameIn]
  have stays : step identifiers (cameIn client state chunk)
      (.deliver (.client client) chunk.length) = ([], cameIn client state chunk) := by
    rw [step, cameIn_socket, idle, if_neg Bool.false_ne_true]
  refine ⟨?_, ?_, ?_⟩
  · simp [endsAt, dataEvent, endings, endedBy, came, cameIn_socket, idle]
  · simp [shownAt, dataEvent, Machine.trace, came, stays]
  · simp [afterData, dataEvent, Machine.final, came, stays]

/-- The handler is handed whatever comes. -/
structure Listens (client : ℕ) (state : State) : Prop where
  listener : state.listeners (.client client) = .onData
  receives : (state.sockets (.client client)).receives = true
  flowing : (state.sockets (.client client)).flowing = true
  pending : (state.sockets (.client client)).pending = []

/-- The bytes of an event are added to those gathered. -/
def takenIn (client : ℕ) (state : State) (chunk : Bytes) : State :=
  ((cameIn client state chunk).onSocket (.client client) (Duplex.advance chunk.length)).onClient
    client fun vars => { vars with buffer := vars.buffer ++ chunk }

theorem Listens.chunk_eq (listens : Listens client state) :
    ((state.sockets (.client client)).receive chunk).chunk chunk.length = chunk := by
  simp [Duplex.chunk, Duplex.receive, listens.pending]

theorem Listens.delivers (listens : Listens client state) (some : chunk ≠ []) :
    ((state.sockets (.client client)).receive chunk).delivers chunk.length = true := by
  have receives := listens.receives
  rw [Duplex.receives, Bool.and_eq_true] at receives
  rw [Duplex.delivers, listens.chunk_eq, Bool.and_eq_true, Bool.and_eq_true]
  exact ⟨⟨listens.flowing, receives.2⟩, by simpa using some⟩

/-- An event whose bytes are handed over is judged with all that was gathered. -/
theorem data_judged (listens : Listens client state) (some : chunk ≠ []) :
    endsAt identifiers client state chunk =
        (judge identifiers client ((state.clients client).buffer ++ chunk)).pages ∧
      shownAt identifiers client state chunk =
        (follow identifiers client ((state.clients client).buffer ++ chunk)
          (takenIn client state chunk)
          (judge identifiers client ((state.clients client).buffer ++ chunk))).1 ∧
      afterData identifiers client state chunk =
        (follow identifiers client ((state.clients client).buffer ++ chunk)
          (takenIn client state chunk)
          (judge identifiers client ((state.clients client).buffer ++ chunk))).2 := by
  have came : step identifiers state (.receive (.client client) chunk) =
      ([], cameIn client state chunk) := by rw [step, if_pos listens.receives, cameIn]
  have delivers := listens.delivers some
  have same : (cameIn client state chunk).clients client = state.clients client := rfl
  have heard : (cameIn client state chunk).listeners (.client client) = .onData :=
    listens.listener
  have handed : step identifiers (cameIn client state chunk)
      (.deliver (.client client) chunk.length) =
      follow identifiers client ((state.clients client).buffer ++ chunk)
        (takenIn client state chunk)
        (judge identifiers client ((state.clients client).buffer ++ chunk)) := by
    rw [step, cameIn_socket, if_pos delivers, deliver]
    · simp only [cameIn_socket, listens.chunk_eq]
      rw [onClientData_eq]
      rfl
    · exact heard
  refine ⟨?_, ?_, ?_⟩
  · simp [endsAt, dataEvent, endings, endedBy, came, cameIn_socket, delivers, heard, same,
      listens.chunk_eq]
  · simp [shownAt, dataEvent, Machine.trace, came, handed]
  · simp [afterData, dataEvent, Machine.final, came, handed]

theorem Gathers.listens (gathers : Gathers client buffer state) : Listens client state where
  listener := gathers.listener
  receives := by rw [gathers.socket]; rfl
  flowing := by rw [gathers.socket]
  pending := by rw [gathers.socket]

theorem Ended.listens (ended : Ended client page buffer state) : Listens client state where
  listener := ended.listener
  receives := by rw [ended.socket]; rfl
  flowing := by rw [ended.socket]
  pending := by rw [ended.socket]

/-- Bytes that are added to those gathered are gathered. -/
theorem Gathers.takenIn (gathers : Gathers client buffer state) (chunk : Bytes) :
    Gathers client (buffer ++ chunk) (takenIn client state chunk) where
  listener := gathers.listener
  vars := by simp [Gateway.takenIn, cameIn, State.onClient, State.onSocket, gathers.vars]
  socket := by
    simp [Gateway.takenIn, cameIn, State.onClient, State.onSocket, gathers.socket, Duplex.advance,
      Duplex.receive, Duplex.chunk]

/-- A connection that gathers is ended with a page. -/
theorem Gathers.endPage (gathers : Gathers client buffer state) (outcome : PageOutcome)
    (context : ErrorContext) :
    Ended client (.page outcome context) buffer (state.endPage client outcome context) where
  listener := gathers.listener
  vars := gathers.vars
  socket := by
    simp [State.endPage, State.onSocket, gathers.socket, Duplex.endWith, Duplex.writable,
      Duplex.write, Duplex.endStream]

/-- A connection that gathers hands its request over. -/
theorem Gathers.askHub (gathers : Gathers client buffer state) (stored : Bytes) (host rayId : Text)
    (route : Route) :
    Handed client stored route []
      (Gateway.askHub identifiers client true
        (((state.onClient client fun vars =>
          { vars with buffer := stored, host := host, rayId := rayId, route := route }).listen
            (.client client) .none).onSocket (.client client) Duplex.pause)).2 where
  buffer := by simp [Gateway.askHub, State.onClient, State.onSocket, State.listen]
  route := by simp [Gateway.askHub, State.onClient, State.onSocket, State.listen]
  flowing := by
    simp [Gateway.askHub, State.onClient, State.onSocket, State.listen, Duplex.pause]
  pending := by
    simp [Gateway.askHub, State.onClient, State.onSocket, State.listen, Duplex.pause,
      gathers.socket]
  written := by
    simp [Gateway.askHub, State.onClient, State.onSocket, State.listen, Duplex.pause,
      gathers.socket]
  receives := by
    simp [Gateway.askHub, State.onClient, State.onSocket, State.listen, Duplex.pause,
      gathers.socket, Duplex.receives]

/-- Bytes that come to a connection that was handed over wait. -/
theorem Handed.cameIn (handed : Handed client stored route waiting state) (chunk : Bytes) :
    Handed client stored route (waiting ++ chunk) (cameIn client state chunk) where
  buffer := handed.buffer
  route := handed.route
  flowing := by rw [cameIn_socket]; exact handed.flowing
  pending := by rw [cameIn_socket, Duplex.receive, handed.pending]
  written := by rw [cameIn_socket]; exact handed.written
  receives := by rw [cameIn_socket]; exact handed.receives

/-- What is seen of a connection that was handed over. -/
theorem Handed.reading (handed : Handed client stored route waiting state)
    (chunks : List Bytes) :
    reading identifiers client state chunks =
      { ends := [], shown := [], written := [], route := route,
        gathered := stored ++ (waiting ++ chunks.flatten) } := by
  induction chunks generalizing waiting state with
  | nil =>
    simp [Gateway.reading, endings, Machine.trace, Machine.final, handed.buffer, handed.route,
      handed.pending, handed.written]
  | cons chunk rest ih =>
    have idle : ((state.sockets (.client client)).receive chunk).delivers chunk.length = false := by
      have flowing : ((state.sockets (.client client)).receive chunk).flowing = false :=
        handed.flowing
      rw [Duplex.delivers, flowing, Bool.false_and, Bool.false_and]
    obtain ⟨ends, shown, after⟩ := @data_idle identifiers _ _ _ handed.receives idle
    rw [reading_cons, ends, shown, after, ih (handed.cameIn chunk)]
    simp

/-- An event without bytes does nothing. -/
theorem data_nil (receives : (state.sockets (.client client)).receives = true) :
    endsAt identifiers client state [] = [] ∧ shownAt identifiers client state [] = [] ∧
      afterData identifiers client state [] = state := by
  have same : (state.sockets (.client client)).receive [] = state.sockets (.client client) := by
    rw [Duplex.receive, List.append_nil]
  have idle : ((state.sockets (.client client)).receive []).delivers 0 = false := by
    rw [Duplex.delivers, Duplex.chunk, List.take_zero, List.isEmpty_nil, Bool.not_true,
      Bool.and_false]
  have came : cameIn client state [] = state := by
    rw [cameIn, State.onSocket, same, Function.update_eq_self]
  obtain ⟨ends, shown, after⟩ := @data_idle identifiers _ _ _ receives idle
  exact ⟨ends, shown, after.trans came⟩

/-- What is seen of a connection to which no more bytes come. -/
theorem Listens.reading_nil (listens : Listens client state) {chunks : List Bytes}
    (none : chunks.flatten = []) :
    reading identifiers client state chunks =
      { ends := [], shown := [], written := (state.sockets (.client client)).written,
        route := (state.clients client).route, gathered := (state.clients client).buffer } := by
  induction chunks with
  | nil => simp [reading, endings, Machine.trace, Machine.final, listens.pending]
  | cons chunk rest ih =>
    rw [List.flatten_cons, List.append_eq_nil_iff] at none
    obtain ⟨rfl, none⟩ := none
    obtain ⟨ends, shown, after⟩ := @data_nil identifiers _ _ listens.receives
    rw [reading_cons, ends, shown, after, ih none]
    simp

end Events

/-! ## However the bytes are cut -/

variable (identifiers client)

/-- What is seen of a connection by all the bytes that come. -/
def whole (buffer : Bytes) : Reading :=
  match judge identifiers client buffer with
  | .incomplete =>
    { ends := [], shown := [], written := [], route := ⟨[], []⟩, gathered := buffer }
  | .rejected outcome context =>
    { ends := [.page outcome context], shown := [], written := [.page outcome context],
      route := ⟨[], []⟩, gathered := buffer }
  | .routed headerEnd _ _ route =>
    { ends := [], shown := [.asks client route (identifiers.token client) true], written := [],
      route := route,
      gathered := withRequestIdHeader buffer headerEnd (identifiers.requestId client) }

/-- Bytes come in a later event than those by which the head is rejected. -/
def RejectedEarly (chunks : List Bytes) : Prop :=
  ∃ front back, chunks = front ++ back ∧
    (judge identifiers client front.flatten).isRejected = true ∧ back.flatten ≠ []

variable {identifiers client} {state : State} {buffer : Bytes}

/-- What is seen of a connection depends on all the bytes that come, if none come after those by
which the head is rejected.

Proof: by induction on the events. While the head is not complete its bytes are gathered. A routed
head takes the handler off, and what comes later waits. After a rejected head nothing comes. -/
theorem Gathers.reading (gathers : Gathers client buffer state)
    (incomplete : judge identifiers client buffer = .incomplete) (chunks : List Bytes)
    (late : ∀ front back, chunks = front ++ back →
      (judge identifiers client (buffer ++ front.flatten)).isRejected = true →
      back.flatten = []) :
    reading identifiers client state chunks =
      whole identifiers client (buffer ++ chunks.flatten) := by
  induction chunks generalizing buffer state with
  | nil =>
    rw [gathers.listens.reading_nil List.flatten_nil, List.flatten_nil, List.append_nil, whole,
      incomplete, gathers.vars, gathers.socket]
  | cons chunk rest ih =>
    by_cases empty : chunk = []
    · subst empty
      obtain ⟨ends, shown, after⟩ := @data_nil identifiers _ _ gathers.listens.receives
      rw [reading_cons, ends, shown, after, List.flatten_cons, List.nil_append]
      refine ih gathers incomplete fun front back split => ?_
      exact late ([] :: front) back (congrArg ([] :: ·) split)
    · obtain ⟨ends, shown, after⟩ := @data_judged identifiers _ _ _ gathers.listens empty
      have stored : (state.clients client).buffer = buffer := by rw [gathers.vars]
      have taken := gathers.takenIn chunk
      rw [stored] at ends shown after
      rw [reading_cons, ends, shown, after, List.flatten_cons, ← List.append_assoc]
      cases verdict : judge identifiers client (buffer ++ chunk) with
      | incomplete =>
        rw [follow, ih taken verdict]
        · rfl
        · intro front back split
          have before := late (chunk :: front) back (congrArg (chunk :: ·) split)
          rwa [List.flatten_cons, ← List.append_assoc] at before
      | rejected outcome context =>
        have spent : rest.flatten = [] := by
          refine late [chunk] rest rfl ?_
          rw [List.flatten_singleton, verdict]
          rfl
        have ended := taken.endPage outcome context
        rw [follow, ended.listens.reading_nil spent, spent, List.append_nil, whole, verdict,
          ended.vars, ended.socket]
        rfl
      | routed headerEnd host rayId route =>
        have handed := @Gathers.askHub identifiers _ _ _ taken
          (withRequestIdHeader (buffer ++ chunk) headerEnd (identifiers.requestId client)) host
          rayId route
        have same : judge identifiers client (buffer ++ chunk ++ rest.flatten) =
            .routed headerEnd host rayId route :=
          (judge_append (by rw [verdict]; exact Verdict.noConfusion) _).trans verdict
        rw [follow, handed.reading rest, List.nil_append]
        simp only [whole, same, withRequestIdHeader_append (indexOf_of_routed verdict)]
        simp [Verdict.pages, Gateway.askHub, State.onClient, State.onSocket, State.listen]

/-- A connection whose head was rejected is ended again when more bytes come. -/
theorem Ended.ends {page : Piece} (ended : Ended client page buffer state)
    (rejected : (judge identifiers client buffer).isRejected = true) (chunks : List Bytes)
    (more : chunks.flatten ≠ []) :
    1 ≤ (Gateway.reading identifiers client state chunks).ends.length := by
  induction chunks with
  | nil => exact absurd rfl more
  | cons chunk rest ih =>
    by_cases empty : chunk = []
    · subst empty
      obtain ⟨ends, -, after⟩ := @data_nil identifiers _ _ ended.listens.receives
      rw [reading_cons, ends, after]
      exact ih more
    · obtain ⟨ends, -, -⟩ := @data_judged identifiers _ _ _ ended.listens empty
      have stored : (state.clients client).buffer = buffer := by rw [ended.vars]
      rw [stored, judge_append (Verdict.ne_incomplete_of_isRejected rejected)] at ends
      have once := Verdict.length_pages_of_isRejected rejected
      rw [reading_cons, ends, List.length_append]
      omega

/-- A connection whose head is rejected before the last bytes come is ended more than once. -/
theorem Gathers.ends (gathers : Gathers client buffer state)
    (incomplete : judge identifiers client buffer = .incomplete) (front back : List Bytes)
    (rejected : (judge identifiers client (buffer ++ front.flatten)).isRejected = true)
    (more : back.flatten ≠ []) :
    2 ≤ (Gateway.reading identifiers client state (front ++ back)).ends.length := by
  induction front generalizing buffer state with
  | nil =>
    rw [List.flatten_nil, List.append_nil, incomplete] at rejected
    exact absurd rejected Bool.false_ne_true
  | cons chunk rest ih =>
    rw [List.flatten_cons, ← List.append_assoc] at rejected
    rw [List.cons_append, reading_cons]
    by_cases empty : chunk = []
    · subst empty
      rw [List.append_nil] at rejected
      obtain ⟨ends, -, after⟩ := @data_nil identifiers _ _ gathers.listens.receives
      rw [ends, after]
      exact ih gathers incomplete rejected
    · obtain ⟨ends, -, after⟩ := @data_judged identifiers _ _ _ gathers.listens empty
      have stored : (state.clients client).buffer = buffer := by rw [gathers.vars]
      have taken := gathers.takenIn chunk
      rw [stored] at ends after
      rw [ends, after]
      cases verdict : judge identifiers client (buffer ++ chunk) with
      | incomplete =>
        rw [follow]
        exact ih taken verdict rejected
      | rejected outcome context =>
        have ended := taken.endPage outcome context
        have more' : (rest ++ back).flatten ≠ [] := by simp [more]
        have again := @Ended.ends identifiers _ _ _ _ ended (by rw [verdict]; rfl) _ more'
        rw [follow]
        simp only [List.length_append, Verdict.pages, List.length_singleton]
        omega
      | routed headerEnd host rayId route =>
        rw [judge_append (by rw [verdict]; exact Verdict.noConfusion), verdict] at rejected
        exact absurd rejected Bool.false_ne_true

theorem judge_nil : judge identifiers client [] = .incomplete := rfl

/-- The bytes of one event are not rejected early. -/
theorem not_rejectedEarly_singleton (chunk : Bytes) :
    ¬ RejectedEarly identifiers client [chunk] := by
  rintro ⟨front, back, split, rejected, more⟩
  cases front with
  | nil =>
    rw [List.flatten_nil, judge_nil] at rejected
    exact Bool.false_ne_true rejected
  | cons first front =>
    have spent : back = [] := (List.append_eq_nil_iff.mp (List.cons.inj split).2.symm).2
    rw [spent] at more
    exact more rfl

/-- What is seen of a connection whose head is not rejected early. -/
theorem reading_eq_whole (opened : Gathers client [] state) {chunks : List Bytes}
    (late : ¬ RejectedEarly identifiers client chunks) :
    reading identifiers client state chunks = whole identifiers client chunks.flatten := by
  refine opened.reading judge_nil chunks fun front back split rejected => ?_
  by_contra more
  exact late ⟨front, back, split, rejected, more⟩

theorem length_ends_whole_le (buffer : Bytes) :
    (whole identifiers client buffer).ends.length ≤ 1 := by
  rw [whole]
  split
  · exact Nat.zero_le 1
  · exact le_refl 1
  · exact Nat.zero_le 1

/-- What is seen of a connection, and that a rejected request ends it once, does not depend on how
its bytes are cut into events, exactly if no bytes come in a later event than those by which the
head is rejected. -/
theorem reading_iff (opened : Gathers client [] state) (chunks : List Bytes) :
    (reading identifiers client state chunks =
        reading identifiers client state [chunks.flatten] ∧
      ∀ outcome context, judge identifiers client chunks.flatten = .rejected outcome context →
        (reading identifiers client state chunks).ends = [.page outcome context]) ↔
      ¬ RejectedEarly identifiers client chunks := by
  have once := reading_eq_whole opened
    (@not_rejectedEarly_singleton identifiers client chunks.flatten)
  rw [List.flatten_singleton] at once
  rw [once]
  constructor
  · rintro ⟨same, -⟩ ⟨front, back, rfl, rejected, more⟩
    have twice := @Gathers.ends identifiers _ _ _ opened judge_nil front back rejected more
    have atMost := @length_ends_whole_le identifiers client (front ++ back).flatten
    rw [same] at twice
    omega
  · intro late
    have same := reading_eq_whole opened late
    refine ⟨same, fun outcome context rejected => ?_⟩
    rw [same, whole, rejected]

end Chunks

/-- A request without a host, and one byte of its body in a later event. -/
def lateByte : List Bytes := [encodeUtf8 "POST / HTTP/1.1\r\n\r\n", encodeUtf8 "x"]

def drawn : Identifiers := ⟨fun _ => "token", fun _ => "opt_1"⟩

theorem reading_lateByte : Gathers 0 [] ({} : State) ∧
    ((reading drawn 0 {} lateByte = reading drawn 0 {} [lateByte.flatten] ∧
      ∀ outcome context, judge drawn 0 lateByte.flatten = .rejected outcome context →
        (reading drawn 0 {} lateByte).ends = [.page outcome context]) ↔
      ¬ RejectedEarly drawn 0 lateByte) :=
  ⟨⟨rfl, rfl, rfl⟩, reading_iff ⟨rfl, rfl, rfl⟩ lateByte⟩

/-- The request is rejected by its first event, and its connection is ended twice. -/
theorem not_reading_lateByte :
    judge drawn 0 lateByte.flatten = .rejected .missingHost ⟨[], none, "opt_1", "-"⟩ ∧
      (reading drawn 0 {} lateByte).ends =
        [.page .missingHost ⟨[], none, "opt_1", "-"⟩, .page .missingHost ⟨[], none, "opt_1", "-"⟩] ∧
      (reading drawn 0 {} [lateByte.flatten]).ends =
        [.page .missingHost ⟨[], none, "opt_1", "-"⟩] := by
  decide

end Gateway

end OpticsHub
