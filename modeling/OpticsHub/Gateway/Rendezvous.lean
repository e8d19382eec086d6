import OpticsHub.Gateway.Bytes

/-!
# Meeting under a token

A public client registers once, under the token that was drawn for its connection, and is
joined to the socket that presents the token. The registry does not tell clients from sockets
that Agents opened: two of the latter that present one token are piped to each other, and this
is the only way in which a pair can be wrong.
-/
namespace OpticsHub

open Script Net Machine

namespace Gateway

/-- The first line of what a socket has received, once it is complete. -/
def firstLine (bytes : Bytes) : Option Text :=
  (indexOf newline bytes).map fun index => decodeUtf8 (bytes.take index)

/-- The first line of a socket, if that is a token. -/
def tokenLine (bytes : Bytes) : Option Text :=
  (firstLine bytes).filter fun line => !(preconnectVerb ++ [space]).isPrefixOf line

/-- The token that a socket presents when it hands data over. -/
def State.presented (state : State) (control count : ℕ) : Option Text :=
  let socket := state.sockets (.control control)
  if state.listeners (.control control) = .onData ∧ socket.delivers count = true then
    tokenLine ((state.controls control).buffer ++ socket.chunk count)
  else none

/-- What is read as the first line stays the first line. -/
theorem firstLine_append {bytes : Bytes} {line : Text} (read : firstLine bytes = some line)
    (more : Bytes) : firstLine (bytes ++ more) = some line := by
  obtain ⟨index, found, rfl⟩ := Option.map_eq_some_iff.mp read
  have fits := indexOf_le found
  rw [firstLine, indexOf_append found, Option.map_some,
    List.take_append_of_le_length (by simp [newline] at fits; omega)]

theorem firstLine_of_tokenLine {bytes : Bytes} {token : Text}
    (read : tokenLine bytes = some token) : firstLine bytes = some token :=
  (Option.filter_eq_some_iff.mp read).1

section Presenting

variable {identifiers : Identifiers} {past : List (Event × List Observation)} {state : State}
  {free : ℕ → Bool} {wiring next : Wiring} {event : Event} {shown : List Observation}

/-- A token is presented to the registry, and nothing else is. -/
theorem onControlData_shows (control : ℕ) (chunk : Bytes) :
    (∃ token rest heard, tokenLine ((state.controls control).buffer ++ chunk) = some token ∧
      heard.registry = state.registry ∧
      (onControlData control chunk state).1 = (present control token rest heard).1) ∨
    tokenLine ((state.controls control).buffer ++ chunk) = none ∧
      ∀ token, .presents control token ∉ (onControlData control chunk state).1 := by
  simp only [onControlData, tokenLine, firstLine]
  split
  · rename_i absent
    exact .inr ⟨by simp [absent], by simp⟩
  · rename_i index found
    split
    · rename_i preconnects
      refine .inr ⟨?_, fun token => ?_⟩
      · simpa [found] using List.isPrefixOf_iff_prefix.mp preconnects
      simp only [handlePreconnect]
      split
      · simp
      · split <;> simp
    · rename_i otherwise
      refine .inl ⟨_, _, _, ?_, ?_, rfl⟩
      · simp [found, otherwise]
      · rfl

/-- What a step shows when a token is presented. -/
theorem step_presented {control count : ℕ} {token : Text}
    (presented : state.presented control count = some token) :
    (∀ exist, state.registry.get token = some exist →
      (step identifiers state (.deliver (.control control) count)).1 =
        [.presents control token, .pairs control token exist.socket]) ∧
    (state.registry.get token = none →
      (step identifiers state (.deliver (.control control) count)).1 =
        [.presents control token, .registers (.control control) token]) := by
  simp only [State.presented] at presented
  split at presented
  · rename_i condition
    obtain ⟨heard, delivers⟩ := condition
    simp only [step, delivers, if_true, deliver, heard]
    rcases @onControlData_shows
      (state.onSocket (.control control) (Duplex.advance count)) control
      ((state.sockets (.control control)).chunk count) with
      ⟨token', rest, after, line, registry, shows⟩ | ⟨line, -⟩
    · obtain rfl : token' = token := Option.some.inj (line.symm.trans presented)
      have registry : after.registry = state.registry := registry
      simp only [shows, present, registry]
      refine ⟨fun exist found => ?_, fun absent => ?_⟩
      · simp [found]
      · simp [absent]
    · exact absurd (line.symm.trans presented) (by simp)
  · cases presented

/-- Only a socket whose first line is not complete presents a token. -/
theorem presents_move (move : Move identifiers free wiring event shown next) {control : ℕ}
    {token : Text} (here : .presents control token ∈ shown) :
    ∃ count, event = .deliver (.control control) count ∧
      wiring.listeners (.control control) = .onData := by
  cases move with
  | pairs control' count heard token' exist found =>
    obtain ⟨rfl, -⟩ : control = control' ∧ token = token' := by simpa using here
    exact ⟨count, rfl, heard⟩
  | hibernates control' count heard token' rest absent =>
    obtain ⟨rfl, -⟩ : control = control' ∧ token = token' := by simpa using here
    exact ⟨count, rfl, heard⟩
  | _ => simp at here

/-- Whoever is joined to another has presented a token. -/
theorem presents_of_pairs (move : Move identifiers free wiring event shown next) {control : ℕ}
    {token : Text} {waiting : SocketId} (here : .pairs control token waiting ∈ shown) :
    .presents control token ∈ shown := by
  cases move with
  | pairs control' count heard token' exist found =>
    obtain ⟨rfl, rfl, -⟩ : control = control' ∧ token = token' ∧ waiting = exist.socket := by
      simpa using here
    simp
  | _ => simp at here

/-- A token is presented only by a socket that hands over the rest of its first line. -/
theorem presented_of_shown {control : ℕ} {token : Text}
    (shown : .presents control token ∈ (step identifiers state event).1) :
    ∃ count, event = .deliver (.control control) count ∧
      state.presented control count = some token := by
  obtain ⟨count, rfl, heard⟩ := presents_move (step_moves identifiers state event) shown
  refine ⟨count, rfl, ?_⟩
  have heard : state.listeners (.control control) = .onData := heard
  simp only [step] at shown
  split at shown
  · rename_i delivers
    rw [State.presented, if_pos ⟨heard, delivers⟩]
    simp only [deliver, heard] at shown
    rcases @onControlData_shows
      (state.onSocket (.control control) (Duplex.advance count)) control
      ((state.sockets (.control control)).chunk count) with
      ⟨token', rest, after, line, registry, shows⟩ | ⟨line, silent⟩
    · rw [shows] at shown
      refine Eq.trans line (congrArg some ?_)
      simp only [present] at shown
      obtain rfl : token = token' := by
        split at shown
        · simpa using shown
        · simpa using shown
      rfl
    · exact absurd shown (silent token)
  · simp at shown

/-- Two sockets are joined when one presents the token that the other waits under. -/
theorem pairs_shown_iff {control : ℕ} {token : Text} {waiting : SocketId} :
    .pairs control token waiting ∈ (step identifiers state event).1 ↔
      ∃ count exist, event = .deliver (.control control) count ∧
        state.presented control count = some token ∧
        state.registry.get token = some exist ∧ exist.socket = waiting := by
  constructor
  · intro shown
    have presents := presents_of_pairs (step_moves identifiers state event) shown
    obtain ⟨count, rfl, presented⟩ := presented_of_shown presents
    obtain ⟨meets, waits⟩ := @step_presented identifiers state control count token presented
    cases found : state.registry.get token with
    | none =>
      rw [waits found] at shown
      simp at shown
    | some exist =>
      rw [meets exist found] at shown
      obtain rfl : waiting = exist.socket := by simpa using shown
      exact ⟨count, exist, rfl, presented, rfl, rfl⟩
  · rintro ⟨count, exist, rfl, presented, found, rfl⟩
    rw [(step_presented presented).1 exist found]
    simp

end Presenting

/-! ## Who is joined to whom -/

/-- Whoever is joined is a socket whose first line is a token, and a client that the proxy has
registered under the token, and that was joined to nobody before. -/
def PairsWell (past : List (Event × List Observation)) (next : State)
    (shown : List Observation) : Prop :=
  ∀ control token waiting, .pairs control token waiting ∈ shown →
    firstLine (next.sockets (.control control)).received = some token ∧
      ∃ client, waiting = .client client ∧ Shown past (.registers (.client client) token) ∧
        ∀ control' token', ¬ Shown past (.pairs control' token' (.client client))

/-- Under a token that a socket presents, no other socket that an Agent opened waits. -/
def MeetsClients (state : State) : Event → Prop
  | .deliver (.control control) count => ∀ token exist,
      state.presented control count = some token → state.registry.get token = some exist →
      ∃ client, exist.socket = .client client
  | _ => True

section Pairs

variable {identifiers : Identifiers} {past : List (Event × List Observation)} {state : State}

/-- What is known of the sockets of a run. -/
structure Standing (identifiers : Identifiers) (past : List (Event × List Observation))
    (state : State) : Prop where
  pooling : Pooling past state.wiring
  stationed : Stationed identifiers past state.wiring
  gathering : Gathering state

theorem standing_started (identifiers : Identifiers) : Standing identifiers [] {} :=
  ⟨pooling_started, stationed_started identifiers, gathering_started⟩

theorem Standing.onward (standing : Standing identifiers past state) (event : Event) :
    Standing identifiers (past ++ [(event, (step identifiers state event).1)])
      (step identifiers state event).2 :=
  ⟨standing.pooling.onward identifiers event, standing.stationed.onward standing.pooling event,
    standing.gathering.onward event⟩

/-- The token that a socket presents is its first line. -/
theorem Standing.firstLine_presented (standing : Standing identifiers past state)
    {control count : ℕ} {token : Text} (presented : state.presented control count = some token) :
    firstLine ((step identifiers state (.deliver (.control control) count)).2.sockets
      (.control control)).received = some token := by
  simp only [State.presented] at presented
  split at presented
  · rename_i condition
    obtain ⟨heard, delivers⟩ := condition
    rw [Duplex.received, consumed_of_delivers state delivers,
      ← standing.gathering (.control control) heard]
    exact firstLine_append (firstLine_of_tokenLine presented) _
  · cases presented

theorem Standing.pairsWell_iff (standing : Standing identifiers past state) (event : Event) :
    PairsWell past (step identifiers state event).2 (step identifiers state event).1 ↔
      MeetsClients state event := by
  constructor
  · intro well
    cases event with
    | deliver id count =>
      cases id with
      | client client => trivial
      | control control =>
        intro token exist presented found
        obtain ⟨-, client, same, -⟩ := well control token exist.socket
          (pairs_shown_iff.mpr ⟨count, exist, rfl, presented, found, rfl⟩)
        exact ⟨client, same⟩
    | _ => trivial
  · intro meets control token waiting shown
    obtain ⟨count, exist, rfl, presented, found, rfl⟩ := pairs_shown_iff.mp shown
    obtain ⟨client, same⟩ := meets token exist presented found
    have entered : At past state.wiring (.client client) .entered := .entered found same
    refine ⟨standing.firstLine_presented presented, client, same,
      same ▸ (standing.stationed.keyed found).2, fun control' token' paired => ?_⟩
    cases standing.stationed.once entered (.awaited paired)

/-- All pairs of a run are as they should be exactly if no socket presents a token under which
another that an Agent opened waits. -/
theorem pairs_well_iff (identifiers : Identifiers) (events : List Event) :
    Along (step identifiers) (fun past state event =>
      PairsWell past (step identifiers state event).2 (step identifiers state event).1) [] {}
      events ↔
    Each (step identifiers) MeetsClients {} events := by
  exact along_congr (Standing identifiers)
    (fun past state event standing => standing.onward event)
    (fun past state event standing => standing.pairsWell_iff event) (standing_started identifiers)

/-- Two connections whose first line is the same. -/
def sameLine : List Event :=
  [.receive (.control 0) (encodeUtf8 "token\n"), .deliver (.control 0) 6,
    .receive (.control 1) (encodeUtf8 "token\n")]

theorem not_pairs_well_controls :
    ¬ Along (step numbered) (fun past state event =>
      PairsWell past (step numbered state event).2 (step numbered state event).1) [] {}
      (sameLine ++ [.deliver (.control 1) 6]) := by
  intro well
  have last := ((along_append _ _).mp well).2.1
  have paired : .pairs 1 "token" (.control 0) ∈
      (step numbered (final (step numbered) {} sameLine) (.deliver (.control 1) 6)).1 := by
    decide +kernel
  obtain ⟨-, client, same, -⟩ := last 1 "token" (.control 0) paired
  cases same

end Pairs

end Gateway

end OpticsHub
