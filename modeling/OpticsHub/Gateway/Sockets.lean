import OpticsHub.Gateway.Wiring

/-!
# Sockets along a step

A handler does few kinds of things to a socket, whichever it is: what all of them respect, a step
respects. So no step opens a socket again that was closed, or makes one writable that was not, and
only the event that closes a socket does so.
-/
namespace OpticsHub

open Script Net

namespace Gateway

/-- A relation that whatever a handler does to a socket respects. -/
structure Respected (related : Duplex Piece → Duplex Piece → Prop) : Prop where
  refl : ∀ socket, related socket socket
  trans : ∀ {first second third}, related first second → related second third →
    related first third
  write : ∀ (socket : Duplex Piece) units, related socket (socket.write units)
  endWith : ∀ (socket : Duplex Piece) units, related socket (socket.endWith units)
  endStream : ∀ socket : Duplex Piece, related socket socket.endStream
  readEnd : ∀ socket : Duplex Piece, related socket socket.readEnd
  pause : ∀ socket : Duplex Piece, related socket socket.pause
  resume : ∀ socket : Duplex Piece, related socket socket.resume

/-- What a socket is in one state is related to what it is in another. -/
def Related (related : Duplex Piece → Duplex Piece → Prop) (id : SocketId) (state next : State) :
    Prop :=
  related (state.sockets id) (next.sockets id)

section Related

variable {related : Duplex Piece → Duplex Piece → Prop} {identifiers : Identifiers} {id : SocketId}
  {state next : State}

/-- What is done to one socket. -/
theorem Related.onSocket (respected : Respected related) (first : Related related id state next)
    {change : Duplex Piece → Duplex Piece} {target : SocketId}
    (changes : target = id → related (next.sockets id) (change (next.sockets id))) :
    Related related id state (next.onSocket target change) := by
  refine respected.trans first ?_
  by_cases self : id = target
  · subst self
    simpa [State.onSocket] using changes rfl
  · simpa [State.onSocket, self] using respected.refl _

theorem Related.write (respected : Respected related) (first : Related related id state next)
    (target : SocketId) (bytes : Bytes) : Related related id state (next.write target bytes) :=
  first.onSocket respected fun _ => respected.write _ _

theorem Related.pipe (respected : Respected related) (first : Related related id state next)
    (source destination : SocketId) (ends : Bool) :
    Related related id state (next.pipe source destination ends) := by
  rw [State.pipe]
  refine Related.onSocket respected ?_ fun _ => ?_
  · exact Related.onSocket respected first fun _ => respected.resume _
  split
  · exact respected.endStream _
  · exact respected.refl _

theorem Related.unpipe (respected : Respected related) (first : Related related id state next)
    (destination : SocketId) : Related related id state (next.unpipe destination) := by
  refine respected.trans first ?_
  simp only [State.unpipe]
  split
  · exact respected.pause _
  · exact respected.refl _

theorem Related.endPage (respected : Respected related) (first : Related related id state next)
    (client : ℕ) (outcome : PageOutcome) (context : ErrorContext) :
    Related related id state (next.endPage client outcome context) :=
  first.onSocket respected fun _ => respected.endWith _ _

theorem Related.reject (respected : Respected related) (first : Related related id state next)
    (control : ℕ) (reason : Text) : Related related id state (reject control reason next) :=
  first.onSocket respected fun _ => respected.endWith _ _

theorem Related.onClientData (respected : Respected related)
    (first : Related related id state next) (client : ℕ) (chunk : Bytes) :
    Related related id state (onClientData identifiers client chunk next).2 := by
  simp only [Gateway.onClientData]
  split
  · exact first
  · split
    · exact first.endPage respected _ _ _
    · split
      · exact first.endPage respected _ _ _
      · exact first.onSocket respected fun _ => respected.pause _

theorem Related.present (respected : Respected related) (first : Related related id state next)
    (control : ℕ) (token : Text) (rest : Bytes) :
    Related related id state (present control token rest next).2 := by
  simp only [Gateway.present]
  split
  · refine Related.pipe respected (Related.pipe respected (Related.write respected
      (Related.write respected ?_ _ _) _ _) _ _ _) _ _ _
    exact first
  · exact first.onSocket respected fun _ => respected.pause _

theorem Related.handlePreconnect (respected : Respected related)
    (first : Related related id state next) (control : ℕ) (line : Text) (rest : Bytes) :
    Related related id state (handlePreconnect control line rest next).2 := by
  have paused : Related related id state (next.onSocket (.control control) Duplex.pause) :=
    first.onSocket respected fun _ => respected.pause _
  simp only [Gateway.handlePreconnect]
  split
  · exact paused.reject respected _ _
  · split
    · exact paused.reject respected _ _
    · exact paused

theorem Related.onControlData (respected : Respected related)
    (first : Related related id state next) (control : ℕ) (chunk : Bytes) :
    Related related id state (onControlData control chunk next).2 := by
  simp only [Gateway.onControlData]
  split
  · exact first
  · split
    · apply Related.handlePreconnect respected
      exact first
    · apply Related.present respected
      exact first

theorem Related.deliver (respected : Respected related) {source : SocketId} {count : ℕ}
    (handed : Related related id state (next.onSocket source (Duplex.advance count))) :
    Related related id state (deliver identifiers source count next).2 := by
  simp only [Gateway.deliver]
  split
  · exact handed.onClientData respected _ _
  · exact handed.onControlData respected _ _
  · simp only [onHeartbeat]
    split
    · exact handed
    · exact Related.write respected handed _ _
  · split
    · exact Related.write respected handed _ _
    · exact handed.write respected _ _
  · exact handed.write respected _ _
  · exact handed

theorem Related.readEnd (respected : Respected related) (first : Related related id state next)
    (target : SocketId) : Related related id state (readEnd target next) := by
  have ended : Related related id state (next.onSocket target Duplex.readEnd) :=
    first.onSocket respected fun _ => respected.readEnd _
  simp only [Gateway.readEnd]
  split
  · exact ended.onSocket respected fun _ => respected.endStream _
  · exact ended

theorem Related.verified (respected : Respected related) (first : Related related id state next)
    (control : ℕ) (reply : Option (ℕ × Option Value)) :
    Related related id state (verified control reply next) := by
  simp only [Gateway.verified]
  split
  · exact first
  · split
    · exact Related.reject respected first _ _
    · split
      · exact Related.reject respected first _ _
      · refine Related.onSocket respected (Related.write respected ?_ _ _)
          fun _ => respected.resume _
        exact first

theorem Related.onAnswer (respected : Respected related) (first : Related related id state next)
    (client : ℕ) (status : Option ℕ) :
    Related related id state (onAnswer identifiers client status next) := by
  simp only [Gateway.onAnswer, failWith]
  split
  · split
    · exact Related.endPage respected first _ _ _
    · exact first
  · split
    · exact Related.endPage respected first _ _ _
    · exact first
  · exact first

theorem Related.claimPreconnected (respected : Respected related)
    (first : Related related id state next) (agentUuid : Text) :
    Related related id state (claimPreconnected agentUuid next).2 := by
  simp only [Gateway.claimPreconnected]
  split
  · exact first
  · rw [detachHeartbeat]
    split
    · exact Related.onSocket respected first fun _ => respected.pause _
    · exact first

theorem Related.onBody (respected : Respected related) (first : Related related id state next)
    (client : ℕ) (body : Option Value) :
    Related related id state (onBody identifiers client body next).2 := by
  simp only [Gateway.onBody]
  split
  · simp only [onRouting]
    split
    · rename_i agentUuid _
      have claimed := first.claimPreconnected respected agentUuid
      split
      · split
        · refine Related.pipe respected (Related.pipe respected (Related.write respected
            (Related.write respected ?_ _ _) _ _) _ _ _) _ _ _
          exact claimed
        · exact claimed
      · exact claimed
    · exact first
  · exact Related.endPage respected first _ _ _
  · exact first

theorem Related.fire (respected : Respected related) (first : Related related id state next)
    (timer : Timer) : Related related id state (fire identifiers timer next).2 := by
  simp only [Gateway.fire]
  split
  · exact Related.endPage respected first _ _ _
  · exact first

theorem Related.closeControl (respected : Respected related)
    (first : Related related id state next) (control : ℕ) :
    Related related id state (closeControl identifiers control next) := by
  simp only [Gateway.closeControl]
  refine Related.unpipe respected ?_ _
  split
  · simp only [pooledClose]
    split
    · exact Related.onSocket respected first fun _ => respected.endStream _
    · exact Related.endPage respected first _ _ _
  · exact first

theorem Related.closeClient (respected : Respected related)
    (first : Related related id state next) (client : ℕ) :
    Related related id state (closeClient identifiers client next) := by
  simp only [Gateway.closeClient]
  refine Related.unpipe respected ?_ _
  split
  · exact Related.onSocket respected first fun _ => respected.endStream _
  · exact first

/-- The socket that an event is about. -/
def Event.own : Event → Option SocketId
  | .receive id _ | .deliver id _ | .readEnd id | .finish id | .lost id | .close id => some id
  | _ => none

/-- Whether an event can happen to its socket. -/
def Event.happens (state : State) : Event → Bool
  | .receive id _ => (state.sockets id).receives
  | .deliver id count => (state.sockets id).delivers count
  | .readEnd id => (state.sockets id).ends
  | .finish id => (state.sockets id).finishes
  | .close id => (state.sockets id).closes
  | _ => true

/-- What an event does to its socket before any handler does. -/
def Event.change : Event → Duplex Piece → Duplex Piece
  | .receive _ bytes => Duplex.receive bytes
  | .deliver _ count => Duplex.advance count
  | .readEnd _ => Duplex.readEnd
  | .finish _ => Duplex.finish
  | .lost _ => Duplex.destroy
  | .close _ => Duplex.close
  | _ => fun socket => socket

/-- A step respects what its event respects, and every handler. -/
theorem related_step (respected : Respected related) (state : State) (event : Event)
    (own : event.own = some id → event.happens state = true →
      related (state.sockets id) (event.change (state.sockets id))) :
    Related related id state (step identifiers state event).2 := by
  have here : Related related id state state := respected.refl _
  have changed {target : SocketId} (same : event.own = some target)
      (happens : event.happens state = true) :
      Related related id state (state.onSocket target event.change) :=
    here.onSocket respected fun self => own (same.trans (congrArg some self)) happens
  cases event with
  | receive target bytes =>
    simp only [step]
    split
    · exact changed rfl ‹_›
    · exact here
  | deliver target count =>
    simp only [step]
    split
    · exact Related.deliver respected (changed rfl ‹_›)
    · exact here
  | readEnd target =>
    simp only [step]
    split
    · exact here.readEnd respected target
    · exact here
  | finish target =>
    simp only [step]
    split
    · exact Related.unpipe respected (changed rfl ‹_›) target
    · exact here
  | lost target => exact changed rfl rfl
  | close target =>
    simp only [step]
    split
    · rename_i closes
      cases target with
      | client client => exact Related.closeClient respected (changed rfl closes) client
      | control control => exact Related.closeControl respected (changed rfl closes) control
    · exact here
  | verdict control reply => exact here.verified respected control reply
  | answer client status => exact here.onAnswer respected client status
  | body client body => exact here.onBody respected client body
  | fire number =>
    simp only [step]
    split
    · exact here.fire respected _
    · exact here
  | elapse milliseconds => exact here

end Related

/-! ## What comes -/

theorem respected_holds : Respected (@Duplex.Holds Piece) where
  refl := Duplex.holds_refl
  trans := Duplex.Holds.trans
  write := Duplex.holds_write
  endWith := Duplex.holds_endWith
  endStream _ := ⟨rfl, rfl, id⟩
  readEnd _ := ⟨rfl, rfl, id⟩
  pause _ := ⟨rfl, rfl, id⟩
  resume _ := ⟨rfl, rfl, id⟩

/-- What has come to a socket and what waits there stay as they are, unless bytes come or are
handed over. -/
theorem holds_step (identifiers : Identifiers) (state : State) {id : SocketId} {event : Event}
    (unreceived : ∀ bytes, event = .receive id bytes → (state.sockets id).receives = false)
    (silent : ∀ count, event = .deliver id count → (state.sockets id).delivers count = false) :
    (state.sockets id).Holds ((step identifiers state event).2.sockets id) := by
  refine related_step respected_holds state event fun own happens => ?_
  cases event with
  | receive target bytes =>
    obtain rfl := Option.some.inj own
    rw [Event.happens, unreceived bytes rfl] at happens
    cases happens
  | deliver target count =>
    obtain rfl := Option.some.inj own
    rw [Event.happens, silent count rfl] at happens
    cases happens
  | lost target => exact Duplex.holds_destroy _
  | _ => exact ⟨rfl, rfl, fun alive => alive⟩

/-- No socket recovers. -/
theorem destroyed_step (identifiers : Identifiers) (state : State) {id : SocketId} {event : Event}
    (alive : ((step identifiers state event).2.sockets id).destroyed = false) :
    (state.sockets id).destroyed = false := by
  have respected : Respected fun before after : Duplex Piece =>
      after.destroyed = false → before.destroyed = false :=
    { refl := fun _ alive => alive
      trans := fun first second => first ∘ second
      write := fun socket units => (socket.holds_write units).destroyed
      endWith := fun socket units => (socket.holds_endWith units).destroyed
      endStream := fun _ alive => alive
      readEnd := fun _ alive => alive
      pause := fun _ alive => alive
      resume := fun _ alive => alive }
  refine related_step respected state event (fun _ _ => ?_) alive
  cases event with
  | lost target => simp [Event.change, Duplex.destroy]
  | _ => exact fun alive => alive

/-! ## Ages -/

theorem respected_ages : Respected (@Duplex.Ages Piece) where
  refl := Duplex.ages_refl
  trans := Duplex.Ages.trans
  write := Duplex.ages_write
  endWith := Duplex.ages_endWith
  endStream := Duplex.ages_endStream
  readEnd := Duplex.ages_readEnd
  pause := Duplex.ages_pause
  resume := Duplex.ages_resume

/-- Every socket ages. -/
def Ages (state next : State) : Prop := ∀ id, (state.sockets id).Ages (next.sockets id)

section Ages

variable {state next later : State} {identifiers : Identifiers} {id : SocketId}

theorem ages_refl (state : State) : Ages state state := fun _ => Duplex.ages_refl _

/-- A step that closes no socket lets all of them age. -/
theorem ages_step (state : State) {event : Event} (closes : ∀ id, event ≠ .close id) :
    Ages state (step identifiers state event).2 := by
  intro id
  refine related_step respected_ages state event fun own _ => ?_
  cases event with
  | receive target bytes => exact Duplex.ages_receive _ bytes
  | deliver target count => exact Duplex.ages_advance _ count
  | readEnd target => exact Duplex.ages_readEnd _
  | finish target => exact Duplex.ages_finish _
  | lost target => exact Duplex.ages_destroy _
  | close target => exact absurd rfl (closes target)
  | _ => cases own

/-- A socket that closes is as it was, but for being closed; the others age. -/
theorem ages_close (state : State) (closed : SocketId) :
    ∃ marked, (marked = state ∧ (state.sockets closed).closes ≠ true ∨
        marked = state.onSocket closed Duplex.close ∧ (state.sockets closed).closes = true) ∧
      Ages marked (step identifiers state (.close closed)).2 := by
  by_cases closes : (state.sockets closed).closes = true
  · refine ⟨_, .inr ⟨rfl, closes⟩, ?_⟩
    simp only [step, closes, if_true]
    cases closed with
    | client client =>
      exact fun id => Related.closeClient respected_ages (respected_ages.refl _) client
    | control control =>
      exact fun id => Related.closeControl respected_ages (respected_ages.refl _) control
  · refine ⟨state, .inl ⟨rfl, closes⟩, ?_⟩
    simp only [step, closes]
    exact ages_refl _

/-- A socket closes only by the event that closes it. -/
theorem closed_step (identifiers : Identifiers) {event : Event}
    (closed : ((step identifiers state event).2.sockets id).closed = true) :
    (state.sockets id).closed = true ∨ event = .close id := by
  by_cases closes : ∃ other, event = .close other
  · obtain ⟨other, rfl⟩ := closes
    obtain ⟨marked, cases, ages⟩ := @ages_close identifiers state other
    rw [(ages id).closed] at closed
    rcases cases with ⟨rfl, -⟩ | ⟨rfl, -⟩
    · exact .inl closed
    · by_cases same : id = other
      · exact .inr (same ▸ rfl)
      · exact .inl (by simpa [State.onSocket, same] using closed)
  · have ages := @ages_step identifiers state event fun other same => closes ⟨other, same⟩
    rw [(ages id).closed] at closed
    exact .inl closed

/-- A socket that is to close does so. -/
theorem closed_of_closes (identifiers : Identifiers)
    (closes : (state.sockets id).closes = true) :
    ((step identifiers state (.close id)).2.sockets id).closed = true := by
  obtain ⟨marked, cases, ages⟩ := @ages_close identifiers state id
  rw [(ages id).closed]
  rcases cases with ⟨-, otherwise⟩ | ⟨rfl, -⟩
  · exact absurd closes otherwise
  · simp [State.onSocket, Duplex.close]

/-- What is closed stays closed. -/
theorem closed_stays (identifiers : Identifiers) {event : Event}
    (closed : (state.sockets id).closed = true) :
    ((step identifiers state event).2.sockets id).closed = true := by
  by_cases closes : ∃ other, event = .close other
  · obtain ⟨other, rfl⟩ := closes
    obtain ⟨marked, cases, ages⟩ := @ages_close identifiers state other
    rw [(ages id).closed]
    rcases cases with ⟨rfl, -⟩ | ⟨rfl, -⟩
    · exact closed
    · by_cases same : id = other
      · subst same
        simp [State.onSocket, Duplex.close]
      · simpa [State.onSocket, same] using closed
  · rw [(@ages_step identifiers state event (fun other same => closes ⟨other, same⟩) id).closed]
    exact closed

/-- What was written to a socket is not taken back. -/
theorem written_step (identifiers : Identifiers) (state : State) (event : Event) (id : SocketId) :
    (state.sockets id).written <+: ((step identifiers state event).2.sockets id).written := by
  by_cases closes : ∃ other, event = .close other
  · obtain ⟨other, rfl⟩ := closes
    obtain ⟨marked, cases, ages⟩ := @ages_close identifiers state other
    rcases cases with ⟨rfl, -⟩ | ⟨rfl, -⟩
    · exact (ages id).written
    · refine List.IsPrefix.trans ?_ (ages id).written
      by_cases same : id = other
      · subst same
        simp [State.onSocket, Duplex.close]
      · simp [State.onSocket, same]
  · exact (@ages_step identifiers state event (fun other same => closes ⟨other, same⟩) id).written

theorem writable_step (identifiers : Identifiers) {event : Event}
    (writable : ((step identifiers state event).2.sockets id).writable = true) :
    (state.sockets id).writable = true := by
  by_cases closes : ∃ other, event = .close other
  · obtain ⟨other, rfl⟩ := closes
    obtain ⟨marked, cases, ages⟩ := @ages_close identifiers state other
    have before := (ages id).writable writable
    rcases cases with ⟨rfl, -⟩ | ⟨rfl, -⟩
    · exact before
    · by_cases same : id = other
      · subst same
        simpa [State.onSocket, Duplex.writable, Duplex.close] using before
      · simpa [State.onSocket, same] using before
  · exact (@ages_step identifiers state event (fun other same => closes ⟨other, same⟩) id).writable
      writable

end Ages

end Gateway

end OpticsHub
