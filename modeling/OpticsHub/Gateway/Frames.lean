import OpticsHub.Gateway.Arrivals

/-!
# What a step leaves alone

Most of what a handler does is about one socket. To any other it does at most what leaves the
bytes alone: it pauses or ends it, or cuts off what it is piped from. Only a client may get an
error page, whoever it is joined to.
-/
namespace OpticsHub

open Script Net Machine

namespace Gateway

/-- An error page was written to a client. -/
def Paged (client : ℕ) (state : State) : Prop :=
  ∃ outcome context, .page outcome context ∈ (state.sockets (.client client)).written

/-- Nothing was read from a socket or written to it, and it is listened to as before, or was
unpiped. -/
structure Still (socket socket' : Duplex Piece) (listener listener' : Listener) : Prop where
  calm : socket.Calm socket'
  heard : listener' = listener ∨ listener' = .none ∧ socket'.flowing = false

/-- A socket was left alone, or is a client that has got an error page. -/
def Rests (id : SocketId) (state next : State) : Prop :=
  (∃ client, id = .client client ∧ Paged client next) ∨
    Still (state.sockets id) (next.sockets id) (state.listeners id) (next.listeners id)

section Rests

variable {identifiers : Identifiers} {id : SocketId} {state next later : State}

theorem rests_refl (id : SocketId) (state : State) : Rests id state state :=
  .inr ⟨Duplex.calm_refl _, .inl rfl⟩

theorem Still.trans {first second third : Duplex Piece} {listener listener' listener'' : Listener}
    (before : Still first second listener listener')
    (after : Still second third listener' listener'') : Still first third listener listener'' where
  calm :=
    { consumed := after.calm.consumed.trans before.calm.consumed
      written := after.calm.written.trans before.calm.written
      destroyed := before.calm.destroyed ∘ after.calm.destroyed
      flowing := before.calm.flowing ∘ after.calm.flowing }
  heard := by
    rcases after.heard with same | none
    · rcases before.heard with same' | ⟨none, paused⟩
      · exact .inl (same.trans same')
      · refine .inr ⟨same.trans none, Bool.eq_false_iff.mpr fun flows => ?_⟩
        rw [after.calm.flowing flows] at paused
        cases paused
    · exact .inr none

theorem Rests.still (first : Rests id state next)
    (second : Still (next.sockets id) (later.sockets id) (next.listeners id) (later.listeners id)) :
    Rests id state later := by
  rcases first with ⟨client, rfl, outcome, context, inside⟩ | first
  · refine .inl ⟨client, rfl, outcome, context, ?_⟩
    rw [second.calm.written]
    exact inside
  · exact .inr (first.trans second)

/-- What is done to another socket. -/
theorem Rests.other (first : Rests id state next) {target : SocketId} (differs : id ≠ target)
    (change : Duplex Piece → Duplex Piece) : Rests id state (next.onSocket target change) := by
  refine first.still ⟨?_, .inl rfl⟩
  simp only [State.onSocket, Function.update_of_ne differs]
  exact Duplex.calm_refl _

/-- What leaves the bytes of a socket alone. -/
theorem Rests.calm (first : Rests id state next) (target : SocketId)
    {change : Duplex Piece → Duplex Piece}
    (calm : ∀ socket : Duplex Piece, socket.Calm (change socket)) :
    Rests id state (next.onSocket target change) := by
  by_cases self : id = target
  · subst self
    refine first.still ⟨?_, .inl rfl⟩
    simp only [State.onSocket, Function.update_self]
    exact calm _
  · exact first.other self change

theorem Rests.listen (first : Rests id state next) {target : SocketId} (differs : id ≠ target)
    (listener : Listener) : Rests id state (next.listen target listener) :=
  first.still ⟨Duplex.calm_refl _, .inl (Function.update_of_ne differs _ _)⟩

theorem Rests.write (first : Rests id state next) {target : SocketId} (differs : id ≠ target)
    (bytes : Bytes) : Rests id state (next.write target bytes) := first.other differs _

theorem Rests.pipe (first : Rests id state next) {source : SocketId} (differs : id ≠ source)
    (destination : SocketId) (ends : Bool) : Rests id state (next.pipe source destination ends) := by
  rw [State.pipe]
  refine Rests.calm (Rests.other (first.listen differs _) differs _) destination fun socket => ?_
  split
  · exact socket.calm_endStream
  · exact socket.calm_refl

theorem Rests.unpipe (first : Rests id state next) (destination : SocketId) :
    Rests id state (next.unpipe destination) := by
  refine first.still ?_
  by_cases piped : (next.listeners id).pipesTo destination = true
  · refine ⟨?_, .inr ?_⟩
    · simp only [State.unpipe, piped, if_true]
      exact Duplex.calm_pause _
    · simp [State.unpipe, piped, Duplex.pause]
  · refine ⟨?_, .inl ?_⟩
    · simp only [State.unpipe, piped]
      exact Duplex.calm_refl _
    · simp [State.unpipe, piped]

/-- A client that takes no page any more is destroyed by it. -/
theorem Rests.endPage (first : Rests id state next) (client : ℕ) (outcome : PageOutcome)
    (context : ErrorContext) : Rests id state (next.endPage client outcome context) := by
  by_cases self : id = .client client
  · subst self
    by_cases writable : (next.sockets (.client client)).writable = true
    · refine .inl ⟨client, rfl, outcome, context, ?_⟩
      simp [State.endPage, State.onSocket, Duplex.endWith, Duplex.write, Duplex.endStream, writable]
    · refine first.still ⟨?_, .inl rfl⟩
      simp only [State.endPage, State.onSocket, Function.update_self, Duplex.endWith, writable]
      exact Duplex.calm_destroy _
  · exact first.other self _

theorem Rests.reject (first : Rests id state next) {control : ℕ} (differs : id ≠ .control control)
    (reason : Text) : Rests id state (reject control reason next) := first.other differs _

theorem Rests.onClientData (first : Rests id state next) {client : ℕ}
    (differs : id ≠ .client client) (chunk : Bytes) :
    Rests id state (onClientData identifiers client chunk next).2 := by
  simp only [Gateway.onClientData]
  split
  · exact first
  · split
    · exact first.endPage _ _ _
    · split
      · exact first.endPage _ _ _
      · exact Rests.other (first.listen differs _) differs _

theorem Rests.present (first : Rests id state next) {control : ℕ}
    (differs : id ≠ .control control) (token : Text) (rest : Bytes)
    (met : ∀ exist, next.registry.get token = some exist → id ≠ exist.socket) :
    Rests id state (present control token rest next).2 := by
  simp only [Gateway.present]
  split
  · rename_i exist found
    refine Rests.pipe (Rests.pipe (Rests.write (Rests.write ?_ (met exist found) _) differs _)
      differs _ _) (met exist found) _ _
    exact first
  · refine Rests.other ?_ differs _
    exact first

theorem Rests.handlePreconnect (first : Rests id state next) {control : ℕ}
    (differs : id ≠ .control control) (line : Text) (rest : Bytes) :
    Rests id state (handlePreconnect control line rest next).2 := by
  have paused := first.other differs Duplex.pause
  simp only [Gateway.handlePreconnect]
  split
  · exact paused.reject differs _
  · split
    · exact paused.reject differs _
    · exact paused

theorem Rests.onControlData (first : Rests id state next) {control : ℕ}
    (differs : id ≠ .control control) (chunk : Bytes)
    (met : ∀ token exist, tokenLine ((next.controls control).buffer ++ chunk) = some token →
      next.registry.get token = some exist → id ≠ exist.socket) :
    Rests id state (onControlData control chunk next).2 := by
  simp only [Gateway.onControlData]
  split
  · exact first
  · rename_i index found
    have heard := first.listen differs .none
    split
    · apply Rests.handlePreconnect _ differs
      exact heard
    · rename_i otherwise
      apply Rests.present _ differs
      · intro exist
        exact met _ exist (by simp [tokenLine, firstLine, found, otherwise])
      · exact heard

theorem Rests.onHeartbeat (first : Rests id state next) {control : ℕ}
    (differs : id ≠ .control control) (chunk : Bytes) :
    Rests id state (onHeartbeat control chunk next) := by
  simp only [Gateway.onHeartbeat]
  split
  · exact first
  · exact Rests.write first differs _

theorem Rests.readEnd (first : Rests id state next) (target : SocketId) :
    Rests id state (readEnd target next) := by
  have ended := first.calm target Duplex.calm_readEnd
  simp only [Gateway.readEnd]
  split
  · exact ended.calm _ Duplex.calm_endStream
  · exact ended

theorem Rests.verified (first : Rests id state next) {control : ℕ}
    (differs : id ≠ .control control) (reply : Option (ℕ × Option Value)) :
    Rests id state (verified control reply next) := by
  simp only [Gateway.verified]
  split
  · exact first
  · split
    · exact Rests.reject first differs _
    · split
      · exact Rests.reject first differs _
      · refine Rests.other (Rests.listen (Rests.write ?_ differs _) differs _) differs _
        exact first

theorem Rests.onAnswer (first : Rests id state next) (client : ℕ) (status : Option ℕ) :
    Rests id state (onAnswer identifiers client status next) := by
  simp only [Gateway.onAnswer, failWith]
  split
  · split
    · exact Rests.endPage first _ _ _
    · exact first
  · split
    · exact Rests.endPage first _ _ _
    · exact first
  · exact first

theorem Rests.fire (first : Rests id state next) (timer : Timer) :
    Rests id state (fire identifiers timer next).2 := by
  simp only [Gateway.fire]
  split
  · exact Rests.endPage first _ _ _
  · exact first

theorem Rests.closeControl (first : Rests id state next) (control : ℕ) :
    Rests id state (closeControl identifiers control next) := by
  simp only [Gateway.closeControl]
  refine Rests.unpipe ?_ _
  split
  · simp only [pooledClose]
    split
    · exact Rests.calm first _ Duplex.calm_endStream
    · exact Rests.endPage first _ _ _
  · exact first

theorem Rests.closeClient (first : Rests id state next) (client : ℕ) :
    Rests id state (closeClient identifiers client next) := by
  simp only [Gateway.closeClient]
  refine Rests.unpipe ?_ _
  split
  · exact Rests.calm first _ Duplex.calm_endStream
  · exact first

theorem Rests.detachHeartbeat (first : Rests id state next) (control : ℕ) :
    Rests id state (detachHeartbeat control next) := by
  rw [Gateway.detachHeartbeat]
  split
  · by_cases self : id = .control control
    · subst self
      refine first.still ⟨?_, .inr ?_⟩
      · simp only [State.onSocket, State.listen, Function.update_self]
        exact Duplex.calm_pause _
      · simp [State.onSocket, State.listen, Duplex.pause]
    · exact Rests.other (first.listen self _) self _
  · exact first

/-- Only a client that is handed over, and the socket that is to serve it, are piped by the proxy. -/
theorem Rests.onRouting (first : Rests id state next) (client : ℕ) (body : Option Value)
    (unserved : ∀ agentUuid control left port,
      member "agent_uuid" body = some (.string agentUuid) →
      next.pools.claim (usable next) agentUuid = (some control, left) →
      servicePort body = some port → id ≠ .control control ∧ id ≠ .client client) :
    Rests id state (onRouting identifiers client body next).2 := by
  simp only [Gateway.onRouting]
  split
  · rename_i agentUuid routed
    rcases claimed : next.pools.claim (usable next) agentUuid with ⟨taken, left⟩
    cases taken with
    | none =>
      simp only [claimPreconnected, claimed]
      exact first
    | some control =>
      have detached : Rests id state (Gateway.detachHeartbeat control { next with pools := left }) := by
        apply Rests.detachHeartbeat
        exact first
      simp only [claimPreconnected, claimed]
      cases named : servicePort body with
      | none => exact detached
      | some port =>
        obtain ⟨notControl, notClient⟩ := unserved agentUuid control left port routed claimed named
        have free : usable (Gateway.detachHeartbeat control { next with pools := left }) control =
            true := (usable_detachHeartbeat control control).trans (Pools.usable_of_claim claimed)
        simp only [free, if_true]
        refine Rests.pipe (Rests.pipe (Rests.write (Rests.write ?_ notControl _) notControl _)
          notControl _ _) notClient _ _
        exact detached
  · exact first

theorem Rests.deliver (first : Rests id state next) {other : SocketId} (differs : id ≠ other)
    (count : ℕ) (unfed : (next.listeners other).pipesTo id = false)
    (unmet : ∀ control token exist, other = .control control →
      next.listeners other = .onData →
      tokenLine ((next.controls control).buffer ++ (next.sockets other).chunk count) = some token →
      next.registry.get token = some exist → id ≠ exist.socket) :
    Rests id state (deliver identifiers other count next).2 := by
  have handed := first.other differs (Duplex.advance count)
  simp only [Gateway.deliver]
  split
  · exact handed.onClientData differs _
  · rename_i control heard
    exact handed.onControlData differs _ fun token exist line found =>
      unmet control token exist rfl heard line found
  · exact handed.onHeartbeat differs _
  · rename_i destination ends control heard
    have foreign : id ≠ destination := by
      rintro rfl
      simp [heard, Listener.pipesTo] at unfed
    refine Rests.write ?_ foreign _
    split
    · exact handed
    · exact handed
  · rename_i destination ends client heard
    have foreign : id ≠ destination := by
      rintro rfl
      simp [heard, Listener.pipesTo] at unfed
    exact handed.write foreign _
  · exact handed

/-- A step leaves a socket alone that hands nothing over, that nothing is piped to, that does not
wait for whoever presents a token, that the Hub says nothing about, and that is not handed over. -/
theorem rests_step (event : Event)
    (silent : ∀ count, event = .deliver id count → (state.sockets id).delivers count = false)
    (unfed : ∀ other count, event = .deliver other count → id ≠ other →
      (state.sockets other).delivers count = true → (state.listeners other).pipesTo id = false)
    (unmet : ∀ control count token exist, event = .deliver (.control control) count →
      state.presented control count = some token → state.registry.get token = some exist →
      id ≠ exist.socket)
    (unjudged : ∀ control reply, event = .verdict control reply →
      id = .control control → (state.controls control).verifying = none)
    (unserved : ∀ client body agentUuid control left port, event = .body client body →
      (state.clients client).awaiting = .routing →
      member "agent_uuid" body = some (.string agentUuid) →
      state.pools.claim (usable state) agentUuid = (some control, left) →
      servicePort body = some port → id ≠ .control control ∧ id ≠ .client client) :
    Rests id state (step identifiers state event).2 := by
  have here := rests_refl id state
  cases event with
  | receive other bytes =>
    simp only [step]
    split
    · exact here.calm other fun socket => socket.calm_receive bytes
    · exact here
  | deliver other count =>
    simp only [step]
    split
    · rename_i delivers
      by_cases self : id = other
      · subst self
        rw [silent count rfl] at delivers
        cases delivers
      · refine here.deliver self count (unfed other count rfl self delivers) ?_
        intro control token exist same heard line found
        subst same
        exact unmet control count token exist rfl
          (by rw [State.presented, if_pos ⟨heard, delivers⟩]; exact line) found
    · exact here
  | readEnd other =>
    simp only [step]
    split
    · exact here.readEnd other
    · exact here
  | finish other =>
    simp only [step]
    split
    · exact (here.calm other Duplex.calm_finish).unpipe other
    · exact here
  | lost other => exact here.calm other Duplex.calm_destroy
  | close other =>
    simp only [step]
    split
    · have closed := here.calm other Duplex.calm_close
      cases other with
      | client client => exact closed.closeClient client
      | control control => exact closed.closeControl control
    · exact here
  | verdict control reply =>
    by_cases self : id = .control control
    · simp only [step, verified, unjudged control reply rfl self]
      exact here
    · exact here.verified self reply
  | answer client status => exact here.onAnswer client status
  | body client body =>
    simp only [step, onBody]
    split
    · rename_i routing
      exact here.onRouting client body fun agentUuid control left port =>
        unserved client body agentUuid control left port rfl routing
    · exact Rests.endPage here _ _ _
    · exact here
  | fire number =>
    simp only [step]
    split
    · exact here.fire _
    · exact here
  | elapse milliseconds => exact here

end Rests

end Gateway

end OpticsHub
