import OpticsHub.Script.Utf8

/-!
# Sockets

A socket is a process's end of a connection. What the peer sends is a stream of bytes: a first
part has been handed to the listener of the process, and the rest is on its way, or waits in the
socket while that is paused. What the process writes is kept in order, in units of its own
choice. An ended socket takes no more writes, and one that is tried destroys it. A socket whose
peer has ended its stream is ended too. A destroyed socket hands over nothing more, and closes.
-/
namespace Net

open Script

universe u

structure Duplex (ω : Type u) where
  consumed : Bytes := []
  pending : Bytes := []
  flowing : Bool := true
  readEnded : Bool := false
  written : List ω := []
  ended : Bool := false
  finished : Bool := false
  destroyed : Bool := false
  closed : Bool := false

namespace Duplex

variable {ω : Type u}

/-- All that the peer has sent so far. -/
def received (socket : Duplex ω) : Bytes := socket.consumed ++ socket.pending

/-- `socket.writable` -/
def writable (socket : Duplex ω) : Bool := !socket.ended && !socket.destroyed

/-! ## What the connection does -/

/-- Whether more bytes can come. -/
def receives (socket : Duplex ω) : Bool := !socket.readEnded && !socket.destroyed

/-- Bytes of the peer come. -/
def receive (bytes : Bytes) (socket : Duplex ω) : Duplex ω :=
  { socket with pending := socket.pending ++ bytes }

/-- What a listener is handed next, of a number of bytes at most. -/
def chunk (count : ℕ) (socket : Duplex ω) : Bytes := socket.pending.take count

/-- Whether a listener is handed anything. -/
def delivers (count : ℕ) (socket : Duplex ω) : Bool :=
  socket.flowing && !socket.destroyed && !(socket.chunk count).isEmpty

/-- What a listener was handed does not wait any more. -/
def advance (count : ℕ) (socket : Duplex ω) : Duplex ω :=
  { socket with
    consumed := socket.consumed ++ socket.chunk count
    pending := socket.pending.drop count }

/-- Whether the end of the peer's stream is reached. -/
def ends (socket : Duplex ω) : Bool := socket.receives && socket.pending.isEmpty

/-- The peer's stream has ended. -/
def readEnd (socket : Duplex ω) : Duplex ω := { socket with readEnded := true, ended := true }

/-- Whether what was written before the end can have gone out. -/
def finishes (socket : Duplex ω) : Bool :=
  socket.ended && !socket.finished && !socket.destroyed

def finish (socket : Duplex ω) : Duplex ω := { socket with finished := true }

def destroy (socket : Duplex ω) : Duplex ω := { socket with destroyed := true }

/-- Whether the socket is to emit `close`. -/
def closes (socket : Duplex ω) : Bool := socket.destroyed && !socket.closed

def close (socket : Duplex ω) : Duplex ω := { socket with closed := true }

/-! ## What the process does -/

def pause (socket : Duplex ω) : Duplex ω := { socket with flowing := false }

def resume (socket : Duplex ω) : Duplex ω := { socket with flowing := true }

/-- `socket.write(units)` -/
def write (units : List ω) (socket : Duplex ω) : Duplex ω :=
  if socket.writable then { socket with written := socket.written ++ units }
  else { socket with destroyed := true }

/-- `socket.end()` -/
def endStream (socket : Duplex ω) : Duplex ω := { socket with ended := true }

/-- `socket.end(units)` -/
def endWith (units : List ω) (socket : Duplex ω) : Duplex ω :=
  if socket.writable then (socket.write units).endStream else { socket with destroyed := true }

/-! ## What does not come back -/

/-- A socket that has not closed in between, is writable only if it was before, and of which what
was written is not taken back. -/
structure Ages (before after : Duplex ω) : Prop where
  closed : after.closed = before.closed
  writable : after.writable = true → before.writable = true
  written : before.written <+: after.written

section Ages

variable {before after later : Duplex ω}

theorem ages_refl (socket : Duplex ω) : socket.Ages socket := ⟨rfl, id, List.prefix_rfl⟩

theorem Ages.trans (first : before.Ages after) (second : after.Ages later) : before.Ages later :=
  ⟨second.closed.trans first.closed, first.writable ∘ second.writable,
    first.written.trans second.written⟩

variable (socket : Duplex ω)

theorem ages_receive (bytes : Bytes) : socket.Ages (socket.receive bytes) :=
  ⟨rfl, id, List.prefix_rfl⟩

theorem ages_advance (count : ℕ) : socket.Ages (socket.advance count) :=
  ⟨rfl, id, List.prefix_rfl⟩

theorem ages_finish : socket.Ages socket.finish :=
  ⟨rfl, id, List.prefix_rfl⟩

theorem ages_pause : socket.Ages socket.pause :=
  ⟨rfl, id, List.prefix_rfl⟩

theorem ages_resume : socket.Ages socket.resume :=
  ⟨rfl, id, List.prefix_rfl⟩

theorem ages_readEnd : socket.Ages socket.readEnd :=
  ⟨rfl, by simp [writable, readEnd], List.prefix_rfl⟩

theorem ages_destroy : socket.Ages socket.destroy :=
  ⟨rfl, by simp [writable, destroy], List.prefix_rfl⟩

theorem ages_endStream : socket.Ages socket.endStream :=
  ⟨rfl, by simp [writable, endStream], List.prefix_rfl⟩

theorem ages_write (units : List ω) : socket.Ages (socket.write units) := by
  rw [write]
  split
  · exact ⟨rfl, id, List.prefix_append _ _⟩
  · exact socket.ages_destroy

theorem ages_endWith (units : List ω) : socket.Ages (socket.endWith units) := by
  rw [endWith]
  split
  · exact (socket.ages_write units).trans (ages_endStream _)
  · exact socket.ages_destroy

/-- Ending a socket leaves it not writable. -/
@[simp]
theorem writable_endStream : socket.endStream.writable = false := by simp [writable, endStream]

@[simp]
theorem writable_endWith (units : List ω) : (socket.endWith units).writable = false := by
  rw [endWith]
  split
  · exact writable_endStream _
  · simp [writable]

end Ages

/-! ## What leaves alone what comes -/

/-- A socket to which nothing comes and from which nothing is read in between, and which does not
recover. -/
structure Holds (before after : Duplex ω) : Prop where
  consumed : after.consumed = before.consumed
  pending : after.pending = before.pending
  destroyed : after.destroyed = false → before.destroyed = false

section Holds

variable {before after later : Duplex ω}

theorem holds_refl (socket : Duplex ω) : socket.Holds socket := ⟨rfl, rfl, id⟩

theorem Holds.trans (first : before.Holds after) (second : after.Holds later) :
    before.Holds later :=
  ⟨second.consumed.trans first.consumed, second.pending.trans first.pending,
    first.destroyed ∘ second.destroyed⟩

theorem Holds.received (holds : before.Holds after) : after.received = before.received := by
  rw [Duplex.received, Duplex.received, holds.consumed, holds.pending]

variable (socket : Duplex ω)

theorem holds_destroy : socket.Holds socket.destroy := ⟨rfl, rfl, by simp [destroy]⟩

theorem holds_write (units : List ω) : socket.Holds (socket.write units) := by
  rw [write]
  split
  · exact ⟨rfl, rfl, id⟩
  · exact socket.holds_destroy

theorem holds_endWith (units : List ω) : socket.Holds (socket.endWith units) := by
  rw [endWith]
  split
  · exact (socket.holds_write units).trans ⟨rfl, rfl, id⟩
  · exact socket.holds_destroy

end Holds

/-! ## What leaves the bytes alone -/

/-- A socket from which nothing is read and to which nothing is written in between, and which
starts to flow no more than it recovers. -/
structure Calm (before after : Duplex ω) : Prop where
  consumed : after.consumed = before.consumed
  written : after.written = before.written
  destroyed : after.destroyed = false → before.destroyed = false
  flowing : after.flowing = true → before.flowing = true

section Calm

variable (socket : Duplex ω)

theorem calm_refl : socket.Calm socket := ⟨rfl, rfl, id, id⟩

theorem calm_receive (bytes : Bytes) : socket.Calm (socket.receive bytes) := ⟨rfl, rfl, id, id⟩

theorem calm_readEnd : socket.Calm socket.readEnd := ⟨rfl, rfl, id, id⟩

theorem calm_endStream : socket.Calm socket.endStream := ⟨rfl, rfl, id, id⟩

theorem calm_finish : socket.Calm socket.finish := ⟨rfl, rfl, id, id⟩

theorem calm_close : socket.Calm socket.close := ⟨rfl, rfl, id, id⟩

theorem calm_pause : socket.Calm socket.pause := ⟨rfl, rfl, id, by simp [pause]⟩

theorem calm_destroy : socket.Calm socket.destroy := ⟨rfl, rfl, by simp [destroy], id⟩

end Calm

/-- What was written to a socket is what it was to be told: all of it, unless it was destroyed,
and then a first part. -/
structure Told (socket : Duplex ω) (stream : List ω) : Prop where
  begins : socket.written <+: stream
  whole : socket.destroyed = false → socket.written = stream

section Told

variable {socket after : Duplex ω} {stream : List ω}

/-- What a socket is told depends on what was written and on whether it was destroyed. -/
theorem Told.same (told : socket.Told stream) (written : after.written = socket.written)
    (destroyed : after.destroyed = false → socket.destroyed = false) : after.Told stream where
  begins := written ▸ told.begins
  whole alive := written ▸ told.whole (destroyed alive)

theorem Told.calm (told : socket.Told stream) (calm : socket.Calm after) : after.Told stream :=
  told.same calm.written calm.destroyed

/-- A socket that nothing was written to has been told nothing. -/
theorem told_nil (blank : socket.written = []) : socket.Told [] :=
  ⟨by simp [blank], fun _ => blank⟩

/-- What is told is written, unless the socket does not take it, which destroys it. -/
theorem Told.write (told : socket.Told stream) (units : List ω) :
    (socket.write units).Told (stream ++ units) := by
  rw [Duplex.write]
  split
  · rename_i writable
    have alive : socket.destroyed = false := by
      simp only [Duplex.writable, Bool.and_eq_true, Bool.not_eq_true'] at writable
      exact writable.2
    rw [told.whole alive]
    exact ⟨List.prefix_rfl, fun _ => rfl⟩
  · exact ⟨told.begins.trans (List.prefix_append _ _), by simp⟩

end Told

/-! ## What was handed over stays so -/

section Consumed

variable (socket : Duplex ω) (units : List ω)

@[simp]
theorem consumed_write : (socket.write units).consumed = socket.consumed := by
  rw [write]
  split <;> rfl

@[simp]
theorem flowing_write : (socket.write units).flowing = socket.flowing := by
  rw [write]
  split <;> rfl

@[simp]
theorem consumed_endWith : (socket.endWith units).consumed = socket.consumed := by
  rw [endWith]
  split
  · exact socket.consumed_write units
  · rfl

end Consumed

end Duplex

end Net
