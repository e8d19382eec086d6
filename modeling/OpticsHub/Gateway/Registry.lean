import OpticsHub.Script.Utf8
import OpticsHub.Script.Value

/-!
# The registry of waiting sockets

A socket waits under a one-time token until the other side of the tunnel presents the same
token, until it closes, or for ten seconds. Every registration sets a timer of its own. Taking
an entry or releasing it stops the timer that stands in the entry; a timer that fires deletes
what it finds under its token, whichever registration that belongs to, and then reports.
-/
namespace OpticsHub

open Script

namespace Gateway

/-- The sockets of the gateway: of public clients, and those that Agents open. -/
inductive SocketId where
  | client (index : ℕ)
  | control (index : ℕ)
  deriving DecidableEq, Repr

structure RegistryEntry where
  socket : SocketId
  rest : Bytes
  timer : ℕ
  deriving DecidableEq

/-- A timer that has not fired, with the socket to which it reports. -/
structure Timer where
  number : ℕ
  token : Text
  socket : SocketId
  due : ℤ
  deriving DecidableEq

structure Registry where
  localClientSocket : Members RegistryEntry := []
  timers : List Timer := []
  drawn : ℕ := 0

namespace Registry

/-- How long a socket waits, in milliseconds. -/
def timeout : ℤ := 10000

/-- `localClientSocket.get(token)` -/
def get (token : Text) (registry : Registry) : Option RegistryEntry :=
  Members.own registry.localClientSocket token

/-- `clearTimeout(timer)` -/
def clearTimeout (number : ℕ) (registry : Registry) : Registry :=
  { registry with timers := registry.timers.filter fun timer => timer.number != number }

/-- `localClientSocket.delete(token)` -/
def delete (token : Text) (registry : Registry) : Registry :=
  { registry with localClientSocket := Members.erase registry.localClientSocket token }

def register (token : Text) (socket : SocketId) (rest : Bytes) (now : ℤ) (registry : Registry) :
    Registry where
  localClientSocket :=
    Members.define registry.localClientSocket token ⟨socket, rest, registry.drawn⟩
  timers := registry.timers ++ [⟨registry.drawn, token, socket, now + timeout⟩]
  drawn := registry.drawn + 1

/-- What is left when the entry of a token is taken. -/
def claim (token : Text) (registry : Registry) : Registry :=
  match registry.get token with
  | none => registry
  | some entry => delete token (clearTimeout entry.timer registry)

def release (token : Text) (socket : SocketId) (registry : Registry) : Registry :=
  match registry.get token with
  | none => registry
  | some entry => if entry.socket = socket then registry.claim token else registry

/-- The timer of a number, if its time has come. -/
def due (number : ℕ) (now : ℤ) (registry : Registry) : Option Timer :=
  registry.timers.find? fun timer => timer.number == number && decide (timer.due ≤ now)

/-- What is left when a timer fires. -/
def fire (timer : Timer) (registry : Registry) : Registry :=
  delete timer.token (clearTimeout timer.number registry)

/-! ## Entries -/

section Entries

variable {registry : Registry} {token : Text} {socket : SocketId} {rest : Bytes} {now : ℤ}

@[simp]
theorem get_clearTimeout (number : ℕ) (key : Text) :
    (clearTimeout number registry).get key = registry.get key := rfl

theorem get_delete (key : Text) :
    (delete token registry).get key = if key = token then none else registry.get key :=
  Members.own_erase _ _ _

theorem get_register (key : Text) :
    (register token socket rest now registry).get key =
      if key = token then some ⟨socket, rest, registry.drawn⟩ else registry.get key := by
  by_cases same : key = token
  · rw [if_pos same, same]
    exact Members.own_define _ _ _
  · rw [if_neg same]
    exact Members.own_define_ne _ same _

theorem get_claim (key : Text) :
    (registry.claim token).get key = if key = token then none else registry.get key := by
  unfold claim
  cases found : registry.get token with
  | none =>
    by_cases same : key = token
    · rw [if_pos same, same]
      exact found
    · rw [if_neg same]
  | some entry => exact get_delete key

theorem get_fire (timer : Timer) (key : Text) :
    (registry.fire timer).get key = if key = timer.token then none else registry.get key :=
  get_delete key

/-- What a release leaves is what was there, less an entry of the socket. -/
theorem get_release (key : Text) :
    (registry.release token socket).get key =
      if key = token ∧ (registry.get token).any (·.socket = socket) then none
      else registry.get key := by
  unfold release
  cases found : registry.get token with
  | none => simp
  | some entry =>
    by_cases own : entry.socket = socket
    · simp [own, get_claim]
    · simp [own]

end Entries

end Registry

end Gateway

end OpticsHub
