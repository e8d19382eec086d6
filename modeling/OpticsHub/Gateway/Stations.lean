import OpticsHub.Gateway.Pools

/-!
# Where a socket stands

A socket is read for its first line or request head, waits for an answer of the Hub, waits in a
pool or in the registry, or is bound to the socket at the other end of a tunnel. It is at one of
these stations at most, and its listener is the one that belongs there. Every move takes the
sockets that it is about from one station to another, and leaves the others where they are,
except that some are let go.
-/
namespace OpticsHub

open Script Net Machine

namespace Gateway

inductive Station where
  /-- The first line or the request head is not complete. -/
  | opened
  /-- The Hub is asked where the request goes. -/
  | asking
  /-- The Hub is asked whether the socket is that of an Agent. -/
  | verdict
  | pooled
  /-- The socket waits in the registry. -/
  | entered
  /-- The socket is one end of a tunnel. -/
  | bound (other : SocketId)
  deriving DecidableEq

/-- The listeners that a socket can have at a station. One end of a tunnel may be cut off. -/
def Station.Hears (listener : Listener) : Station → Prop
  | opened => listener = .onData
  | asking | verdict | entered => listener = .none
  | pooled => listener = .heartbeat
  | bound other => listener = .none ∨ ∃ ends, listener = .pipe other ends

/-- The token under which a socket may wait. -/
def Wiring.key (identifiers : Identifiers) (wiring : Wiring) : SocketId → Text
  | .client client => identifiers.token client
  | .control control => wiring.token control

inductive At (past : List (Event × List Observation)) (wiring : Wiring) :
    SocketId → Station → Prop where
  | opened {id : SocketId} (heard : wiring.listeners id = .onData) : At past wiring id .opened
  | asking {client : ℕ} (awaited : wiring.awaiting client = .lookup ∨
      wiring.awaiting client = .routing) : At past wiring (.client client) .asking
  | verdict {control : ℕ} {agentUuid : Text}
      (awaited : wiring.verifying control = some agentUuid) :
      At past wiring (.control control) .verdict
  | pooled {control : ℕ} {agentUuid : Text}
      (waits : control ∈ wiring.pools.waiting agentUuid) : At past wiring (.control control) .pooled
  | entered {id : SocketId} {token : Text} {entry : RegistryEntry}
      (found : wiring.registry.get token = some entry) (own : entry.socket = id) :
      At past wiring id .entered
  | presented {control : ℕ} {token : Text} {waiting : SocketId}
      (paired : Shown past (.pairs control token waiting)) :
      At past wiring (.control control) (.bound waiting)
  | awaited {control : ℕ} {token : Text} {waiting : SocketId}
      (paired : Shown past (.pairs control token waiting)) :
      At past wiring waiting (.bound (.control control))
  | serving {control client : ℕ} (served : wiring.serves control = some client) :
      At past wiring (.control control) (.bound (.client client))
  | served {control client : ℕ} (served : wiring.serves control = some client) :
      At past wiring (.client client) (.bound (.control control))

/-- A socket is at one station at most, and is listened to as is due there; what is piped is
bound; and an entry stands under the token of its socket, which it was registered under. -/
structure Stationed (identifiers : Identifiers) (past : List (Event × List Observation))
    (wiring : Wiring) : Prop where
  once : ∀ {id station station'}, At past wiring id station → At past wiring id station' →
    station = station'
  hears : ∀ {id station}, At past wiring id station → station.Hears (wiring.listeners id)
  pipes : ∀ {id destination ends}, wiring.listeners id = .pipe destination ends →
    At past wiring id (.bound destination)
  keyed : ∀ {token entry}, wiring.registry.get token = some entry →
    token = wiring.key identifiers entry.socket ∧ Shown past (.registers entry.socket token)

/-- One socket arrives at a station. -/
def arrival (id : SocketId) (station : Station) : SocketId → Option Station :=
  Function.update (fun _ => none) id (some station)

theorem arrival_iff {id other : SocketId} {station station' : Station} :
    arrival id station other = some station' ↔ other = id ∧ station = station' := by
  by_cases self : other = id
  · subst self
    simp [arrival]
  · simp [arrival, self]

section Stationed

variable {identifiers : Identifiers} {free : ℕ → Bool} {past : List (Event × List Observation)}
  {wiring next : Wiring} {event : Event} {shown : List Observation}

/-- A station that a socket is at after a step is one that it was at before, or that it arrives
at. -/
theorem At.before (arrivals : SocketId → Option Station) {id : SocketId} {station : Station}
    (here : At (past ++ [(event, shown)]) next id station)
    (opened : ∀ id, next.listeners id = .onData → wiring.listeners id = .onData)
    (asking : ∀ client, next.awaiting client = .lookup ∨ next.awaiting client = .routing →
      (wiring.awaiting client = .lookup ∨ wiring.awaiting client = .routing) ∨
        arrivals (.client client) = some .asking)
    (verdict : ∀ control agentUuid, next.verifying control = some agentUuid →
      wiring.verifying control = some agentUuid ∨ arrivals (.control control) = some .verdict)
    (pooled : ∀ control agentUuid, control ∈ next.pools.waiting agentUuid →
      control ∈ wiring.pools.waiting agentUuid ∨ arrivals (.control control) = some .pooled)
    (entered : ∀ token entry, next.registry.get token = some entry →
      wiring.registry.get token = some entry ∨ arrivals entry.socket = some .entered)
    (paired : ∀ control token waiting, .pairs control token waiting ∈ shown →
      arrivals (.control control) = some (.bound waiting) ∧
        arrivals waiting = some (.bound (.control control)))
    (served : ∀ control client, next.serves control = some client →
      wiring.serves control = some client ∨
        arrivals (.control control) = some (.bound (.client client)) ∧
          arrivals (.client client) = some (.bound (.control control))) :
    At past wiring id station ∨ arrivals id = some station := by
  cases here with
  | opened heard => exact .inl (.opened (opened id heard))
  | asking awaited => exact (asking _ awaited).imp_left .asking
  | verdict awaited => exact (verdict _ _ awaited).imp_left .verdict
  | pooled waits => exact (pooled _ _ waits).imp_left .pooled
  | entered found own =>
    subst own
    exact (entered _ _ found).imp_left fun before => .entered before rfl
  | presented shownPair =>
    rcases shown_append.mp shownPair with before | now
    · exact .inl (.presented before)
    · exact .inr (paired _ _ _ now).1
  | awaited shownPair =>
    rcases shown_append.mp shownPair with before | now
    · exact .inl (.awaited before)
    · exact .inr (paired _ _ _ now).2
  | serving serves => exact (served _ _ serves).imp .serving And.left
  | served serves => exact (served _ _ serves).imp .served And.right

/-- What is bound stays bound. -/
theorem At.bound {id other : SocketId} (here : At past wiring id (.bound other))
    (serves : ∀ control client, wiring.serves control = some client →
      next.serves control = some client) :
    At (past ++ [(event, shown)]) next id (.bound other) := by
  cases here with
  | presented paired => exact .presented (paired.append _)
  | awaited paired => exact .awaited (paired.append _)
  | serving served => exact .serving (serves _ _ served)
  | served served => exact .served (serves _ _ served)

/-- Stations are kept apart by a step at which whatever arrives somewhere leaves where it was. -/
theorem Stationed.moved (stationed : Stationed identifiers past wiring)
    (arrivals : SocketId → Option Station)
    (before : ∀ {id station}, At (past ++ [(event, shown)]) next id station →
      At past wiring id station ∨ arrivals id = some station)
    (departs : ∀ {id station}, arrivals id = some station →
      ∃ former, At past wiring id former ∧ ¬ At (past ++ [(event, shown)]) next id former)
    (heard : ∀ {id station}, arrivals id = some station → station.Hears (next.listeners id))
    (listens : ∀ id, next.listeners id = wiring.listeners id ∨
      (∃ destination ends, wiring.listeners id = .pipe destination ends) ∧
        next.listeners id = .none ∨
      (∃ former, At past wiring id former ∧ ¬ At (past ++ [(event, shown)]) next id former) ∧
        ∀ destination ends, next.listeners id = .pipe destination ends →
          At (past ++ [(event, shown)]) next id (.bound destination))
    (serves : ∀ control client, wiring.serves control = some client →
      next.serves control = some client)
    (keyed : ∀ {token entry}, next.registry.get token = some entry →
      token = next.key identifiers entry.socket ∧
        Shown (past ++ [(event, shown)]) (.registers entry.socket token)) :
    Stationed identifiers (past ++ [(event, shown)]) next where
  once {id station station'} here there := by
    have left {station station' : Station} (arrives : arrivals id = some station)
        (stays : At past wiring id station')
        (still : At (past ++ [(event, shown)]) next id station') : station = station' := by
      obtain ⟨former, was, isNot⟩ := departs arrives
      obtain rfl := stationed.once was stays
      exact absurd still isNot
    rcases before here with was | arrives
    · rcases before there with was' | arrives'
      · exact stationed.once was was'
      · exact (left arrives' was here).symm
    · rcases before there with was' | arrives'
      · exact left arrives was' there
      · exact Option.some.inj (arrives.symm.trans arrives')
  hears {id station} here := by
    rcases before here with was | arrives
    · rcases listens id with same | ⟨⟨destination, ends, piped⟩, none⟩ | ⟨⟨former, at', isNot⟩, -⟩
      · rw [same]
        exact stationed.hears was
      · obtain rfl := stationed.once was (stationed.pipes piped)
        exact .inl none
      · obtain rfl := stationed.once was at'
        exact absurd here isNot
    · exact heard arrives
  pipes {id destination ends} piped := by
    rcases listens id with same | ⟨-, none⟩ | ⟨-, binds⟩
    · exact (stationed.pipes (same ▸ piped)).bound serves
    · rw [none] at piped
      cases piped
    · exact binds destination ends piped
  keyed := keyed

/-- A step at which nothing arrives anywhere. -/
theorem Stationed.kept (stationed : Stationed identifiers past wiring)
    (move : Move identifiers free wiring event shown next)
    (listens : ∀ id, next.listeners id = wiring.listeners id ∨
      (∃ destination ends, wiring.listeners id = .pipe destination ends) ∧
        next.listeners id = .none ∨
      wiring.listeners id = .onData ∧ next.listeners id = .none)
    (asking : ∀ client, next.awaiting client = .lookup ∨ next.awaiting client = .routing →
      wiring.awaiting client = .lookup ∨ wiring.awaiting client = .routing)
    (verdict : ∀ control agentUuid, next.verifying control = some agentUuid →
      wiring.verifying control = some agentUuid)
    (pooled : ∀ control agentUuid, control ∈ next.pools.waiting agentUuid →
      control ∈ wiring.pools.waiting agentUuid)
    (entered : ∀ token entry, next.registry.get token = some entry →
      wiring.registry.get token = some entry)
    (unpaired : ∀ control token waiting, .pairs control token waiting ∉ shown)
    (serves : next.serves = wiring.serves) (token : next.token = wiring.token) :
    Stationed identifiers (past ++ [(event, shown)]) next := by
  refine stationed.moved (fun _ => none) ?_ (by simp) (by simp) ?_ (by simp [serves]) ?_
  · intro id station here
    exact here.before (fun _ => none) (fun id => onData_move move)
      (fun client awaited => .inl (asking client awaited))
      (fun control agentUuid awaited => .inl (verdict control agentUuid awaited))
      (fun control agentUuid waits => .inl (pooled control agentUuid waits))
      (fun token entry found => .inl (entered token entry found))
      (fun control token waiting paired => absurd paired (unpaired control token waiting))
      (fun control client served => .inl (serves ▸ served))
  · intro id
    rcases listens id with same | unpiped | ⟨heard, none⟩
    · exact .inl same
    · exact .inr (.inl unpiped)
    · refine .inr (.inr ⟨⟨.opened, .opened heard, ?_⟩, ?_⟩)
      · intro still
        cases still with
        | opened heard =>
          rw [none] at heard
          cases heard
      · intro destination ends piped
        rw [none] at piped
        cases piped
  · intro token' entry found
    obtain ⟨own, registered⟩ := stationed.keyed (entered token' entry found)
    refine ⟨own.trans ?_, registered.append _⟩
    unfold Wiring.key
    rw [token]

/-- A socket is registered, and leaves where it was. -/
theorem Stationed.enters (stationed : Stationed identifiers past wiring)
    (move : Move identifiers free wiring event shown next) {id : SocketId} {former : Station}
    (was : At past wiring id former)
    (isNot : ¬ At (past ++ [(event, shown)]) next id former)
    (none : next.listeners id = .none)
    (listens : ∀ other, next.listeners other = wiring.listeners other ∨
      next.listeners other = .none ∧ ∃ former, At past wiring other former ∧
        ¬ At (past ++ [(event, shown)]) next other former)
    (asking : ∀ client, next.awaiting client = .lookup ∨ next.awaiting client = .routing →
      wiring.awaiting client = .lookup ∨ wiring.awaiting client = .routing)
    (verdict : next.verifying = wiring.verifying)
    (pooled : ∀ control agentUuid, control ∈ next.pools.waiting agentUuid →
      control ∈ wiring.pools.waiting agentUuid)
    (rest : Bytes)
    (registry : next.registry =
      wiring.registry.register (next.key identifiers id) id rest wiring.now)
    (registered : .registers id (next.key identifiers id) ∈ shown)
    (unpaired : ∀ control token waiting, .pairs control token waiting ∉ shown)
    (serves : next.serves = wiring.serves)
    (token : ∀ other, other ≠ id → next.key identifiers other = wiring.key identifiers other) :
    Stationed identifiers (past ++ [(event, shown)]) next := by
  have entries {token' : Text} {entry : RegistryEntry}
      (found : next.registry.get token' = some entry) :
      wiring.registry.get token' = some entry ∨
        entry.socket = id ∧ token' = next.key identifiers id := by
    rw [registry, Registry.get_register] at found
    split at found
    · rename_i own
      obtain rfl := Option.some.inj found
      exact .inr ⟨rfl, own⟩
    · exact .inl found
  refine stationed.moved (arrival id .entered) ?_ ?_ ?_ ?_ (by simp [serves]) ?_
  · intro other station here
    exact here.before (arrival id .entered) (fun _ => onData_move move)
      (fun client awaited => .inl (asking client awaited))
      (fun control agentUuid awaited => .inl (verdict ▸ awaited))
      (fun control agentUuid waits => .inl (pooled control agentUuid waits))
      (fun token' entry found => (entries found).imp_right fun new => arrival_iff.mpr ⟨new.1, rfl⟩)
      (fun control token' waiting paired => absurd paired (unpaired control token' waiting))
      (fun control client served => .inl (serves ▸ served))
  · intro other station here
    obtain ⟨rfl, -⟩ := arrival_iff.mp here
    exact ⟨former, was, isNot⟩
  · intro other station here
    obtain ⟨rfl, rfl⟩ := arrival_iff.mp here
    exact none
  · intro other
    rcases listens other with same | ⟨none', left⟩
    · exact .inl same
    · refine .inr (.inr ⟨left, fun destination ends piped => ?_⟩)
      rw [none'] at piped
      cases piped
  · intro token' entry found
    rcases entries found with before | ⟨own, key⟩
    · obtain ⟨key, registered'⟩ := stationed.keyed before
      by_cases self : entry.socket = id
      · obtain rfl : former = .entered := stationed.once was (.entered before self)
        exact absurd (.entered found self) isNot
      · rw [token _ self]
        exact ⟨key, registered'.append _⟩
    · rw [own]
      exact ⟨key, shown_append.mpr (.inr (key ▸ registered))⟩

/-- What is unpiped is piped no more; nothing else changes. -/
theorem listeners_unpipe (wiring : Wiring) (destination id : SocketId) :
    (wiring.unpipe destination).listeners id = wiring.listeners id ∨
      (∃ destination ends, wiring.listeners id = .pipe destination ends) ∧
        (wiring.unpipe destination).listeners id = .none := by
  simp only [Wiring.unpipe]
  split
  · rename_i piped
    cases listener : wiring.listeners id with
    | pipe target ends => exact .inr ⟨⟨target, ends, rfl⟩, rfl⟩
    | _ => simp [listener, Listener.pipesTo] at piped
  · exact .inl rfl

/-- The entry of a socket is the only one. -/
theorem Stationed.entry_unique (stationed : Stationed identifiers past wiring)
    {token token' : Text} {entry entry' : RegistryEntry}
    (found : wiring.registry.get token = some entry)
    (found' : wiring.registry.get token' = some entry') (same : entry'.socket = entry.socket) :
    token' = token := by
  rw [(stationed.keyed found).1, (stationed.keyed found').1, same]

/-- A socket takes its place at a station that is neither the registry nor a tunnel. -/
theorem Stationed.arrives (stationed : Stationed identifiers past wiring)
    (move : Move identifiers free wiring event shown next) {id : SocketId}
    {former station : Station} (was : At past wiring id former)
    (isNot : ¬ At (past ++ [(event, shown)]) next id former)
    (heard : station.Hears (next.listeners id))
    (unpiped : ∀ destination ends, next.listeners id ≠ .pipe destination ends)
    (listens : ∀ other, other ≠ id → next.listeners other = wiring.listeners other)
    (asking : ∀ client, next.awaiting client = .lookup ∨ next.awaiting client = .routing →
      (wiring.awaiting client = .lookup ∨ wiring.awaiting client = .routing) ∨
        id = .client client ∧ station = .asking)
    (verdict : ∀ control agentUuid, next.verifying control = some agentUuid →
      wiring.verifying control = some agentUuid ∨ id = .control control ∧ station = .verdict)
    (pooled : ∀ control agentUuid, control ∈ next.pools.waiting agentUuid →
      control ∈ wiring.pools.waiting agentUuid ∨ id = .control control ∧ station = .pooled)
    (registry : next.registry = wiring.registry)
    (unpaired : ∀ control token waiting, .pairs control token waiting ∉ shown)
    (serves : next.serves = wiring.serves) (token : next.token = wiring.token) :
    Stationed identifiers (past ++ [(event, shown)]) next := by
  have placed {other : SocketId} {station' : Station} (here : id = other ∧ station = station') :
      arrival id station other = some station' := arrival_iff.mpr ⟨here.1.symm, here.2⟩
  refine stationed.moved (arrival id station) ?_ ?_ ?_ ?_ (by simp [serves]) ?_
  · intro other station' here
    exact here.before (arrival id station) (fun _ => onData_move move)
      (fun client awaited => (asking client awaited).imp_right placed)
      (fun control agentUuid awaited => (verdict control agentUuid awaited).imp_right placed)
      (fun control agentUuid waits => (pooled control agentUuid waits).imp_right placed)
      (fun token' entry found => .inl (registry ▸ found))
      (fun control token' waiting paired => absurd paired (unpaired control token' waiting))
      (fun control client served => .inl (serves ▸ served))
  · intro other station' here
    obtain ⟨rfl, -⟩ := arrival_iff.mp here
    exact ⟨former, was, isNot⟩
  · intro other station' here
    obtain ⟨rfl, rfl⟩ := arrival_iff.mp here
    exact heard
  · intro other
    by_cases self : other = id
    · subst self
      exact .inr (.inr ⟨⟨former, was, isNot⟩,
        fun destination ends piped => absurd piped (unpiped destination ends)⟩)
    · exact .inl (listens other self)
  · intro token' entry found
    obtain ⟨own, registered⟩ := stationed.keyed (registry ▸ found)
    refine ⟨own.trans ?_, registered.append _⟩
    unfold Wiring.key
    rw [token]

/-- Two sockets are bound to each other. -/
theorem Stationed.joins (stationed : Stationed identifiers past wiring)
    (move : Move identifiers free wiring event shown next) {control : ℕ} {other : SocketId}
    {former former' : Station} {ends ends' : Bool}
    (was : At past wiring (.control control) former) (was' : At past wiring other former')
    (differs : other ≠ .control control)
    (isNot : ¬ At (past ++ [(event, shown)]) next (.control control) former)
    (isNot' : ¬ At (past ++ [(event, shown)]) next other former')
    (binds : At (past ++ [(event, shown)]) next (.control control) (.bound other))
    (binds' : At (past ++ [(event, shown)]) next other (.bound (.control control)))
    (piped : next.listeners (.control control) = .pipe other ends)
    (piped' : next.listeners other = .pipe (.control control) ends')
    (listens : ∀ id, id ≠ .control control → id ≠ other →
      next.listeners id = wiring.listeners id)
    (asking : ∀ client, next.awaiting client = .lookup ∨ next.awaiting client = .routing →
      wiring.awaiting client = .lookup ∨ wiring.awaiting client = .routing)
    (verdict : next.verifying = wiring.verifying)
    (pooled : ∀ control agentUuid, control ∈ next.pools.waiting agentUuid →
      control ∈ wiring.pools.waiting agentUuid)
    (entered : ∀ token entry, next.registry.get token = some entry →
      wiring.registry.get token = some entry)
    (paired : ∀ control' token' waiting, .pairs control' token' waiting ∈ shown →
      control' = control ∧ waiting = other)
    (serves : ∀ control' client, next.serves control' = some client →
      wiring.serves control' = some client ∨ control' = control ∧ other = .client client)
    (served : ∀ control' client, wiring.serves control' = some client →
      next.serves control' = some client)
    (token : ∀ control', control' ≠ control → next.token control' = wiring.token control') :
    Stationed identifiers (past ++ [(event, shown)]) next := by
  have here : (Function.update (arrival other (.bound (.control control))) (.control control)
      (some (.bound other))) (.control control) = some (.bound other) := Function.update_self _ _ _
  have there : (Function.update (arrival other (.bound (.control control))) (.control control)
      (some (.bound other))) other = some (.bound (.control control)) := by
    rw [Function.update_of_ne differs]
    exact arrival_iff.mpr ⟨rfl, rfl⟩
  have cases {id : SocketId} {station : Station}
      (arrives : (Function.update (arrival other (.bound (.control control))) (.control control)
        (some (.bound other))) id = some station) :
      id = .control control ∧ station = .bound other ∨
        id = other ∧ station = .bound (.control control) := by
    by_cases self : id = .control control
    · subst self
      rw [Function.update_self] at arrives
      exact .inl ⟨rfl, (Option.some.inj arrives).symm⟩
    · rw [Function.update_of_ne self] at arrives
      exact .inr ((arrival_iff.mp arrives).imp_right Eq.symm)
  refine stationed.moved (Function.update (arrival other (.bound (.control control)))
    (.control control) (some (.bound other))) ?_ ?_ ?_ ?_ served ?_
  · intro id station at'
    refine at'.before _ (fun _ => onData_move move)
      (fun client awaited => .inl (asking client awaited))
      (fun control agentUuid awaited => .inl (verdict ▸ awaited))
      (fun control agentUuid waits => .inl (pooled control agentUuid waits))
      (fun token' entry found => .inl (entered token' entry found)) ?_ ?_
    · intro control' token' waiting now
      obtain ⟨rfl, rfl⟩ := paired control' token' waiting now
      exact ⟨here, there⟩
    · intro control' client now
      rcases serves control' client now with before | ⟨rfl, rfl⟩
      · exact .inl before
      · exact .inr ⟨here, there⟩
  · intro id station arrives
    rcases cases arrives with ⟨rfl, -⟩ | ⟨rfl, -⟩
    · exact ⟨former, was, isNot⟩
    · exact ⟨former', was', isNot'⟩
  · intro id station arrives
    rcases cases arrives with ⟨rfl, rfl⟩ | ⟨rfl, rfl⟩
    · exact .inr ⟨ends, piped⟩
    · exact .inr ⟨ends', piped'⟩
  · intro id
    by_cases self : id = .control control
    · subst self
      refine .inr (.inr ⟨⟨former, was, isNot⟩, fun destination ends'' now => ?_⟩)
      obtain ⟨rfl, -⟩ := Listener.pipe.inj (piped.symm.trans now)
      exact binds
    · by_cases self' : id = other
      · subst self'
        refine .inr (.inr ⟨⟨former', was', isNot'⟩, fun destination ends'' now => ?_⟩)
        obtain ⟨rfl, -⟩ := Listener.pipe.inj (piped'.symm.trans now)
        exact binds'
      · exact .inl (listens id self self')
  · intro token' entry found
    have before := entered token' entry found
    obtain ⟨own, registered⟩ := stationed.keyed before
    refine ⟨own.trans ?_, registered.append _⟩
    cases socket : entry.socket with
    | client client => rfl
    | control control' =>
      refine (token control' ?_).symm
      by_cases self : control' = control
      · subst self
        obtain rfl : former = .entered := stationed.once was (.entered before socket)
        exact absurd (.entered found socket) isNot
      · exact self

/-- A socket that is listened to in another way now is not at the station of before. -/
theorem not_opened {id : SocketId} (heard : next.listeners id ≠ .onData) :
    ¬ At past next id .opened := by
  intro here
  cases here with
  | opened still => exact heard still

theorem not_asking {client : ℕ}
    (awaited : ¬ (next.awaiting client = .lookup ∨ next.awaiting client = .routing)) :
    ¬ At past next (.client client) .asking := by
  intro here
  cases here with
  | asking still => exact awaited still

theorem not_verdict {control : ℕ} (answered : next.verifying control = none) :
    ¬ At past next (.control control) .verdict := by
  intro here
  cases here with
  | verdict still =>
    rw [answered] at still
    cases still

theorem not_pooled {control : ℕ} (nowhere : ∀ agentUuid, control ∉ next.pools.waiting agentUuid) :
    ¬ At past next (.control control) .pooled := by
  intro here
  cases here with
  | pooled still => exact nowhere _ still

theorem not_entered {id : SocketId}
    (absent : ∀ token entry, next.registry.get token = some entry → entry.socket ≠ id) :
    ¬ At past next id .entered := by
  intro here
  cases here with
  | entered still own => exact absent _ _ still own

/-- What is pooled is at one station only, and taken from its pool it is at none. -/
theorem Pooling.taken (pooling : Pooling past wiring) {agentUuid : Text} {control : ℕ} {left : Pools}
    (claimed : wiring.pools.claim free agentUuid = (some control, left)) :
    At past wiring (.control control) .pooled ∧ ∀ other, control ∉ left.waiting other :=
  have taken := pooling.sound.taken claimed
  ⟨.pooled taken.1, taken.2⟩

/-- What a timer or a release leaves was there. -/
theorem get_of_get_fire {registry : Registry} {timer : Timer} {token : Text}
    {entry : RegistryEntry} (found : (registry.fire timer).get token = some entry) :
    registry.get token = some entry := by
  rw [Registry.get_fire] at found
  split at found
  · cases found
  · exact found

theorem get_of_get_release {registry : Registry} {key token : Text} {socket : SocketId}
    {entry : RegistryEntry} (found : (registry.release key socket).get token = some entry) :
    registry.get token = some entry := by
  rw [Registry.get_release] at found
  split at found
  · cases found
  · exact found

theorem waiting_claimed {agentUuid : Text} {result : Option ℕ} {left : Pools}
    (claimed : wiring.pools.claim free agentUuid = (result, left)) {control : ℕ} {other : Text}
    (waits : control ∈ left.waiting other) : control ∈ wiring.pools.waiting other := by
  have after : left = (wiring.pools.claim free agentUuid).2 := by rw [claimed]
  exact Pools.waiting_claim free agentUuid other (after ▸ waits)

theorem Stationed.move (stationed : Stationed identifiers past wiring)
    (pooling : Pooling past wiring) (move : Move identifiers free wiring event shown next) :
    Stationed identifiers (past ++ [(event, shown)]) next := by
  have whole := move
  cases move with
  | passes event =>
    exact stationed.kept whole (fun _ => .inl rfl) (fun _ => id) (fun _ _ => id) (fun _ _ => id)
      (fun _ _ => id) (by simp) rfl rfl
  | unpipes destination =>
    exact stationed.kept whole
      (fun other => (listeners_unpipe wiring destination other).imp_right .inl)
      (fun _ => id) (fun _ _ => id) (fun _ _ => id) (fun _ _ => id) (by simp) rfl rfl
  | looksUp client count heard route =>
    refine @Stationed.arrives identifiers free past wiring _ _ _ stationed whole (.client client)
      .opened .asking (.opened heard) (not_opened ?_) ?_ ?_ ?_ ?_ (fun _ _ => .inl)
      (fun _ _ => .inl) rfl (by simp) rfl rfl
    · simp [Wiring.await, Wiring.listen]
    · simp [Station.Hears, Wiring.await, Wiring.listen]
    · simp [Wiring.await, Wiring.listen]
    · intro other differs
      simp [Wiring.await, Wiring.listen, differs]
    · intro other awaited
      by_cases self : other = client
      · exact .inr ⟨by rw [self], rfl⟩
      · exact .inl (by simpa [Wiring.await, Wiring.listen, self] using awaited)
  | rejects control count heard =>
    refine stationed.kept whole (fun other => ?_) (fun _ => id) (fun _ _ => id) (fun _ _ => id)
      (fun _ _ => id) (by simp) rfl rfl
    by_cases self : other = .control control
    · subst self
      exact .inr (.inr ⟨heard, by simp [Wiring.detach, Wiring.listen]⟩)
    · exact .inl (by simp [Wiring.detach, Wiring.listen, self])
  | verifies control count heard body =>
    refine @Stationed.arrives identifiers free past wiring _ _ _ stationed whole (.control control)
      .opened .verdict (.opened heard) (not_opened ?_) ?_ ?_ ?_ (fun _ => .inl) ?_
      (fun _ _ => .inl) rfl (by simp) rfl rfl
    · simp [Wiring.verify, Wiring.detach, Wiring.listen]
    · simp [Station.Hears, Wiring.verify, Wiring.detach, Wiring.listen]
    · simp [Wiring.verify, Wiring.detach, Wiring.listen]
    · intro other differs
      simp [Wiring.verify, Wiring.detach, Wiring.listen, differs]
    · intro other agentUuid awaited
      by_cases self : other = control
      · exact .inr ⟨by rw [self], rfl⟩
      · exact .inl (by simpa [Wiring.verify, Wiring.detach, Wiring.listen, self] using awaited)
  | pairs control count heard token exist found =>
    have entered : At past wiring exist.socket .entered := .entered found rfl
    have differs : exist.socket ≠ .control control := by
      intro same
      have opened : At past wiring exist.socket .opened := same ▸ .opened heard
      cases stationed.once entered opened
    have paired : Shown (past ++ [(.deliver (.control control) count,
        [.presents control token, .pairs control token exist.socket])])
        (.pairs control token exist.socket) := shown_append.mpr (.inr (by simp))
    have piped : ((wiring.present control token (wiring.registry.claim token)).join
        (.control control) exist.socket true).listeners (.control control) =
          .pipe exist.socket true := by
      simp [Wiring.join, Wiring.listen, differs.symm]
    refine @Stationed.joins identifiers free past wiring _ _ _ stationed whole control exist.socket
      .opened .entered true true (.opened heard) entered differs (not_opened ?_) (not_entered ?_)
      (.presented paired) (.awaited paired) piped ?_ ?_ (fun _ => id) rfl (fun _ _ => id) ?_ ?_
      (fun _ _ => .inl) (fun _ _ => id) ?_
    · simp [piped]
    · intro token' entry here
      change (wiring.registry.claim token).get token' = some entry at here
      rw [Registry.get_claim] at here
      split at here
      · cases here
      · rename_i other
        exact fun same => other (stationed.entry_unique found here same)
    · simp [Wiring.join, Wiring.listen]
    · intro id notControl notOther
      simp [Wiring.join, Wiring.listen, Wiring.present, notControl, notOther]
    · intro token' entry here
      change (wiring.registry.claim token).get token' = some entry at here
      rw [Registry.get_claim] at here
      split at here
      · cases here
      · exact here
    · intro control' token' waiting now
      simp only [List.mem_cons, reduceCtorEq, List.not_mem_nil, or_false, false_or,
        Observation.pairs.injEq] at now
      exact ⟨now.1, now.2.2⟩
    · intro control' notControl
      simp [Wiring.join, Wiring.listen, Wiring.present, notControl]
  | hibernates control count heard token rest absent =>
    have key : ((wiring.listen (.control control) .none).present control token
        (wiring.registry.register token (.control control) rest wiring.now)).key identifiers
          (.control control) = token := by
      simp [Wiring.key, Wiring.present]
    refine stationed.enters whole (.opened heard) (not_opened ?_) ?_ ?_ (fun _ => id) rfl
      (fun _ _ => id) rest ?_ ?_ (by simp) rfl ?_
    · simp [Wiring.present, Wiring.listen]
    · simp [Wiring.present, Wiring.listen]
    · intro other
      by_cases self : other = .control control
      · subst self
        refine .inr ⟨by simp [Wiring.present, Wiring.listen], .opened, .opened heard,
          not_opened ?_⟩
        simp [Wiring.present, Wiring.listen]
      · exact .inl (by simp [Wiring.present, Wiring.listen, self])
    · rw [key]
      rfl
    · rw [key]
      simp
    · intro other differs
      cases other with
      | client client => rfl
      | control control' =>
        have : control' ≠ control := fun same => differs (congrArg _ same)
        simp [Wiring.key, Wiring.present, this, Wiring.listen]
  | refuses control reply agentUuid awaited refused =>
    refine stationed.kept whole (fun _ => .inl rfl) (fun _ => id) ?_ (fun _ _ => id)
      (fun _ _ => id) (by simp) rfl rfl
    intro other agentUuid' still
    by_cases self : other = control
    · simp [Wiring.verify, self] at still
    · simpa [Wiring.verify, self] using still
  | accepts control reply agentUuid awaited ok room =>
    have new := (pooling.asked control agentUuid awaited).1
    refine @Stationed.arrives identifiers free past wiring _ _ _ stationed whole (.control control)
      .verdict .pooled (.verdict awaited) (not_verdict ?_) ?_ ?_ ?_ (fun _ => .inl) ?_ ?_ rfl
      (by simp) rfl rfl
    · simp [Wiring.verify, Wiring.pool, Wiring.listen]
    · simp [Station.Hears, Wiring.verify, Wiring.pool, Wiring.listen]
    · simp [Wiring.verify, Wiring.pool, Wiring.listen]
    · intro other differs
      simp [Wiring.verify, Wiring.pool, Wiring.listen, differs]
    · intro other agentUuid' still
      by_cases self : other = control
      · simp [Wiring.verify, Wiring.pool, Wiring.listen, self] at still
      · exact .inl (by simpa [Wiring.verify, Wiring.pool, Wiring.listen, self] using still)
    · intro other agentUuid' waits
      change other ∈ (wiring.pools.add agentUuid control).waiting agentUuid' at waits
      rw [Pools.waiting_add pooling.sound new] at waits
      split at waits
      · rename_i same
        rcases List.mem_append.mp waits with before | added
        · exact .inl (same ▸ before)
        · exact .inr ⟨by rw [List.mem_singleton.mp added], rfl⟩
      · exact .inl waits
  | looked client status awaited onward differs =>
    refine stationed.kept whole (fun _ => .inl rfl) ?_ (fun _ _ => id) (fun _ _ => id)
      (fun _ _ => id) (by simp) rfl rfl
    intro other still
    by_cases self : other = client
    · subst self
      exact .inl awaited
    · simpa [Wiring.await, self] using still
  | fellBack client status awaited onward differs =>
    refine stationed.kept whole (fun _ => .inl rfl) ?_ (fun _ _ => id) (fun _ _ => id)
      (fun _ _ => id) (by simp) rfl rfl
    intro other still
    by_cases self : other = client
    · subst self
      rcases differs with rfl | ⟨status, rfl⟩ <;> simp [Wiring.await] at still
    · simpa [Wiring.await, self] using still
  | fails client body status awaited =>
    refine stationed.kept whole (fun _ => .inl rfl) ?_ (fun _ _ => id) (fun _ _ => id)
      (fun _ _ => id) (by simp) rfl rfl
    intro other still
    by_cases self : other = client
    · simp [Wiring.await, self] at still
    · simpa [Wiring.await, self] using still
  | serves client body awaited agentUuid control left port claimed named =>
    obtain ⟨pooled, nowhere⟩ := pooling.taken claimed
    have unserved (client' : ℕ) : wiring.serves control ≠ some client' := by
      intro served
      cases stationed.once pooled (.serving served)
    have serving : ({ wiring with pools := left }.serve client control).serves control =
        some client := by
      simp [Wiring.serve, Wiring.join, Wiring.listen]
    refine @Stationed.joins identifiers free past wiring _ _ _ stationed whole control
      (.client client) .pooled .asking false true pooled (.asking (.inr awaited)) (by simp)
      (not_pooled nowhere) (not_asking ?_) (.serving serving) (.served serving) ?_ ?_ ?_ ?_ rfl
      ?_ (fun _ _ => id) (by simp) ?_ ?_ (fun _ _ => rfl)
    · simp [Wiring.serve, Wiring.join, Wiring.listen, Wiring.await]
    · simp [Wiring.serve, Wiring.join, Wiring.listen]
    · simp [Wiring.serve, Wiring.join, Wiring.listen]
    · intro id notControl notClient
      simp [Wiring.serve, Wiring.join, Wiring.listen, Wiring.await, notControl, notClient]
    · intro other still
      by_cases self : other = client
      · simp [Wiring.serve, Wiring.join, Wiring.listen, Wiring.await, self] at still
      · simpa [Wiring.serve, Wiring.join, Wiring.listen, Wiring.await, self] using still
    · exact fun control' agentUuid' waits => waiting_claimed claimed waits
    · intro control' client' served
      by_cases self : control' = control
      · subst self
        rw [serving] at served
        exact .inr ⟨rfl, congrArg _ (Option.some.inj served)⟩
      · exact .inl (by simpa [Wiring.serve, self] using served)
    · intro control' client' served
      have differs : control' ≠ control := fun same => unserved client' (same ▸ served)
      simpa [Wiring.serve, differs] using served
  | registers client body awaited rest route =>
    have asking : At past wiring (.client client) .asking := .asking (.inr awaited)
    refine stationed.enters whole asking (not_asking ?_) (stationed.hears asking)
      (fun _ => .inl rfl) ?_ rfl (fun _ _ => id) rest rfl (by simp [Wiring.key]) (by simp) rfl
      (fun _ _ => by cases ‹SocketId› <;> rfl)
    · simp [Wiring.await]
    · intro other still
      by_cases self : other = client
      · simp [Wiring.await, self] at still
      · simpa [Wiring.await, self] using still
  | misses client body awaited agentUuid left claimed rest route =>
    have asking : At past wiring (.client client) .asking := .asking (.inr awaited)
    refine stationed.enters whole asking (not_asking ?_) (stationed.hears asking)
      (fun _ => .inl rfl) ?_ rfl (fun _ _ => waiting_claimed claimed) rest rfl
      (by simp [Wiring.key]) (by simp) rfl (fun _ _ => by cases ‹SocketId› <;> rfl)
    · simp [Wiring.await]
    · intro other still
      by_cases self : other = client
      · simp [Wiring.await, self] at still
      · simpa [Wiring.await, self] using still
  | drops client body awaited agentUuid control left claimed unnamed rest route detached same =>
    have asking : At past wiring (.client client) .asking := .asking (.inr awaited)
    obtain ⟨pooled, nowhere⟩ := pooling.taken claimed
    have heartbeat : wiring.listeners (.control control) = .heartbeat := stationed.hears pooled
    rcases same with ⟨otherwise, -⟩ | ⟨-, rfl⟩
    · exact absurd heartbeat otherwise
    refine stationed.enters whole asking (not_asking ?_) ?_ ?_ ?_ rfl
      (fun _ _ => waiting_claimed claimed) rest rfl (by simp [Wiring.key]) (by simp) rfl
      (fun _ _ => by cases ‹SocketId› <;> rfl)
    · simp [Wiring.await]
    · simpa [Wiring.await, Wiring.listen, Station.Hears] using stationed.hears asking
    · intro other
      by_cases self : other = .control control
      · subst self
        exact .inr ⟨by simp [Wiring.await, Wiring.listen], .pooled, pooled, not_pooled nowhere⟩
      · exact .inl (by simp [Wiring.await, Wiring.listen, self])
    · intro other still
      by_cases self : other = client
      · simp [Wiring.await, self] at still
      · simpa [Wiring.await, Wiring.listen, self] using still
  | fires number timer due =>
    refine stationed.kept whole (fun _ => .inl rfl) (fun _ => id) (fun _ _ => id) (fun _ _ => id)
      ?_ (by simp) rfl rfl
    intro token entry found
    cases socket : timer.socket with
    | client client =>
      simp only [socket] at found
      exact get_of_get_fire found
    | control control =>
      simp only [socket] at found
      exact get_of_get_fire (get_of_get_release found)
  | closesControl control =>
    refine stationed.kept whole
      (fun other => (listeners_unpipe _ (.control control) other).imp_right .inl)
      (fun _ => id) (fun _ _ => id) ?_ ?_ (by simp) rfl rfl
    · intro other agentUuid waits
      change other ∈ (wiring.leave control).waiting agentUuid at waits
      rw [Wiring.leave] at waits
      split at waits
      · exact Pools.waiting_remove _ _ _ _ waits
      · exact waits
    · intro token entry found
      simp only [Wiring.unpipe] at found
      split at found
      · exact get_of_get_release found
      · exact found
  | closesClient client =>
    exact stationed.kept whole
      (fun other => (listeners_unpipe _ (.client client) other).imp_right .inl)
      (fun _ => id) (fun _ _ => id) (fun _ _ => id)
      (fun _ _ found => get_of_get_release found) (by simp) rfl rfl
  | elapses milliseconds =>
    exact stationed.kept whole (fun _ => .inl rfl) (fun _ => id) (fun _ _ => id) (fun _ _ => id)
      (fun _ _ => id) (by simp) rfl rfl

theorem at_started {id : SocketId} {station : Station}
    (here : At [] (State.wiring {}) id station) : station = .opened := by
  cases here with
  | opened heard => rfl
  | asking awaited => rcases awaited with awaited | awaited <;> cases awaited
  | verdict awaited => cases awaited
  | pooled waits => cases waits
  | entered found own => cases found
  | presented paired | awaited paired =>
    obtain ⟨_, inside, -⟩ := paired
    cases inside
  | serving served | served served => cases served

theorem stationed_started (identifiers : Identifiers) :
    Stationed identifiers [] (State.wiring {}) where
  once here there := (at_started here).trans (at_started there).symm
  hears here := by
    rw [at_started here]
    rfl
  pipes piped := by cases piped
  keyed found := by cases found

/-- Where sockets stand, and what is known of the pools, after a step. -/
theorem Stationed.onward {state : State} (stationed : Stationed identifiers past state.wiring)
    (pooling : Pooling past state.wiring) (event : Event) :
    Stationed identifiers (past ++ [(event, (step identifiers state event).1)])
      (step identifiers state event).2.wiring :=
  stationed.move pooling (step_moves identifiers state event)

end Stationed

end Gateway

end OpticsHub
