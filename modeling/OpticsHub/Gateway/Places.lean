import OpticsHub.Gateway.Rendezvous

/-!
# The places of the connections of Agents

A connection that an Agent opened waits for its first line, for what the Hub says of it, in a pool
or in the registry, or it is piped to a public client. It has one place at most, but it can lose its
place without being closed: two connections under one token are piped to each other, a client is
registered over a connection that came before it, a timer deletes the entry of a connection and
leaves that alone, a pooled socket is taken for a request that names no port, and what was piped to
a client is piped nowhere once the client has finished or is gone. Along a run without these, every
connection that is not closed or being closed has its place.
-/
namespace OpticsHub

open Script Net Machine

namespace Gateway

inductive Place where
  /-- The first line is not complete. -/
  | firstLine
  /-- The Hub is asked whether the connection is that of an Agent. -/
  | verdict
  | pool (agentUuid : Text)
  | registry
  | piped (client : ℕ)

inductive Placed (wiring : Wiring) (control : ℕ) : Place → Prop where
  | firstLine (heard : wiring.listeners (.control control) = .onData) :
      Placed wiring control .firstLine
  | verdict {agentUuid : Text} (awaited : wiring.verifying control = some agentUuid) :
      Placed wiring control .verdict
  | pool {agentUuid : Text} (waits : control ∈ wiring.pools.waiting agentUuid) :
      Placed wiring control (.pool agentUuid)
  | registry {entry : RegistryEntry}
      (found : wiring.registry.get (wiring.token control) = some entry)
      (own : entry.socket = .control control) : Placed wiring control .registry
  | piped {client : ℕ} {ends : Bool}
      (pipes : wiring.listeners (.control control) = .pipe (.client client) ends) :
      Placed wiring control (.piped client)

/-- Whether the body of a lookup names a port and an Agent, and the Agent has a pooled socket that
can be used. -/
def HasPooled (state : State) (body : Option Value) : Prop :=
  ∃ agentUuid port, member "agent_uuid" body = some (.string agentUuid) ∧
    servicePort body = some port ∧
    ∃ control ∈ state.pools.waiting agentUuid, usable state control = true

/-- A connection that is not closed or being closed waits in the registry. -/
def WaitsUnder (state : State) (token : Text) (control : ℕ) : Prop :=
  (state.sockets (.control control)).writable = true ∧ (state.controls control).token = token ∧
    ∃ entry, state.registry.get token = some entry ∧ entry.socket = .control control

/-- What a step must not do for every connection to have its place: present a token under which
another connection waits; register a client over a connection; take a pooled socket for a request
without a port; let a timer fire at a connection that waits; or finish or close a client to which a
connection is piped that does not end with it. -/
def LeavesNone (identifiers : Identifiers) (state : State) : Event → Prop
  | .deliver (.control control) count => MeetsClients state (.deliver (.control control) count)
  | .body client body =>
    (state.clients client).awaiting = .routing →
      (HasPooled state body ∨
        ∀ control, ¬ WaitsUnder state (identifiers.token client) control) ∧
      (servicePort body = none → ∀ agentUuid,
        member "agent_uuid" body = some (.string agentUuid) →
          ∀ control ∈ state.pools.waiting agentUuid, usable state control = false)
  | .fire number =>
    ∀ timer, state.registry.due number state.now = some timer →
      ∀ token control, WaitsUnder state token control →
        timer.token ≠ token ∧ timer.socket ≠ .control control
  | .finish (.client client) =>
    (state.sockets (.client client)).finishes = true →
      ∀ control ends, state.listeners (.control control) = .pipe (.client client) ends →
        (state.sockets (.control control)).writable = false
  | .close (.client client) =>
    (state.sockets (.client client)).closes = true →
      ∀ control ends, state.listeners (.control control) = .pipe (.client client) ends →
        (state.sockets (.control control)).writable = false ∨
          (state.clients client).pooled = some control
  | _ => True

/-- How a connection loses its place at a step. -/
inductive Strays (identifiers : Identifiers) (wiring : Wiring) (control : ℕ) (next : Wiring) :
    Event → List Observation → Prop where
  | rejected {count : ℕ} (heard : wiring.listeners (.control control) = .onData)
      (left : next.listeners (.control control) = .none) :
      Strays identifiers wiring control next (.deliver (.control control) count) []
  | refused {reply : Option (ℕ × Option Value)} {agentUuid : Text}
      (awaited : wiring.verifying control = some agentUuid)
      (refused : verifyWithHub reply ≠ .ok () ∨
        maxPoolPerAgent ≤ (wiring.pools.waiting agentUuid).length) :
      Strays identifiers wiring control next (.verdict control reply) []
  | joined {presenting count other : ℕ} {token : Text}
      (heard : wiring.listeners (.control presenting) = .onData)
      (own : control = presenting ∨ control = other) :
      Strays identifiers wiring control next (.deliver (.control presenting) count)
        [.presents presenting token, .pairs presenting token (.control other)]
  | replaced {client : ℕ} {body : Option Value} {shown : List Observation} {entry : RegistryEntry}
      (token : wiring.token control = identifiers.token client)
      (found : wiring.registry.get (identifiers.token client) = some entry)
      (own : entry.socket = .control control)
      (registers : .registers (.client client) (identifiers.token client) ∈ shown) :
      Strays identifiers wiring control next (.body client body) shown
  | dropped {client : ℕ} {body : Option Value} {agentUuid : Text} {shown : List Observation}
      (unnamed : servicePort body = none)
      (claims : .claims client agentUuid (some control) ∈ shown) :
      Strays identifiers wiring control next (.body client body) shown
  | expired {number : ℕ} {timer : Timer} {shown : List Observation} {entry : RegistryEntry}
      (due : wiring.registry.due number wiring.now = some timer)
      (its : timer.token = wiring.token control ∨ timer.socket = .control control)
      (found : wiring.registry.get (wiring.token control) = some entry)
      (own : entry.socket = .control control) :
      Strays identifiers wiring control next (.fire number) shown
  | finished {client : ℕ} {ends : Bool}
      (pipes : wiring.listeners (.control control) = .pipe (.client client) ends)
      (cut : next.listeners (.control control) = .none) :
      Strays identifiers wiring control next (.finish (.client client)) []
  | left {client : ℕ} {ends : Bool}
      (pipes : wiring.listeners (.control control) = .pipe (.client client) ends)
      (cut : next.listeners (.control control) = .none) :
      Strays identifiers wiring control next (.close (.client client)) []
  | closed : Strays identifiers wiring control next (.close (.control control)) []

/-! ## One place at most -/

section Places

variable {identifiers : Identifiers} {free : ℕ → Bool} {past : List (Event × List Observation)}
  {wiring next : Wiring} {event : Event} {shown : List Observation} {control : ℕ}
  {place place' : Place}

/-- The station of a place. -/
def Place.station : Place → Station
  | firstLine => .opened
  | verdict => .verdict
  | pool _ => .pooled
  | registry => .entered
  | piped client => .bound (.client client)

theorem Placed.at (stationed : Stationed identifiers past wiring)
    (placed : Placed wiring control place) : At past wiring (.control control) place.station := by
  cases placed with
  | firstLine heard => exact .opened heard
  | verdict awaited => exact .verdict awaited
  | pool waits => exact .pooled waits
  | registry found own => exact .entered found own
  | piped pipes => exact stationed.pipes pipes

theorem Placed.unique (stationed : Stationed identifiers past wiring)
    (pooling : Pooling past wiring) (placed : Placed wiring control place)
    (placed' : Placed wiring control place') : place' = place := by
  have same := stationed.once (placed.at stationed) (placed'.at stationed)
  cases placed with
  | pool waits =>
    cases placed' with
    | pool waits' =>
      obtain ⟨pool, -, known⟩ := pooling.sound.leaves_of_mem waits
      obtain ⟨pool', -, known'⟩ := pooling.sound.leaves_of_mem waits'
      rw [(Prod.mk.inj (Option.some.inj (known'.symm.trans known))).1]
    | _ => cases same
  | piped pipes =>
    cases placed' with
    | piped pipes' =>
      obtain rfl := SocketId.client.inj (Station.bound.inj same)
      rfl
    | _ => cases same
  | _ =>
    cases placed' with
    | firstLine | verdict | registry => first | rfl | cases same
    | _ => cases same

/-- What is piped is piped to a client, if it has a place. -/
theorem Placed.of_pipes (stationed : Stationed identifiers past wiring)
    (placed : Placed wiring control place) {destination : SocketId} {ends : Bool}
    (pipes : wiring.listeners (.control control) = .pipe destination ends) :
    ∃ client, destination = .client client := by
  have same := stationed.once (stationed.pipes pipes) (placed.at stationed)
  cases place with
  | piped client => exact ⟨client, Station.bound.inj same⟩
  | _ => cases same

/-! ## What a move does to a place -/

/-- A place that nothing changes at. -/
theorem Placed.kept (placed : Placed wiring control place)
    (listeners : next.listeners (.control control) = wiring.listeners (.control control))
    (verifying : next.verifying control = wiring.verifying control)
    (waits : ∀ agentUuid, control ∈ wiring.pools.waiting agentUuid →
      control ∈ next.pools.waiting agentUuid)
    (token : next.token control = wiring.token control)
    (found : ∀ entry, wiring.registry.get (wiring.token control) = some entry →
      entry.socket = .control control →
        next.registry.get (wiring.token control) = some entry) : Placed next control place := by
  cases placed with
  | firstLine heard => exact .firstLine (listeners.trans heard)
  | verdict awaited => exact .verdict (verifying.trans awaited)
  | pool here => exact .pool (waits _ here)
  | registry here own =>
    refine .registry ?_ own
    rw [token]
    exact found _ here own
  | piped pipes => exact .piped (listeners.trans pipes)

/-- Nothing is passed on to a destination that a placed connection is not piped to. -/
theorem Placed.unpipe_kept (stationed : Stationed identifiers past wiring)
    (placed : Placed wiring control place) (destination : SocketId) :
    (wiring.unpipe destination).listeners (.control control) =
        wiring.listeners (.control control) ∨
      ∃ client ends, destination = .client client ∧
        wiring.listeners (.control control) = .pipe (.client client) ends ∧
        (wiring.unpipe destination).listeners (.control control) = .none := by
  rcases listeners_unpipe wiring destination (.control control) with
    same | ⟨⟨target, ends, pipes⟩, none⟩
  · exact .inl same
  · obtain ⟨client, rfl⟩ := placed.of_pipes stationed pipes
    by_cases self : destination = .client client
    · exact .inr ⟨client, ends, self, pipes, none⟩
    · left
      simp [Wiring.unpipe, pipes, Listener.pipesTo, Ne.symm self]

theorem mem_waiting_remove {pools : Pools} {agentUuid other : Text} {pool removed : ℕ}
    (inside : control ∈ pools.waiting other) (differs : control ≠ removed) :
    control ∈ (pools.remove agentUuid pool removed).waiting other := by
  obtain ⟨own, there, member⟩ := Pools.mem_waiting.mp inside
  have still : control ∈ (pools.remove agentUuid pool removed).sets own := by
    by_cases same : own = pool
    · subst same
      simpa [Pools.remove] using (List.mem_erase_of_ne differs).mpr member
    · simpa [Pools.remove, same] using member
  refine Pools.mem_waiting.mpr ⟨own, ?_, still⟩
  rw [Pools.get_remove, if_neg, there]
  rintro ⟨rfl, here, emptied⟩
  obtain rfl := Option.some.inj (there.symm.trans here)
  have erased : control ∈ (pools.sets own).erase removed :=
    (List.mem_erase_of_ne differs).mpr member
  rw [emptied] at erased
  cases erased

/-- A registration under a key leaves the entry of a connection where it is, unless that stands
under the key. -/
theorem get_registered (wiring : Wiring) (control : ℕ) (key : Text) (socket : SocketId)
    (rest : Bytes) :
    (∃ entry, wiring.token control = key ∧ wiring.registry.get key = some entry ∧
      entry.socket = .control control) ∨
    ∀ entry, wiring.registry.get (wiring.token control) = some entry →
      entry.socket = .control control →
        (wiring.registry.register key socket rest wiring.now).get (wiring.token control) =
          some entry := by
  by_cases taken : ∃ entry, wiring.token control = key ∧ wiring.registry.get key = some entry ∧
      entry.socket = .control control
  · exact .inl taken
  · refine .inr fun entry found own => ?_
    rw [Registry.get_register, if_neg, found]
    exact fun same => taken ⟨entry, same, same ▸ found, own⟩

/-- A timer leaves the entry of a connection where it is, unless it is that of its token or of the
connection. -/
theorem get_fired {timer : Timer} {entry : RegistryEntry}
    (apart : ¬ (timer.token = wiring.token control ∨ timer.socket = .control control))
    (found : wiring.registry.get (wiring.token control) = some entry)
    (own : entry.socket = .control control) :
    (match timer.socket with
      | .client _ => wiring.registry.fire timer
      | .control other =>
        (wiring.registry.fire timer).release (wiring.token other) (.control other)).get
      (wiring.token control) = some entry := by
  rw [not_or] at apart
  have fired : (wiring.registry.fire timer).get (wiring.token control) = some entry := by
    rw [Registry.get_fire, if_neg (Ne.symm apart.1), found]
  cases socket : timer.socket with
  | client client => exact fired
  | control other =>
    dsimp only
    rw [Registry.get_release, if_neg, fired]
    rintro ⟨same, any⟩
    rw [← same, fired, Option.any_some, decide_eq_true_eq, own] at any
    exact apart.2 (socket.trans any.symm)

/-- An open connection keeps a place at a move, unless it strays. -/
theorem Placed.move (stationed : Stationed identifiers past wiring)
    (pooling : Pooling past wiring) (move : Move identifiers free wiring event shown next)
    (usable : free control = true) (placed : Placed wiring control place) :
    (∃ place, Placed next control place) ∨
      Strays identifiers wiring control next event shown := by
  cases move with
  | passes event => exact .inl ⟨place, placed⟩
  | unpipes destination =>
    rcases placed.unpipe_kept stationed destination with same | ⟨client, ends, rfl, pipes, none⟩
    · exact .inl ⟨place, placed.kept same rfl (fun _ here => here) rfl fun _ found _ => found⟩
    · exact .inr (.finished pipes none)
  | looksUp client count heard route =>
    refine .inl ⟨place, placed.kept ?_ rfl (fun _ here => here) rfl fun _ found _ => found⟩
    simp [Wiring.await, Wiring.listen]
  | rejects other count heard =>
    by_cases self : control = other
    · subst self
      exact .inr (.rejected heard (by simp [Wiring.detach, Wiring.listen]))
    · refine .inl ⟨place, placed.kept ?_ rfl (fun _ here => here) rfl fun _ found _ => found⟩
      simp [Wiring.detach, Wiring.listen, self]
  | verifies other count heard body =>
    by_cases self : control = other
    · subst self
      refine .inl ⟨.verdict, @Placed.verdict _ control body.agentUuid ?_⟩
      simp [Wiring.verify]
    · refine .inl ⟨place, placed.kept ?_ ?_ (fun _ here => here) rfl fun _ found _ => found⟩
      · simp [Wiring.verify, Wiring.detach, Wiring.listen, self]
      · simp [Wiring.verify, Wiring.detach, Wiring.listen, self]
  | pairs other count heard token exist found =>
    by_cases self : control = other
    · subst self
      cases socket : exist.socket with
      | client client =>
        refine .inl ⟨.piped client, @Placed.piped _ control client true ?_⟩
        simp [Wiring.join, Wiring.listen]
      | control waiting => exact .inr (.joined heard (.inl rfl))
    · by_cases its : exist.socket = .control control
      · rw [its]
        exact .inr (.joined heard (.inr rfl))
      · refine .inl ⟨place, placed.kept ?_ rfl (fun _ here => here) ?_ fun entry here own => ?_⟩
        · simp [Wiring.join, Wiring.listen, Wiring.present, self, Ne.symm its]
        · simp [Wiring.join, Wiring.listen, Wiring.present, self]
        · change (wiring.registry.claim token).get (wiring.token control) = some entry
          rw [Registry.get_claim, if_neg, here]
          intro same
          rw [same, found] at here
          exact its (Option.some.inj here ▸ own)
  | hibernates other count heard token rest absent =>
    by_cases self : control = other
    · subst self
      refine .inl ⟨.registry,
        @Placed.registry _ control ⟨.control control, rest, wiring.registry.drawn⟩ ?_ rfl⟩
      refine (congrArg (fun key => Registry.get key _) ?_).trans
        ((Registry.get_register token).trans (if_pos rfl))
      simp [Wiring.present]
    · refine .inl ⟨place, placed.kept ?_ rfl (fun _ here => here) ?_ fun entry here own => ?_⟩
      · simp [Wiring.present, Wiring.listen, self]
      · simp [Wiring.present, Wiring.listen, self]
      · refine (Registry.get_register _).trans ((if_neg fun same => ?_).trans here)
        rw [same, absent] at here
        cases here
  | refuses other reply agentUuid awaited refused =>
    by_cases self : control = other
    · subst self
      exact .inr (.refused awaited refused)
    · refine .inl ⟨place, placed.kept rfl ?_ (fun _ here => here) rfl fun _ found _ => found⟩
      simp [Wiring.verify, self]
  | accepts other reply agentUuid awaited ok room =>
    have new := (pooling.asked other agentUuid awaited).1
    have added (agentUuid' : Text) :
        ((wiring.verify other none).pool other agentUuid).pools.waiting agentUuid' =
          if agentUuid' = agentUuid then wiring.pools.waiting agentUuid ++ [other]
          else wiring.pools.waiting agentUuid' := Pools.waiting_add pooling.sound new agentUuid'
    by_cases self : control = other
    · subst self
      refine .inl ⟨.pool agentUuid, .pool ?_⟩
      rw [added, if_pos rfl]
      simp
    · refine .inl ⟨place, placed.kept ?_ ?_ (fun agentUuid' here => ?_) rfl
        fun _ found _ => found⟩
      · simp [Wiring.verify, Wiring.pool, Wiring.listen, self]
      · simp [Wiring.verify, Wiring.pool, Wiring.listen, self]
      · rw [added]
        split
        · rename_i same
          exact List.mem_append_left _ (same ▸ here)
        · exact here
  | looked client status awaited onward differs =>
    exact .inl ⟨place, placed.kept rfl rfl (fun _ here => here) rfl fun _ found _ => found⟩
  | fellBack client status awaited onward differs =>
    exact .inl ⟨place, placed.kept rfl rfl (fun _ here => here) rfl fun _ found _ => found⟩
  | fails client body status awaited =>
    exact .inl ⟨place, placed.kept rfl rfl (fun _ here => here) rfl fun _ found _ => found⟩
  | serves client body awaited agentUuid other left port claimed named =>
    by_cases self : control = other
    · subst self
      refine .inl ⟨.piped client, @Placed.piped _ control client false ?_⟩
      simp [Wiring.serve, Wiring.join, Wiring.listen]
    · refine .inl ⟨place, placed.kept ?_ rfl (fun agentUuid' here => ?_) rfl
        fun _ found _ => found⟩
      · simp [Wiring.serve, Wiring.join, Wiring.listen, Wiring.await, self]
      · rcases pooling.sound.spared claimed here usable with taken | spared
        · exact absurd (Option.some.inj taken).symm self
        · exact spared
  | registers client body awaited rest route =>
    rcases get_registered wiring control (identifiers.token client) (.client client) rest with
      ⟨entry, token, found, own⟩ | kept
    · exact .inr (.replaced token found own (by simp))
    · exact .inl ⟨place, placed.kept rfl rfl (fun _ here => here) rfl kept⟩
  | misses client body awaited agentUuid left claimed rest route =>
    rcases get_registered wiring control (identifiers.token client) (.client client) rest with
      ⟨entry, token, found, own⟩ | kept
    · exact .inr (.replaced token found own (by simp))
    · refine .inl ⟨place, placed.kept rfl rfl (fun agentUuid' here => ?_) rfl kept⟩
      rcases pooling.sound.spared claimed here usable with taken | spared
      · cases taken
      · exact spared
  | drops client body awaited agentUuid other left claimed unnamed rest route detached same =>
    by_cases self : control = other
    · subst self
      exact .inr (.dropped unnamed (List.mem_cons_self))
    · rcases get_registered wiring control (identifiers.token client) (.client client) rest with
        ⟨entry, token, found, own⟩ | kept
      · exact .inr (.replaced token found own (by simp))
      · refine .inl ⟨place, placed.kept ?_ rfl (fun agentUuid' here => ?_) rfl kept⟩
        · simp [Wiring.await, Wiring.listen, self]
        · rcases pooling.sound.spared claimed here usable with taken | spared
          · exact absurd (Option.some.inj taken).symm self
          · exact spared
  | fires number timer due =>
    by_cases its : timer.token = wiring.token control ∨ timer.socket = .control control
    · cases placed with
      | firstLine heard => exact .inl ⟨_, .firstLine heard⟩
      | verdict awaited => exact .inl ⟨_, .verdict awaited⟩
      | pool waits => exact .inl ⟨_, .pool waits⟩
      | registry found own => exact .inr (.expired due its found own)
      | piped pipes => exact .inl ⟨_, .piped pipes⟩
    · exact .inl ⟨place, placed.kept rfl rfl (fun _ here => here) rfl fun _ found own =>
        get_fired its found own⟩
  | closesControl other =>
    by_cases self : control = other
    · subst self
      exact .inr .closed
    · rcases placed.unpipe_kept stationed (.control other) with same | ⟨client, ends, other, -⟩
      · refine .inl ⟨place, placed.kept same rfl (fun agentUuid' here => ?_) rfl
          fun entry found own => ?_⟩
        · change control ∈ (wiring.leave other).waiting agentUuid'
          rw [Wiring.leave]
          split
          · exact mem_waiting_remove here self
          · exact here
        · simp only [Wiring.unpipe]
          split
          · rw [Registry.get_release, if_neg, found]
            rintro ⟨token, any⟩
            rw [← token, found, Option.any_some, decide_eq_true_eq, own] at any
            exact self (SocketId.control.inj any)
          · exact found
      · cases other
  | closesClient client =>
    rcases placed.unpipe_kept stationed (.client client) with
      same | ⟨client', ends, self, pipes, none⟩
    · refine .inl ⟨place, placed.kept same rfl (fun _ here => here) rfl
        fun entry found own => ?_⟩
      refine (Registry.get_release _).trans ((if_neg ?_).trans found)
      rintro ⟨token, any⟩
      rw [← token, found, Option.any_some, decide_eq_true_eq, own] at any
      cases any
    · obtain rfl := SocketId.client.inj self
      exact .inr (.left pipes none)
  | elapses milliseconds =>
    exact .inl ⟨place, placed.kept rfl rfl (fun _ here => here) rfl fun _ found _ => found⟩

end Places

/-! ## What a step does to a place -/

section Steps

variable {identifiers : Identifiers} {past : List (Event × List Observation)} {state : State}
  {control : ℕ} {chunk : Bytes}

/-- A connection whose first line is complete is rejected, if nothing is shown of it. -/
theorem writable_rejected (silent : (onControlData control chunk state).1 = [])
    (left : (onControlData control chunk state).2.listeners (.control control) ≠
      state.listeners (.control control)) :
    ((onControlData control chunk state).2.sockets (.control control)).writable = false := by
  revert silent left
  simp only [onControlData]
  split
  · exact fun _ left => absurd rfl left
  · split
    · simp only [handlePreconnect]
      split
      · intro _ _
        simp [reject, State.onSocket]
      · split
        · intro _ _
          simp [reject, State.onSocket]
        · intro shown
          cases shown
    · simp only [present]
      split <;> · intro shown; cases shown

/-- A connection that the Hub refuses, or for which there is no room, is ended. -/
theorem writable_refused {reply : Option (ℕ × Option Value)} {agentUuid : Text}
    (awaited : (state.controls control).verifying = some agentUuid)
    (refused : verifyWithHub reply ≠ .ok () ∨
      maxPoolPerAgent ≤ (state.pools.waiting agentUuid).length) :
    ((verified control reply state).sockets (.control control)).writable = false := by
  simp only [verified, awaited]
  split
  · simp [reject, State.onSocket]
  · rename_i ok
    rcases refused with not | full
    · exact absurd ok not
    · rw [if_pos full]
      simp [reject, State.onSocket]

theorem claims_onRouting {client client' : ℕ} {body : Option Value} {agentUuid : Text}
    {result : Option ℕ}
    (claims : .claims client' agentUuid result ∈ (onRouting identifiers client body state).1) :
    member "agent_uuid" body = some (.string agentUuid) := by
  revert claims
  simp only [onRouting, registerClient, askHub]
  split
  · rename_i agentUuid' named
    have only {shown : List Observation} {result' : Option ℕ}
        (inside : .claims client' agentUuid result ∈
          Observation.claims client agentUuid' result' :: shown)
        (silent : .claims client' agentUuid result ∉ shown) :
        member "agent_uuid" body = some (.string agentUuid) := by
      rcases List.mem_cons.mp inside with same | later
      · obtain ⟨-, rfl, -⟩ := Observation.claims.inj same
        exact named
      · exact absurd later silent
    split
    · split
      · exact fun inside => only inside (by simp)
      · exact fun inside => only inside (by simp)
    · exact fun inside => only inside (by simp)
  · simp

theorem registers_onRouting {client : ℕ} {body : Option Value} {id : SocketId} {token : Text}
    (registers : .registers id token ∈ (onRouting identifiers client body state).1) :
    ¬ HasPooled state body := by
  rintro ⟨agentUuid, port, named, portNamed, control, inside, free⟩
  rcases claimed : state.pools.claim (usable state) agentUuid with ⟨result, left⟩
  cases result with
  | none =>
    rw [Pools.unusable_of_missed claimed control inside] at free
    cases free
  | some taken =>
    have still : usable (detachHeartbeat taken { state with pools := left }) taken = true :=
      (usable_detachHeartbeat taken taken).trans (Pools.usable_of_claim claimed)
    simp only [onRouting, named, portNamed, claimPreconnected, claimed, still, if_true,
      List.mem_singleton, reduceCtorEq] at registers

/-- The pooled socket that a client was served by is ended with it. -/
theorem writable_closed {client : ℕ} (pooled : (state.clients client).pooled = some control) :
    ((closeClient identifiers client state).sockets (.control control)).writable = false := by
  rw [← Bool.not_eq_true]
  intro writable
  simp only [closeClient, pooled] at writable
  have unpiped : ∀ before : State, Related Duplex.Ages (.control control) before
      (before.unpipe (.client client)) := fun before =>
    Related.unpipe respected_ages (respected_ages.refl _) _
  have before := (unpiped _).writable writable
  simp [State.onSocket] at before

/-- An open connection that has a place keeps one at a step that leaves none without. -/
theorem Stationed.housed (stationed : Stationed identifiers past state.wiring)
    (pooling : Pooling past state.wiring) {event : Event}
    (leavesNone : LeavesNone identifiers state event)
    (writable : ((step identifiers state event).2.sockets (.control control)).writable = true)
    {place : Place} (placed : Placed state.wiring control place) :
    ∃ place, Placed (step identifiers state event).2.wiring control place := by
  have before := writable_step identifiers writable
  rcases placed.move stationed pooling (step_moves identifiers state event) before with
    kept | strays
  · exact kept
  generalize shownIs : (step identifiers state event).1 = shown at strays
  generalize nextIs : (step identifiers state event).2.wiring = next at strays ⊢
  cases strays with
  | @rejected count heard left =>
    exfalso
    have cut : (step identifiers state (.deliver (.control control) count)).2.listeners
        (.control control) = .none :=
      (congrArg (Wiring.listeners · (.control control)) nextIs).trans left
    have heard' : state.listeners (.control control) = .onData := heard
    simp only [step] at shownIs cut writable
    split at shownIs
    · rename_i delivers
      simp only [delivers, if_true, deliver, heard'] at shownIs cut writable
      rw [writable_rejected shownIs] at writable
      · cases writable
      · rw [cut]
        simp [State.onSocket, heard']
    · rename_i idle
      simp only [idle] at cut
      rw [if_neg (by simp), heard'] at cut
      cases cut
  | @refused reply agentUuid awaited refused =>
    exfalso
    rw [step, writable_refused awaited refused] at writable
    cases writable
  | @joined presenting count other token heard own =>
    exfalso
    have pairs : .pairs presenting token (.control other) ∈
        (step identifiers state (.deliver (.control presenting) count)).1 := by
      rw [shownIs]
      simp
    obtain ⟨count', exist, same, presented, found, socket⟩ := pairs_shown_iff.mp pairs
    obtain ⟨-, rfl⟩ := Event.deliver.inj same
    obtain ⟨client, its⟩ := leavesNone token exist presented found
    cases its.symm.trans socket
  | @replaced client body shown entry token found own registers =>
    exfalso
    rw [← shownIs] at registers
    simp only [step, onBody] at registers
    split at registers
    · rename_i awaited
      rcases (leavesNone awaited).1 with pooled | nobody
      · exact registers_onRouting registers pooled
      · exact nobody control ⟨before, token, entry, found, own⟩
    · cases registers
    · cases registers
  | @dropped client body agentUuid shown unnamed claims =>
    exfalso
    have well := pooling.claimsWell (.body client body) client agentUuid (some control)
      (shownIs ▸ claims)
    rw [← shownIs] at claims
    simp only [step, onBody] at claims
    split at claims
    · rename_i awaited
      have unusable := (leavesNone awaited).2 unnamed agentUuid (claims_onRouting claims) control
        (well.1 control rfl).2.1
      exact absurd before (by simpa [usable] using unusable)
    · cases claims
    · cases claims
  | @expired number timer shown entry due its found own =>
    exfalso
    have apart := leavesNone timer due _ control ⟨before, rfl, entry, found, own⟩
    exact its.elim apart.1 apart.2
  | @finished client ends pipes cut =>
    exfalso
    by_cases finishes : (state.sockets (.client client)).finishes = true
    · rw [leavesNone finishes control ends pipes] at before
      cases before
    · have same : (step identifiers state (.finish (.client client))).2 = state := by
        simp only [step]
        rw [if_neg finishes]
      rw [← nextIs, same, pipes] at cut
      cases cut
  | @left client ends pipes cut =>
    exfalso
    by_cases closes : (state.sockets (.client client)).closes = true
    · rcases leavesNone closes control ends pipes with ended | pooled
      · rw [ended] at before
        cases before
      · simp only [step, closes, if_true] at writable
        have ended := @writable_closed identifiers (state.onSocket (.client client) Duplex.close)
          control client pooled
        rw [ended] at writable
        cases writable
    · have same : (step identifiers state (.close (.client client))).2 = state := by
        simp only [step]
        rw [if_neg closes]
      rw [← nextIs, same, pipes] at cut
      cases cut
  | closed =>
    have alive : (state.sockets (.control control)).closes = false := by
      simp only [Duplex.writable, Bool.and_eq_true, Bool.not_eq_true'] at before
      simp [Duplex.closes, before.2]
    have same : (step identifiers state (.close (.control control))).2 = state := by
      simp only [step, alive]
      rfl
    rw [← nextIs, same]
    exact ⟨place, placed⟩

end Steps

/-! ## Runs -/

end Gateway

end OpticsHub
