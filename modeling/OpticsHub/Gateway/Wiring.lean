import OpticsHub.Gateway.Server

/-!
# What is connected to what

Most of what the gateway does passes bytes on. Which socket is whose business changes at few
points: when a first line or a request head is complete, when the Hub answers, when a timer
fires and when a connection closes. The wiring of a state leaves the bytes out, and the moves
of the wiring say what each step can do to it.
-/
namespace OpticsHub

open Script Net

namespace Gateway

structure Wiring where
  listeners : SocketId → Listener
  awaiting : ℕ → Awaiting
  pooled : ℕ → Option ℕ
  token : ℕ → Text
  onClose : ℕ → Bool
  verifying : ℕ → Option Text
  leaves : ℕ → Option (Text × ℕ)
  serves : ℕ → Option ℕ
  pools : Pools
  registry : Registry
  now : ℤ

namespace Wiring

variable (wiring : Wiring)

def listen (id : SocketId) (listener : Listener) : Wiring :=
  { wiring with listeners := Function.update wiring.listeners id listener }

def await (client : ℕ) (awaiting : Awaiting) : Wiring :=
  { wiring with awaiting := Function.update wiring.awaiting client awaiting }

def verify (control : ℕ) (agentUuid : Option Text) : Wiring :=
  { wiring with verifying := Function.update wiring.verifying control agentUuid }

/-- Leave the closing of a socket to its pool. -/
def detach (control : ℕ) : Wiring :=
  { wiring with onClose := Function.update wiring.onClose control false }

def present (control : ℕ) (token : Text) (registry : Registry) : Wiring :=
  { wiring with token := Function.update wiring.token control token, registry := registry }

/-- Pipe two sockets to each other. -/
def join (first second : SocketId) (ends : Bool) : Wiring :=
  (wiring.listen first (.pipe second ends)).listen second (.pipe first true)

/-- Add a socket to the pool of an Agent. -/
def pool (control : ℕ) (agentUuid : Text) : Wiring :=
  { wiring.listen (.control control) .heartbeat with
    pools := wiring.pools.add agentUuid control
    leaves := Function.update wiring.leaves control
      (some (agentUuid, wiring.pools.getOrNew agentUuid)) }

/-- Let a pooled socket serve a client. -/
def serve (client control : ℕ) : Wiring :=
  { (wiring.await client .nothing).join (.control control) (.client client) false with
    pooled := Function.update wiring.pooled client (some control)
    serves := Function.update wiring.serves control (some client) }

def unpipe (destination : SocketId) : Wiring :=
  { wiring with
    listeners := fun id =>
      if (wiring.listeners id).pipesTo destination then .none else wiring.listeners id }

/-- Remove a socket from the set that it was added to. -/
def leave (control : ℕ) : Pools :=
  match wiring.leaves control with
  | some (agentUuid, pool) => wiring.pools.remove agentUuid pool control
  | none => wiring.pools

end Wiring

def State.wiring (state : State) : Wiring where
  listeners := state.listeners
  awaiting client := (state.clients client).awaiting
  pooled client := (state.clients client).pooled
  token control := (state.controls control).token
  onClose control := (state.controls control).onClose
  verifying control := (state.controls control).verifying
  leaves control := (state.controls control).leaves
  serves control := (state.controls control).serves
  pools := state.pools
  registry := state.registry
  now := state.now

/-- What a step can do to the wiring, with what it shows. Which sockets can be handed out depends
on the sockets. -/
inductive Move (identifiers : Identifiers) (usable : ℕ → Bool) (wiring : Wiring) :
    Event → List Observation → Wiring → Prop where
  | passes (event : Event) : Move identifiers usable wiring event [] wiring
  | unpipes (id : SocketId) :
      Move identifiers usable wiring (.finish id) [] (wiring.unpipe id)
  | looksUp (client count : ℕ) (heard : wiring.listeners (.client client) = .onData)
      (route : Route) :
      Move identifiers usable wiring (.deliver (.client client) count)
        [.asks client route (identifiers.token client) true]
        ((wiring.listen (.client client) .none).await client .lookup)
  | rejects (control count : ℕ) (heard : wiring.listeners (.control control) = .onData) :
      Move identifiers usable wiring (.deliver (.control control) count) []
        ((wiring.listen (.control control) .none).detach control)
  | verifies (control count : ℕ) (heard : wiring.listeners (.control control) = .onData)
      (body : PreconnectBody) :
      Move identifiers usable wiring (.deliver (.control control) count)
        [.verifies control body]
        (((wiring.listen (.control control) .none).detach control).verify control
          (some body.agentUuid))
  | pairs (control count : ℕ) (heard : wiring.listeners (.control control) = .onData)
      (token : Text) (exist : RegistryEntry) (found : wiring.registry.get token = some exist) :
      Move identifiers usable wiring (.deliver (.control control) count)
        [.presents control token, .pairs control token exist.socket]
        ((wiring.present control token (wiring.registry.claim token)).join (.control control)
          exist.socket true)
  | hibernates (control count : ℕ) (heard : wiring.listeners (.control control) = .onData)
      (token : Text) (rest : Bytes) (absent : wiring.registry.get token = none) :
      Move identifiers usable wiring (.deliver (.control control) count)
        [.presents control token, .registers (.control control) token]
        ((wiring.listen (.control control) .none).present control token
          (wiring.registry.register token (.control control) rest wiring.now))
  | refuses (control : ℕ) (reply : Option (ℕ × Option Value)) (agentUuid : Text)
      (awaited : wiring.verifying control = some agentUuid)
      (refused : verifyWithHub reply ≠ .ok () ∨
        maxPoolPerAgent ≤ (wiring.pools.waiting agentUuid).length) :
      Move identifiers usable wiring (.verdict control reply) [] (wiring.verify control none)
  | accepts (control : ℕ) (reply : Option (ℕ × Option Value)) (agentUuid : Text)
      (awaited : wiring.verifying control = some agentUuid)
      (ok : verifyWithHub reply = .ok ())
      (room : (wiring.pools.waiting agentUuid).length < maxPoolPerAgent) :
      Move identifiers usable wiring (.verdict control reply) []
        ((wiring.verify control none).pool control agentUuid)
  | looked (client : ℕ) (status : Option ℕ) (awaited : wiring.awaiting client = .lookup)
      (next : Awaiting) (onward : next ≠ .lookup ∧ next ≠ .fallback) :
      Move identifiers usable wiring (.answer client status) [] (wiring.await client next)
  | fellBack (client : ℕ) (status : Option ℕ) (awaited : wiring.awaiting client = .fallback)
      (next : Awaiting) (onward : next = .nothing ∨ ∃ status, next = .refusal status) :
      Move identifiers usable wiring (.answer client status) [] (wiring.await client next)
  | fails (client : ℕ) (body : Option Value) (status : ℕ)
      (awaited : wiring.awaiting client = .refusal status) :
      Move identifiers usable wiring (.body client body) [] (wiring.await client .nothing)
  | serves (client : ℕ) (body : Option Value) (awaited : wiring.awaiting client = .routing)
      (agentUuid : Text) (control : ℕ) (left : Pools) (port : Number)
      (claimed : wiring.pools.claim usable agentUuid = (some control, left))
      (named : servicePort body = some port) :
      Move identifiers usable wiring (.body client body)
        [.claims client agentUuid (some control)]
        ({ wiring with pools := left }.serve client control)
  | registers (client : ℕ) (body : Option Value) (awaited : wiring.awaiting client = .routing)
      (rest : Bytes) (route : Route) :
      Move identifiers usable wiring (.body client body)
        [.registers (.client client) (identifiers.token client),
          .asks client route (identifiers.token client) false]
        ({ wiring with
          registry := wiring.registry.register (identifiers.token client) (.client client) rest
            wiring.now }.await client .fallback)
  | misses (client : ℕ) (body : Option Value) (awaited : wiring.awaiting client = .routing)
      (agentUuid : Text) (left : Pools)
      (claimed : wiring.pools.claim usable agentUuid = (none, left))
      (rest : Bytes) (route : Route) :
      Move identifiers usable wiring (.body client body)
        [.claims client agentUuid none, .registers (.client client) (identifiers.token client),
          .asks client route (identifiers.token client) false]
        ({ wiring with
          pools := left
          registry := wiring.registry.register (identifiers.token client) (.client client) rest
            wiring.now }.await client .fallback)
  | drops (client : ℕ) (body : Option Value) (awaited : wiring.awaiting client = .routing)
      (agentUuid : Text) (control : ℕ) (left : Pools)
      (claimed : wiring.pools.claim usable agentUuid = (some control, left))
      (unnamed : servicePort body = none) (rest : Bytes) (route : Route) (detached : Listener)
      (same : wiring.listeners (.control control) ≠ .heartbeat ∧
          detached = wiring.listeners (.control control) ∨
        wiring.listeners (.control control) = .heartbeat ∧ detached = .none) :
      Move identifiers usable wiring (.body client body)
        [.claims client agentUuid (some control),
          .registers (.client client) (identifiers.token client),
          .asks client route (identifiers.token client) false]
        ({ wiring.listen (.control control) detached with
          pools := left
          registry := wiring.registry.register (identifiers.token client) (.client client) rest
            wiring.now }.await client .fallback)
  | fires (number : ℕ) (timer : Timer)
      (due : wiring.registry.due number wiring.now = some timer) :
      Move identifiers usable wiring (.fire number)
        [.expires timer (wiring.registry.get timer.token)]
        { wiring with
          registry :=
            match timer.socket with
            | .client _ => wiring.registry.fire timer
            | .control control =>
              (wiring.registry.fire timer).release (wiring.token control) (.control control) }
  | closesControl (control : ℕ) :
      Move identifiers usable wiring (.close (.control control)) []
        ({ wiring with
          registry :=
            if wiring.onClose control then
              wiring.registry.release (wiring.token control) (.control control)
            else wiring.registry
          pools := wiring.leave control }.unpipe (.control control))
  | closesClient (client : ℕ) :
      Move identifiers usable wiring (.close (.client client)) []
        ({ wiring with
          registry :=
            wiring.registry.release (identifiers.token client) (.client client) }.unpipe
          (.client client))
  | elapses (milliseconds : ℕ) :
      Move identifiers usable wiring (.elapse milliseconds) []
        { wiring with now := wiring.now + milliseconds }

/-! ## The wiring of what handlers do -/

section Wirings

variable (state : State) (id : SocketId)

@[simp] theorem wiring_onSocket (change : Duplex Piece → Duplex Piece) :
    (state.onSocket id change).wiring = state.wiring := rfl

@[simp] theorem wiring_listen (listener : Listener) :
    (state.listen id listener).wiring = state.wiring.listen id listener := rfl

@[simp] theorem wiring_write (bytes : Bytes) : (state.write id bytes).wiring = state.wiring := rfl

@[simp] theorem wiring_pipe (destination : SocketId) (ends : Bool) :
    (state.pipe id destination ends).wiring = state.wiring.listen id (.pipe destination ends) := rfl

@[simp] theorem wiring_unpipe : (state.unpipe id).wiring = state.wiring.unpipe id := rfl

@[simp] theorem wiring_endPage (client : ℕ) (outcome : PageOutcome) (context : ErrorContext) :
    (state.endPage client outcome context).wiring = state.wiring := rfl

@[simp] theorem wiring_reject (control : ℕ) (reason : Text) :
    (reject control reason state).wiring = state.wiring := rfl

/-- A field of what is updated at an index. -/
theorem field_update {α β : Type} (field : α → β) (values : ℕ → α) (index : ℕ) (value : α) :
    (fun other => field (Function.update values index value other)) =
      Function.update (fun other => field (values other)) index (field value) :=
  funext fun other => Function.apply_update (fun _ => field) values index value other

theorem wiring_onClient (client : ℕ) (change : Client → Client) :
    (state.onClient client change).wiring =
      { state.wiring with
        awaiting := Function.update state.wiring.awaiting client
          (change (state.clients client)).awaiting
        pooled := Function.update state.wiring.pooled client
          (change (state.clients client)).pooled } := by
  simp only [State.wiring, State.onClient, field_update]

theorem wiring_onControl (control : ℕ) (change : Control → Control) :
    (state.onControl control change).wiring =
      { state.wiring with
        token := Function.update state.wiring.token control
          (change (state.controls control)).token
        onClose := Function.update state.wiring.onClose control
          (change (state.controls control)).onClose
        verifying := Function.update state.wiring.verifying control
          (change (state.controls control)).verifying
        leaves := Function.update state.wiring.leaves control
          (change (state.controls control)).leaves
        serves := Function.update state.wiring.serves control
          (change (state.controls control)).serves } := by
  simp only [State.wiring, State.onControl, field_update]

/-- Variables that the wiring leaves out. -/
@[simp] theorem wiring_onClient_same {client : ℕ} {change : Client → Client}
    (awaiting : ∀ vars, (change vars).awaiting = vars.awaiting)
    (pooled : ∀ vars, (change vars).pooled = vars.pooled) :
    (state.onClient client change).wiring = state.wiring := by
  rw [wiring_onClient, awaiting, pooled]
  simp [State.wiring]

@[simp] theorem wiring_onControl_same {control : ℕ} {change : Control → Control}
    (token : ∀ vars, (change vars).token = vars.token)
    (onClose : ∀ vars, (change vars).onClose = vars.onClose)
    (verifying : ∀ vars, (change vars).verifying = vars.verifying)
    (leaves : ∀ vars, (change vars).leaves = vars.leaves)
    (serves : ∀ vars, (change vars).serves = vars.serves) :
    (state.onControl control change).wiring = state.wiring := by
  rw [wiring_onControl, token, onClose, verifying, leaves, serves]
  simp [State.wiring]

@[simp] theorem wiring_detach (control : ℕ) :
    (state.onControl control fun vars => { vars with onClose := false }).wiring =
      state.wiring.detach control := by
  rw [wiring_onControl]
  simp [State.wiring, Wiring.detach]

@[simp] theorem wiring_verify (control : ℕ) (agentUuid : Option Text) :
    (state.onControl control fun vars => { vars with verifying := agentUuid }).wiring =
      state.wiring.verify control agentUuid := by
  rw [wiring_onControl]
  simp [State.wiring, Wiring.verify]

@[simp] theorem wiring_leaves (control : ℕ) (leaves : Option (Text × ℕ)) :
    (state.onControl control fun vars => { vars with leaves := leaves }).wiring =
      { state.wiring with leaves := Function.update state.wiring.leaves control leaves } := by
  rw [wiring_onControl]
  simp [State.wiring]

@[simp] theorem wiring_serves (control : ℕ) (serves : Option ℕ) :
    (state.onControl control fun vars => { vars with serves := serves }).wiring =
      { state.wiring with serves := Function.update state.wiring.serves control serves } := by
  rw [wiring_onControl]
  simp [State.wiring]

@[simp] theorem wiring_pools (pools : Pools) :
    ({ state with pools := pools } : State).wiring = { state.wiring with pools := pools } := rfl

@[simp] theorem wiring_registry (registry : Registry) :
    ({ state with registry := registry } : State).wiring =
      { state.wiring with registry := registry } := rfl

/-- A socket presents a token, and the registry becomes another. -/
@[simp] theorem wiring_presents (control : ℕ) (token : Text) (registry : Registry) :
    ({ state.onControl control fun vars => { vars with token := token } with
      registry := registry } : State).wiring = state.wiring.present control token registry := by
  change ({ (state.onControl control fun vars => { vars with token := token }).wiring with
    registry := registry } : Wiring) = _
  rw [wiring_onControl]
  simp [State.wiring, Wiring.present]

@[simp] theorem wiring_await (client : ℕ) (awaiting : Awaiting) :
    (state.onClient client fun vars => { vars with awaiting := awaiting }).wiring =
      state.wiring.await client awaiting := by
  rw [wiring_onClient]
  simp [State.wiring, Wiring.await]

end Wirings

/-! ## What each step does -/

section Steps

variable {identifiers : Identifiers} {free : ℕ → Bool} {state : State} {event : Event}

/-- A step that shows nothing and leaves the wiring as it is. -/
theorem moves_passing {next : State} (same : next.wiring = state.wiring) :
    Move identifiers free state.wiring event [] next.wiring := by
  rw [same]
  exact .passes event

theorem moves_onClientData {client count : ℕ}
    (heard : state.wiring.listeners (.client client) = .onData) (chunk : Bytes) :
    Move identifiers free state.wiring (.deliver (.client client) count)
      (onClientData identifiers client chunk state).1
      (onClientData identifiers client chunk state).2.wiring := by
  simp only [onClientData]
  split
  · exact moves_passing (by simp)
  · split
    · exact moves_passing (by simp)
    · split
      · exact moves_passing (by simp)
      · simpa [askHub] using Move.looksUp client count heard _

theorem moves_present {before : Wiring} {control count : ℕ}
    (heard : before.listeners (.control control) = .onData)
    (here : state.wiring = before.listen (.control control) .none) (token : Text) (rest : Bytes) :
    Move identifiers free before (.deliver (.control control) count)
      (present control token rest state).1 (present control token rest state).2.wiring := by
  have registry : state.registry = before.registry := congrArg Wiring.registry here
  have now : state.now = before.now := congrArg Wiring.now here
  simp only [present, registry, now]
  cases found : before.registry.get token with
  | some exist =>
    convert Move.pairs control count heard token exist found using 1
    simp only [wiring_pipe, wiring_write, wiring_presents, here]
    simp [Wiring.join, Wiring.present, Wiring.listen]
  | none =>
    have kept : before.registry.claim token = before.registry := by simp [Registry.claim, found]
    convert Move.hibernates control count heard token rest found using 1
    rw [wiring_onSocket, kept]
    change (({ state.onControl control fun vars => { vars with token := token } with
      registry := _ } : State)).wiring = _
    rw [wiring_presents, here]

theorem moves_onControlData {control count : ℕ}
    (heard : state.wiring.listeners (.control control) = .onData) (chunk : Bytes) :
    Move identifiers free state.wiring (.deliver (.control control) count)
      (onControlData control chunk state).1 (onControlData control chunk state).2.wiring := by
  simp only [onControlData]
  split
  · exact moves_passing (by simp)
  · split
    · simp only [handlePreconnect]
      split
      · simpa using Move.rejects control count heard
      · split
        · simpa using Move.rejects control count heard
        · rename_i body _
          simpa using Move.verifies control count heard body
    · exact moves_present heard (by simp) _ _

/-- A socket that the Hub accepts, and for which there is room. -/
theorem wiring_accepted {control : ℕ} {reply : Option (ℕ × Option Value)} {agentUuid : Text}
    (awaited : (state.controls control).verifying = some agentUuid)
    (ok : verifyWithHub reply = .ok ())
    (room : (state.pools.waiting agentUuid).length < maxPoolPerAgent) :
    (verified control reply state).wiring =
      (state.wiring.verify control none).pool control agentUuid := by
  simp only [verified, awaited, ok, Nat.not_le_of_lt room, if_false, answerHeartbeat,
    wiring_onSocket, wiring_listen, wiring_onControl_same, implies_true, wiring_write,
    wiring_leaves, wiring_pools, wiring_verify]
  rfl

theorem moves_verified (control : ℕ) (reply : Option (ℕ × Option Value)) :
    Move identifiers free state.wiring (.verdict control reply) []
      (verified control reply state).wiring := by
  cases awaited : (state.controls control).verifying with
  | none =>
    rw [verified, awaited]
    exact moves_passing rfl
  | some agentUuid =>
    cases ok : verifyWithHub reply with
    | error reason =>
      simpa [verified, awaited, ok] using
        Move.refuses control reply agentUuid awaited (.inl (by simp [ok]))
    | ok accepted =>
      by_cases full : maxPoolPerAgent ≤ (state.pools.waiting agentUuid).length
      · simpa [verified, awaited, ok, full] using
          Move.refuses control reply agentUuid awaited (.inr full)
      · have room := Nat.lt_of_not_le full
        rw [wiring_accepted awaited ok room]
        exact .accepts control reply agentUuid awaited ok room

theorem moves_onAnswer (client : ℕ) (status : Option ℕ) :
    Move identifiers free state.wiring (.answer client status) []
      (onAnswer identifiers client status state).wiring := by
  simp only [onAnswer]
  cases awaited : (state.clients client).awaiting with
  | lookup =>
    cases status with
    | none =>
      simpa [failWith] using Move.looked client none awaited .nothing (by simp)
    | some status =>
      simp only [wiring_await]
      refine Move.looked client (some status) awaited _ ?_
      split <;> simp
  | fallback =>
    cases status with
    | none =>
      simpa [failWith] using Move.fellBack client none awaited .nothing (by simp)
    | some status =>
      simp only [wiring_await]
      refine Move.fellBack client (some status) awaited _ ?_
      split <;> simp
  | _ => exact moves_passing rfl

theorem wiring_registerClient (client : ℕ) :
    (registerClient identifiers client state).2.wiring =
      { state.wiring with
        registry := state.registry.register (identifiers.token client) (.client client)
          (state.clients client).buffer state.now }.await client .fallback := by
  simp [registerClient, askHub]

/-- Whoever reads the heartbeats of a socket that is taken does so no more. -/
theorem detached_cases (control : ℕ) :
    ∃ detached, (detachHeartbeat control state).wiring =
        state.wiring.listen (.control control) detached ∧
      (state.wiring.listeners (.control control) ≠ .heartbeat ∧
          detached = state.wiring.listeners (.control control) ∨
        state.wiring.listeners (.control control) = .heartbeat ∧ detached = .none) := by
  rw [detachHeartbeat]
  split
  · rename_i heartbeat
    exact ⟨.none, rfl, .inr ⟨heartbeat, rfl⟩⟩
  · rename_i otherwise
    exact ⟨_, by simp [Wiring.listen], .inl ⟨otherwise, rfl⟩⟩

@[simp]
theorem usable_detachHeartbeat (control other : ℕ) :
    usable (detachHeartbeat control state) other = usable state other := by
  rw [detachHeartbeat]
  split
  · by_cases same : other = control
    · subst same
      simp [usable, State.onSocket, State.listen, Duplex.writable, Duplex.pause]
    · simp [usable, State.onSocket, State.listen, same]
  · rfl

theorem wiring_usePooled (client control : ℕ) (port : Number) :
    (usePooled identifiers client control port state).wiring =
      state.wiring.serve client control := by
  simp only [usePooled, wiring_pipe, wiring_write, wiring_serves, wiring_onClient]
  rfl

theorem moves_onRouting {client : ℕ} (awaited : state.wiring.awaiting client = .routing)
    (body : Option Value) :
    Move identifiers (usable state) state.wiring (.body client body)
      (onRouting identifiers client body state).1
      (onRouting identifiers client body state).2.wiring := by
  simp only [onRouting]
  split
  · rename_i agentUuid _
    rcases claimed : state.pools.claim (usable state) agentUuid with ⟨taken, left⟩
    cases taken with
    | none =>
      simp only [claimPreconnected, claimed]
      rw [wiring_registerClient]
      exact Move.misses client body awaited agentUuid left claimed _ _
    | some control =>
      simp only [claimPreconnected, claimed]
      cases named : servicePort body with
      | some port =>
        have free : usable (detachHeartbeat control { state with pools := left }) control = true :=
          (usable_detachHeartbeat control control).trans (Pools.usable_of_claim claimed)
        simp only [free, if_true, wiring_usePooled]
        convert Move.serves client body awaited agentUuid control left port claimed named using 1
        obtain ⟨detached, same, -⟩ :=
          @detached_cases { state with pools := left } control
        rw [same]
        simp [Wiring.serve, Wiring.join, Wiring.await, Wiring.listen]
      | none =>
        obtain ⟨detached, same, before⟩ := @detached_cases { state with pools := left } control
        have registry : (detachHeartbeat control { state with pools := left }).registry =
            state.registry := congrArg Wiring.registry same
        have now : (detachHeartbeat control { state with pools := left }).now = state.now :=
          congrArg Wiring.now same
        simp only [wiring_registerClient, same, registry, now]
        exact Move.drops client body awaited agentUuid control left claimed named _ _ detached before
  · rw [wiring_registerClient]
    exact Move.registers client body awaited _ _

theorem moves_onBody (client : ℕ) (body : Option Value) :
    Move identifiers (usable state) state.wiring (.body client body)
      (onBody identifiers client body state).1
      (onBody identifiers client body state).2.wiring := by
  simp only [onBody]
  cases awaited : (state.clients client).awaiting with
  | routing => exact moves_onRouting awaited body
  | refusal status => simpa [failWith] using Move.fails client body status awaited
  | _ => exact moves_passing rfl

theorem moves_fire {number : ℕ} {timer : Timer}
    (due : state.registry.due number state.now = some timer) :
    Move identifiers free state.wiring (.fire number) (fire identifiers timer state).1
      (fire identifiers timer state).2.wiring := by
  have fired : Move identifiers free state.wiring (.fire number) _ _ := .fires number timer due
  convert fired using 1
  · rfl
  · rw [fire]
    cases timer.socket <;> rfl

theorem wiring_closeControl (control : ℕ) :
    (closeControl identifiers control state).wiring =
      { state.wiring with
        registry :=
          if state.wiring.onClose control then
            state.wiring.registry.release (state.wiring.token control) (.control control)
          else state.wiring.registry
        pools := state.wiring.leave control }.unpipe (.control control) := by
  simp only [closeControl, wiring_unpipe]
  congr 1
  cases (state.controls control).serves with
  | none => rfl
  | some client =>
    simp only [pooledClose]
    split <;> rfl

theorem moves_closeControl (control : ℕ) :
    Move identifiers free state.wiring (.close (.control control)) []
      (closeControl identifiers control state).wiring := by
  rw [wiring_closeControl]
  exact .closesControl control

theorem moves_closeClient (client : ℕ) :
    Move identifiers free state.wiring (.close (.client client)) []
      (closeClient identifiers client state).wiring := by
  convert Move.closesClient client using 1
  simp only [closeClient, wiring_unpipe]
  cases (state.clients client).pooled <;> rfl

/-- The handler that a socket was opened with is not attached again. -/
theorem onData_move {usable : ℕ → Bool} {wiring next : Wiring} {shown : List Observation}
    (move : Move identifiers usable wiring event shown next) {id : SocketId}
    (heard : next.listeners id = .onData) : wiring.listeners id = .onData := by
  have listens {before : Wiring} {other : SocketId} {listener : Listener}
      (after : (before.listen other listener).listeners id = .onData)
      (differs : listener ≠ .onData) : before.listeners id = .onData := by
    by_cases same : id = other
    · subst same
      exact absurd (by simpa [Wiring.listen] using after) differs
    · simpa [Wiring.listen, same] using after
  have unpipes {before : Wiring} {other : SocketId}
      (after : (before.unpipe other).listeners id = .onData) : before.listeners id = .onData := by
    simp only [Wiring.unpipe] at after
    split at after
    · cases after
    · exact after
  cases move with
  | unpipes other => exact unpipes heard
  | looksUp client count before route => exact listens heard (by simp)
  | rejects control count before => exact listens heard (by simp)
  | verifies control count before body => exact listens heard (by simp)
  | pairs control count before token exist found => exact listens (listens heard (by simp)) (by simp)
  | hibernates control count before token rest absent => exact listens heard (by simp)
  | accepts control reply agentUuid awaited ok room => exact listens heard (by simp)
  | serves client body awaited agentUuid control left port claimed named =>
    exact listens (listens heard (by simp)) (by simp)
  | drops client body awaited agentUuid control left claimed unnamed rest route detached same =>
    rcases same with ⟨-, rfl⟩ | ⟨-, rfl⟩
    · simpa [Wiring.listen, Wiring.await] using heard
    · exact listens heard (by simp)
  | closesControl control => exact unpipes heard
  | closesClient client => exact unpipes heard
  | _ => exact heard

/-- What a step does to the wiring is one of the moves. -/
theorem step_moves (identifiers : Identifiers) (state : State) (event : Event) :
    Move identifiers (usable state) state.wiring event (step identifiers state event).1
      (step identifiers state event).2.wiring := by
  cases event with
  | receive id bytes =>
    simp only [step]
    exact moves_passing (by split <;> rfl)
  | deliver id count =>
    simp only [step]
    split
    · simp only [deliver]
      split
      · rename_i client _ heard
        exact @moves_onClientData identifiers (usable state)
          (state.onSocket (.client client) (Duplex.advance count)) client count heard _
      · rename_i control _ heard
        exact @moves_onControlData identifiers (usable state)
          (state.onSocket (.control control) (Duplex.advance count)) control count heard _
      · refine moves_passing ?_
        simp only [onHeartbeat]
        split <;> simp
      · refine moves_passing ?_
        simp only [wiring_write]
        split <;> simp
      · exact moves_passing rfl
      · exact moves_passing rfl
    · exact moves_passing rfl
  | readEnd id =>
    simp only [step]
    split
    · refine moves_passing ?_
      simp only [readEnd]
      split <;> rfl
    · exact moves_passing rfl
  | finish id =>
    simp only [step]
    split
    · exact .unpipes id
    · exact moves_passing rfl
  | lost id => exact moves_passing rfl
  | close id =>
    simp only [step]
    split
    · cases id with
      | client client =>
        exact @moves_closeClient identifiers (usable state)
          (state.onSocket (.client client) Duplex.close) client
      | control control =>
        exact @moves_closeControl identifiers (usable state)
          (state.onSocket (.control control) Duplex.close) control
    · exact moves_passing rfl
  | verdict control reply => exact moves_verified control reply
  | answer client status => exact moves_onAnswer client status
  | body client body => exact moves_onBody client body
  | fire number =>
    simp only [step]
    split
    · rename_i timer due
      exact moves_fire due
    · exact moves_passing rfl
  | elapse milliseconds => exact .elapses milliseconds

end Steps

end Gateway

end OpticsHub
