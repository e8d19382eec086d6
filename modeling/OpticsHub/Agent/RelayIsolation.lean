import OpticsHub.Agent.AgentEvents
import OpticsHub.Agent.ConsoleAccess

/-!
# Which workspaces see what an Agent reports

A lookup that finds the Agent of a service linked says nothing about the workspace it is
linked to, and the workspace on a socket is as old as its registration. Where both agree with
the row of the Agent, every event that is passed on reaches a workspace to which the Agent
was linked at most 30 seconds ago. An entry of the cache carries its reason with it: the
state in which the Agent was looked up belongs to the run, and the entry expires 30 seconds
after it.
-/
namespace OpticsHub

open Script Async Program Machine

namespace AgentGateway

open ConsoleGateway

/-! ## Events -/

inductive RelayKind where
  | response
  | containerStatus
  | serviceStatus
  | serviceLog
  | logLoadProgress
  | serviceLogHistory
  | serviceLogMarkers
  deriving DecidableEq

/-- An event that arrives on the socket of an Agent. -/
structure RelayCall where
  kind : RelayKind
  client : ℕ
  payload : Value

/-- What the rest of the Hub does at any time, and the cache when a socket closes. -/
inductive Elsewhere where
  | hub (change : Hub → Hub)
  | forget (agentUuid : Text)

def elsewhere (state : RelayState) : Elsewhere → Unit × RelayState
  | .hub change => ((), { state with hub := change state.hub })
  | .forget agentUuid => ((), forgetWorkspaces agentUuid state)

section Machine

variable (objectFilter : Members Value → Option (ℕ → Bool))

def relayProgram (call : RelayCall) : RelayProgram Unit :=
  match call.kind with
  | .response => handleResponse call.client call.payload
  | .containerStatus => handleContainerStatus objectFilter call.client call.payload
  | .serviceStatus => handleServiceStatus objectFilter call.client call.payload
  | .serviceLog => handleServiceLog objectFilter call.client call.payload
  | .logLoadProgress => handleLogLoadProgress objectFilter call.client call.payload
  | .serviceLogHistory => handleServiceLogHistory objectFilter call.client call.payload
  | .serviceLogMarkers => handleServiceLogMarkers objectFilter call.client call.payload

/-- Events of Agents that interleave, while the rest of the Hub does anything. -/
abbrev relays : Transition (Config RelayCall RelayState Failure Unit)
    (Move RelayCall Elsewhere) (Shown Unit RelayState) :=
  observed (relayProgram objectFilter) elsewhere

end Machine

/-! ## Isolation -/

/-- An Agent is linked to a workspace. -/
def LinkedTo (hub : Hub) (agentUuid : Text) (workspaceIndex : ℕ) : Prop :=
  ∃ agent ∈ hub.database.agents.rows, agent.agentUuid = agentUuid ∧
    agent.agentConnection = .linked ∧ agent.agentParentWorkspace = some workspaceIndex

instance (hub : Hub) (agentUuid : Text) (workspaceIndex : ℕ) :
    Decidable (LinkedTo hub agentUuid workspaceIndex) :=
  inferInstanceAs (Decidable (∃ agent ∈ hub.database.agents.rows, _))

/-- An Agent was linked to a workspace in one of some states, at most 30 seconds before a
time. -/
def LinkedLately (states : List RelayState) (now : ℤ) (agentUuid : Text) (workspaceIndex : ℕ) :
    Prop :=
  ∃ state ∈ states, LinkedTo state.hub agentUuid workspaceIndex ∧
    now ≤ state.hub.now + workspaceIndexCacheTtl

instance (states : List RelayState) (now : ℤ) (agentUuid : Text) (workspaceIndex : ℕ) :
    Decidable (LinkedLately states now agentUuid workspaceIndex) :=
  inferInstanceAs (Decidable (∃ state ∈ states, _))

/-- The states of a run so far, the present one included. -/
def statesSoFar (past : List (Move RelayCall Elsewhere × Shown Unit RelayState))
    (config : Config RelayCall RelayState Failure Unit) : List RelayState :=
  past.map (fun event => event.2.watched) ++ [config.state]

/-- The sender of an event: the Agent on the socket in the first state that its handler meets. -/
def RelayCall.sender (call : RelayCall) (seen : List RelayState) (state : RelayState) :
    Option Text :=
  ((seen.headD state).hub.sockets call.client).data.agentUuid

/-- What a move passes on for an Agent goes to workspaces to which the Agent is linked, or was
in the last 30 seconds. -/
def RelaysIsolated (objectFilter : Members Value → Option (ℕ → Bool))
    (past : List (Move RelayCall Elsewhere × Shown Unit RelayState))
    (config : Config RelayCall RelayState Failure Unit) : Move RelayCall Elsewhere → Prop
  | .resume index => ∀ thread ∈ config.threads[index]?, thread.result = none →
      ∀ relay ∈ (relays objectFilter config (.resume index)).2.state.relayed.drop
          config.state.relayed.length,
        ∀ agentUuid ∈ thread.call.sender (statesMet past index thread.started) config.state,
          LinkedLately (statesSoFar past config) config.state.hub.now agentUuid
            relay.workspaceIndex
  | _ => True

/-! ## What must not go wrong -/

section Condition

variable (objectFilter : Members Value → Option (ℕ → Bool)) (call : RelayCall)

/-- The entry of the cache that a lookup finds, by the states in which the socket and the cache
are read. -/
def lookedUpEntry (identified asked : RelayState) : Option CachedWorkspace := do
  let agentUuid ← (identified.hub.sockets call.client).data.agentUuid
  let members ← packetMembers call.payload
  let indexText ← (member members "serviceIndex").toText
  cachedWorkspace (cacheKey agentUuid indexText) asked

/-- The service and its Agent that a lookup finds which does not find an entry of the cache,
by the states in which the socket, the cache and the service are read and the present one. -/
def lookedUpHost : List RelayState → RelayState → Option (ServiceRow × AgentRow)
  | [identified, asked, found], state => do
    let agentUuid ← (identified.hub.sockets call.client).data.agentUuid
    let members ← packetMembers call.payload
    let selects ← indexFilter objectFilter (member members "serviceIndex")
    let service ← serviceBy selects found.hub.database
    let agent ← hostOfService (· == agentUuid) service state.hub.database
    if (lookedUpEntry call identified asked).isNone then return (service, agent) else none
  | _, _ => none

/-- The time until which what a lookup has found may be used: an entry until it expires, an
Agent at once to keep its workspace, and for 30 seconds to pass something on. -/
def deadline : List RelayState → Option ℤ
  | identified :: asked :: rest =>
    match lookedUpEntry call identified asked, rest with
    | some entry, _ => some entry.expiresAt
    | none, [_, looked] => some looked.hub.now
    | none, _ :: looked :: _ :: _ => some (looked.hub.now + workspaceIndexCacheTtl)
    | none, _ => none
  | _ => none

/-- The workspace on the socket is one that its Agent is linked to. -/
def BindingCurrent (state : RelayState) : Prop :=
  ∀ agentUuid ∈ (state.hub.sockets call.client).data.agentUuid,
    ∀ workspaceIndex ∈ (state.hub.sockets call.client).data.workspaceIndex,
      LinkedTo state.hub agentUuid workspaceIndex

/-- The UUID of the sender is one part of a key of the cache. -/
def SenderPlain (seen : List RelayState) (state : RelayState) : Prop :=
  ∀ agentUuid ∈ call.sender seen state, slash ∉ agentUuid

/-- The Agent that a lookup finds belongs to the workspace of the service. -/
def HostOfWorkspace (seen : List RelayState) (state : RelayState) : Prop :=
  ∀ host ∈ lookedUpHost objectFilter call seen state,
    host.2.agentParentWorkspace = some host.1.serviceParentWorkspace

/-- What a lookup has found is not used after its time. -/
def InTime (seen : List RelayState) (state : RelayState) : Prop :=
  ∀ time ∈ deadline call seen, state.hub.now ≤ time

/-- The branches that pass on too much are not taken. -/
def Orderly (seen : List RelayState) (state : RelayState) : Prop :=
  if call.kind = .response then BindingCurrent call state
  else SenderPlain call seen state ∧ HostOfWorkspace objectFilter call seen state ∧
    InTime call seen state

instance (state : RelayState) : Decidable (BindingCurrent call state) :=
  inferInstanceAs (Decidable (∀ agentUuid ∈ (state.hub.sockets call.client).data.agentUuid, _))

instance (seen : List RelayState) (state : RelayState) :
    Decidable (SenderPlain call seen state ∧ HostOfWorkspace objectFilter call seen state ∧
      InTime call seen state) :=
  inferInstanceAs (Decidable ((∀ agentUuid ∈ call.sender seen state, _) ∧
    (∀ host ∈ lookedUpHost objectFilter call seen state, _) ∧ ∀ time ∈ deadline call seen, _))

instance (seen : List RelayState) (state : RelayState) :
    Decidable (Orderly objectFilter call seen state) :=
  inferInstanceAs (Decidable (if call.kind = .response then BindingCurrent call state else _))

end Condition

/-! ## Keys -/

/-- The Agent whose part a key of the cache starts with. -/
def keyAgent (key : Text) : Text := key.takeWhile (· != slash)

theorem keyAgent_cacheKey {agentUuid : Text} (plain : slash ∉ agentUuid) (indexText : Text) :
    keyAgent (cacheKey agentUuid indexText) = agentUuid := by
  have other : ∀ unit ∈ agentUuid, (unit != slash) = true := by
    rintro unit inside
    exact bne_iff_ne.mpr fun same => plain (same ▸ inside)
  rw [keyAgent, cacheKey, List.takeWhile_append_of_pos other, List.takeWhile_cons_of_neg (by simp),
    List.append_nil]

/-- What is left after forgetting an Agent was there before. -/
theorem own_forgetWorkspaces {agentUuid key : Text} {state : RelayState} {entry : CachedWorkspace}
    (left : Members.own (forgetWorkspaces agentUuid state).workspaceIndexCache key = some entry) :
    Members.own state.workspaceIndexCache key = some entry := by
  change Members.own (state.workspaceIndexCache.filter _) key = some entry at left
  generalize state.workspaceIndexCache = entries at left ⊢
  induction entries with
  | nil => cases left
  | cons head rest ih =>
    simp only [Members.own] at ih left ⊢
    by_cases here : head.1 = key
    · by_cases forgotten : (cacheKey agentUuid []).isPrefixOf key = true
      · -- every entry under this key is forgotten, so none is left
        exfalso
        obtain ⟨kept, found, -⟩ := Option.map_eq_some_iff.mp left
        have same : kept.1 = key := by simpa using List.find?_some found
        have inside := (List.mem_filter.mp (List.mem_of_find?_eq_some found)).2
        simp [same, forgotten] at inside
      · simpa [here, forgotten] using left
    · rw [List.find?_cons_of_neg (by simpa using here)]
      apply ih
      by_cases forgotten : (cacheKey agentUuid []).isPrefixOf head.1 = true
      · simpa [forgotten] using left
      · simpa [forgotten, here] using left

/-! ## What the handlers do -/

/-- A state that a handler has met, or an entry that it has found in the cache, allows it to
pass something on to a workspace. -/
def Justified (call : RelayCall) (workspaceIndex : ℕ) (seen : List RelayState)
    (state : RelayState) : Prop :=
  ∀ agentUuid ∈ call.sender seen state,
    LinkedLately (seen ++ [state]) state.hub.now agentUuid workspaceIndex ∨
    ∃ asked ∈ seen, ∃ key entry, Members.own asked.workspaceIndexCache key = some entry ∧
      keyAgent key = agentUuid ∧ entry.workspaceIndex = workspaceIndex ∧
      state.hub.now ≤ entry.expiresAt

/-- What an action passes on goes where it may. -/
def RelaysSourced (call : RelayCall) (seen : List RelayState) (before after : RelayState) : Prop :=
  ∀ relay ∈ after.relayed.drop before.relayed.length,
    Justified call relay.workspaceIndex seen before

/-- What an action keeps in the cache expires 30 seconds after a state that it has met and
in which the Agent is linked to the workspace. -/
def CachesSourced (seen : List RelayState) (before after : RelayState) : Prop :=
  ∀ key entry, Members.own after.workspaceIndexCache key = some entry →
    Members.own before.workspaceIndexCache key = some entry ∨
    LinkedLately seen (entry.expiresAt) (keyAgent key) entry.workspaceIndex

/-- What an action may do. -/
def Sourced (call : RelayCall) (seen : List RelayState) (before after : RelayState) : Prop :=
  RelaysSourced call seen before after ∧ CachesSourced seen before after

section Handlers

variable {objectFilter : Members Value → Option (ℕ → Bool)} {call : RelayCall}
  {seen : List RelayState} {before after : RelayState} {fine : List RelayState → RelayState → Prop}

/-- An action that passes nothing on and keeps nothing in the cache. -/
theorem sourced_silent (relayed : after.relayed = before.relayed)
    (cache : after.workspaceIndexCache = before.workspaceIndexCache) :
    Sourced call seen before after := by
  constructor
  · intro relay inside
    rw [relayed, List.drop_length] at inside
    cases inside
  · intro key entry found
    rw [cache] at found
    exact .inl found

theorem heeds_lookAt {α : Type} {view : RelayState → α} {post : α → List RelayState → Prop}
    (held : ∀ state, fine seen state → post (view state) (seen ++ [state])) :
    Heeds fine (Sourced call) post seen (look view : RelayProgram α) :=
  heeds_look (fun _ => sourced_silent rfl rfl) held

/-- A workspace is kept at once after its Agent has been found linked to it. -/
theorem sourced_cacheWorkspace {looked written : RelayState} {agentUuid key : Text}
    {workspaceIndex : ℕ} (met : looked ∈ seen)
    (linked : LinkedTo looked.hub agentUuid workspaceIndex) (names : keyAgent key = agentUuid)
    (atOnce : written.hub.now ≤ looked.hub.now) :
    Sourced call seen written (cacheWorkspace key workspaceIndex written) := by
  constructor
  · intro relay inside
    rw [cacheWorkspace, List.drop_length] at inside
    cases inside
  · intro other entry found
    by_cases same : other = key
    · rw [same, cacheWorkspace, Members.own_define] at found
      cases found
      rw [same, names]
      exact .inr ⟨looked, met, linked, Int.add_le_add_right atOnce _⟩
    · rw [cacheWorkspace, Members.own_define_ne _ same] at found
      exact .inl found

/-- What is recorded on the way is recorded elsewhere. -/
theorem heeds_onHub (program : HubProgram Unit) :
    Heeds fine (Sourced call) (fun _ _ => True) seen (onHub program) :=
  have silent : Always (fun before after : RelayState => after.relayed = before.relayed ∧
      after.workspaceIndexCache = before.workspaceIndexCache) (onHub program) :=
    always_zoom (fun _ _ => ⟨rfl, rfl⟩) program
  silent.heeds fun _ _ _ kept => sourced_silent kept.1 kept.2

/-- The workspace that a lookup returns may be used in time. -/
theorem heeds_getWorkspaceIndex {identified : RelayState} {agentUuid : Text}
    {members : Members Value}
    (named : (identified.hub.sockets call.client).data.agentUuid = some agentUuid)
    (given : packetMembers call.payload = some members)
    (orderly : ∀ seen state, fine seen state → SenderPlain call seen state ∧
      HostOfWorkspace objectFilter call seen state ∧ InTime call seen state) :
    Heeds fine (Sourced call)
      (fun workspaceIndex seen => ∀ index, workspaceIndex = some index →
        ∀ later state, seen <+: later → fine later state → Justified call index later state)
      [identified]
      (getWorkspaceIndexForAgentService objectFilter agentUuid (member members "serviceIndex")) := by
  apply Heeds.bind
  apply heeds_orThrow
  intro indexText read
  apply Heeds.bind
  apply heeds_lookAt
  intro asked _
  have entries : lookedUpEntry call identified asked =
      cachedWorkspace (cacheKey agentUuid indexText) asked := by
    simp only [lookedUpEntry, named, given, read, Option.bind_eq_bind, Option.bind_some]
  cases cached : cachedWorkspace (cacheKey agentUuid indexText) asked with
  | some entry =>
    rw [cached] at entries
    apply heeds_pure
    rintro _ ⟨⟩ _ state ⟨rest, rfl⟩ met other sent
    obtain ⟨plain, -, inTime⟩ := orderly _ _ met
    obtain rfl : agentUuid = other := Option.some.inj (named.symm.trans sent)
    refine .inr ⟨asked, by simp, cacheKey agentUuid indexText, entry,
      (Option.filter_eq_some_iff.mp cached).1, keyAgent_cacheKey (plain _ sent) _, rfl, ?_⟩
    apply inTime
    simp only [deadline, List.cons_append, List.nil_append, entries, Option.mem_def]
  | none =>
    rw [cached] at entries
    apply Heeds.bind
    apply heeds_orThrow
    intro selects filtered
    apply Heeds.bind
    apply heeds_lookAt
    intro found _
    cases serves : serviceBy selects found.hub.database with
    | none => exact heeds_pure fun _ nothing => by cases nothing
    | some service =>
      apply Heeds.bind
      apply heeds_lookAt
      intro looked met
      cases host : hostOfService (· == agentUuid) service looked.hub.database with
      | none => exact heeds_pure fun _ nothing => by cases nothing
      | some agent =>
        have linked : LinkedTo looked.hub agentUuid service.serviceParentWorkspace := by
          obtain ⟨inside, selected⟩ := Table.mem_of_findFirst host
          simp only [Bool.and_eq_true, beq_iff_eq] at selected
          obtain ⟨⟨⟨-, uuids⟩, connection⟩, -⟩ := selected
          refine ⟨agent, inside, uuids, connection, ?_⟩
          refine (orderly _ _ met).2.1 (service, agent) ?_
          simp only [lookedUpHost, List.cons_append, List.nil_append, named, given, filtered, serves,
            host, entries, Option.bind_eq_bind, Option.bind_some, Option.pure_def, Option.mem_def,
            Option.isNone_none, if_true]
        apply heeds_step
        intro written met'
        obtain ⟨plain, -, inTime⟩ := orderly _ _ met'
        have atOnce : written.hub.now ≤ looked.hub.now := by
          apply inTime
          simp only [deadline, List.cons_append, List.nil_append, entries, Option.mem_def]
        constructor
        · exact sourced_cacheWorkspace (by simp) linked (keyAgent_cacheKey (plain _ named) _) atOnce
        · rintro _ ⟨⟩ _ state ⟨rest, rfl⟩ met'' other sent
          obtain ⟨-, -, inTime⟩ := orderly _ _ met''
          obtain rfl : agentUuid = other := Option.some.inj (named.symm.trans sent)
          refine .inl ⟨looked, by simp, linked, inTime _ ?_⟩
          simp only [deadline, List.cons_append, List.nil_append, entries, Option.mem_def]

theorem relaysSourced_emit {workspaceIndex : ℕ} {event : Text} {payload : Value}
    (justified : Justified call workspaceIndex seen before) :
    RelaysSourced call seen before (emitToWorkspace workspaceIndex event payload before) := by
  intro relay inside
  rw [emitToWorkspace, List.drop_left, List.mem_singleton] at inside
  rw [inside]
  exact justified

theorem heeds_emit {workspaceIndex : ℕ} {event : Text} {payload : RelayState → Value}
    (justified : ∀ state, fine seen state → Justified call workspaceIndex seen state) :
    Heeds fine (Sourced call) (fun _ _ => True) seen
      (step fun state => ((), emitToWorkspace workspaceIndex event (payload state) state) :
        RelayProgram Unit) :=
  heeds_step fun state met =>
    ⟨⟨relaysSourced_emit (justified state met), fun _ _ found => .inl found⟩, trivial⟩

/-- An event about a service reaches the workspace that its lookup has found. -/
theorem heeds_relayForService {event : Text} {record : Members Value → HubProgram Unit}
    (orderly : ∀ seen state, fine seen state → SenderPlain call seen state ∧
      HostOfWorkspace objectFilter call seen state ∧ InTime call seen state) :
    Heeds fine (Sourced call) (fun _ _ => True) []
      (relayForService objectFilter event call.client call.payload record) := by
  apply Heeds.bind
  apply heeds_lookAt
  intro identified _
  split
  · rename_i unit units named
    apply Heeds.bind
    apply heeds_orThrow
    intro members given
    apply Heeds.bind
    refine (heeds_getWorkspaceIndex named given orderly).mono fun workspaceIndex seen _ usable => ?_
    split
    · rename_i index
      apply Heeds.bind
      refine (heeds_onHub (record members)).mono fun _ later longer _ => ?_
      exact heeds_emit fun state met => usable (index + 1) rfl later state longer met
    · exact heeds_pure trivial
  · exact heeds_pure trivial

/-- An answer reaches the workspace on the socket. -/
theorem heeds_handleResponse
    (orderly : ∀ seen state, fine seen state → BindingCurrent call state) :
    Heeds fine (Sourced call) (fun _ _ => True) [] (handleResponse call.client call.payload) := by
  apply heeds_step
  intro state met
  refine ⟨?_, trivial⟩
  split
  · rename_i index bound
    refine ⟨relaysSourced_emit fun agentUuid sent => .inl ⟨state, by simp, ?_, ?_⟩,
      fun _ _ found => .inl found⟩
    · exact orderly _ _ met agentUuid sent (index + 1) bound
    · exact Int.le_add_of_nonneg_right (by decide)
  · exact sourced_silent rfl rfl

theorem heeds_relayProgram (call : RelayCall) :
    Heeds (Orderly objectFilter call) (Sourced call) (fun _ _ => True) []
      (relayProgram objectFilter call) := by
  obtain ⟨kind, client, payload⟩ := call
  cases kind with
  | response => exact heeds_handleResponse fun _ _ orderly => orderly
  | containerStatus => exact heeds_relayForService fun _ _ orderly => orderly
  | serviceStatus => exact heeds_relayForService fun _ _ orderly => orderly
  | serviceLog => exact heeds_relayForService fun _ _ orderly => orderly
  | logLoadProgress => exact heeds_relayForService fun _ _ orderly => orderly
  | serviceLogHistory => exact heeds_relayForService fun _ _ orderly => orderly
  | serviceLogMarkers => exact heeds_relayForService fun _ _ orderly => orderly

end Handlers

/-! ## Runs -/

section Runs

variable {objectFilter : Members Value → Option (ℕ → Bool)}
  {past : List (Move RelayCall Elsewhere × Shown Unit RelayState)}
  {config : Config RelayCall RelayState Failure Unit}

/-- Every entry of the cache, now or before, expires 30 seconds after its Agent was linked to
the workspace. -/
def CacheSound (past : List (Move RelayCall Elsewhere × Shown Unit RelayState))
    (config : Config RelayCall RelayState Failure Unit) : Prop :=
  ∀ state ∈ statesSoFar past config, ∀ key entry,
    Members.own state.workspaceIndexCache key = some entry →
      LinkedLately (statesSoFar past config) entry.expiresAt (keyAgent key) entry.workspaceIndex

theorem LinkedLately.mono {states states' : List RelayState} {now : ℤ} {agentUuid : Text}
    {workspaceIndex : ℕ} (linked : LinkedLately states now agentUuid workspaceIndex)
    (more : states ⊆ states') : LinkedLately states' now agentUuid workspaceIndex := by
  obtain ⟨state, inside, held⟩ := linked
  exact ⟨state, more inside, held⟩

theorem met_subset_soFar (index started : ℕ) :
    statesMet past index started ++ [config.state] ⊆ statesSoFar past config :=
  List.append_subset.mpr ⟨List.subset_append_of_subset_left _ (statesMet_subset index started),
    List.subset_append_right _ _⟩

theorem statesSoFar_move (input : Move RelayCall Elsewhere) :
    statesSoFar (past ++ [(input, (relays objectFilter config input).1)])
        (relays objectFilter config input).2 =
      statesSoFar past config ++ [(relays objectFilter config input).2.state] := by
  rw [statesSoFar, List.map_append, List.map_singleton, move_watched]
  rfl

/-- An entry that is there after a move was there before it or has its reason in the run. -/
theorem cached_move {input : Move RelayCall Elsewhere}
    (permitted : Permitted (relayProgram objectFilter) elsewhere Sourced past config input)
    {key : Text} {entry : CachedWorkspace}
    (cached : Members.own (relays objectFilter config input).2.state.workspaceIndexCache key =
      some entry) :
    Members.own config.state.workspaceIndexCache key = some entry ∨
      LinkedLately (statesSoFar past config) entry.expiresAt (keyAgent key)
        entry.workspaceIndex := by
  cases input with
  | start call => exact .inl cached
  | event event =>
    cases event with
    | hub change => exact .inl cached
    | forget agentUuid => exact .inl (own_forgetWorkspaces cached)
  | resume index =>
    by_cases running : ∃ thread, config.threads[index]? = some thread ∧ thread.result = none
    · obtain ⟨thread, found, running⟩ := running
      rcases (permitted thread found running).2 key entry cached with before | linked
      · exact .inl before
      · refine .inr (linked.mono ?_)
        exact List.subset_append_of_subset_left _ (statesMet_subset index thread.started)
    · have idle (thread : Thread RelayCall RelayState Failure Unit)
          (found : config.threads[index]? = some thread) : thread.result ≠ none :=
        fun unfinished => running ⟨thread, found, unfinished⟩
      rw [(move_idle idle).1] at cached
      exact .inl cached

theorem CacheSound.move (sound : CacheSound past config) {input : Move RelayCall Elsewhere}
    (permitted : Permitted (relayProgram objectFilter) elsewhere Sourced past config input) :
    CacheSound (past ++ [(input, (relays objectFilter config input).1)])
      (relays objectFilter config input).2 := by
  intro state inside key entry cached
  rw [statesSoFar_move] at inside ⊢
  rcases List.mem_append.mp inside with before | now
  · exact (sound state before key entry cached).mono (List.subset_append_left _ _)
  · rw [List.mem_singleton.mp now] at cached
    refine LinkedLately.mono ?_ (List.subset_append_left _ _)
    rcases cached_move permitted cached with before | linked
    · exact sound config.state (by simp [statesSoFar]) key entry before
    · exact linked

/-- A move that does what its state and the cache justify is isolated. -/
theorem relaysIsolated_of_sound (sound : CacheSound past config)
    {input : Move RelayCall Elsewhere}
    (permitted : Permitted (relayProgram objectFilter) elsewhere Sourced past config input) :
    RelaysIsolated objectFilter past config input := by
  cases input with
  | start call => exact trivial
  | event event => exact trivial
  | resume index =>
    intro thread found running relay inside agentUuid sent
    rcases (permitted thread found running).1 relay inside agentUuid sent with
      linked | ⟨asked, met, key, entry, cached, rfl, workspace, inTime⟩
    · exact linked.mono (met_subset_soFar index thread.started)
    · have before : asked ∈ statesSoFar past config :=
        List.mem_append_left _ (statesMet_subset index thread.started met)
      obtain ⟨state, soFar, linked, expires⟩ := sound asked before key entry cached
      rw [workspace] at linked
      exact ⟨state, soFar, linked, inTime.trans expires⟩

/-- In every run, whatever the rest of the Hub does in between, what is passed on for an Agent
goes to workspaces to which it is or was linked within 30 seconds, if every answer arrives on
a socket whose workspace is current, every lookup finds the Agent in the workspace of the
service, and what it has found is kept at once and used in time. -/
theorem relays_isolated (objectFilter : Members Value → Option (ℕ → Bool)) (start : Hub)
    (moves : List (Move RelayCall Elsewhere))
    (orderly : Along (relays objectFilter) (Met (Orderly objectFilter)) []
      { state := { hub := start } } moves) :
    Along (relays objectFilter) (RelaysIsolated objectFilter) [] { state := { hub := start } }
      moves := by
  apply orderly.safe fun past config =>
    Heeding (Orderly objectFilter) Sourced past config ∧ CacheSound past config
  · rintro past config input ⟨heeding, sound⟩ met
    exact ⟨heeding.move heeds_relayProgram input met, sound.move (heeding.permitted input met)⟩
  · rintro past config input ⟨heeding, sound⟩ met
    exact relaysIsolated_of_sound sound (heeding.permitted input met)
  · refine ⟨⟨rfl, fun index thread found => by simp at found⟩, ?_⟩
    intro state inside key entry cached
    rw [List.mem_singleton.mp inside] at cached
    cases cached

instance (past : List (Move RelayCall Elsewhere × Shown Unit RelayState))
    (config : Config RelayCall RelayState Failure Unit) :
    (input : Move RelayCall Elsewhere) → Decidable (RelaysIsolated objectFilter past config input)
  | .resume index => inferInstanceAs (Decidable (∀ thread ∈ config.threads[index]?, _))
  | .start _ => isTrue trivial
  | .event _ => isTrue trivial

end Runs

/-! ## An Agent that was only asked for -/

/-- The Agent of the first owner is on a socket on which it registered. -/
def reportingHub : Hub :=
  { hostedService with
    sockets := fun _ =>
      { connected := true
        data.agentCode := some "C"
        data.agentUuid := some "U"
        data.workspaceIndex := some 1 } }

/-- An answer, and two reports on the service, of which the second finds the first one's entry
in the cache. -/
def reports : List (Move RelayCall Elsewhere) :=
  [.start ⟨.response, 0, .object []⟩, .resume 0,
    .start ⟨.serviceStatus, 0,
      .object [("serviceIndex", intValue 1), ("status", .string "running")]⟩] ++
    List.replicate 7 (.resume 1) ++
    .start ⟨.serviceLog, 0, .object [("serviceIndex", intValue 1), ("line", .string "up")]⟩ ::
      List.replicate 3 (.resume 2)

theorem relays_isolated_reports :
    Along (relays fun _ => none) (RelaysIsolated fun _ => none) []
      { state := { hub := reportingHub } } reports := by
  apply relays_isolated
  decide +kernel

/-- A known Agent and two workspaces, none of which has asked for it. -/
def knownHub : Hub :=
  { WorkspaceService.twoWorkspaces with
    database := { WorkspaceService.twoWorkspaces.database with agents := knownAgents }
    now := fixedTime
    sockets := fun _ => { opened := true, connected := true } }

def registersOn (client : ℕ) (hub : Hub) : Hub :=
  ((handleValidation fixedPlatform client registerPacket).run hub).2

/-- The first workspace asks for the Agent. -/
def isAskedFor (hub : Hub) : Hub :=
  (WorkspaceService.serve fixedPlatform hub (.requestConnect 1 1 "CODE" "owner")).2

/-- The Agent registers, is asked for and connects again. What it then answers is passed on to
the workspace, though it has not accepted. -/
theorem not_relays_isolated_asked :
    ¬ Along (relays fun _ => none) (RelaysIsolated fun _ => none) []
      { state := { hub := knownHub } }
      [.event (.hub (registersOn 0)), .event (.hub isAskedFor), .event (.hub (registersOn 1)),
        .start ⟨.response, 1, .object []⟩, .resume 0] := by
  decide +kernel

end AgentGateway

end OpticsHub
