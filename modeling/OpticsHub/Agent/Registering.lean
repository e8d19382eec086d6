import OpticsHub.Agent.SocketMap

/-!
# Registrations

A registration reads three times: the secret that the Agent must prove, the row it
registers, and, at its write, the row again, which it changes whatever it finds there.
Where a registration stands is told by the states that its actions have met: how many they
are, and whether the second of them had a secret, for then the proof takes one action more.
What a registration may do is stated for its write and for its binding, and for everything
else at once, which does nothing to the map and to the stored secrets.
-/
namespace OpticsHub

open Script Async Program Machine

namespace AgentGateway

open AgentService

/-! ## Where a registration stands -/

/-- The UUID by which a packet names an Agent. -/
def namedAgent (payload : Value) : Option Text :=
  match (packetMembers payload).bind fun members => Members.own members "agentUuid" with
  | some (.string (unit :: units)) => some (unit :: units)
  | _ => none

/-- The row of an Agent. -/
def rowOf (database : Database) (agentUuid : Text) : Option AgentRow :=
  database.agents.findFirst fun row => row.agentUuid == agentUuid

/-- Which of its actions looks for the row of the Agent that a registration names: a proof
takes one action more. -/
def lookIndex (agentUuid : Text) (seen : List Hub) : ℕ :=
  match seen[1]? with
  | some known => if hasSecret (storedSecret known.database agentUuid) then 4 else 3
  | none => 3

/-- The state in which a registration has looked for the row. -/
def lookedUp (agentUuid : Text) (seen : List Hub) : Option Hub := seen[lookIndex agentUuid seen]?

/-- A registration that has found a row is about to write it. -/
def Writing (agentUuid : Text) (seen : List Hub) : Prop :=
  seen.length = lookIndex agentUuid seen + 1 ∧
    ∃ looked ∈ lookedUp agentUuid seen, (rowOf looked.database agentUuid).isSome = true

/-- A registration that has written the row it found is about to bind the Agent. -/
def Binding (agentUuid : Text) (seen : List Hub) : Prop :=
  seen.length = lookIndex agentUuid seen + 2 ∧
    ∃ looked ∈ lookedUp agentUuid seen, (rowOf looked.database agentUuid).isSome = true

/-- A packet is accepted under a secret, in one of the states that its registration has met. -/
def ProvenBy (platform : Platform) (payload : Value) (secret : Text) (seen : List Hub) : Prop :=
  ∃ met ∈ seen, (Hash.verify platform.mac registerEvent payload (some secret)
    { now := met.now } none).1 = .ok

variable {before after hub : Hub} {client : ℕ} {agentUuid : Text}

theorem lookIndex_extending {seen later : List Hub} (longer : seen <+: later)
    (known : 2 ≤ seen.length) : lookIndex agentUuid later = lookIndex agentUuid seen := by
  obtain ⟨rest, rfl⟩ := longer
  rw [lookIndex, List.getElem?_append_left known, lookIndex]

theorem three_le_lookIndex (agentUuid : Text) (seen : List Hub) :
    3 ≤ lookIndex agentUuid seen := by
  rw [lookIndex]
  split
  · split <;> omega
  · exact Nat.le_refl 3

/-- A registration is not about to bind the Agent that its packet names. -/
def NotBinding (payload : Value) (seen : List Hub) : Prop :=
  ∀ uuid ∈ namedAgent payload, ¬ Binding uuid seen

/-- Nor does it come to that any more. -/
def PastBinding (payload : Value) (seen : List Hub) : Prop :=
  ∀ later, seen <+: later → NotBinding payload later

theorem notBinding_of_unnamed {payload : Value} (unnamed : namedAgent payload = none)
    (seen : List Hub) : NotBinding payload seen := by
  intro uuid named
  rw [unnamed] at named
  cases named

theorem PastBinding.here {payload : Value} {seen : List Hub} (past : PastBinding payload seen) :
    NotBinding payload seen :=
  past seen (List.prefix_refl seen)

theorem PastBinding.append {payload : Value} {seen : List Hub} (past : PastBinding payload seen)
    (state : Hub) : PastBinding payload (seen ++ [state]) :=
  fun later longer => past later ((List.prefix_append seen [state]).trans longer)

theorem notBinding_of_short {payload : Value} {seen : List Hub} (short : seen.length < 5) :
    NotBinding payload seen := by
  rintro uuid - ⟨length, -⟩
  have := three_le_lookIndex uuid seen
  omega

/-- What a registration has learnt of the Agent that its packet names: it has no secret, or the
packet is accepted under the secret it has. -/
def Admitted (platform : Platform) (payload : Value) (agentUuid : Text) (seen : List Hub) : Prop :=
  ∃ known, seen[1]? = some known ∧
    (hasSecret (storedSecret known.database agentUuid) = false ∨
      ∃ secret, secret ≠ [] ∧ storedSecret known.database agentUuid = some secret ∧
        ProvenBy platform payload secret seen)

/-- A registration has learnt that, and this is the row it has found. -/
structure Found (platform : Platform) (payload : Value) (agentUuid : Text)
    (exist : Option AgentRow) (seen : List Hub) : Prop where
  length : seen.length = lookIndex agentUuid seen + 1
  admitted : Admitted platform payload agentUuid seen
  row : ∃ looked, lookedUp agentUuid seen = some looked ∧ rowOf looked.database agentUuid = exist

section Found

variable {platform : Platform} {payload : Value} {exist : Option AgentRow} {seen : List Hub}

theorem Admitted.append (admitted : Admitted platform payload agentUuid seen) (state : Hub) :
    Admitted platform payload agentUuid (seen ++ [state]) := by
  obtain ⟨known, second, learnt⟩ := admitted
  refine ⟨known, ?_, learnt.imp_right ?_⟩
  · rw [List.getElem?_append_left (List.getElem?_eq_some_iff.mp second).1, second]
  · rintro ⟨secret, present, stored, met, inside, accepted⟩
    exact ⟨secret, present, stored, met, List.mem_append_left _ inside, accepted⟩

theorem Admitted.lookIndex_append (admitted : Admitted platform payload agentUuid seen)
    (state : Hub) : lookIndex agentUuid (seen ++ [state]) = lookIndex agentUuid seen := by
  obtain ⟨known, second, -⟩ := admitted
  exact lookIndex_extending (List.prefix_append _ _) (List.getElem?_eq_some_iff.mp second).1

/-- Having looked for the row, a registration has found what there is. -/
theorem Admitted.found (admitted : Admitted platform payload agentUuid seen)
    (length : seen.length = lookIndex agentUuid seen) (looked : Hub) :
    Found platform payload agentUuid (rowOf looked.database agentUuid) (seen ++ [looked]) := by
  refine ⟨?_, admitted.append looked, looked, ?_, rfl⟩
  · rw [admitted.lookIndex_append, List.length_append, List.length_singleton, length]
  · rw [lookedUp, admitted.lookIndex_append, ← length, List.getElem?_concat_length]

/-- A registration that has found a row is about to write it. -/
theorem Found.writing {row : AgentRow}
    (found : Found platform payload agentUuid (some row) seen) : Writing agentUuid seen := by
  obtain ⟨looked, there, same⟩ := found.row
  exact ⟨found.length, looked, there, by rw [same]; rfl⟩

theorem Found.notBinding (found : Found platform payload agentUuid exist seen)
    (named : namedAgent payload = some agentUuid) : NotBinding payload seen := by
  rintro uuid same ⟨length, -⟩
  obtain rfl := Option.some.inj (named.symm.trans same)
  have := found.length
  omega

/-- After three more states the binding is past. -/
theorem pastBinding_of_length (named : namedAgent payload = some agentUuid)
    (past : lookIndex agentUuid seen + 3 ≤ seen.length) : PastBinding payload seen := by
  rintro later longer uuid same ⟨length, -⟩
  obtain rfl := Option.some.inj (named.symm.trans same)
  have stays := @lookIndex_extending agentUuid _ _ longer (by omega)
  have := longer.length_le
  omega

/-- A registration that has found no row does not bind the Agent that its packet names. -/
theorem Found.pastBinding (found : Found platform payload agentUuid none seen)
    (named : namedAgent payload = some agentUuid) : PastBinding payload seen := by
  rintro later longer uuid same ⟨-, looked, there, row⟩
  obtain rfl := Option.some.inj (named.symm.trans same)
  obtain ⟨looked', there', none⟩ := found.row
  have two : 2 ≤ seen.length := by
    have := found.length
    have := three_le_lookIndex agentUuid seen
    omega
  rw [lookedUp, lookIndex_extending longer two] at there
  obtain ⟨rest, rfl⟩ := longer
  rw [List.getElem?_append_left (by have := found.length; omega)] at there
  obtain rfl := Option.some.inj (there'.symm.trans there)
  rw [none] at row
  cases row

end Found

/-! ## Stored secrets -/

theorem storedSecret_rowOf (database : Database) (agentUuid : Text) :
    storedSecret database agentUuid = (rowOf database agentUuid).bind AgentRow.agentSigningSecret :=
  rfl

theorem rowOf_create {database : Database} {row : ℕ → AgentRow}
    {keyed : ∀ n, (row n).agentIndex = n} (agentUuid : Text) :
    rowOf { database with agents := database.agents.create row keyed } agentUuid =
      (rowOf database agentUuid).or (if (row database.agents.next).agentUuid == agentUuid then
        some (row database.agents.next) else none) :=
  @Table.findFirst_create _ _ _ _ keyed _

/-- The stored secrets are part of what the rows prove their Agents by. -/
theorem storedSecret_of_aside (aside : Aside before after) (agentUuid : Text) :
    storedSecret after.database agentUuid = storedSecret before.database agentUuid := by
  have read (database : Database) : storedSecret database agentUuid =
      ((database.agents.rows.map credentials).find? fun entry => entry.2.1 == agentUuid).bind
        fun entry => entry.2.2 := by
    rw [List.find?_map, Option.bind_map, storedSecret_rowOf]
    rfl
  rw [read, aside.credentials, ← read]

/-- A write to the row of one Agent does nothing to the row of another. -/
theorem rowOf_updateMany_ne {database : Database} {uuid other : Text} {row : AgentRow}
    {change : AgentRow → AgentRow} {keyed : ∀ row, (change row).agentIndex = row.agentIndex}
    (same : ∀ row, (change row).agentUuid = row.agentUuid)
    (found : rowOf database uuid = some row) (differs : other ≠ uuid) :
    rowOf { database with
        agents := database.agents.updateMany (fun other => other.agentIndex == row.agentIndex)
          change keyed } other = rowOf database other := by
  rw [rowOf, Table.findFirst_updateMany fun row => by rw [same], rowOf]
  cases theirs : database.agents.findFirst fun row => row.agentUuid == other with
  | none => rfl
  | some row' =>
    obtain ⟨inside, selected⟩ := Table.mem_of_findFirst found
    obtain ⟨inside', selected'⟩ := Table.mem_of_findFirst theirs
    have elsewhere : ¬ (row'.agentIndex == row.agentIndex) = true := by
      intro index
      obtain rfl := Table.eq_of_key inside' inside (beq_iff_eq.mp index)
      exact differs ((beq_iff_eq.mp selected').symm.trans (beq_iff_eq.mp selected))
    rw [Option.map_some, if_neg elsewhere]

/-- Nor to its secret. -/
theorem storedSecret_updateMany_ne {database : Database} {uuid other : Text} {row : AgentRow}
    {change : AgentRow → AgentRow} {keyed : ∀ row, (change row).agentIndex = row.agentIndex}
    (same : ∀ row, (change row).agentUuid = row.agentUuid)
    (found : rowOf database uuid = some row) (differs : other ≠ uuid) :
    storedSecret { database with
        agents := database.agents.updateMany (fun other => other.agentIndex == row.agentIndex)
          change keyed } other = storedSecret database other := by
  rw [storedSecret_rowOf, rowOf_updateMany_ne same found differs, storedSecret_rowOf]

/-! ## What a registration does -/

/-- Nothing happens to the map and to the stored secrets. -/
structure Rests (before after : Hub) : Prop where
  map : after.agentUuidToSocketId = before.agentUuidToSocketId
  secrets : ∀ uuid, storedSecret after.database uuid = storedSecret before.database uuid

theorem rests_refl (hub : Hub) : Rests hub hub := ⟨rfl, fun _ => rfl⟩

theorem rests_of_aside (aside : Aside before after) : Rests before after :=
  ⟨aside.background.2.2.1, storedSecret_of_aside aside⟩

theorem always_rests_proveIdentity (platform : Platform) (client : ℕ)
    (payload agentUuid : Value) :
    Always Rests (proveIdentity platform client payload agentUuid) := by
  rw [proveIdentity]
  split
  · apply (always_orThrow _ _).bind
    intro selects
    apply Always.bind (always_look rests_refl _)
    intro knownSecret
    split
    · apply always_step
      intro hub
      split
      · exact rests_refl hub
      · exact ⟨rfl, fun _ => rfl⟩
    · exact always_pure _
  · exact always_pure _

/-- A packet names an Agent by a text that is not empty, or it names none. -/
theorem namedAgent_cases {payload : Value} {members : Members Value}
    (read : packetMembers payload = some members) :
    (∃ uuid, uuid ≠ [] ∧ (Members.own members "agentUuid").getD .undefined = .string uuid ∧
      namedAgent payload = some uuid) ∨
    namedAgent payload = none ∧ ∀ uuid,
      (Members.own members "agentUuid").getD .undefined = .string uuid → uuid = [] := by
  rw [namedAgent, read, Option.bind_some]
  rcases Members.own members "agentUuid" with _ | value
  · exact .inr ⟨rfl, fun uuid wrong => by cases wrong⟩
  · rw [Option.getD_some]
    cases value with
    | string text =>
      cases text with
      | nil => exact .inr ⟨rfl, fun uuid same => (Value.string.inj same).symm⟩
      | cons unit units => exact .inl ⟨_, List.cons_ne_nil _ _, rfl, rfl⟩
    | _ => exact .inr ⟨rfl, fun uuid wrong => by cases wrong⟩

/-- What a registration may do, by what is known of a registered Agent before it is bound. -/
structure Registers (platform : Platform) (client : ℕ) (payload : Value)
    (fine : List Hub → Hub → Prop) (allowed : List Hub → Hub → Hub → Prop)
    (middle : RegisteredAgent → List Hub → Prop) : Prop where
  rests : ∀ seen before after, NotBinding payload seen → Rests before after →
    allowed seen before after
  writes : ∀ ip uuid exist version protocol seen hub, namedAgent payload = some uuid →
    Found platform payload uuid (some exist) seen → fine seen hub →
    allowed seen hub ((updateRegistered platform ip uuid exist version protocol).effect hub) ∧
      ∀ agent, (updateRegistered platform ip uuid exist version protocol).next hub =
        .done (.ok agent) → middle agent (seen ++ [hub])
  creates : ∀ ip version protocol seen hub, PastBinding payload seen →
    allowed seen hub ((createRegistered platform ip version protocol).effect hub) ∧
      ∀ agent, (createRegistered platform ip version protocol).next hub = .done (.ok agent) →
        middle agent (seen ++ [hub])
  issues : ∀ agent secret seen hub, middle agent seen → agent.signingSecret = some secret →
    fine seen hub →
    allowed seen hub (attachSecret client agent (some secret) (bindIdentity client agent hub))
  binds : ∀ agent seen hub, middle agent seen → agent.signingSecret = none → fine seen hub →
    allowed seen hub (bindIdentity client agent hub)

section Registration

variable {platform : Platform} {payload : Value} {fine : List Hub → Hub → Prop}
  {allowed : List Hub → Hub → Hub → Prop} {middle : RegisteredAgent → List Hub → Prop}
  {seen : List Hub} (registers : Registers platform client payload fine allowed middle)

include registers

theorem heeds_glance {α : Type} {post : α → List Hub → Prop} {view : Hub → α}
    (outside : NotBinding payload seen)
    (held : ∀ hub, post (view hub) (seen ++ [hub])) :
    Heeds fine allowed post seen (look view : HubProgram α) :=
  heeds_look (fun hub => registers.rests _ _ _ outside (rests_refl hub)) fun hub _ => held hub

/-- Having proved its identity, a registration is admitted. -/
theorem heeds_proveNamed (first : Hub) {uuid : Text} (present : uuid ≠ []) :
    Heeds fine allowed
      (fun proved later => later.length < 4 ∧ (proved = true →
        later.length + 1 = lookIndex uuid later ∧ Admitted platform payload uuid later))
      [first] (proveIdentity platform client payload (.string uuid)) := by
  have truthy : (Value.string uuid).truthy = true := by simpa [Value.truthy] using present
  rw [proveIdentity, if_pos truthy]
  apply Heeds.bind
  apply heeds_orThrow
  intro selects selected
  obtain rfl := Option.some.inj selected
  apply Heeds.bind
  apply heeds_glance registers (notBinding_of_short (by simp))
  intro known
  change Heeds _ _ _ [first, known] (if hasSecret (storedSecret known.database uuid) then _ else _)
  split
  · rename_i has
    obtain ⟨secret, stored, some⟩ := hasSecret_iff.mp has
    refine heeds_step fun proof _ => ⟨?_, ?_⟩
    · refine registers.rests _ _ _ (notBinding_of_short (by simp)) ?_
      split
      · exact rests_refl proof
      · exact ⟨rfl, fun _ => rfl⟩
    · refine ⟨by simp, fun proved => ⟨by simp [lookIndex, has], known, rfl, .inr ⟨secret, some,
        stored, proof, by simp, ?_⟩⟩⟩
      rw [← stored]
      split at proved
      · assumption
      · cases proved
  · rename_i none
    refine ⟨by simp, fun _ => ⟨by simp [lookIndex, none], known, rfl, .inl ?_⟩⟩
    exact Bool.eq_false_iff.mpr none

/-- The row of a named Agent is looked for in one action. -/
theorem heeds_findNamed {uuid : Text} (present : uuid ≠ []) (outside : NotBinding payload seen) :
    Heeds fine allowed
      (fun exist later => ∃ looked, later = seen ++ [looked] ∧ rowOf looked.database uuid = exist)
      seen (findExist platform (.string uuid)) := by
  have truthy : (Value.string uuid).truthy = true := by simpa [Value.truthy] using present
  rw [findExist, if_pos truthy]
  apply Heeds.bind
  apply heeds_orThrow
  intro selects selected
  obtain rfl := Option.some.inj selected
  exact heeds_glance registers outside fun hub => ⟨hub, rfl, rfl⟩

/-- With its next action, a registered Agent is past its binding. -/
abbrev Registered (payload : Value) (middle : RegisteredAgent → List Hub → Prop)
    (agent : RegisteredAgent) (seen : List Hub) : Prop :=
  middle agent seen ∧ ∀ hub, PastBinding payload (seen ++ [hub])

theorem heeds_create (past : PastBinding payload seen) (ip : Text)
    (version : Option (Option Text)) (protocol : ℤ) :
    Heeds fine allowed (Registered payload middle) seen
      (createRegistered platform ip version protocol) := by
  intro hub _
  obtain ⟨permitted, made⟩ := registers.creates ip version protocol seen hub past
  refine ⟨permitted, heeds_fromExcept fun agent same => ⟨made agent ?_, fun _ => ?_⟩⟩
  · exact congrArg Program.done same
  · exact (past.append _).append _

theorem heeds_writeBinding {uuid : Text} (named : namedAgent payload = some uuid) {exist : AgentRow}
    (found : Found platform payload uuid (some exist) seen) (ip : Text)
    (version : Option (Option Text)) (protocol : ℤ) :
    Heeds fine allowed (Registered payload middle) seen
      (updateRegistered platform ip uuid exist version protocol) := by
  intro hub fineHere
  obtain ⟨permitted, made⟩ :=
    registers.writes ip uuid exist version protocol seen hub named found fineHere
  refine ⟨permitted, heeds_fromExcept fun agent same => ⟨made agent ?_, fun hub' => ?_⟩⟩
  · exact congrArg Program.done same
  · apply pastBinding_of_length named
    rw [(found.admitted.append hub).lookIndex_append, found.admitted.lookIndex_append]
    simp only [List.length_append, List.length_singleton]
    have := found.length
    omega

theorem heeds_registerNamed {uuid : Text} (named : namedAgent payload = some uuid)
    (present : uuid ≠ []) (length : seen.length = lookIndex uuid seen)
    (admitted : Admitted platform payload uuid seen) (ip : Text)
    (agentVersion protocolVersion : Option Value) :
    Heeds fine allowed (Registered payload middle) seen
      (registerAgent platform ip (some (.string uuid)) agentVersion protocolVersion) := by
  have outside : NotBinding payload seen := by
    rintro other same ⟨later, -⟩
    obtain rfl := Option.some.inj (named.symm.trans same)
    omega
  rw [registerAgent]
  apply Heeds.bind
  apply (heeds_findNamed registers present outside).mono
  rintro exist _ - ⟨looked, rfl, rfl⟩
  have found := admitted.found length looked
  apply Heeds.bind
  apply heeds_orThrow
  intro version _
  apply Heeds.bind
  apply heeds_orThrow
  intro protocol _
  cases row : rowOf looked.database uuid with
  | none =>
    rw [row] at found
    exact heeds_create registers (found.pastBinding named) _ _ _
  | some exist =>
    rw [row] at found
    exact heeds_writeBinding registers named found _ _ _

theorem heeds_registerUnnamed (unnamed : namedAgent payload = none) {agentUuid : Value}
    (empty : ∀ uuid, agentUuid = .string uuid → uuid = []) (ip : Text)
    (agentVersion protocolVersion : Option Value) :
    Heeds fine allowed (Registered payload middle) seen
      (registerAgent platform ip (some agentUuid) agentVersion protocolVersion) := by
  have outside := notBinding_of_unnamed unnamed
  rw [registerAgent]
  apply Heeds.bind
  apply (heeds_findExist platform
    (fun hub => registers.rests _ _ _ (outside _) (rests_refl hub)) _).mono
  intro exist seen _ truthy
  apply Heeds.bind
  apply heeds_orThrow
  intro version _
  apply Heeds.bind
  apply heeds_orThrow
  intro protocol _
  split
  · rename_i exist uuid named
    have wrong := truthy rfl
    rw [named, empty uuid named] at wrong
    cases wrong
  · exact trivial
  · exact heeds_create registers (fun later _ => outside later) _ _ _

theorem heeds_bindRegistered {agent : RegisteredAgent}
    (registered : Registered payload middle agent seen) :
    Heeds fine allowed (fun _ => PastBinding payload) seen (bindAndAttach client agent) := by
  obtain ⟨known, past⟩ := registered
  rw [bindAndAttach]
  split
  · rename_i secret issued
    exact heeds_step fun hub met => ⟨registers.issues _ _ _ hub known issued met, past hub⟩
  · rename_i unissued
    apply Heeds.bind
    refine heeds_step fun hub met => ⟨registers.binds _ _ hub known unissued met, ?_⟩
    apply Heeds.bind
    apply heeds_glance registers (past hub).here
    intro hub'
    refine heeds_step fun hub'' _ => ⟨?_, ((past hub).append hub').append hub''⟩
    refine registers.rests _ _ _ ((past hub).append hub').here ?_
    exact ⟨rfl, fun _ => rfl⟩

/-- A registration does what is allowed if its write and its binding do, and all that rests
is allowed while it is not about to bind. -/
theorem heeds_register :
    Heeds fine allowed (fun _ _ => True) [] (handler platform (.register client payload)) := by
  have short (seen : List Hub) (length : seen.length < 5) := @notBinding_of_short payload _ length
  -- what follows the binding
  have finishes (agent : RegisteredAgent) (version : Option Text) (seen : List Hub)
      (past : PastBinding payload seen) :
      Heeds fine allowed (fun _ _ => True) seen (do
        AgentUpdateService.handleReconnect agent.uuid version
        step fun hub => ((), hub.notifyWorkspaceUpdated agent.parentWorkspace)) := by
    apply Heeds.bind
    apply ((aside_handleReconnect _ _).heeds_from fun later before after longer aside =>
      registers.rests _ _ _ (past later longer) (rests_of_aside aside)).mono
    intro _ later _ longer
    refine heeds_step fun hub _ => ⟨registers.rests _ _ _ (past later longer) ?_, trivial⟩
    exact ⟨rfl, fun _ => rfl⟩
  apply Heeds.bind
  apply heeds_glance registers (short [] (by decide))
  intro first
  change Heeds _ _ _ [first] _
  split
  swap
  · exact trivial
  rw [handleValidation]
  apply Heeds.bind
  apply heeds_orThrow
  intro members read
  apply Heeds.bind
  apply heeds_fromExcept
  intro refusal _
  apply Heeds.bind
  apply heeds_orThrow
  intro _ _
  cases refusal with
  | some refusal =>
    refine heeds_step fun hub _ => ⟨registers.rests _ _ _ (short [first] (by simp)) ?_, trivial⟩
    exact ⟨rfl, fun _ => rfl⟩
  | none =>
    rcases namedAgent_cases read with ⟨uuid, present, value, named⟩ | ⟨unnamed, empty⟩
    · rw [value]
      apply Heeds.bind
      apply (heeds_proveNamed registers first present).mono
      rintro proved seen - ⟨few, admitted⟩
      split
      swap
      · exact trivial
      obtain ⟨length, admitted⟩ := admitted ‹_›
      apply Heeds.bind
      apply heeds_glance registers (short seen (by omega))
      intro hub
      apply Heeds.bind
      apply (heeds_registerNamed registers named present ?_ (admitted.append hub) _ _ _).mono
      · intro agent seen _ registered
        apply Heeds.bind
        apply (heeds_bindRegistered registers registered).mono
        exact fun _ seen _ past => finishes agent _ seen past
      · rw [admitted.lookIndex_append, List.length_append, List.length_singleton, length]
    · have outside := notBinding_of_unnamed unnamed
      apply Heeds.bind
      apply ((always_rests_proveIdentity platform client payload _).heeds
        fun seen before after => registers.rests _ _ _ (outside seen)).mono
      rintro proved seen - -
      split
      swap
      · exact trivial
      apply Heeds.bind
      apply heeds_glance registers (outside _)
      intro hub
      apply Heeds.bind
      apply (heeds_registerUnnamed registers unnamed empty _ _ _).mono
      intro agent seen _ registered
      apply Heeds.bind
      apply (heeds_bindRegistered registers registered).mono
      exact fun _ seen _ past => finishes agent _ seen past

end Registration

end AgentGateway

end OpticsHub
