import OpticsHub.Gateway.Sockets

/-!
# The pools of preconnected sockets

Every socket in the pool of an Agent was accepted by the Hub for that Agent, is in no other
pool, and no pool holds more than its share. That a socket in a pool has not closed holds along
a run exactly if no socket closes while the Hub is asked about it: it is added after its close
handlers could have removed it. Claims do not depend on this, for they pass over what cannot be
used: no socket is handed out twice, and none that can be used is passed over.
-/
namespace OpticsHub

open Script Net Machine

namespace Gateway

/-! ## Pools on their own -/

namespace Pools

/-- The members of the pools know where they are, and the pools are sets of their own. -/
structure Sound (leaves : ℕ → Option (Text × ℕ)) (pools : Pools) : Prop where
  tracked : ∀ {agentUuid pool}, pools.get agentUuid = some pool →
    ∀ control ∈ pools.sets pool, leaves control = some (agentUuid, pool)
  bounded : ∀ pool, (pools.sets pool).length ≤ maxPoolPerAgent
  distinct : ∀ pool, (pools.sets pool).Nodup
  drawn : ∀ {agentUuid pool}, pools.get agentUuid = some pool → pool < pools.drawn
  apart : ∀ {agentUuid other pool}, pools.get agentUuid = some pool →
    pools.get other = some pool → agentUuid = other

section Sets

variable {leaves : ℕ → Option (Text × ℕ)} {pools : Pools} {agentUuid : Text} {control pool : ℕ}

theorem waiting_of_get (here : pools.get agentUuid = some pool) :
    pools.waiting agentUuid = pools.sets pool := by
  simp [waiting, here]

theorem mem_waiting : control ∈ pools.waiting agentUuid ↔
    ∃ pool, pools.get agentUuid = some pool ∧ control ∈ pools.sets pool := by
  cases here : pools.get agentUuid <;> simp [waiting, here]

theorem length_waiting (sound : pools.Sound leaves) :
    (pools.waiting agentUuid).length ≤ maxPoolPerAgent := by
  cases here : pools.get agentUuid with
  | none => simp [waiting, here]
  | some pool => exact waiting_of_get here ▸ sound.bounded pool

/-- A socket that is in a pool knows its Agent. -/
theorem Sound.leaves_of_mem (sound : pools.Sound leaves)
    (inside : control ∈ pools.waiting agentUuid) :
    ∃ pool, pools.get agentUuid = some pool ∧ leaves control = some (agentUuid, pool) := by
  obtain ⟨pool, here, member⟩ := mem_waiting.mp inside
  exact ⟨pool, here, sound.tracked here control member⟩

/-- The pools without that of an Agent. -/
theorem get_erased (sets : ℕ → List ℕ) (other : Text) :
    get other { pools with sets := sets, agents := Members.erase pools.agents agentUuid } =
      if other = agentUuid then none else pools.get other :=
  Members.own_erase _ _ _

/-! ### Adding -/

theorem get_add (other : Text) :
    (pools.add agentUuid control).get other =
      if other = agentUuid then some (pools.getOrNew agentUuid) else pools.get other := by
  by_cases same : other = agentUuid
  · rw [if_pos same, same]
    exact Members.own_define _ _ _
  · rw [if_neg same]
    exact Members.own_define_ne _ same _

/-- A set that another Agent's pool is not. -/
theorem Sound.ne_getOrNew (sound : pools.Sound leaves) {other : Text} {pool : ℕ}
    (there : pools.get other = some pool) (differs : other ≠ agentUuid) :
    pool ≠ pools.getOrNew agentUuid := by
  rintro rfl
  cases here : pools.get agentUuid with
  | none =>
    have below := sound.drawn there
    simp [getOrNew, here] at below
  | some own =>
    apply differs
    refine sound.apart there ?_
    simp [getOrNew, here]

theorem Sound.notMem_waiting (sound : pools.Sound leaves) (new : leaves control = none) :
    control ∉ pools.waiting agentUuid := by
  intro inside
  obtain ⟨pool, -, known⟩ := sound.leaves_of_mem inside
  rw [new] at known
  cases known

theorem sets_add (sound : pools.Sound leaves) (new : leaves control = none) :
    (pools.add agentUuid control).sets =
      Function.update pools.sets (pools.getOrNew agentUuid)
        (pools.waiting agentUuid ++ [control]) := by
  simp [add, sound.notMem_waiting new]

theorem waiting_add (sound : pools.Sound leaves) (new : leaves control = none) (other : Text) :
    (pools.add agentUuid control).waiting other =
      if other = agentUuid then pools.waiting agentUuid ++ [control] else pools.waiting other := by
  rw [waiting, get_add, sets_add sound new]
  by_cases same : other = agentUuid
  · simp [same]
  · rw [if_neg same, if_neg same]
    cases there : pools.get other with
    | none => simp [waiting, there]
    | some pool =>
      rw [waiting_of_get there, Option.map_some, Option.getD_some,
        Function.update_of_ne (sound.ne_getOrNew there same)]

theorem Sound.add (sound : pools.Sound leaves) (new : leaves control = none)
    (room : (pools.waiting agentUuid).length < maxPoolPerAgent) :
    (pools.add agentUuid control).Sound
      (Function.update leaves control (some (agentUuid, pools.getOrNew agentUuid))) := by
  have older {other : ℕ} {known : Text × ℕ} (there : leaves other = some known) :
      Function.update leaves control (some (agentUuid, pools.getOrNew agentUuid)) other =
        some known := by
    rw [Function.update_of_ne, there]
    rintro rfl
    rw [new] at there
    cases there
  constructor
  case tracked =>
    intro other pool there member inside
    rw [get_add] at there
    rw [sets_add sound new] at inside
    split at there
    · rename_i same
      obtain rfl := Option.some.inj there
      rw [Function.update_self, List.mem_append, List.mem_singleton] at inside
      rcases inside with before | rfl
      · obtain ⟨pool, here, known⟩ := sound.leaves_of_mem before
        rw [older known, same, getOrNew, here]
        rfl
      · rw [Function.update_self, same]
    · rename_i differs
      rw [Function.update_of_ne (sound.ne_getOrNew there differs)] at inside
      exact older (sound.tracked there member inside)
  case bounded =>
    intro pool
    rw [sets_add sound new]
    by_cases same : pool = pools.getOrNew agentUuid
    · rw [same, Function.update_self, List.length_append, List.length_singleton]
      exact room
    · rw [Function.update_of_ne same]
      exact sound.bounded pool
  case distinct =>
    intro pool
    rw [sets_add sound new]
    by_cases same : pool = pools.getOrNew agentUuid
    · rw [same, Function.update_self, List.nodup_append]
      refine ⟨?_, by simp, ?_⟩
      · cases here : pools.get agentUuid with
        | none => simp [waiting, here]
        | some own => exact waiting_of_get here ▸ sound.distinct own
      · intro member inside other last same
        rw [List.mem_singleton] at last
        exact sound.notMem_waiting new (last ▸ same ▸ inside)
    · rw [Function.update_of_ne same]
      exact sound.distinct pool
  case drawn =>
    intro other pool there
    rw [get_add] at there
    rw [Pools.add]
    cases here : pools.get agentUuid with
    | none =>
      split at there
      · obtain rfl := Option.some.inj there
        simp [getOrNew, here]
      · exact Nat.lt_succ_of_lt (sound.drawn there)
    | some own =>
      split at there
      · obtain rfl := Option.some.inj there
        simpa [getOrNew, here] using sound.drawn here
      · exact sound.drawn there
  case apart =>
    intro first second pool one two
    rw [get_add] at one two
    split at one <;> split at two
    · simp_all
    · obtain rfl := Option.some.inj one
      exact absurd rfl (sound.ne_getOrNew two ‹_›)
    · obtain rfl := Option.some.inj two
      exact absurd rfl (sound.ne_getOrNew one ‹_›)
    · exact sound.apart one two

/-! ### Removing -/

/-- What is left of the pools when a set loses members, and an Agent perhaps its pool. -/
theorem Sound.lessen (sound : pools.Sound leaves) {pools' : Pools}
    (agents : ∀ other pool, pools'.get other = some pool → pools.get other = some pool)
    (sets : ∀ pool, (pools'.sets pool).Sublist (pools.sets pool))
    (drawn : pools'.drawn = pools.drawn) : pools'.Sound leaves where
  tracked there member inside := sound.tracked (agents _ _ there) member ((sets _).subset inside)
  bounded pool := (sets pool).length_le.trans (sound.bounded pool)
  distinct pool := (sets pool).nodup (sound.distinct pool)
  drawn there := drawn ▸ sound.drawn (agents _ _ there)
  apart one two := sound.apart (agents _ _ one) (agents _ _ two)

/-- What waits in pools that were lessened waited before. -/
theorem waiting_lessen {pools' : Pools}
    (agents : ∀ other pool, pools'.get other = some pool → pools.get other = some pool)
    (sets : ∀ pool, (pools'.sets pool).Sublist (pools.sets pool)) (other : Text) :
    pools'.waiting other ⊆ pools.waiting other := by
  intro member inside
  obtain ⟨pool, there, here⟩ := mem_waiting.mp inside
  exact mem_waiting.mpr ⟨pool, agents other pool there, (sets pool).subset here⟩

theorem get_remove (other : Text) :
    (pools.remove agentUuid pool control).get other =
      if other = agentUuid ∧ pools.get agentUuid = some pool ∧
        (pools.sets pool).erase control = [] then none else pools.get other := by
  by_cases emptied : pools.get agentUuid = some pool ∧ (pools.sets pool).erase control = []
  · change Members.own (if _ then _ else _) other = _
    rw [if_pos emptied]
    refine (Members.own_erase _ _ _).trans ?_
    simp only [emptied, and_true]
    rfl
  · change Members.own (if _ then _ else _) other = _
    rw [if_neg emptied, if_neg fun both => emptied both.2]
    rfl

/-- A set less one of its members. -/
theorem sublist_erased (other : ℕ) :
    (Function.update pools.sets pool ((pools.sets pool).erase control) other).Sublist
      (pools.sets other) := by
  by_cases same : other = pool
  · rw [same, Function.update_self]
    exact List.erase_sublist
  · rw [Function.update_of_ne same]

theorem get_of_get_remove {other : Text} {own : ℕ}
    (there : (pools.remove agentUuid pool control).get other = some own) :
    pools.get other = some own := by
  rw [get_remove] at there
  split at there
  · cases there
  · exact there

theorem Sound.remove (sound : pools.Sound leaves) (agentUuid : Text) (pool control : ℕ) :
    (pools.remove agentUuid pool control).Sound leaves :=
  sound.lessen (fun _ _ => get_of_get_remove) sublist_erased rfl

theorem waiting_remove (agentUuid : Text) (pool control : ℕ) (other : Text) :
    (pools.remove agentUuid pool control).waiting other ⊆ pools.waiting other :=
  waiting_lessen (fun _ _ => get_of_get_remove) sublist_erased other

/-- A socket that is removed from the set that it knows is in no pool any more. -/
theorem Sound.notMem_remove (sound : pools.Sound leaves)
    (known : leaves control = some (agentUuid, pool)) (other : Text) :
    control ∉ (pools.remove agentUuid pool control).waiting other := by
  intro inside
  obtain ⟨own, there, member⟩ := mem_waiting.mp inside
  have tracked := (sound.remove agentUuid pool control).tracked there control member
  obtain ⟨rfl, rfl⟩ := Prod.mk.inj (Option.some.inj (known.symm.trans tracked))
  have erased : control ∈ (pools.sets pool).erase control := by
    simpa [Pools.remove] using member
  exact (sound.distinct pool).not_mem_erase erased

/-! ### Claiming -/

theorem get_of_get_claim (usable : ℕ → Bool) {other : Text} {own : ℕ}
    (there : (pools.claim usable agentUuid).2.get other = some own) :
    pools.get other = some own := by
  rcases pools.claim_cases usable agentUuid with
    ⟨-, same⟩ | ⟨pool, -, -, same⟩ | ⟨pool, passed, control, rest, -, -, -, -, same⟩
  · rwa [same] at there
  · rw [same, get_erased] at there
    split at there
    · cases there
    · exact there
  · rw [same] at there
    exact there

theorem sublist_claim (usable : ℕ → Bool) (agentUuid : Text) (other : ℕ) :
    ((pools.claim usable agentUuid).2.sets other).Sublist (pools.sets other) := by
  have lessened (pool : ℕ) {left : List ℕ} (part : left.Sublist (pools.sets pool)) :
      (Function.update pools.sets pool left other).Sublist (pools.sets other) := by
    by_cases same : other = pool
    · rw [same, Function.update_self]
      exact part
    · rw [Function.update_of_ne same]
  rcases pools.claim_cases usable agentUuid with
    ⟨-, same⟩ | ⟨pool, -, -, same⟩ | ⟨pool, passed, control, rest, -, split, -, -, same⟩
  · rw [same]
  · rw [same]
    exact lessened pool (List.nil_sublist _)
  · rw [same]
    apply lessened pool
    rw [split]
    exact (List.sublist_cons_self control rest).trans (List.sublist_append_right passed _)

theorem drawn_claim (usable : ℕ → Bool) (agentUuid : Text) :
    (pools.claim usable agentUuid).2.drawn = pools.drawn := by
  rcases pools.claim_cases usable agentUuid with
    ⟨-, same⟩ | ⟨_, -, -, same⟩ | ⟨_, _, _, _, -, -, -, -, same⟩ <;> rw [same]

theorem Sound.claim (sound : pools.Sound leaves) (usable : ℕ → Bool) (agentUuid : Text) :
    (pools.claim usable agentUuid).2.Sound leaves :=
  sound.lessen (fun _ _ => get_of_get_claim usable) (sublist_claim usable agentUuid)
    (drawn_claim usable agentUuid)

theorem waiting_claim (usable : ℕ → Bool) (agentUuid other : Text) :
    (pools.claim usable agentUuid).2.waiting other ⊆ pools.waiting other :=
  waiting_lessen (fun _ _ => get_of_get_claim usable) (sublist_claim usable agentUuid) other

/-- What a claim takes waited in the pool of the Agent, and waits nowhere any more. -/
theorem Sound.taken (sound : pools.Sound leaves) {usable : ℕ → Bool} {left : Pools}
    (claimed : pools.claim usable agentUuid = (some control, left)) :
    control ∈ pools.waiting agentUuid ∧ ∀ other, control ∉ left.waiting other := by
  have after : left = (pools.claim usable agentUuid).2 := by rw [claimed]
  rcases pools.claim_cases usable agentUuid with
    ⟨-, same⟩ | ⟨_, -, -, same⟩ | ⟨pool, passed, taken, rest, here, split, -, -, same⟩
  · rw [same] at claimed
    cases claimed
  · rw [same] at claimed
    cases claimed
  · obtain rfl : taken = control := by
      rw [same] at claimed
      exact Option.some.inj (Prod.mk.inj claimed).1
    have member : taken ∈ pools.waiting agentUuid := by
      rw [waiting_of_get here, split]
      simp
    refine ⟨member, fun other inside => ?_⟩
    obtain ⟨own, there, known⟩ := (after ▸ sound.claim usable agentUuid).leaves_of_mem inside
    have tracked := sound.tracked here taken (waiting_of_get here ▸ member)
    obtain ⟨rfl, rfl⟩ := Prod.mk.inj (Option.some.inj (tracked.symm.trans known))
    have distinct := sound.distinct pool
    rw [waiting_of_get there, after, same] at inside
    have later : taken ∈ rest := by simpa using inside
    rw [split] at distinct
    exact (List.nodup_cons.mp (List.nodup_append.mp distinct).2.1).1 later

/-- A claim that takes nothing finds nothing that is usable. -/
theorem unusable_of_missed {usable : ℕ → Bool} {left : Pools}
    (claimed : pools.claim usable agentUuid = (none, left)) :
    ∀ control ∈ pools.waiting agentUuid, usable control = false := by
  rcases pools.claim_cases usable agentUuid with
    ⟨here, -⟩ | ⟨pool, here, unusable, -⟩ | ⟨_, _, _, _, -, -, -, -, same⟩
  · simp [waiting, here]
  · rw [waiting_of_get here]
    exact unusable
  · rw [same] at claimed
    cases claimed

/-- A claim passes over what cannot be used only. -/
theorem Sound.spared (sound : pools.Sound leaves) {usable : ℕ → Bool} {left : Pools}
    {result : Option ℕ} (claimed : pools.claim usable agentUuid = (result, left)) {other : Text}
    (inside : control ∈ pools.waiting other) (free : usable control = true) :
    result = some control ∨ control ∈ left.waiting other := by
  have after : left = (pools.claim usable agentUuid).2 := by rw [claimed]
  obtain ⟨own, there, member⟩ := mem_waiting.mp inside
  rcases pools.claim_cases usable agentUuid with
    ⟨-, same⟩ | ⟨pool, here, unusable, same⟩ | ⟨pool, passed, taken, rest, here, split, -, dead, same⟩
  · exact .inr (by rwa [after, same])
  · by_cases own' : other = agentUuid
    · obtain rfl := Option.some.inj (there.symm.trans (own' ▸ here))
      rw [unusable control member] at free
      cases free
    · refine .inr (mem_waiting.mpr ⟨own, ?_, ?_⟩)
      · rw [after, same, get_erased, if_neg own', there]
      · have apart : own ≠ pool := by
          rintro rfl
          exact own' (sound.apart there here)
        rw [after, same]
        simpa [apart] using member
  · by_cases own' : own = pool
    · subst own'
      rw [split, List.mem_append, List.mem_cons] at member
      rcases member with passedOver | rfl | later
      · rw [dead control passedOver] at free
        cases free
      · left
        rw [same] at claimed
        exact (Prod.mk.inj claimed).1.symm
      · refine .inr (mem_waiting.mpr ⟨own, ?_, ?_⟩)
        · rw [after, same]
          exact there
        · rw [after, same]
          simpa using later
    · refine .inr (mem_waiting.mpr ⟨own, ?_, ?_⟩)
      · rw [after, same]
        exact there
      · rw [after, same]
        simpa [own'] using member

end Sets

end Pools

/-! ## Pools along a run -/

/-- What was shown in the past. -/
def Shown (past : List (Event × List Observation)) (shown : Observation) : Prop :=
  ∃ event ∈ past, shown ∈ event.2

/-- The Hub was asked whether a socket is that of an Agent, and said so afterwards. -/
def Accepted (past : List (Event × List Observation)) (control : ℕ) (agentUuid : Text) : Prop :=
  ∃ before reply shown after, past = before ++ (.verdict control reply, shown) :: after ∧
    verifyWithHub reply = .ok () ∧
    ∃ body, Shown before (.verifies control body) ∧ body.agentUuid = agentUuid

section Histories

variable {past : List (Event × List Observation)} {event : Event × List Observation}
  {shown : Observation} {control : ℕ} {agentUuid : Text}

theorem Shown.append (before : Shown past shown) (event : Event × List Observation) :
    Shown (past ++ [event]) shown := by
  obtain ⟨earlier, inside, here⟩ := before
  exact ⟨earlier, List.mem_append_left _ inside, here⟩

theorem shown_append : Shown (past ++ [event]) shown ↔ Shown past shown ∨ shown ∈ event.2 := by
  constructor
  · rintro ⟨earlier, inside, here⟩
    rcases List.mem_append.mp inside with before | last
    · exact .inl ⟨earlier, before, here⟩
    · exact .inr (List.mem_singleton.mp last ▸ here)
  · rintro (before | here)
    · exact before.append event
    · exact ⟨event, by simp, here⟩

theorem Accepted.append (before : Accepted past control agentUuid)
    (event : Event × List Observation) : Accepted (past ++ [event]) control agentUuid := by
  obtain ⟨earlier, reply, shown, after, rfl, ok⟩ := before
  exact ⟨earlier, reply, shown, after ++ [event], by simp, ok⟩

end Histories

/-- What is known of the sockets that Agents open in advance: those whose first line is awaited
or verified are in no pool, the Hub was asked about those that are verified and accepted those
that are in pools, and those that were handed out are not in pools any more. -/
structure Pooling (past : List (Event × List Observation)) (wiring : Wiring) : Prop where
  sound : wiring.pools.Sound wiring.leaves
  fresh : ∀ control, wiring.listeners (.control control) = .onData →
    wiring.verifying control = none ∧ wiring.leaves control = none
  asked : ∀ control agentUuid, wiring.verifying control = some agentUuid →
    wiring.leaves control = none ∧
      ∃ body, Shown past (.verifies control body) ∧ body.agentUuid = agentUuid
  accepted : ∀ control agentUuid pool, wiring.leaves control = some (agentUuid, pool) →
    Accepted past control agentUuid
  spent : ∀ client agentUuid control, Shown past (.claims client agentUuid (some control)) →
    wiring.leaves control ≠ none ∧ ∀ other, control ∉ wiring.pools.waiting other

section Pooling

variable {identifiers : Identifiers} {free : ℕ → Bool} {past : List (Event × List Observation)}
  {wiring next : Wiring} {event : Event} {shown : List Observation}

/-- A move that adds nothing to the pools and claims nothing that it has not taken. -/
theorem Pooling.kept (pooling : Pooling past wiring) (event : Event)
    (sound : next.pools.Sound wiring.leaves) (leaves : next.leaves = wiring.leaves)
    (waiting : ∀ agentUuid, next.pools.waiting agentUuid ⊆ wiring.pools.waiting agentUuid)
    (listeners : ∀ control, next.listeners (.control control) = .onData →
      wiring.listeners (.control control) = .onData)
    (verifying : ∀ control agentUuid, next.verifying control = some agentUuid →
      wiring.verifying control = some agentUuid ∨
        wiring.listeners (.control control) = .onData ∧
          next.listeners (.control control) ≠ .onData ∧
          ∃ body, .verifies control body ∈ shown ∧ body.agentUuid = agentUuid)
    (taken : ∀ client agentUuid control, .claims client agentUuid (some control) ∈ shown →
      control ∈ wiring.pools.waiting agentUuid ∧
        ∀ other, control ∉ next.pools.waiting other) :
    Pooling (past ++ [(event, shown)]) next where
  sound := leaves ▸ sound
  fresh control heard := by
    obtain ⟨unasked, unpooled⟩ := pooling.fresh control (listeners control heard)
    refine ⟨?_, leaves ▸ unpooled⟩
    cases asked : next.verifying control with
    | none => rfl
    | some agentUuid =>
      rcases verifying control agentUuid asked with before | ⟨-, changed, -⟩
      · rw [unasked] at before
        cases before
      · exact absurd heard changed
  asked control agentUuid asked := by
    rw [leaves]
    rcases verifying control agentUuid asked with before | ⟨heard, -, body, here, same⟩
    · obtain ⟨unpooled, body, shownBefore, same⟩ := pooling.asked control agentUuid before
      exact ⟨unpooled, body, shownBefore.append _, same⟩
    · exact ⟨(pooling.fresh control heard).2, body, shown_append.mpr (.inr here), same⟩
  accepted control agentUuid pool known :=
    (pooling.accepted control agentUuid pool (leaves ▸ known)).append _
  spent client agentUuid control claimed := by
    rw [leaves]
    rcases shown_append.mp claimed with before | here
    · obtain ⟨known, nowhere⟩ := pooling.spent client agentUuid control before
      exact ⟨known, fun other inside => nowhere other (waiting other inside)⟩
    · obtain ⟨inside, nowhere⟩ := taken client agentUuid control here
      obtain ⟨pool, -, known⟩ := pooling.sound.leaves_of_mem inside
      exact ⟨by simp [known], nowhere⟩

/-- A move that touches no pool. -/
theorem Pooling.aside (pooling : Pooling past wiring)
    (move : Move identifiers free wiring event shown next) (pools : next.pools = wiring.pools)
    (leaves : next.leaves = wiring.leaves)
    (verifying : ∀ control agentUuid, next.verifying control = some agentUuid →
      wiring.verifying control = some agentUuid)
    (silent : ∀ client agentUuid control, .claims client agentUuid (some control) ∉ shown) :
    Pooling (past ++ [(event, shown)]) next :=
  pooling.kept event (pools ▸ pooling.sound) leaves (fun _ => pools ▸ List.Subset.refl _)
    (fun _ => onData_move move) (fun _ _ asked => .inl (verifying _ _ asked))
    fun _ _ _ here => absurd here (silent _ _ _)

/-- The pools after a claim. -/
theorem Pooling.claims (pooling : Pooling past wiring)
    (move : Move identifiers free wiring event shown next) {agentUuid : Text}
    {result : Option ℕ} {left : Pools} (claimed : wiring.pools.claim free agentUuid = (result, left))
    (pools : next.pools = left) (leaves : next.leaves = wiring.leaves)
    (verifying : next.verifying = wiring.verifying)
    (only : ∀ client' agentUuid' control, .claims client' agentUuid' (some control) ∈ shown →
      agentUuid' = agentUuid ∧ result = some control) :
    Pooling (past ++ [(event, shown)]) next := by
  have after : left = (wiring.pools.claim free agentUuid).2 := by rw [claimed]
  refine pooling.kept event ?_ leaves (fun other => ?_) (fun _ => onData_move move)
    (fun _ _ asked => .inl (verifying ▸ asked)) ?_
  · rw [pools, after]
    exact pooling.sound.claim free agentUuid
  · rw [pools, after]
    exact Pools.waiting_claim free agentUuid other
  · intro client' agentUuid' control here
    obtain ⟨rfl, rfl⟩ := only client' agentUuid' control here
    rw [pools]
    exact pooling.sound.taken claimed

/-- A socket that the Hub accepts joins the pool of its Agent. -/
theorem Pooling.accepts (pooling : Pooling past wiring) {control : ℕ} {agentUuid : Text}
    {reply : Option (ℕ × Option Value)} (awaited : wiring.verifying control = some agentUuid)
    (ok : verifyWithHub reply = .ok ())
    (room : (wiring.pools.waiting agentUuid).length < maxPoolPerAgent) :
    Pooling (past ++ [(.verdict control reply, [])])
      ((wiring.verify control none).pool control agentUuid) := by
  obtain ⟨new, body, shownBefore, same⟩ := pooling.asked control agentUuid awaited
  have known (other : ℕ) (differs : other ≠ control) :
      ((wiring.verify control none).pool control agentUuid).leaves other = wiring.leaves other :=
    Function.update_of_ne differs _ _
  constructor
  case sound => exact pooling.sound.add new room
  case fresh =>
    intro other heard
    by_cases self : other = control
    · subst self
      simp [Wiring.pool, Wiring.listen] at heard
    · have before : wiring.listeners (.control other) = .onData := by
        simpa [Wiring.pool, Wiring.listen, Wiring.verify, self] using heard
      obtain ⟨unasked, unpooled⟩ := pooling.fresh other before
      rw [known other self]
      exact ⟨by simpa [Wiring.pool, Wiring.listen, Wiring.verify, self] using unasked, unpooled⟩
  case asked =>
    intro other agentUuid' asked
    by_cases self : other = control
    · subst self
      simp [Wiring.pool, Wiring.listen, Wiring.verify] at asked
    · obtain ⟨unpooled, body', shownEarlier, same'⟩ := pooling.asked other agentUuid'
        (by simpa [Wiring.pool, Wiring.listen, Wiring.verify, self] using asked)
      rw [known other self]
      exact ⟨unpooled, body', shownEarlier.append _, same'⟩
  case accepted =>
    intro other agentUuid' pool there
    by_cases self : other = control
    · subst self
      have named : some (agentUuid, wiring.pools.getOrNew agentUuid) = some (agentUuid', pool) := by
        simpa [Wiring.pool, Wiring.verify] using there
      obtain ⟨rfl, -⟩ := Prod.mk.inj (Option.some.inj named)
      exact ⟨past, reply, [], [], rfl, ok, body, shownBefore, same⟩
    · exact (pooling.accepted other agentUuid' pool (known other self ▸ there)).append _
  case spent =>
    intro client agentUuid' other claimed
    rcases shown_append.mp claimed with before | here
    · obtain ⟨there, nowhere⟩ := pooling.spent client agentUuid' other before
      have self : other ≠ control := by
        rintro rfl
        exact there new
      rw [known other self]
      refine ⟨there, fun agentUuid'' inside => ?_⟩
      change other ∈ (wiring.pools.add agentUuid control).waiting agentUuid'' at inside
      rw [Pools.waiting_add pooling.sound new] at inside
      split at inside
      · rcases List.mem_append.mp inside with old | added
        · exact nowhere agentUuid old
        · exact self (List.mem_singleton.mp added)
      · exact nowhere agentUuid'' inside
    · cases here

theorem Pooling.move (pooling : Pooling past wiring)
    (move : Move identifiers free wiring event shown next) :
    Pooling (past ++ [(event, shown)]) next := by
  have whole := move
  cases move with
  | verifies control count heard body =>
    refine pooling.kept _ pooling.sound rfl (fun _ => List.Subset.refl _)
      (fun _ => onData_move whole) (fun other agentUuid asked => ?_)
      (by simp)
    by_cases self : other = control
    · subst self
      right
      have named : some body.agentUuid = some agentUuid := by
        simpa [Wiring.verify] using asked
      exact ⟨heard, by simp [Wiring.verify, Wiring.detach, Wiring.listen], body, by simp,
        Option.some.inj named⟩
    · left
      simpa [Wiring.verify, Wiring.detach, Wiring.listen, self] using asked
  | refuses control reply agentUuid awaited refused =>
    refine pooling.aside whole rfl rfl (fun other agentUuid' asked => ?_) (by simp)
    by_cases self : other = control
    · subst self
      simp [Wiring.verify] at asked
    · simpa [Wiring.verify, self] using asked
  | accepts control reply agentUuid awaited ok room => exact pooling.accepts awaited ok room
  | serves client body awaited agentUuid control left port claimed named =>
    exact pooling.claims whole claimed rfl rfl rfl (by simp +contextual)
  | misses client body awaited agentUuid left claimed rest route =>
    exact pooling.claims whole claimed rfl rfl rfl (by simp)
  | drops client body awaited agentUuid control left claimed unnamed rest route detached same =>
    exact pooling.claims whole claimed rfl rfl rfl (by simp +contextual)
  | closesControl control =>
    refine pooling.kept _ ?_ rfl (fun agentUuid => ?_) (fun _ => onData_move whole)
      (fun _ _ asked => .inl asked) (by simp)
    · change (wiring.leave control).Sound wiring.leaves
      rw [Wiring.leave]
      split
      · exact pooling.sound.remove _ _ _
      · exact pooling.sound
    · change (wiring.leave control).waiting agentUuid ⊆ _
      rw [Wiring.leave]
      split
      · exact Pools.waiting_remove _ _ _ _
      · exact List.Subset.refl _
  | _ => exact pooling.aside whole rfl rfl (fun _ _ asked => asked) (by simp)

theorem pooling_started : Pooling [] (State.wiring {}) where
  sound :=
    { tracked := fun here => by cases here
      bounded := fun _ => Nat.zero_le _
      distinct := fun _ => List.nodup_nil
      drawn := fun here => by cases here
      apart := fun here => by cases here }
  fresh _ _ := ⟨rfl, rfl⟩
  asked _ _ asked := by cases asked
  accepted _ _ _ known := by cases known
  spent _ _ _ claimed := by
    obtain ⟨_, inside, -⟩ := claimed
    cases inside

theorem Pooling.onward (identifiers : Identifiers) {state : State}
    (pooling : Pooling past state.wiring) (event : Event) :
    Pooling (past ++ [(event, (step identifiers state event).1)])
      (step identifiers state event).2.wiring :=
  pooling.move (step_moves identifiers state event)

end Pooling

/-! ## What is in a pool -/

section Waiting

variable {identifiers : Identifiers} {past : List (Event × List Observation)} {state : State}

/-- Every socket in a pool was accepted for its Agent, is in no other pool, and has not closed, and
no pool holds more than its share. -/
def PoolsHold (past : List (Event × List Observation)) (state : State) : Prop :=
  ∀ agentUuid, (state.pools.waiting agentUuid).length ≤ maxPoolPerAgent ∧
    (state.pools.waiting agentUuid).Nodup ∧
    ∀ control ∈ state.pools.waiting agentUuid, Accepted past control agentUuid ∧
      (∀ other, control ∈ state.pools.waiting other → other = agentUuid) ∧
      (state.sockets (.control control)).closed = false

/-- No socket in a pool has closed. -/
def NoneClosed (state : State) : Prop :=
  ∀ agentUuid, ∀ control ∈ state.pools.waiting agentUuid,
    (state.sockets (.control control)).closed = false

/-- A socket that the Hub accepts, and for which there is room, has not closed meanwhile. -/
def AcceptsOpen (state : State) : Event → Prop
  | .verdict control reply => ∀ agentUuid,
      (state.controls control).verifying = some agentUuid → verifyWithHub reply = .ok () →
      (state.pools.waiting agentUuid).length < maxPoolPerAgent →
      (state.sockets (.control control)).closed = false
  | _ => True

theorem Pooling.hold_iff (pooling : Pooling past state.wiring) :
    PoolsHold past state ↔ NoneClosed state := by
  constructor
  · exact fun hold agentUuid control inside => ((hold agentUuid).2.2 control inside).2.2
  · intro unclosed agentUuid
    refine ⟨Pools.length_waiting pooling.sound, ?_, fun control inside => ?_⟩
    · cases here : state.pools.get agentUuid with
      | none => simp [Pools.waiting, here]
      | some pool => exact Pools.waiting_of_get here ▸ pooling.sound.distinct pool
    · obtain ⟨pool, -, known⟩ := pooling.sound.leaves_of_mem inside
      refine ⟨pooling.accepted control agentUuid pool known, fun other there => ?_,
        unclosed agentUuid control inside⟩
      obtain ⟨pool', -, known'⟩ := pooling.sound.leaves_of_mem there
      exact (Prod.mk.inj (Option.some.inj (known'.symm.trans known))).1

/-- What waits after a move waited before it, or was accepted at it. -/
theorem Pooling.waiting_move {free : ℕ → Bool} {wiring next : Wiring} {event : Event}
    {shown : List Observation} (pooling : Pooling past wiring)
    (move : Move identifiers free wiring event shown next) {agentUuid : Text} {control : ℕ}
    (inside : control ∈ next.pools.waiting agentUuid) :
    control ∈ wiring.pools.waiting agentUuid ∨
      ∃ reply, event = .verdict control reply ∧ verifyWithHub reply = .ok () ∧
        wiring.verifying control = some agentUuid ∧
        (wiring.pools.waiting agentUuid).length < maxPoolPerAgent := by
  have claimed {agentUuid' : Text} {result : Option ℕ} {left : Pools}
      (claims : wiring.pools.claim free agentUuid' = (result, left))
      (inside : control ∈ left.waiting agentUuid) : control ∈ wiring.pools.waiting agentUuid := by
    have after : left = (wiring.pools.claim free agentUuid').2 := by rw [claims]
    exact Pools.waiting_claim free agentUuid' agentUuid (after ▸ inside)
  cases move with
  | accepts control' reply agentUuid' awaited ok room =>
    have new := (pooling.asked control' agentUuid' awaited).1
    change control ∈ (wiring.pools.add agentUuid' control').waiting agentUuid at inside
    rw [Pools.waiting_add pooling.sound new] at inside
    split at inside
    · rename_i same
      subst same
      rcases List.mem_append.mp inside with before | added
      · exact .inl before
      · obtain rfl := List.mem_singleton.mp added
        exact .inr ⟨reply, rfl, ok, awaited, room⟩
    · exact .inl inside
  | serves client body awaited agentUuid' control' left port claims named =>
    exact .inl (claimed claims inside)
  | misses client body awaited agentUuid' left claims rest route =>
    exact .inl (claimed claims inside)
  | drops client body awaited agentUuid' control' left claims unnamed rest route detached same =>
    exact .inl (claimed claims inside)
  | closesControl control' =>
    left
    change control ∈ (wiring.leave control').waiting agentUuid at inside
    rw [Wiring.leave] at inside
    split at inside
    · exact Pools.waiting_remove _ _ _ _ inside
    · exact inside
  | _ => exact .inl inside

/-- A socket that closes is in no pool any more. -/
theorem Pooling.left_at_close (pooling : Pooling past state.wiring) {control : ℕ}
    (closes : (state.sockets (.control control)).closes = true) (agentUuid : Text) :
    control ∉ (step identifiers state (.close (.control control))).2.pools.waiting agentUuid := by
  have pools : (step identifiers state (.close (.control control))).2.pools =
      state.wiring.leave control := by
    simp only [step, closes, if_true]
    exact congrArg Wiring.pools (@wiring_closeControl identifiers _ control)
  rw [pools, Wiring.leave]
  split
  · rename_i known
    exact pooling.sound.notMem_remove known agentUuid
  · rename_i unknown
    intro inside
    obtain ⟨pool, -, known⟩ := pooling.sound.leaves_of_mem inside
    rw [unknown] at known
    cases known

/-- A step leaves no closed socket in a pool exactly if it accepts none. -/
theorem Pooling.noneClosed_iff (pooling : Pooling past state.wiring) (unclosed : NoneClosed state)
    (event : Event) : NoneClosed (step identifiers state event).2 ↔ AcceptsOpen state event := by
  constructor
  · intro after
    cases event with
    | verdict control reply =>
      intro agentUuid awaited ok room
      have ages := @ages_step identifiers state (.verdict control reply) (by simp)
      rw [← (ages (.control control)).closed]
      apply after agentUuid
      have pools : (verified control reply state).pools = state.pools.add agentUuid control :=
        congrArg Wiring.pools (wiring_accepted awaited ok room)
      change control ∈ (verified control reply state).pools.waiting agentUuid
      rw [pools]
      have new := (pooling.asked control agentUuid awaited).1
      refine (congrArg (control ∈ ·) (Pools.waiting_add pooling.sound new agentUuid)).mpr ?_
      simp
    | _ => trivial
  · intro opens agentUuid control inside
    by_contra closed
    rw [Bool.not_eq_false] at closed
    rcases closed_step identifiers closed with before | rfl
    · rcases pooling.waiting_move (step_moves identifiers state event) inside with
        already | ⟨reply, rfl, ok, awaited, room⟩
      · rw [unclosed agentUuid control already] at before
        cases before
      · rw [opens agentUuid awaited ok room] at before
        cases before
    · by_cases closes : (state.sockets (.control control)).closes = true
      · exact pooling.left_at_close closes agentUuid inside
      · have same : (step identifiers state (.close (.control control))).2 = state := by
          simp [step, closes]
        rw [same] at inside closed
        rw [unclosed agentUuid control inside] at closed
        cases closed

/-- The pools hold what they should in every state of a run exactly if no socket has closed while
the Hub was asked about it. -/
theorem pools_hold_iff (identifiers : Identifiers) (events : List Event) :
    Along (step identifiers) (fun past state event =>
      PoolsHold (past ++ [(event, (step identifiers state event).1)])
        (step identifiers state event).2) [] {} events ↔
    Each (step identifiers) AcceptsOpen {} events := by
  have keeps : ∀ past state event, Pooling past state.wiring →
      Pooling (past ++ [(event, (step identifiers state event).1)])
        (step identifiers state event).2.wiring :=
    fun past state event pooling => pooling.onward identifiers event
  refine (along_congr (fun past state => Pooling past state.wiring) keeps
    (fun past state event pooling => (keeps past state event pooling).hold_iff)
    pooling_started).trans ?_
  exact along_kept_iff NoneClosed (fun past state => Pooling past state.wiring)
    (fun past state event _ pooling _ => keeps past state event pooling)
    (fun past state event _ pooling unclosed => pooling.noneClosed_iff unclosed event)
    (along_trivial _ _ _) pooling_started (fun _ _ inside => by cases inside)

/-- Identifiers that tell connections apart. -/
def numbered : Identifiers where
  token := decimalText
  requestId := decimalText

def someAgent : Text := "01234567-89ab-cdef-0123-456789abcdef"

/-- The first line of a socket that an Agent opens in advance. -/
def preconnectLine : Bytes :=
  encodeUtf8 (preconnectVerb ++ [space] ++ someAgent ++ Text.ofString " 1700000000 " ++
    List.replicate 32 0x61 ++ [space] ++ List.replicate 64 0x61 ++ [CodeUnit.newline])

def hubAccepts : Option (ℕ × Option Value) :=
  some (201, some (.object [("ok", .boolean true)]))

/-- The connection breaks while the Hub verifies the first line. -/
def closedMeanwhile : List Event :=
  [.receive (.control 0) preconnectLine, .deliver (.control 0) 200, .lost (.control 0),
    .close (.control 0)]

theorem not_pools_hold_closed :
    ¬ Along (step numbered) (fun past state event =>
      PoolsHold (past ++ [(event, (step numbered state event).1)])
        (step numbered state event).2) [] {} (closedMeanwhile ++ [.verdict 0 hubAccepts]) := by
  intro hold
  have last := ((along_append _ _).mp hold).2.1 someAgent
  have inside : 0 ∈ (step numbered (final (step numbered) {} closedMeanwhile)
      (.verdict 0 hubAccepts)).2.pools.waiting someAgent := by decide +kernel
  have closed : ((step numbered (final (step numbered) {} closedMeanwhile)
      (.verdict 0 hubAccepts)).2.sockets (.control 0)).closed = true := by decide +kernel
  rw [(last.2.2 0 inside).2.2] at closed
  cases closed

end Waiting

/-! ## Handing over -/

/-- The socket that a claim returns. -/
def Observation.taken : Observation → Option ℕ
  | .claims _ _ (some control) => some control
  | _ => none

/-- The sockets that the claims of a run return, in order. -/
def handedOver (past : List (Event × List Observation)) : List ℕ :=
  past.flatMap fun event => event.2.filterMap Observation.taken

/-- A claim returns a usable socket that was accepted for the Agent, returns nothing only where
nothing is usable, and leaves every other usable socket where it is. -/
def ClaimsWell (past : List (Event × List Observation)) (state next : State)
    (shown : List Observation) : Prop :=
  ∀ client agentUuid result, .claims client agentUuid result ∈ shown →
    (∀ control, result = some control →
      Accepted past control agentUuid ∧ control ∈ state.pools.waiting agentUuid ∧
        (state.sockets (.control control)).destroyed = false ∧
        (state.sockets (.control control)).writable = true) ∧
    (result = none → ∀ control ∈ state.pools.waiting agentUuid,
      (state.sockets (.control control)).writable = false) ∧
    ∀ other, ∀ control ∈ state.pools.waiting other,
      (state.sockets (.control control)).writable = true →
        result = some control ∨ control ∈ next.pools.waiting other

section Claims

variable {identifiers : Identifiers} {past : List (Event × List Observation)} {state : State}
  {free : ℕ → Bool} {wiring next : Wiring} {event : Event} {shown : List Observation}

theorem mem_handedOver {control : ℕ} : control ∈ handedOver past ↔
    ∃ client agentUuid, Shown past (.claims client agentUuid (some control)) := by
  constructor
  · intro inside
    obtain ⟨event, here, taken⟩ := List.mem_flatMap.mp inside
    obtain ⟨observation, seen, same⟩ := List.mem_filterMap.mp taken
    cases observation with
    | claims client agentUuid result =>
      cases result with
      | none => cases same
      | some other =>
        obtain rfl := Option.some.inj same
        exact ⟨client, agentUuid, event, here, seen⟩
    | _ => cases same
  · rintro ⟨client, agentUuid, event, here, seen⟩
    exact List.mem_flatMap.mpr ⟨event, here, List.mem_filterMap.mpr ⟨_, seen, rfl⟩⟩

/-- What a move shows of claims is one claim, of the pools as they are. -/
theorem claims_move (move : Move identifiers free wiring event shown next) :
    shown.filterMap Observation.taken = [] ∧
        (∀ client agentUuid result, .claims client agentUuid result ∉ shown) ∨
      ∃ client agentUuid result, wiring.pools.claim free agentUuid = (result, next.pools) ∧
        shown.filterMap Observation.taken = result.toList ∧
        ∀ client' agentUuid' result', .claims client' agentUuid' result' ∈ shown →
          client' = client ∧ agentUuid' = agentUuid ∧ result' = result := by
  cases move with
  | serves client body awaited agentUuid control left port claimed named =>
    exact .inr ⟨client, agentUuid, some control, claimed, rfl, by simp⟩
  | misses client body awaited agentUuid left claimed rest route =>
    exact .inr ⟨client, agentUuid, none, claimed, rfl, by simp⟩
  | drops client body awaited agentUuid control left claimed unnamed rest route detached same =>
    exact .inr ⟨client, agentUuid, some control, claimed, rfl, by simp⟩
  | _ => exact .inl ⟨rfl, by simp⟩

theorem Pooling.claimsWell (pooling : Pooling past state.wiring) (event : Event) :
    ClaimsWell past state (step identifiers state event).2 (step identifiers state event).1 := by
  intro client agentUuid result here
  rcases claims_move (step_moves identifiers state event) with ⟨-, silent⟩ |
    ⟨client', agentUuid', result', claimed, -, only⟩
  · exact absurd here (silent client agentUuid result)
  · obtain ⟨-, rfl, rfl⟩ := only client agentUuid result here
    refine ⟨fun control same => ?_, fun same => ?_, fun other control inside writable => ?_⟩
    · subst same
      obtain ⟨inside, -⟩ := pooling.sound.taken claimed
      obtain ⟨pool, -, known⟩ := pooling.sound.leaves_of_mem inside
      have writable : (state.sockets (.control control)).writable = true :=
        Pools.usable_of_claim claimed
      refine ⟨pooling.accepted control agentUuid pool known, inside, ?_, writable⟩
      simp only [Duplex.writable, Bool.and_eq_true, Bool.not_eq_true'] at writable
      exact writable.2
    · subst same
      exact Pools.unusable_of_missed claimed
    · exact pooling.sound.spared claimed inside writable

/-- No socket is handed over twice. -/
theorem Pooling.handsOver_once (pooling : Pooling past wiring)
    (once : (handedOver past).Nodup) (move : Move identifiers free wiring event shown next) :
    (handedOver (past ++ [(event, shown)])).Nodup := by
  have appended : handedOver (past ++ [(event, shown)]) =
      handedOver past ++ shown.filterMap Observation.taken := by
    simp [handedOver]
  rw [appended]
  rcases claims_move move with ⟨silent, -⟩ | ⟨client, agentUuid, result, claimed, taken, -⟩
  · rw [silent, List.append_nil]
    exact once
  · rw [taken]
    cases result with
    | none => simpa using once
    | some control =>
      refine List.nodup_append.mpr ⟨once, by simp, ?_⟩
      intro earlier before later last same
      obtain rfl : later = control := by simpa using last
      subst same
      obtain ⟨client', agentUuid', shownBefore⟩ := mem_handedOver.mp before
      obtain ⟨-, nowhere⟩ := pooling.spent client' agentUuid' earlier shownBefore
      exact nowhere agentUuid (pooling.sound.taken claimed).1

/-- In every run, no socket is handed over twice, and every claim returns a usable socket of its
Agent if there is one, and disturbs no other. -/
theorem pooled_sockets_exclusive (identifiers : Identifiers) (events : List Event) :
    (handedOver (trace (step identifiers) {} events)).Nodup ∧
      Along (step identifiers) (fun past state event =>
        ClaimsWell past state (step identifiers state event).2 (step identifiers state event).1)
        [] {} events := by
  have keeps : ∀ past state event,
      Pooling past state.wiring ∧ (handedOver past).Nodup → True →
      Pooling (past ++ [(event, (step identifiers state event).1)])
          (step identifiers state event).2.wiring ∧
        (handedOver (past ++ [(event, (step identifiers state event).1)])).Nodup := by
    rintro past state event ⟨pooling, once⟩ -
    exact ⟨pooling.onward identifiers event,
      pooling.handsOver_once once (step_moves identifiers state event)⟩
  have starts : Pooling [] (State.wiring {}) ∧ (handedOver []).Nodup :=
    ⟨pooling_started, List.nodup_nil⟩
  have whole : Along (step identifiers) (fun _ _ _ => True) [] {} events := along_trivial _ _ _
  exact ⟨(whole.invariant _ keeps starts).2,
    whole.safe _ keeps (fun past state event held _ => held.1.claimsWell event) starts⟩

end Claims

end Gateway

end OpticsHub
