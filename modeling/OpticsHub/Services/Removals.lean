import OpticsHub.Services.Actions
import OpticsHub.Services.Names

/-!
# Whether a removed service stays removed

A service that is removed is at its end: it is not set offline with its Agent, and it can neither
be started nor stopped. But two writes do not look at the status that they replace. One is that of
an Agent's report, which may have been sent before the Agent was told to remove the service. The
other is that of a command that could not be sent, by a call that has looked the service up before
it was removed, or that deploys it again. Whatever else is done, a removed service stays removed.
-/
namespace OpticsHub

open Script Async Program Machine

namespace ServiceService

open AgentGateway AgentService ConsoleGateway

/-- The row of a service is marked removed. -/
def IsRemoved (serviceIndex : ℕ) (database : Database) : Prop :=
  ∃ row ∈ database.services, row.serviceIndex = serviceIndex ∧ row.serviceStatus = .removed

instance (serviceIndex : ℕ) (database : Database) : Decidable (IsRemoved serviceIndex database) :=
  inferInstanceAs (Decidable (∃ row ∈ database.services.rows, _))

/-- A service that is removed stays so. -/
abbrev KeepsRemoved (serviceIndex : ℕ) (before after : Database) : Prop :=
  IsRemoved serviceIndex before → IsRemoved serviceIndex after

/-- The actions of an operation that give a removed service another status. The database does not
write to the row of a service whose address is taken by another that was deleted with it. -/
inductive Revives (serviceIndex : ℕ) (state : RelayState) :
    ServiceOperation → (RelayState → RelayState) → Prop where
  | unsent (operation : ServiceOperation)
      (writable : ∀ row ∈ state.hub.database.services, row.serviceIndex = serviceIndex →
        ¬ clashes state.hub.database.services row = true) :
      Revives serviceIndex state operation (onHub (writeFailed serviceIndex)).effect
  | reported (client : ℕ) {payload : Value} {members : Members Value} {status : ServiceStatus}
      (given : packetMembers payload = some members)
      (named : numberColumn (some (member members "serviceIndex")) = some (serviceIndex : ℤ))
      (read : dbStatus (member members "status") = some status) (other : status ≠ .removed) :
      Revives serviceIndex state (.serviceStatus client payload)
        (onHub (updateServiceStatus (member members "serviceIndex") status)).effect

/-- Whether an operation deletes a service. -/
def ServiceOperation.deletes (serviceIndex : ℕ) : ServiceOperation → Bool
  | .call (.delete _ serviceIdx _) => (parseServiceIndex serviceIdx).toOption == some serviceIndex
  | _ => false

/-! ## The actions of the parts of the operations -/

section Parts

variable {serviceIndex : ℕ}

/-- What the actions of calls of users may do to a removed service. -/
def MayFail (serviceIndex : ℕ) (effect : Hub → Hub) : Prop :=
  effect = (writeFailed serviceIndex).effect ∨
    ∀ hub, KeepsRemoved serviceIndex hub.database (effect hub).database

/-- A program that at most marks a service as failed. -/
abbrev Spares (serviceIndex : ℕ) {α : Type} (program : HubProgram α) : Prop :=
  Consists (MayFail serviceIndex) program

theorem keepsRemoved_of_services {before after : Database}
    (same : after.services = before.services) : KeepsRemoved serviceIndex before after := by
  rintro ⟨row, inside, held⟩
  exact ⟨row, same ▸ inside, held⟩

/-- The write to a row is harmless if a removed service is removed after it. -/
theorem keepsRemoved_updateService {index : ℕ} {change : ℤ → ServiceRow → ServiceRow}
    {keyed : ∀ now row, (change now row).serviceIndex = row.serviceIndex}
    (kept : ∀ now row, row.serviceIndex = serviceIndex → row.serviceIndex = index →
      row.serviceStatus = .removed → (change now row).serviceStatus = .removed) (hub : Hub) :
    KeepsRemoved serviceIndex hub.database
      ((updateService index change keyed).effect hub).database := by
  rintro ⟨row, inside, named, removed⟩
  rw [updateService]
  dsimp only [Program.atomically, Program.effect]
  split
  · exact ⟨row, inside, named, removed⟩
  · split
    · exact ⟨row, inside, named, removed⟩
    · have written : (if (row.serviceIndex == index) = true then change hub.now row else row) ∈
          hub.database.services.updateMany (fun other => other.serviceIndex == index)
            (change hub.now) (keyed hub.now) := Table.mem_updateMany.mpr ⟨row, inside, rfl⟩
      refine ⟨_, written, ?_, ?_⟩
      · split
        · exact (keyed hub.now row).trans named
        · exact named
      · split
        · rename_i same
          exact kept hub.now row named (beq_iff_eq.mp same) removed
        · exact removed

/-- Of the kinds of actions of users' calls only the write of a failure may be harmful. -/
theorem allowsUsers_mayFail (serviceIndex : ℕ) : AllowsUsers (MayFail serviceIndex) where
  aside _ same := .inr fun hub => keepsRemoved_of_services (same hub).services
  created row keyed := by
    refine .inr fun hub => ?_
    rintro ⟨older, inside, held⟩
    have kept : older ∈ hub.database.services.create row keyed :=
      Table.mem_create.mpr (.inl inside)
    exact ⟨older, kept, held⟩
  written index change keyed kept := by
    refine .inr (keepsRemoved_updateService fun now row _ _ removed => ?_)
    rcases kept now row with same | removes
    · exact same.trans removed
    · exact removes
  failed index := by
    by_cases same : index = serviceIndex
    · exact .inl (congrArg (fun index => (writeFailed index).effect) same)
    · exact .inr (keepsRemoved_updateService fun _ _ named here _ =>
        absurd (here.symm.trans named) same)

end Parts

/-! ## The actions of the operations -/

section Operations

variable {objectFilter : Members Value → Option (ℕ → Bool)} (serviceIndex : ℕ)

/-- What the actions of an operation may do. -/
def MayRevive (serviceIndex : ℕ) (operation : ServiceOperation)
    (effect : RelayState → RelayState) : Prop :=
  ∀ state, Revives serviceIndex state operation effect ∨
    KeepsRemoved serviceIndex state.hub.database (effect state).hub.database

variable {serviceIndex}

theorem effect_onHub {α : Type} (program : HubProgram α) :
    (onHub program).effect = fun state => { state with hub := program.effect state.hub } := by
  cases program <;> rfl

/-- The write of a failure is made, or the row is left as it is. -/
theorem revives_or_kept (serviceIndex : ℕ) (operation : ServiceOperation) (state : RelayState) :
    Revives serviceIndex state operation (onHub (writeFailed serviceIndex)).effect ∨
      KeepsRemoved serviceIndex state.hub.database
        ((onHub (writeFailed serviceIndex)).effect state).hub.database := by
  by_cases writable : ∀ row ∈ state.hub.database.services, row.serviceIndex = serviceIndex →
      ¬ clashes state.hub.database.services row = true
  · exact .inl (.unsent operation writable)
  · obtain ⟨row, held⟩ := not_forall.mp writable
    obtain ⟨inside, held⟩ := Classical.not_imp.mp held
    obtain ⟨rfl, clash⟩ := Classical.not_imp.mp held
    refine .inr (keepsRemoved_of_services ?_)
    have found : state.hub.database.services.findFirst
        (fun other => other.serviceIndex == row.serviceIndex) = some row :=
      Table.findFirst_of_key inside (beq_self_eq_true _) fun _ _ => beq_iff_eq.mp
    have refused : clashes state.hub.database.services { row with serviceStatus := .failed } =
        true := not_not.mp clash
    rw [effect_onHub]
    simp only [writeFailed, updateService, Program.atomically, Program.effect, found, refused,
      if_true]

theorem mayRevive_user {operation : ServiceOperation} {program : HubProgram Unit}
    (spares : Spares serviceIndex program) :
    Consists (MayRevive serviceIndex operation) (onHub program) := by
  refine spares.zoom fun effect may state => ?_
  rcases may with rfl | kept
  · rcases revives_or_kept serviceIndex operation state with revives | kept
    · rw [effect_onHub] at revives
      exact .inl revives
    · rw [effect_onHub] at kept
      exact .inr kept
  · exact .inr (kept state.hub)

/-- Actions that write no status do not revive. -/
theorem mayRevive_onHub {operation : ServiceOperation} {program : HubProgram Unit}
    (always : Always (fun before after => KeepsRemoved serviceIndex before.database
      after.database) program) :
    Consists (MayRevive serviceIndex operation) (onHub program) :=
  (always.consists fun _ kept => kept).zoom fun _ kept state => .inr (kept state.hub)

/-- Of the services that are set offline none is removed. -/
theorem Lowered.keepsRemoved {before after : Database} (lowered : Lowered before after) :
    KeepsRemoved serviceIndex before after := by
  obtain ⟨-, change, rows, allowed⟩ := lowered
  rintro ⟨row, inside, named, removed⟩
  rcases allowed row with same | ⟨standing, -⟩
  · refine ⟨row, ?_, named, removed⟩
    rw [Table.mem_def, rows]
    exact List.mem_map.mpr ⟨row, inside, same⟩
  · exact absurd removed standing

/-- The status of another service is no matter, and neither is that of a removed one. -/
theorem keepsRemoved_updateServiceStatus {reported : Value} {status : ServiceStatus}
    (harmless : numberColumn (some reported) = some (serviceIndex : ℤ) → status = .removed)
    (hub : Hub) :
    KeepsRemoved serviceIndex hub.database
      ((updateServiceStatus reported status).effect hub).database := by
  rw [updateServiceStatus]
  cases named : numberColumn (some reported) with
  | none => exact id
  | some index =>
    change KeepsRemoved serviceIndex hub.database
      ((Program.atomically _ : HubProgram Unit).effect hub).database
    simp only [Program.atomically, Program.effect]
    split
    · exact id
    · rename_i service found
      have same : (service.serviceIndex : ℤ) = index :=
        beq_iff_eq.mp (Table.mem_of_findFirst found).2
      rintro ⟨row, inside, here, removed⟩
      have written : (if (row.serviceIndex == service.serviceIndex) = true then
            { row with serviceStatus := status } else row) ∈
          hub.database.services.updateMany (fun row => row.serviceIndex == service.serviceIndex)
            (fun row => { row with serviceStatus := status }) :=
        Table.mem_updateMany.mpr ⟨row, inside, rfl⟩
      refine ⟨_, written, ?_, ?_⟩
      · split <;> exact here
      · split
        · rename_i meant
          apply harmless
          rw [named, ← same, ← beq_iff_eq.mp meant, here]
        · exact removed

theorem consists_updateServiceStatus (reported : Value) (status : ServiceStatus) :
    Consists (fun effect => effect = (updateServiceStatus reported status).effect)
      (loggingFailure (updateServiceStatus reported status)) := by
  refine Consists.tryCatch ?_ fun _ => consists_pure _
  rw [updateServiceStatus]
  cases numberColumn (some reported) with
  | none => exact consists_throw _
  | some index => exact consists_atomically rfl

theorem mayRevive_of_listing {α : Type} {operation : ServiceOperation} {program : RelayProgram α}
    (always : Always KeepsListing program) :
    Consists (MayRevive serviceIndex operation) program :=
  always.consists fun _ kept state => .inr (keepsRemoved_of_services (kept state).1)

/-- The write of a report is harmless, or it is of another status of the service. -/
theorem mayRevive_handleServiceStatus (client : ℕ) (payload : Value) :
    Consists (MayRevive serviceIndex (.serviceStatus client payload))
      (handleServiceStatus objectFilter client payload) := by
  have aside {effect : RelayState → RelayState}
      (kept : ∀ state, KeepsListing state (effect state)) :
      MayRevive serviceIndex (.serviceStatus client payload) effect :=
    fun state => .inr (keepsRemoved_of_services (kept state).1)
  refine Consists.bind (consists_step (aside keepsListing_refl)) fun data => ?_
  dsimp only
  split
  · cases given : packetMembers payload with
    | none => exact consists_throw _
    | some members =>
      rw [orThrow, pure_bind']
      refine (mayRevive_of_listing (keepsListing_getWorkspaceIndex _ _)).bind fun found => ?_
      split
      · refine Consists.bind ?_ fun _ => consists_step (aside fun _ => ⟨rfl, rfl⟩)
        cases read : dbStatus (member members "status") with
        | none => exact consists_pure _
        | some status =>
          refine (consists_updateServiceStatus _ status).zoom ?_
          rintro _ rfl
          by_cases harmless : numberColumn (some (member members "serviceIndex")) =
              some (serviceIndex : ℤ) → status = .removed
          · exact fun state => .inr (keepsRemoved_updateServiceStatus harmless state.hub)
          · obtain ⟨named, other⟩ := Classical.not_imp.mp harmless
            intro state
            have revives : Revives serviceIndex state _ _ := .reported client given named read other
            rw [effect_onHub] at revives
            exact .inl revives
      · exact consists_pure _
  · exact consists_pure _

/-- Every action of an operation gives the service another status in a known way, or keeps it
removed. -/
theorem mayRevive_operationProgram (serviceIndex : ℕ) (operation : ServiceOperation) :
    Consists (MayRevive serviceIndex operation) (operationProgram objectFilter operation) := by
  cases operation with
  | call call => exact mayRevive_user (consists_serviceProgram (allowsUsers_mayFail serviceIndex) call)
  | serviceStatus client payload => exact mayRevive_handleServiceStatus client payload
  | containerStatus client payload =>
    exact mayRevive_of_listing (keepsListing_handleContainerStatus client payload)
  | offlineTimer agentUuid =>
    exact mayRevive_onHub ((lowers_offlineTimer agentUuid).mono fun _ _ => Lowered.keepsRemoved)
  | hubStart =>
    refine Consists.bind (consists_step fun _ => .inr (keepsRemoved_of_services rfl)) fun _ => ?_
    exact mayRevive_onHub (lowers_onHubStart.mono fun _ _ => Lowered.keepsRemoved)
  | elsewhere change => exact consists_step fun _ => .inr (keepsRemoved_of_services rfl)
  | blockTraffic owner serviceIdx options =>
    refine mayRevive_user (Consists.bind ?_ fun _ => consists_pure _)
    exact consists_handleBlockServiceTraffic (allowsUsers_mayFail serviceIndex) owner serviceIdx options
  | unblockTraffic owner serviceIdx =>
    refine mayRevive_user (Consists.bind ?_ fun _ => consists_pure _)
    exact consists_handleUnblockServiceTraffic (allowsUsers_mayFail serviceIndex) owner serviceIdx
  | updateSubdomain owner serviceIdx subdomain =>
    refine mayRevive_user (Consists.bind ?_ fun _ => consists_pure _)
    exact consists_handleUpdateServiceSubdomain (allowsUsers_mayFail serviceIndex) owner serviceIdx subdomain
  | updateEndpoints owner serviceIdx given =>
    refine mayRevive_user (Consists.bind ?_ fun _ => consists_pure _)
    exact consists_handleUpdateServiceEndpoints (allowsUsers_mayFail serviceIndex) owner serviceIdx given

end Operations

/-! ## What a revival does, and what a deletion -/

section Writes

variable {serviceIndex : ℕ}

/-- After its status is written, a service has that status. -/
theorem not_removed_updateMany {services : Table ServiceRow} {status : ServiceStatus}
    (other : status ≠ .removed) {row : ServiceRow}
    (inside : row ∈ services.updateMany (fun row => row.serviceIndex == serviceIndex)
      (fun row => { row with serviceStatus := status }) (fun _ => rfl))
    (named : row.serviceIndex = serviceIndex) : row.serviceStatus ≠ .removed := by
  obtain ⟨older, -, rfl⟩ := Table.mem_updateMany.mp inside
  split at named
  · rename_i chosen
    rw [if_pos chosen]
    exact other
  · rename_i skipped
    exact absurd (beq_iff_eq.mpr named) skipped

/-- What revives a removed service leaves it with another status. -/
theorem not_removed_of_revives {state : RelayState} {operation : ServiceOperation}
    {effect : RelayState → RelayState} (revives : Revives serviceIndex state operation effect)
    (before : IsRemoved serviceIndex state.hub.database) :
    ¬ IsRemoved serviceIndex (effect state).hub.database := by
  obtain ⟨row, inside, named, -⟩ := before
  cases revives with
  | unsent operation writable =>
    subst named
    have found : state.hub.database.services.findFirst
        (fun other => other.serviceIndex == row.serviceIndex) = some row :=
      Table.findFirst_of_key inside (beq_self_eq_true _) fun _ _ => beq_iff_eq.mp
    have clear : ¬ clashes state.hub.database.services { row with serviceStatus := .failed } =
        true := writable row inside rfl
    rw [effect_onHub]
    simp only [writeFailed, updateService, Program.atomically, Program.effect, found,
      if_neg clear]
    rintro ⟨row', inside', named', removed⟩
    exact not_removed_updateMany (by decide) inside' named' removed
  | reported client given column read other =>
    have found : state.hub.database.services.findFirst
        (fun other => (other.serviceIndex : ℤ) == serviceIndex) = some row :=
      Table.findFirst_of_key inside (beq_iff_eq.mpr (congrArg Nat.cast named)) fun other _ same =>
        (Int.ofNat.inj (beq_iff_eq.mp same)).trans named.symm
    rw [effect_onHub, updateServiceStatus, column]
    change ¬ IsRemoved serviceIndex
      ((Program.atomically _ : HubProgram Unit).effect state.hub).database
    simp only [Program.atomically, Program.effect, found, named]
    rintro ⟨row', inside', named', removed⟩
    exact not_removed_updateMany other inside' named' removed

/-- A write that marks a service removed. -/
theorem secures_updateService {change : ℤ → ServiceRow → ServiceRow}
    {keyed : ∀ now row, (change now row).serviceIndex = row.serviceIndex}
    (removes : ∀ now row, (change now row).serviceStatus = .removed) :
    Secures (fun hub => IsRemoved serviceIndex hub.database)
      (updateService serviceIndex change keyed) := by
  refine secures_atomically fun hub value written => ?_
  cases found : hub.database.services.findFirst fun row => row.serviceIndex == serviceIndex with
  | none =>
    rw [found] at written
    cases written
  | some row =>
    obtain ⟨inside, named⟩ := Table.mem_of_findFirst found
    rw [found] at written
    by_cases clash : clashes hub.database.services (change hub.now row) = true
    · simp only [if_pos clash, reduceCtorEq] at written
    · have made : change hub.now row ∈ hub.database.services.updateMany
          (fun other => other.serviceIndex == serviceIndex) (change hub.now) (keyed hub.now) :=
        Table.mem_updateMany.mpr ⟨row, inside, (if_pos named).symm⟩
      simp only [if_neg clash]
      exact ⟨_, made, (keyed hub.now row).trans (beq_iff_eq.mp named), removes hub.now row⟩

/-- A deletion that returns has removed the service. -/
theorem secures_of_deletes {objectFilter : Members Value → Option (ℕ → Bool)}
    {operation : ServiceOperation} (deletes : operation.deletes serviceIndex = true) :
    (operationProgram objectFilter operation).Secures
      fun state => IsRemoved serviceIndex state.hub.database := by
  obtain ⟨owner, serviceIdx, deleteScope, rfl⟩ : ∃ owner serviceIdx deleteScope,
      operation = .call (.delete owner serviceIdx deleteScope) := by
    rcases operation with call | _ | _ | _ | _ | _ | _ | _ | _ | _
    · rcases call with _ | _ | ⟨owner, serviceIdx, deleteScope⟩ | _ | _ | _ | _ | _
      case delete => exact ⟨owner, serviceIdx, deleteScope, rfl⟩
      all_goals cases deletes
    all_goals cases deletes
  have parsed : parseServiceIndex serviceIdx = .ok serviceIndex := by
    have named : (parseServiceIndex serviceIdx).toOption = some serviceIndex :=
      beq_iff_eq.mp deletes
    cases outcome : parseServiceIndex serviceIdx with
    | error failure =>
      rw [outcome] at named
      cases named
    | ok index =>
      rw [outcome] at named
      exact congrArg Except.ok (Option.some.inj named)
  have removes : Secures (fun hub : Hub => IsRemoved serviceIndex hub.database)
      (handleDeleteService owner serviceIdx deleteScope) := ?_
  · exact (removes.bind _).zoom fun _ _ removed => removed
  have located : Heeds (fun _ _ => True) (fun _ _ _ => True)
      (fun found _ => found.1.serviceIndex = serviceIndex) []
      (findOwnedServiceAndAgent owner serviceIdx) := by
    apply Heeds.bind
    apply heeds_fromExcept
    intro index parsed'
    obtain rfl := Except.ok.inj (parsed.symm.trans parsed')
    apply Heeds.bind
    apply heeds_require
    intro _
    apply Heeds.bind
    apply heeds_look fun _ => trivial
    intro hub _
    apply Heeds.bind
    apply heeds_orThrow
    intro service found
    apply Heeds.bind
    apply heeds_look fun _ => trivial
    intro _ _
    obtain ⟨-, selected⟩ := Table.mem_of_findFirst found
    simp only [Bool.and_eq_true, beq_iff_eq] at selected
    exact heeds_pure selected.1.1
  refine secures_bind located fun found index => ?_
  refine secures_after fun agent => ?_
  refine secures_after fun sent => ?_
  refine secures_after fun _ => ?_
  subst index
  exact Secures.bind (secures_updateService fun _ _ => rfl) _

end Writes

/-! ## Runs -/

section Runs

variable (objectFilter : Members Value → Option (ℕ → Bool)) (serviceIndex : ℕ)

/-- The operations interleave action by action, while the rest of the Hub does anything. -/
abbrev operations : Transition (Config ServiceOperation RelayState Failure Unit)
    (Move ServiceOperation (RelayState → RelayState)) (Shown Unit RelayState) :=
  observed (operationProgram objectFilter) fun state change => ((), besides change state)

/-- A call under way takes an action that gives the service another status. -/
def Reviving (config : Config ServiceOperation RelayState Failure Unit)
    (input : Move ServiceOperation (RelayState → RelayState)) : Prop :=
  ∃ index thread, input = .resume index ∧ config.threads[index]? = some thread ∧
    thread.result = none ∧
      Revives serviceIndex config.state thread.call thread.program.effect

/-- A call that deletes the service has returned. -/
def HasDeleted (config : Config ServiceOperation RelayState Failure Unit) (index : ℕ) : Prop :=
  ∃ thread, config.threads[index]? = some thread ∧ thread.call.deletes serviceIndex = true ∧
    thread.result = some (.ok ())

instance (config : Config ServiceOperation RelayState Failure Unit) (index : ℕ) :
    Decidable (HasDeleted serviceIndex config index) :=
  decidable_of_iff ((config.threads[index]?).any (fun thread => thread.call.deletes serviceIndex &&
      decide (thread.result = some (.ok ()))) = true) (by
    simp only [HasDeleted, Option.any_eq_true, Bool.and_eq_true, decide_eq_true_eq])

/-- The service is marked removed after every move. -/
def StaysRemoved (config : Config ServiceOperation RelayState Failure Unit)
    (moves : List (Move ServiceOperation (RelayState → RelayState))) : Prop :=
  Each (operations objectFilter)
    (fun config input =>
      IsRemoved serviceIndex (operations objectFilter config input).2.state.hub.database)
    config moves

instance (config : Config ServiceOperation RelayState Failure Unit)
    (moves : List (Move ServiceOperation (RelayState → RelayState))) :
    Decidable (StaysRemoved objectFilter serviceIndex config moves) :=
  inferInstanceAs (Decidable (Each _ _ config moves))

variable {objectFilter serviceIndex}

/-- A move keeps a service removed exactly if it does not revive it. -/
theorem isRemoved_move_iff {past : List (Move ServiceOperation (RelayState → RelayState) ×
      Shown Unit RelayState)} {config : Config ServiceOperation RelayState Failure Unit}
    (following : Following (operationProgram objectFilter) past config)
    (removed : IsRemoved serviceIndex config.state.hub.database)
    (input : Move ServiceOperation (RelayState → RelayState)) :
    IsRemoved serviceIndex (operations objectFilter config input).2.state.hub.database ↔
      ¬ Reviving serviceIndex config input := by
  have idle {state : RelayState} (same : state.hub.database.services =
      config.state.hub.database.services)
      (unrevived : ¬ Reviving serviceIndex config input) :
      IsRemoved serviceIndex state.hub.database ↔ ¬ Reviving serviceIndex config input :=
    iff_of_true (keepsRemoved_of_services same removed) unrevived
  cases input with
  | start call =>
    refine idle rfl ?_
    rintro ⟨index, thread, moved, -⟩
    cases moved
  | event change =>
    refine idle rfl ?_
    rintro ⟨index, thread, moved, -⟩
    cases moved
  | resume index =>
    by_cases running : ∃ thread, config.threads[index]? = some thread ∧ thread.result = none
    · obtain ⟨thread, found, running⟩ := running
      have may := consists_along (mayRevive_operationProgram serviceIndex) following found running
        config.state
      rw [move_effect found]
      constructor
      · rintro kept ⟨index', thread', moved, found', -, revives⟩
        obtain rfl := Move.resume.inj moved
        obtain rfl := Option.some.inj (found.symm.trans found')
        exact not_removed_of_revives revives removed kept
      · intro unrevived
        rcases may with revives | kept
        · exact absurd ⟨index, thread, rfl, found, running, revives⟩ unrevived
        · exact kept removed
    · have still : (operations objectFilter config (.resume index)).2.state = config.state :=
        (move_idle fun thread found ended => running ⟨thread, found, ended⟩).1
      refine idle (congrArg (fun state => state.hub.database.services) still) ?_
      rintro ⟨index', thread, moved, found, open', -⟩
      obtain rfl := Move.resume.inj moved
      exact running ⟨thread, found, open'⟩

/-- A call that has deleted a service has marked it removed at one of the moves, while it was
under way. From then on the service stays removed, whatever is done, exactly as long as no call
takes an action that gives it another status. -/
theorem removal_lasts_iff {start : RelayState}
    {moves : List (Move ServiceOperation (RelayState → RelayState))} {index : ℕ}
    (deleted : HasDeleted serviceIndex
      (final (operations objectFilter) { state := start } moves) index) :
    ∃ earlier later before, moves = earlier ++ .resume index :: later ∧
      (final (operations objectFilter) { state := start } earlier).threads[index]? = some before ∧
      before.result = none ∧
      ∀ further,
        StaysRemoved objectFilter serviceIndex
            (final (operations objectFilter) { state := start } (earlier ++ [.resume index]))
            (later ++ further) ↔
          Each (operations objectFilter) (fun config input => ¬ Reviving serviceIndex config input)
            (final (operations objectFilter) { state := start } (earlier ++ [.resume index]))
            (later ++ further) := by
  obtain ⟨thread, found, deletes, returned⟩ := deleted
  rcases secured_along found (secures_of_deletes deletes) with
    left | ⟨earlier, later, before, rfl, here, -, running, removed⟩
  · rw [Thread.result_eq_some.mp returned] at left
    exact left.elim
  · refine ⟨earlier, later, before, rfl, here, running, fun further => ?_⟩
    apply along_kept_iff (fun config => IsRemoved serviceIndex config.state.hub.database)
      fun _ config => ∃ past, Following (operationProgram objectFilter) past config
    · rintro _ config input - ⟨past, following⟩ _
      exact ⟨_, following.move input⟩
    · rintro _ config input - ⟨past, following⟩ removed
      exact isRemoved_move_iff following removed input
    · exact along_trivial _ _ _
    · exact ⟨_, following_along start (earlier ++ [.resume index])⟩
    · exact removed

end Runs

/-- The first service, on an Agent that is connected. -/
def hostingAgentHub : RelayState := (operate (fun _ => none) registeredAgentHub namedService).2

/-- It is deleted, in five actions. -/
def deletesFirst : List (Move ServiceOperation (RelayState → RelayState)) :=
  .start (.call (.delete 1 "1" .containers)) :: List.replicate 5 (.resume 0)

/-- Its Agent reports that it runs. -/
def reportsLate : List (Move ServiceOperation (RelayState → RelayState)) :=
  .start reportsRunning :: List.replicate 6 (.resume 1)

theorem deletesFirst_returns : HasDeleted 1
    (final (operations fun _ => none) { state := hostingAgentHub } deletesFirst) 0 := by
  decide +kernel

theorem removal_lasts_iff_deleted :
    ∃ earlier later before, deletesFirst = earlier ++ .resume 0 :: later ∧
      (final (operations fun _ => none) { state := hostingAgentHub } earlier).threads[0]? =
        some before ∧
      before.result = none ∧
      ∀ further,
        StaysRemoved (fun _ => none) 1
            (final (operations fun _ => none) { state := hostingAgentHub }
              (earlier ++ [.resume 0])) (later ++ further) ↔
          Each (operations fun _ => none) (fun config input => ¬ Reviving 1 config input)
            (final (operations fun _ => none) { state := hostingAgentHub }
              (earlier ++ [.resume 0])) (later ++ further) :=
  removal_lasts_iff deletesFirst_returns

/-- A report that comes after the deletion brings the service back. -/
theorem not_removal_lasts :
    ¬ ∀ (start : RelayState) (moves further : List (Move ServiceOperation
        (RelayState → RelayState))) (index serviceIndex : ℕ),
      HasDeleted serviceIndex (final (operations fun _ => none) { state := start } moves) index →
      (∀ owner serviceIdx body, .start (.call (.redeploy owner serviceIdx body)) ∉ further) →
      StaysRemoved (fun _ => none) serviceIndex
        (final (operations fun _ => none) { state := start } moves) further := by
  intro lasts
  have stays := lasts hostingAgentHub deletesFirst reportsLate 0 1 deletesFirst_returns
    fun owner serviceIdx body inside => by simp [reportsLate, reportsRunning] at inside
  have brought : ¬ StaysRemoved (fun _ => none) 1
      (final (operations fun _ => none) { state := hostingAgentHub } deletesFirst) reportsLate := by
    decide +kernel
  exact brought stays

end ServiceService

end OpticsHub
