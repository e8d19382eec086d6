import Mathlib.Data.List.ReduceOption
import OpticsHub.Agent.AgentEvents
import OpticsHub.Async.Shuffles

/-!
# Container reports that overlap

A report on the containers of a service is written step by step: one component after the other,
and at last all those that were not reported are marked removed. Two reports may be written at the
same time, and then all the components need not be as one of them has left them: each report may
mark removed what the other one has written. But every single component is as it would be if one
report had been written after the other, for what is written to it last comes last in one of the
two orders as well.
-/
namespace OpticsHub

open Script Async Program Machine

namespace AgentGateway

open AgentService ConsoleGateway

/-! ## The columns of a component -/

/-- The columns of a component that reports write. -/
structure ComponentColumns where
  containerName : Option Text
  status : ServiceComponentStatus
  health : Option Text
  exitCode : Option ℤ
  deletedAt : Option ℤ
  deriving DecidableEq

def columnsOf (row : ComponentRow) : ComponentColumns where
  containerName := row.componentContainerName
  status := row.componentStatus
  health := row.componentHealth
  exitCode := row.componentExitCode
  deletedAt := row.componentDeletedAt

/-- The component of a service with a name. There is one at most: the two are a key. -/
def componentColumns (serviceIndex : ℕ) (name : Text) (database : Database) :
    Option ComponentColumns :=
  (database.serviceComponents.findFirst (isComponent serviceIndex name)).map columnsOf

/-- The columns but that of the name of the container. -/
def stateColumns (columns : ComponentColumns) : ComponentColumns :=
  { columns with containerName := none }

/-- What a report does to the columns of one component: it reports its container, or it marks a
component that is not deleted removed. -/
inductive ColumnsWrite where
  | put (reported : ReportedContainer)
  | mark

def ColumnsWrite.apply : ColumnsWrite → Option ComponentColumns → Option ComponentColumns
  | .put reported, columns => some {
      containerName := reported.containerName.getD (columns.bind ComponentColumns.containerName)
      status := reported.status
      health := reported.health
      exitCode := reported.exitCode
      deletedAt := none }
  | .mark, columns => columns.map fun columns =>
      if columns.deletedAt.isNone then { columns with status := .removed } else columns

/-- One after the other. -/
def applyColumns (writes : List ColumnsWrite) (columns : Option ComponentColumns) :
    Option ComponentColumns :=
  writes.foldl (fun columns write => write.apply columns) columns

/-! ## The steps of a report -/

/-- What a report asks the database for. -/
inductive ReportStep where
  | lookUp
  | upsert (serviceIndex : ℕ) (name : Text) (reported : ReportedContainer)
  | remove (selects : ℕ → Bool) (seenNames : List Text)

def ReportStep.effect : ReportStep → Hub → Hub
  | .lookUp => id
  | .upsert serviceIndex name reported => (upsertComponent serviceIndex name reported).effect
  | .remove selects seenNames => (removeComponents selects seenNames).effect

/-- What a step does to the component of a service with a name, if anything. -/
def ReportStep.touches (serviceIndex : ℕ) (name : Text) : ReportStep → Option ColumnsWrite
  | .lookUp => none
  | .upsert index other reported =>
    if index = serviceIndex ∧ other = name then some (.put reported) else none
  | .remove selects seenNames =>
    if (selects serviceIndex && !seenNames.contains name) = true then some .mark else none

section Steps

variable {serviceIndex : ℕ} {name : Text} {hub : Hub}

theorem isComponent_iff {index : ℕ} {component : ComponentRow} :
    isComponent index name component = true ↔
      component.componentParentService = index ∧ component.componentName = name := by
  simp [isComponent]

/-- A component that is reported. -/
theorem componentColumns_upsert (index : ℕ) (other : Text) (reported : ReportedContainer) :
    componentColumns serviceIndex name
        (ReportStep.effect (.upsert index other reported) hub).database =
      if index = serviceIndex ∧ other = name
      then ColumnsWrite.apply (.put reported) (componentColumns serviceIndex name hub.database)
      else componentColumns serviceIndex name hub.database := by
  have selects (row : ComponentRow) (wanted : isComponent serviceIndex name row = true) :
      isComponent index other row = true ↔ index = serviceIndex ∧ other = name := by
    obtain ⟨rfl, rfl⟩ := isComponent_iff.mp wanted
    rw [isComponent_iff]
    exact and_congr eq_comm eq_comm
  simp only [componentColumns, ReportStep.effect, upsertComponent, Program.step,
    Program.atomically, Program.effect, Hub.write]
  cases found : hub.database.serviceComponents.findFirst (isComponent index other) with
  | some row =>
    dsimp only
    rw [Table.findFirst_updateMany, Option.map_map]
    · cases first : hub.database.serviceComponents.findFirst (isComponent serviceIndex name) with
      | none =>
        rw [if_neg]
        · rfl
        · rintro ⟨rfl, rfl⟩
          rw [found] at first
          cases first
      | some wanted =>
        have here := selects wanted (Table.mem_of_findFirst first).2
        by_cases same : index = serviceIndex ∧ other = name
        · simp only [Option.map_some, Function.comp_apply, if_pos same, if_pos (here.mpr same)]
          rfl
        · simp only [Option.map_some, Function.comp_apply, if_neg same, if_neg (mt here.mp same)]
    · exact fun _ => rfl
  | none =>
    dsimp only
    rw [Table.findFirst_create]
    by_cases same : index = serviceIndex ∧ other = name
    · obtain ⟨rfl, rfl⟩ := same
      simp only [found, Option.none_or, isComponent, Int.toNat_natCast, beq_self_eq_true,
        Bool.and_self, if_true, and_self]
      rfl
    · rw [if_neg same, if_neg, Option.or_none]
      intro chosen
      obtain ⟨parent, named⟩ := isComponent_iff.mp chosen
      exact same ⟨(Int.toNat_natCast index).symm.trans parent, named⟩

/-- A component that is not reported. -/
theorem componentColumns_remove (selects : ℕ → Bool) (seenNames : List Text) :
    componentColumns serviceIndex name
        (ReportStep.effect (.remove selects seenNames) hub).database =
      if (selects serviceIndex && !seenNames.contains name) = true
      then ColumnsWrite.apply .mark (componentColumns serviceIndex name hub.database)
      else componentColumns serviceIndex name hub.database := by
  simp only [componentColumns, ReportStep.effect, removeComponents, Program.step,
    Program.atomically, Program.effect, Hub.write]
  rw [Table.findFirst_updateMany, Option.map_map]
  · cases found : hub.database.serviceComponents.findFirst (isComponent serviceIndex name) with
    | none => split <;> rfl
    | some row =>
      obtain ⟨rfl, rfl⟩ := isComponent_iff.mp (Table.mem_of_findFirst found).2
      simp only [ColumnsWrite.apply, Option.map_some, Function.comp_apply]
      cases selects row.componentParentService <;> cases seenNames.contains row.componentName <;>
        cases deleted : row.componentDeletedAt <;> simp [columnsOf, deleted]
  · exact fun _ => rfl

/-- A step does to a component what it is said to do. -/
theorem componentColumns_effect (step : ReportStep) :
    componentColumns serviceIndex name (step.effect hub).database =
      applyColumns (step.touches serviceIndex name).toList
        (componentColumns serviceIndex name hub.database) := by
  cases step with
  | lookUp => rfl
  | upsert index other reported =>
    rw [componentColumns_upsert, ReportStep.touches]
    split <;> rfl
  | remove selects seenNames =>
    rw [componentColumns_remove, ReportStep.touches]
    split <;> rfl

/-- Some steps, one after the other. -/
theorem componentColumns_applyAll (steps : List ReportStep) :
    componentColumns serviceIndex name (applyAll (steps.map ReportStep.effect) hub).database =
      applyColumns (steps.filterMap (ReportStep.touches serviceIndex name))
        (componentColumns serviceIndex name hub.database) := by
  induction steps generalizing hub with
  | nil => rfl
  | cons step steps ih =>
    rw [List.map_cons, applyAll, List.foldl_cons]
    refine (@ih (step.effect hub)).trans ?_
    rw [componentColumns_effect, List.filterMap_cons]
    cases step.touches serviceIndex name <;> rfl

/-- No step writes to the services. -/
theorem keeps_services {services : Table ServiceRow} (steps : List ReportStep) :
    ∀ effect ∈ steps.map ReportStep.effect, ∀ hub : Hub, hub.database.services = services →
      (effect hub).database.services = services := by
  intro effect inside hub same
  obtain ⟨step, -, rfl⟩ := List.mem_map.mp inside
  cases step with
  | lookUp => exact same
  | upsert index name reported => exact same
  | remove selects seenNames => exact same

theorem services_applyAll {services : Table ServiceRow} (steps : List ReportStep)
    (same : hub.database.services = services) :
    (applyAll (steps.map ReportStep.effect) hub).database.services = services := by
  induction steps generalizing hub with
  | nil => exact same
  | cons step steps ih =>
    have first := keeps_services (step :: steps) _ List.mem_cons_self hub same
    exact ih first

end Steps

/-! ## What is written to one component -/

section Columns

variable {columns : Option ComponentColumns}

theorem applyColumns_append (writes later : List ColumnsWrite) :
    applyColumns (writes ++ later) columns = applyColumns later (applyColumns writes columns) :=
  List.foldl_append

/-- The columns that a reported container alone decides. -/
def reportedColumns (reported : ReportedContainer) : ComponentColumns where
  containerName := reported.containerName.getD none
  status := reported.status
  health := reported.health
  exitCode := reported.exitCode
  deletedAt := none

/-- The last report decides the state of a component. -/
theorem state_applyColumns (puts : List ReportedContainer) :
    (applyColumns (puts.map .put) columns).map stateColumns =
      (puts.getLast?.map fun last => stateColumns (reportedColumns last)).or
        (columns.map stateColumns) := by
  induction puts generalizing columns with
  | nil => rfl
  | cons reported puts ih =>
    rw [List.map_cons, applyColumns, List.foldl_cons]
    refine ih.trans ?_
    rw [List.getLast?_cons]
    cases puts.getLast? <;> rfl

/-- The last report that gives a name decides the name of the container. -/
theorem containerName_applyColumns (puts : List ReportedContainer) :
    (applyColumns (puts.map .put) columns).bind ComponentColumns.containerName =
      (puts.filterMap ReportedContainer.containerName).getLast?.getD
        (columns.bind ComponentColumns.containerName) := by
  induction puts generalizing columns with
  | nil => rfl
  | cons reported puts ih =>
    rw [List.map_cons, applyColumns, List.foldl_cons]
    refine ih.trans ?_
    cases named : reported.containerName with
    | none =>
      rw [List.filterMap_cons_none named]
      simp [ColumnsWrite.apply, named]
    | some name =>
      rw [List.filterMap_cons_some named, List.getLast?_cons]
      simp [ColumnsWrite.apply, named]

/-- If the reports give names, the last one decides everything. -/
theorem applyColumns_named (puts : List ReportedContainer)
    (named : ∀ reported ∈ puts, reported.containerName.isSome = true) :
    applyColumns (puts.map .put) columns = (puts.getLast?.map reportedColumns).or columns := by
  induction puts generalizing columns with
  | nil => rfl
  | cons reported puts ih =>
    rw [List.map_cons, applyColumns, List.foldl_cons]
    refine (ih fun reported inside => named reported (List.mem_cons_of_mem _ inside)).trans ?_
    obtain ⟨name, given⟩ := Option.isSome_iff_exists.mp (named reported List.mem_cons_self)
    rw [List.getLast?_cons]
    cases puts.getLast? with
    | none => simp [ColumnsWrite.apply, reportedColumns, given]
    | some last => rfl

/-- After a mark, a report decides the same as without. -/
theorem applyColumns_mark {puts : List ReportedContainer} (some' : puts ≠ []) :
    applyColumns (puts.map .put) (ColumnsWrite.apply .mark columns) =
      applyColumns (puts.map .put) columns := by
  obtain ⟨reported, puts, rfl⟩ := List.exists_cons_of_ne_nil some'
  rw [List.map_cons, applyColumns, List.foldl_cons, applyColumns, List.foldl_cons]
  congr 1
  cases columns with
  | none => rfl
  | some columns =>
    simp only [ColumnsWrite.apply, Option.map_some, Option.bind_some]
    split <;> rfl

/-- Marked at any moment, a component is as if it had been marked first or last. -/
theorem shuffled_mark {puts : List ReportedContainer} {whole : List ColumnsWrite}
    (shuffle : Shuffle (puts.map .put) [.mark] whole) :
    applyColumns whole columns = applyColumns (puts.map .put ++ [.mark]) columns ∨
      applyColumns whole columns = applyColumns ([.mark] ++ puts.map .put) columns := by
  obtain ⟨before, after, split, rfl⟩ := shuffle.of_singleton
  obtain ⟨earlier, later, rfl, rfl, rfl⟩ := List.map_eq_append_iff.mp split
  by_cases last : later = []
  · subst last
    rw [List.append_nil, List.map_nil]
    exact .inl rfl
  · refine .inr ?_
    have filled : earlier ++ later ≠ [] := fun empty => last (List.append_eq_nil_iff.mp empty).2
    calc
      applyColumns (earlier.map .put ++ .mark :: later.map .put) columns =
          applyColumns (later.map .put)
            (ColumnsWrite.apply .mark (applyColumns (earlier.map .put) columns)) :=
        applyColumns_append _ _
      _ = applyColumns (later.map .put) (applyColumns (earlier.map .put) columns) :=
        applyColumns_mark last
      _ = applyColumns ((earlier ++ later).map .put) columns := by
        rw [List.map_append, applyColumns_append]
      _ = applyColumns ((earlier ++ later).map .put) (ColumnsWrite.apply .mark columns) :=
        (applyColumns_mark filled).symm
      _ = applyColumns ([.mark] ++ (earlier ++ later).map .put) columns := rfl

/-- What a report does to one component: it reports its container any number of times, or it
marks the component. -/
def IsReport (writes : List ColumnsWrite) : Prop :=
  (∃ puts : List ReportedContainer, writes = puts.map .put) ∨ writes = [.mark]

/-- What two reports do to one component while they overlap is seen, by a view, as after one of
them and then the other. -/
def AsInOrder {γ : Type} (view : Option ComponentColumns → γ)
    (whole first second : Option ComponentColumns) : Prop :=
  view whole = view first ∨ view whole = view second

theorem AsInOrder.of_id {γ : Type} {whole first second : Option ComponentColumns}
    (same : AsInOrder id whole first second) (view : Option ComponentColumns → γ) :
    AsInOrder view whole first second :=
  same.imp (congrArg view) (congrArg view)

/-- The columns of a component after two reports that overlap. -/
structure Shuffled (named : Prop) (whole first second : Option ComponentColumns) : Prop where
  state : AsInOrder (Option.map stateColumns) whole first second
  containerName : AsInOrder (Option.bind · ComponentColumns.containerName) whole first second
  row : named → AsInOrder id whole first second

theorem Shuffled.of_row {named : Prop} {whole first second : Option ComponentColumns}
    (same : AsInOrder id whole first second) : Shuffled named whole first second :=
  ⟨same.of_id _, same.of_id _, fun _ => same⟩

/-- Two reports of the same component. -/
theorem shuffled_puts {first second : List ReportedContainer} {whole : List ColumnsWrite}
    (shuffle : Shuffle (first.map .put) (second.map .put) whole) :
    Shuffled (∀ reported ∈ first ++ second, reported.containerName.isSome = true)
      (applyColumns whole columns)
      (applyColumns (first.map .put ++ second.map .put) columns)
      (applyColumns (second.map .put ++ first.map .put) columns) := by
  obtain ⟨puts, origin, rfl⟩ := shuffle.of_map
  rw [← List.map_append, ← List.map_append]
  constructor
  · simp only [AsInOrder, state_applyColumns]
    exact origin.getLast?.imp (fun last => by rw [last]) fun last => by rw [last]
  · simp only [AsInOrder, containerName_applyColumns, List.filterMap_append]
    have last := (origin.filterMap ReportedContainer.containerName).getLast?
    exact last.imp (fun last => by rw [last]) fun last => by rw [last]
  · intro named
    have inOrder : ∀ reported ∈ second ++ first, reported.containerName.isSome = true :=
      fun reported inside => named reported (List.mem_append.mpr (List.mem_append.mp inside).symm)
    have shuffled : ∀ reported ∈ puts, reported.containerName.isSome = true :=
      fun reported inside => named reported (List.mem_append.mpr (origin.mem inside))
    simp only [AsInOrder, id, applyColumns_named _ named, applyColumns_named _ inOrder,
      applyColumns_named _ shuffled]
    exact origin.getLast?.imp (fun last => by rw [last]) fun last => by rw [last]

/-- Two reports, whatever they do to the component. -/
theorem shuffled_reports {first second whole : List ColumnsWrite} (report : IsReport first)
    (report' : IsReport second) (shuffle : Shuffle first second whole) :
    Shuffled (∀ reported, .put reported ∈ first ++ second → reported.containerName.isSome = true)
      (applyColumns whole columns) (applyColumns (first ++ second) columns)
      (applyColumns (second ++ first) columns) := by
  rcases report with ⟨puts, rfl⟩ | rfl
  · rcases report' with ⟨puts', rfl⟩ | rfl
    · obtain ⟨state, containerName, row⟩ := @shuffled_puts columns _ _ _ shuffle
      refine ⟨state, containerName, fun named => row fun reported inside => ?_⟩
      apply named
      rw [← List.map_append]
      exact List.mem_map_of_mem inside
    · exact .of_row (shuffled_mark shuffle)
  · rcases report' with ⟨puts', rfl⟩ | rfl
    · exact .of_row (shuffled_mark shuffle.swap).symm
    · obtain ⟨before, after, same, rfl⟩ := shuffle.of_singleton
      refine .of_row (.inl ?_)
      rcases List.cons_eq_append_iff.mp same with ⟨rfl, rfl⟩ | ⟨rest, rfl, none⟩
      · rfl
      · obtain ⟨rfl, rfl⟩ := List.append_eq_nil_iff.mp none.symm
        rfl

end Columns

/-! ## What a report performs -/

section Reports

variable {fine : Hub → Prop} {serviceIndex : Value} {index : ℕ}

/-- The containers that are given have a name, which may be null. -/
def Named (containers : List Value) : Prop :=
  ∀ container ∈ containers, ∀ members, packetMembers container = some members →
    member members "name" ≠ .undefined

/-- What the upserts of some containers perform. -/
def upserts (index : ℕ) (reported : List (Text × ReportedContainer)) : List ReportStep :=
  reported.map fun item => .upsert index item.1 item.2

theorem containerName_of_named {members : Members Value} {reported : ReportedContainer}
    (named : member members "name" ≠ .undefined)
    (given : reportedContainer members = some reported) : reported.containerName.isSome = true := by
  rw [reportedContainer] at given
  obtain ⟨containerName, column, given⟩ := Option.bind_eq_some_iff.mp given
  obtain ⟨health, -, given⟩ := Option.bind_eq_some_iff.mp given
  obtain ⟨exitCode, -, given⟩ := Option.bind_eq_some_iff.mp given
  obtain rfl := Option.some.inj given
  cases value : member members "name" with
  | undefined => exact absurd value named
  | null =>
    rw [value] at column
    obtain rfl := Option.some.inj column
    rfl
  | string text =>
    rw [value] at column
    obtain rfl := Option.some.inj column
    rfl
  | _ =>
    rw [value] at column
    cases column

/-- A program that writes one container, or none. -/
def WritesContainer (fine : Hub → Prop) (index : ℕ) (container : Value)
    (program : HubProgram (Option Text)) : Prop :=
  ∃ reported ending,
    Performs fine program ((upserts index reported).map ReportStep.effect) ending ∧
    (∀ name, ending = .ok name → ∀ item ∈ reported, name = some item.1) ∧
    (Named [container] → ∀ item ∈ reported, item.2.containerName.isSome = true)

theorem writesContainer_nil {container : Value} {program : HubProgram (Option Text)}
    {ending : Except Failure (Option Text)} (performs : Performs fine program [] ending) :
    WritesContainer fine index container program := by
  refine ⟨[], ending, performs, ?_, ?_⟩
  · exact fun _ _ _ inside => (List.not_mem_nil inside).elim
  · exact fun _ _ inside => (List.not_mem_nil inside).elim

theorem writesContainer_syncContainer
    (column : ∀ wanted, numberColumn (some serviceIndex) = some wanted → wanted = index)
    (deployPreset : DeployPreset) (container : Value) :
    WritesContainer fine index container (syncContainer serviceIndex deployPreset container) := by
  rw [syncContainer]
  cases given : packetMembers container with
  | none => exact writesContainer_nil (performs_throw _)
  | some members =>
    rw [orThrow, pure_bind']
    cases componentName deployPreset members with
    | error failure => exact writesContainer_nil (performs_throw _)
    | ok name =>
      change WritesContainer fine index container (if name.truthy = true then _ else pure none)
      split
      · cases wanted : numberColumn (some serviceIndex) with
        | none => exact writesContainer_nil (performs_throw _)
        | some number =>
          obtain rfl := column number wanted
          rcases textColumn (some name) with _ | _ | _ | name
          · exact writesContainer_nil (performs_throw _)
          · exact writesContainer_nil (performs_throw _)
          · exact writesContainer_nil (performs_throw _)
          · cases columns : reportedContainer members with
            | none => exact writesContainer_nil (performs_throw _)
            | some reported =>
              refine ⟨[(name, reported)], .ok (some name), ?_, ?_, ?_⟩
              · have writes : Performs fine (upsertComponent index name reported)
                    [(ReportStep.upsert index name reported).effect] (.ok ()) :=
                  performs_step fun _ _ => rfl
                change Performs fine (upsertComponent index name reported >>= fun _ =>
                  pure (some name)) ([_] ++ []) _
                exact writes.bind (performs_pure _)
              · intro name' same item inside
                obtain rfl := List.mem_singleton.mp inside
                exact (Except.ok.inj same).symm
              · intro named item inside
                obtain rfl := List.mem_singleton.mp inside
                exact containerName_of_named (named container List.mem_cons_self members given)
                  columns
      · exact writesContainer_nil (performs_pure _)

/-- The containers of a report are written one after the other, until one of them is refused. -/
theorem performs_containers
    (column : ∀ wanted, numberColumn (some serviceIndex) = some wanted → wanted = index)
    (deployPreset : DeployPreset) (containers : List Value) :
    ∃ reported ending,
      Performs fine (containers.mapM (syncContainer serviceIndex deployPreset))
        ((upserts index reported).map ReportStep.effect) ending ∧
      (∀ names, ending = .ok names → ∀ item ∈ reported, some item.1 ∈ names) ∧
      (Named containers → ∀ item ∈ reported, item.2.containerName.isSome = true) := by
  induction containers with
  | nil =>
    exact ⟨[], _, performs_pure _, fun _ _ _ inside => (List.not_mem_nil inside).elim,
      fun _ _ inside => (List.not_mem_nil inside).elim⟩
  | cons container containers ih =>
    obtain ⟨first, ending, performs, names, named⟩ :=
      @writesContainer_syncContainer fine _ _ column deployPreset container
    have here (all : Named (container :: containers)) : Named [container] := by
      intro other inside
      exact all other (List.mem_singleton.mp inside ▸ List.mem_cons_self)
    rw [List.mapM_cons]
    cases ending with
    | error failure =>
      refine ⟨first, .error failure, performs.fails _, ?_, fun all => named (here all)⟩
      intro _ same
      cases same
    | ok name =>
      obtain ⟨rest, ending', performs', names', named'⟩ := ih
      have every (all : Named (container :: containers)) :
          ∀ item ∈ first ++ rest, item.2.containerName.isSome = true := by
        intro item inside
        rcases List.mem_append.mp inside with one | other
        · exact named (here all) item one
        · exact named' (fun container inside => all container (List.mem_cons_of_mem _ inside)) item
            other
      have both : (upserts index (first ++ rest)).map ReportStep.effect =
          (upserts index first).map ReportStep.effect ++
            (upserts index rest).map ReportStep.effect := by
        rw [upserts, List.map_append, List.map_append]
        rfl
      refine ⟨first ++ rest, ending'.map (name :: ·), ?_, ?_, every⟩
      · rw [both]
        refine performs.bind ?_
        cases ending' with
        | error failure => exact performs'.fails _
        | ok others =>
          rw [← List.append_nil ((upserts index rest).map _)]
          exact performs'.bind (performs_pure _)
      · intro all same item inside
        cases ending' with
        | error failure => cases same
        | ok others =>
          obtain rfl := Except.ok.inj same
          rcases List.mem_append.mp inside with one | other
          · rw [← names name rfl item one]
            exact List.mem_cons_self
          · exact List.mem_cons_of_mem _ (names' others rfl item other)

/-- The upserts of a report put the containers of a component. -/
theorem touches_upserts (reported : List (Text × ReportedContainer)) (service : ℕ) (name : Text) :
    ∃ puts : List ReportedContainer,
      (upserts index reported).filterMap (ReportStep.touches service name) = puts.map .put ∧
      ∀ put ∈ puts, index = service ∧ (name, put) ∈ reported := by
  induction reported with
  | nil => exact ⟨[], rfl, fun _ inside => (List.not_mem_nil inside).elim⟩
  | cons item reported ih =>
    obtain ⟨puts, same, from'⟩ := ih
    rw [upserts, List.map_cons]
    by_cases here : index = service ∧ item.1 = name
    · have touched : ReportStep.touches service name (.upsert index item.1 item.2) =
          some (.put item.2) := if_pos here
      refine ⟨item.2 :: puts, ?_, fun put inside => ?_⟩
      · rw [List.filterMap_cons_some touched, List.map_cons]
        exact congrArg (List.cons _) same
      · rcases List.mem_cons.mp inside with rfl | later
        · exact ⟨here.1, here.2 ▸ List.mem_cons_self⟩
        · exact ⟨(from' put later).1, List.mem_cons_of_mem _ (from' put later).2⟩
    · have untouched : ReportStep.touches service name (.upsert index item.1 item.2) = none :=
        if_neg here
      refine ⟨puts, ?_, fun put inside => ?_⟩
      · rw [List.filterMap_cons_none untouched]
        exact same
      · exact ⟨(from' put inside).1, List.mem_cons_of_mem _ (from' put inside).2⟩

/-- A container report, as its handler gets it. -/
structure ContainerReport where
  serviceIndex : Value
  containers : Value

def syncReport (objectFilter : Members Value → Option (ℕ → Bool)) (report : ContainerReport) :
    HubProgram Unit :=
  syncServiceComponents objectFilter report.serviceIndex report.containers

/-- All the containers of a report have a name. -/
def NamesContainers (report : ContainerReport) : Prop :=
  ∀ containers, containerList report.containers = some containers → Named containers

/-- The steps of a report reach every component in one of two ways, and give every container its
name if all the containers have one. -/
structure Reporting (report : ContainerReport) (steps : List ReportStep) : Prop where
  each : ∀ service name, IsReport (steps.filterMap (ReportStep.touches service name))
  named : NamesContainers report → ∀ service name reported,
    .put reported ∈ steps.filterMap (ReportStep.touches service name) →
      reported.containerName.isSome = true

variable {objectFilter : Members Value → Option (ℕ → Bool)} {report : ContainerReport}

theorem reporting_nil : Reporting report [] where
  each _ _ := .inl ⟨[], rfl⟩
  named _ _ _ _ inside := (List.not_mem_nil inside).elim

/-- A report that looks up the service, writes some containers, and may come to its end. -/
theorem reporting_upserts {containers : List Value}
    (given : containerList report.containers = some containers)
    {reported : List (Text × ReportedContainer)}
    (named : Named containers → ∀ item ∈ reported, item.2.containerName.isSome = true)
    {last : List ReportStep}
    (ends : last = [] ∨ ∃ selects seenNames, last = [.remove selects seenNames] ∧
      ∀ item ∈ reported, item.1 ∈ seenNames) :
    Reporting report (.lookUp :: (upserts index reported ++ last)) := by
  have parts (service : ℕ) (name : Text) : ∃ puts : List ReportedContainer,
      (.lookUp :: (upserts index reported ++ last)).filterMap
          (ReportStep.touches service name) =
        puts.map .put ++ last.filterMap (ReportStep.touches service name) ∧
      ∀ put ∈ puts, index = service ∧ (name, put) ∈ reported := by
    obtain ⟨puts, same, from'⟩ := @touches_upserts index reported service name
    refine ⟨puts, ?_, from'⟩
    rw [List.filterMap_cons_none rfl, List.filterMap_append, same]
  constructor
  · intro service name
    obtain ⟨puts, same, from'⟩ := parts service name
    rw [same]
    rcases ends with rfl | ⟨selects, seenNames, rfl, seen⟩
    · exact .inl ⟨puts, List.append_nil _⟩
    · by_cases unseen : (selects service && !seenNames.contains name) = true
      · -- what is not seen has not been put either
        have unput : puts = [] := by
          refine List.eq_nil_iff_forall_not_mem.mpr fun put inside => ?_
          have there := seen _ (from' put inside).2
          simp [there] at unseen
        have marks : ReportStep.touches service name (.remove selects seenNames) = some .mark :=
          if_pos unseen
        rw [unput, List.filterMap_cons_some marks]
        exact .inr rfl
      · have spares : ReportStep.touches service name (.remove selects seenNames) = none :=
          if_neg unseen
        rw [List.filterMap_cons_none spares]
        exact .inl ⟨puts, List.append_nil _⟩
  · intro all service name put inside
    obtain ⟨puts, same, from'⟩ := parts service name
    rw [same, List.mem_append] at inside
    rcases inside with one | mark
    · obtain ⟨put', inside, same⟩ := List.mem_map.mp one
      obtain rfl := ColumnsWrite.put.inj same
      exact named (all containers given) _ (from' put' inside).2
    · rcases ends with rfl | ⟨selects, seenNames, rfl, -⟩
      · cases mark
      · simp [ReportStep.touches] at mark

/-- A number that selects a service is its index. -/
theorem column_of_selects {selects : ℕ → Bool}
    (filter : indexFilter objectFilter serviceIndex = some selects) (chosen : selects index = true)
    {wanted : ℤ} (column : numberColumn (some serviceIndex) = some wanted) : wanted = index := by
  cases serviceIndex with
  | number number =>
    rw [indexFilter, column] at filter
    obtain rfl := Option.some.inj filter
    exact (beq_iff_eq.mp chosen).symm
  | _ => cases column

/-- As long as the services are the same, a report performs the same steps. -/
theorem performs_syncReport (services : Table ServiceRow) :
    ∃ steps ending,
      Performs (fun hub => hub.database.services = services) (syncReport objectFilter report)
        (steps.map ReportStep.effect) ending ∧ Reporting report steps := by
  rw [syncReport, syncServiceComponents]
  cases filter : indexFilter objectFilter report.serviceIndex with
  | none => exact ⟨[], _, performs_throw _, reporting_nil⟩
  | some selects =>
    have looks (rest : Option ServiceRow → HubProgram Unit) {steps : List ReportStep}
        {ending : Except Failure Unit}
        (performs : Performs (fun hub => hub.database.services = services)
          (rest (services.findFirst fun service =>
            selects service.serviceIndex && service.serviceDeletedAt.isNone))
          (steps.map ReportStep.effect) ending) :
        Performs (fun hub => hub.database.services = services)
          (look (fun hub => serviceBy selects hub.database) >>= rest)
          ((ReportStep.lookUp :: steps).map ReportStep.effect) ending := by
      have looked : Performs (fun hub => hub.database.services = services)
          (look fun hub => serviceBy selects hub.database : HubProgram (Option ServiceRow)) [id]
          (.ok (services.findFirst fun service =>
            selects service.serviceIndex && service.serviceDeletedAt.isNone)) :=
        performs_step fun hub same => congrArg (fun table => Table.findFirst table _) same
      exact looked.bind performs
    have only : Reporting report [.lookUp] :=
      ⟨fun _ _ => .inl ⟨[], rfl⟩, fun _ _ _ _ inside => (List.not_mem_nil inside).elim⟩
    cases found : services.findFirst fun service =>
        selects service.serviceIndex && service.serviceDeletedAt.isNone with
    | none =>
      refine ⟨[.lookUp], .ok (), looks _ ?_, only⟩
      rw [found]
      exact performs_pure _
    | some service =>
      obtain ⟨-, chosen⟩ := Table.mem_of_findFirst found
      rw [Bool.and_eq_true] at chosen
      cases given : containerList report.containers with
      | none =>
        refine ⟨[.lookUp], .error .internal, looks _ ?_, only⟩
        rw [found]
        exact performs_throw _
      | some containers =>
        obtain ⟨reported, ending, performs, seen, named⟩ := @performs_containers
          (fun hub => hub.database.services = services) _ _
          (fun wanted => column_of_selects filter chosen.1) service.serviceDeployPreset containers
        cases ending with
        | error failure =>
          refine ⟨.lookUp :: (upserts service.serviceIndex reported ++ []), .error failure,
            looks _ ?_, reporting_upserts given named (.inl rfl)⟩
          rw [found, List.append_nil]
          exact performs.fails _
        | ok names =>
          refine ⟨.lookUp :: (upserts service.serviceIndex reported ++
            [.remove selects names.reduceOption]), .ok (), looks _ ?_,
            reporting_upserts given named (.inr ⟨_, _, rfl, fun item inside =>
              List.reduceOption_mem_iff.mpr (seen names rfl item inside)⟩)⟩
          rw [found, List.map_append]
          exact performs.bind (performs_step fun _ _ => rfl)

end Reports

/-! ## Two reports -/

section Runs

variable (objectFilter : Members Value → Option (ℕ → Bool)) (first second : ContainerReport)
  (hub : Hub)

/-- Two reports that are written at the same time, their steps in the order of a schedule. -/
def overlapping (schedule : List ℕ) : Config ContainerReport Hub Failure Unit :=
  final (observed (syncReport objectFilter) fun hub (_ : Unit) => ((), hub)) { state := hub }
    (.start first :: .start second :: schedule.map .resume)

/-- Both reports have come to their ends. -/
def BothEnded (config : Config ContainerReport Hub Failure Unit) : Prop :=
  ∀ thread ∈ config.threads, thread.result ≠ none

instance (config : Config ContainerReport Hub Failure Unit) : Decidable (BothEnded config) :=
  decidable_of_iff (∀ thread ∈ config.threads, thread.result.isSome = true) (by
    simp only [BothEnded, Option.isSome_iff_ne_none])

/-- One report after the other. -/
def inOrder : Hub :=
  ((syncReport objectFilter second).run ((syncReport objectFilter first).run hub).2).2

variable {objectFilter first second hub}

/-- The columns of a component after one report and then the other. -/
theorem componentColumns_inOrder {steps steps' : List ReportStep}
    {ending ending' : Except Failure Unit} {services : Table ServiceRow}
    (same : hub.database.services = services)
    (performs : Performs (fun hub => hub.database.services = services)
      (syncReport objectFilter first) (steps.map ReportStep.effect) ending)
    (performs' : Performs (fun hub => hub.database.services = services)
      (syncReport objectFilter second) (steps'.map ReportStep.effect) ending')
    (serviceIndex : ℕ) (name : Text) :
    componentColumns serviceIndex name (inOrder objectFilter first second hub).database =
      applyColumns (steps.filterMap (ReportStep.touches serviceIndex name) ++
          steps'.filterMap (ReportStep.touches serviceIndex name))
        (componentColumns serviceIndex name hub.database) := by
  have middle : ((syncReport objectFilter first).run hub).2 =
      applyAll (steps.map ReportStep.effect) hub := performs.run (keeps_services steps) same
  have still : (applyAll (steps.map ReportStep.effect) hub).database.services = services :=
    services_applyAll steps same
  rw [inOrder, middle, performs'.run (keeps_services steps') still, componentColumns_applyAll,
    componentColumns_applyAll, applyColumns_append]

/-- When two reports have been written at the same time, every component is as if one of them had
been written after the other: its state is, the name of its container is, and if the reports give
all names, the whole row is. -/
theorem reports_rowwise {schedule : List ℕ}
    (ended : BothEnded (overlapping objectFilter first second hub schedule))
    (serviceIndex : ℕ) (name : Text) :
    Shuffled (NamesContainers first ∧ NamesContainers second)
      (componentColumns serviceIndex name
        (overlapping objectFilter first second hub schedule).state.database)
      (componentColumns serviceIndex name (inOrder objectFilter first second hub).database)
      (componentColumns serviceIndex name (inOrder objectFilter second first hub).database) := by
  obtain ⟨steps, ending, performs, reporting⟩ :=
    @performs_syncReport objectFilter first hub.database.services
  obtain ⟨steps', ending', performs', reporting'⟩ :=
    @performs_syncReport objectFilter second hub.database.services
  rw [componentColumns_inOrder rfl performs performs', componentColumns_inOrder rfl performs'
    performs]
  obtain ⟨whole, shuffle, state⟩ := @shuffled_along _ _ _ _ _ _ (syncReport objectFilter)
    (fun hub (_ : Unit) => ((), hub)) _ (overlapping objectFilter first second hub []) _ _ _ _ _ _
    rfl performs performs' (keeps_services steps) (keeps_services steps') rfl schedule ended
  obtain ⟨origin, shuffled, rfl⟩ := shuffle.of_map
  have last : (overlapping objectFilter first second hub schedule).state =
      applyAll (origin.map ReportStep.effect) hub := state
  rw [last, componentColumns_applyAll]
  obtain ⟨states, containerNames, row⟩ := @shuffled_reports
    (componentColumns serviceIndex name hub.database) _ _ _ (reporting.each serviceIndex name)
    (reporting'.each serviceIndex name) (shuffled.filterMap _)
  refine ⟨states, containerNames, fun named => row fun reported inside => ?_⟩
  rcases List.mem_append.mp inside with one | other
  · exact reporting.named named.1 serviceIndex name reported one
  · exact reporting'.named named.2 serviceIndex name reported other

end Runs

/-- A service that is composed of several containers. -/
def composedHub : Hub where
  now := 0
  database :=
    { services := Table.empty.create fun index =>
        { serviceIndex := index
          serviceName := "app"
          servicePort := 80
          serviceSourceUrl := "https://example.org/app.git"
          serviceParentWorkspace := 1
          serviceParentAgent := 1
          serviceVersion := "1"
          serviceDeployPreset := .compose } }

/-- A report on one container, which runs. -/
def runningContainer (name : Text) : ContainerReport where
  serviceIndex := .number (.finite (Decimal.ofInt 1))
  containers := .array [.object [("name", .string name), ("status", .string "running")]]

theorem reports_rowwise_composed :
    Shuffled (NamesContainers (runningContainer "web") ∧ NamesContainers (runningContainer "db"))
      (componentColumns 1 "web" (overlapping (fun _ => none) (runningContainer "web")
        (runningContainer "db") composedHub [0, 1, 0, 1, 0, 1]).state.database)
      (componentColumns 1 "web" (inOrder (fun _ => none) (runningContainer "web")
        (runningContainer "db") composedHub).database)
      (componentColumns 1 "web" (inOrder (fun _ => none) (runningContainer "db")
        (runningContainer "web") composedHub).database) :=
  reports_rowwise (by decide +kernel) 1 "web"

/-- Each of two reports on different containers marks the container of the other one removed, and
in the end both are, which neither order leads to. -/
theorem not_reports_atomic :
    ¬ ∀ (first second : ContainerReport) (hub : Hub) (schedule : List ℕ) (serviceIndex : ℕ),
      BothEnded (overlapping (fun _ => none) first second hub schedule) →
      (∀ name, componentColumns serviceIndex name
          (overlapping (fun _ => none) first second hub schedule).state.database =
        componentColumns serviceIndex name (inOrder (fun _ => none) first second hub).database) ∨
      (∀ name, componentColumns serviceIndex name
          (overlapping (fun _ => none) first second hub schedule).state.database =
        componentColumns serviceIndex name
          (inOrder (fun _ => none) second first hub).database) := by
  intro atomic
  rcases atomic (runningContainer "web") (runningContainer "db") composedHub [0, 1, 0, 1, 0, 1] 1
    (by decide +kernel) with same | same
  · have differs : componentColumns 1 "db" (overlapping (fun _ => none) (runningContainer "web")
        (runningContainer "db") composedHub [0, 1, 0, 1, 0, 1]).state.database ≠
        componentColumns 1 "db" (inOrder (fun _ => none) (runningContainer "web")
          (runningContainer "db") composedHub).database := by
      decide +kernel
    exact differs (same "db")
  · have differs : componentColumns 1 "web" (overlapping (fun _ => none) (runningContainer "web")
        (runningContainer "db") composedHub [0, 1, 0, 1, 0, 1]).state.database ≠
        componentColumns 1 "web" (inOrder (fun _ => none) (runningContainer "db")
          (runningContainer "web") composedHub).database := by
      decide +kernel
    exact differs (same "web")

end AgentGateway

end OpticsHub
