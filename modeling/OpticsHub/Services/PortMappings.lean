import OpticsHub.Script.RoundTrip
import OpticsHub.Services.Normalize
import Mathlib.Data.List.ReduceOption

/-!
# Port mappings of a body that nothing has validated

The body of a request for a new service is not validated, so the ports that stand in for missing
mappings may be any JSON values. The entries of the list itself are converted and bounded one by
one, but the fallback is taken as it is. Hence the mappings are well formed exactly when the
fallback is not needed, not there or well formed itself.
-/
namespace OpticsHub

open Script Async Program

namespace ServiceService

/-! ## What a list of mappings comes to -/

/-- A port that a service can have. -/
def InRange (port : ℤ) : Prop := 1 ≤ port ∧ port ≤ 65535

instance (port : ℤ) : Decidable (InRange port) :=
  inferInstanceAs (Decidable (_ ∧ _))

theorem portOf_some {value : Value} {port : ℤ} (read : portOf value = .ok (some port)) :
    InRange port := by
  rw [portOf, bind_eq_ok_iff] at read
  obtain ⟨number, -, kept⟩ := read
  exact of_decide_eq_true (Option.filter_eq_some_iff.mp (Except.ok.inj kept)).2

/-- An integer within the bounds is read as the port it is. -/
theorem portOf_ofInt {port : ℤ} (bounded : InRange port) :
    portOf (.number (.finite (Decimal.ofInt port))) = .ok (some port) := by
  rw [portOf, bind_eq_ok_iff]
  refine ⟨.finite (Decimal.ofInt port), rfl, congrArg Except.ok ?_⟩
  rw [Number.toInteger?, Decimal.toInt?_ofInt]
  exact Option.filter_eq_some_iff.mpr ⟨rfl, decide_eq_true bounded⟩

/-- An entry that is a mapping has two ports. -/
theorem portMapping_some {entry : Value} {mapping : ServicePortMapping}
    (read : portMapping entry = .ok (some mapping)) :
    InRange mapping.hostPort ∧ InRange mapping.containerPort := by
  unfold portMapping at read
  cases record : recordOf entry with
  | none =>
    rw [record] at read
    cases read
  | some members =>
    rw [record] at read
    simp only [bind_eq_ok_iff] at read
    obtain ⟨hostPort, host, containerPort, container, ends⟩ := read
    cases hostPort with
    | none => cases ends
    | some hostPort =>
      cases containerPort with
      | none => cases ends
      | some containerPort =>
        cases ends
        exact ⟨portOf_some host, portOf_some container⟩

/-- A mapping as an entry of a list. -/
def mappingEntry (mapping : ServicePortMapping) : Value :=
  .object [("hostPort", .number (.finite (Decimal.ofInt mapping.hostPort))),
    ("containerPort", .number (.finite (Decimal.ofInt mapping.containerPort)))]

theorem portMapping_entry {mapping : ServicePortMapping} (host : InRange mapping.hostPort)
    (container : InRange mapping.containerPort) :
    portMapping (mappingEntry mapping) = .ok (some mapping) := by
  rw [mappingEntry, portMapping]
  simp only [recordOf, bind_eq_ok_iff]
  exact ⟨_, portOf_ofInt host, _, portOf_ofInt container, rfl⟩

/-- Two mappings have no port in common. -/
def Apart (first second : ServicePortMapping) : Prop :=
  first.hostPort ≠ second.hostPort ∧ first.containerPort ≠ second.containerPort

/-- The loop goes through when no mapping shares a port with one before it. -/
theorem checkDuplicates_from (before rest : List ServicePortMapping) :
    checkDuplicates before rest = .ok () ↔
      rest.Pairwise Apart ∧ ∀ mapping ∈ rest, ∀ earlier ∈ before, Apart earlier mapping := by
  induction rest generalizing before with
  | nil => simp [checkDuplicates]
  | cons mapping rest ih =>
    rw [checkDuplicates, List.pairwise_cons, List.forall_mem_cons]
    by_cases host : mapping.hostPort ∈ before.map ServicePortMapping.hostPort
    · rw [if_pos (List.contains_iff_mem.mpr host)]
      refine iff_of_false (fun ends => by cases ends) ?_
      rintro ⟨-, apart, -⟩
      obtain ⟨earlier, inside, same⟩ := List.mem_map.mp host
      exact (apart earlier inside).1 same
    rw [if_neg fun contained => host (List.contains_iff_mem.mp contained)]
    by_cases container : mapping.containerPort ∈ before.map ServicePortMapping.containerPort
    · rw [if_pos (List.contains_iff_mem.mpr container)]
      refine iff_of_false (fun ends => by cases ends) ?_
      rintro ⟨-, apart, -⟩
      obtain ⟨earlier, inside, same⟩ := List.mem_map.mp container
      exact (apart earlier inside).2 same
    rw [if_neg fun contained => container (List.contains_iff_mem.mp contained), ih]
    have fresh : ∀ earlier ∈ before, Apart earlier mapping := fun earlier inside =>
      ⟨fun same => host (List.mem_map.mpr ⟨earlier, inside, same⟩),
        fun same => container (List.mem_map.mpr ⟨earlier, inside, same⟩)⟩
    constructor
    · rintro ⟨later, apart⟩
      refine ⟨⟨fun other inside => ?_, later⟩, fresh, fun other inside earlier member => ?_⟩
      · exact apart other inside mapping (by simp)
      · exact apart other inside earlier (List.mem_append_left _ member)
    · rintro ⟨⟨first, later⟩, -, apart⟩
      refine ⟨later, fun other inside earlier member => ?_⟩
      rcases List.mem_append.mp member with older | last
      · exact apart other inside earlier older
      · exact List.mem_singleton.mp last ▸ first other inside

theorem checkDuplicates_ok_iff (mappings : List ServicePortMapping) :
    checkDuplicates [] mappings = .ok () ↔ mappings.Pairwise Apart := by
  simp [checkDuplicates_from]

/-- The mappings that a list holds, whatever else is in it. -/
theorem reduceOption_mappings {entries : List Value} {read : List (Option ServicePortMapping)}
    (each : entries.mapM portMapping = .ok read) :
    ∀ mapping ∈ read.reduceOption, InRange mapping.hostPort ∧ InRange mapping.containerPort := by
  intro mapping inside
  obtain ⟨entry, -, here⟩ := exists_of_mapM each (List.reduceOption_mem_iff.mp inside)
  exact portMapping_some here

/-- A list of mappings is read back from its stored form. -/
theorem mapM_storedPortMappings {mappings : List ServicePortMapping}
    (ports : ∀ mapping ∈ mappings, InRange mapping.hostPort ∧ InRange mapping.containerPort) :
    (elementsOf (storedPortMappings mappings)).mapM portMapping = .ok (mappings.map some) := by
  rw [mapM_eq_ok_iff]
  change List.Forall₂ _ (mappings.map mappingEntry) (mappings.map some)
  rw [List.forall₂_map_left_iff, List.forall₂_map_right_iff, List.forall₂_same]
  exact fun mapping inside => portMapping_entry (ports mapping inside).1 (ports mapping inside).2

/-! ## Fallbacks of any kind -/

/-- A mapping whose ports may be any values. -/
structure LooseMapping where
  hostPort : Value
  containerPort : Value

/-- An integer as a port of any kind. -/
def portValue (port : ℤ) : Value := .number (.finite (Decimal.ofInt port))

def loose (mapping : ServicePortMapping) : LooseMapping where
  hostPort := portValue mapping.hostPort
  containerPort := portValue mapping.containerPort

namespace Loose

/-- The mappings of a request, or the fallback as it is if it has none. A list of one mapping
goes through the loop for duplicates whatever its ports are. -/
def normalizePortMappings (input fallbackHostPort fallbackContainerPort : Value) :
    Except Failure (List LooseMapping) := do
  let entries ← (elementsOf input).mapM portMapping
  let mappings := entries.reduceOption
  if mappings.isEmpty then
    if fallbackHostPort.isDefined && fallbackContainerPort.isDefined then
      return [{ hostPort := fallbackHostPort, containerPort := fallbackContainerPort }]
    else throw (.badRequest "At least one port mapping is required.")
  else
    checkDuplicates [] mappings
    return mappings.map loose

end Loose

theorem Loose.normalizePortMappings_given {input : Value}
    {read : List (Option ServicePortMapping)}
    (each : (elementsOf input).mapM portMapping = .ok read) (some : read.reduceOption ≠ [])
    (fallbackHostPort fallbackContainerPort : Value) :
    Loose.normalizePortMappings input fallbackHostPort fallbackContainerPort =
      (checkDuplicates [] read.reduceOption).map fun _ => read.reduceOption.map loose := by
  have filled : ¬ read.reduceOption.isEmpty = true := by rwa [List.isEmpty_iff]
  rw [normalizePortMappings, each]
  dsimp only [bind, Except.bind]
  rw [if_neg filled]
  cases checkDuplicates [] read.reduceOption with
  | error failure => rfl
  | ok _ => rfl

theorem Loose.normalizePortMappings_missing {input : Value}
    {read : List (Option ServicePortMapping)}
    (each : (elementsOf input).mapM portMapping = .ok read) (none : read.reduceOption = [])
    (fallbackHostPort fallbackContainerPort : Value) :
    Loose.normalizePortMappings input fallbackHostPort fallbackContainerPort =
      if fallbackHostPort.isDefined && fallbackContainerPort.isDefined then
        .ok [{ hostPort := fallbackHostPort, containerPort := fallbackContainerPort }]
      else .error (.badRequest "At least one port mapping is required.") := by
  rw [normalizePortMappings, each]
  dsimp only [bind, Except.bind]
  rw [none, List.isEmpty_nil, if_pos rfl]
  rfl

/-- A port in the absence of which the fallback is undefined. -/
def fallbackValue (port : Option ℤ) : Value := port.elim .undefined portValue

/-- For fallbacks that are integers both forms agree. -/
theorem loose_normalizePortMappings (input : Value) (hostPort containerPort : Option ℤ) :
    Loose.normalizePortMappings input (fallbackValue hostPort) (fallbackValue containerPort) =
      (normalizePortMappings input hostPort containerPort).map (List.map loose) := by
  unfold normalizePortMappings
  cases each : (elementsOf input).mapM portMapping with
  | error failure =>
    rw [Loose.normalizePortMappings, each]
    rfl
  | ok read =>
    dsimp only [bind, Except.bind]
    cases given : read.reduceOption with
    | nil =>
      rw [Loose.normalizePortMappings_missing each given]
      cases hostPort with
      | none => rfl
      | some hostPort =>
        cases containerPort with
        | none => rfl
        | some containerPort => rfl
    | cons mapping rest =>
      rw [Loose.normalizePortMappings_given each (by simp [given]), given]
      cases duplicates : checkDuplicates [] (mapping :: rest) with
      | error failure => rfl
      | ok _ => rfl

/-- Mappings that are accepted are there. -/
theorem Loose.normalizePortMappings_ne_nil {input fallbackHostPort fallbackContainerPort : Value}
    {mappings : List LooseMapping}
    (accepted : Loose.normalizePortMappings input fallbackHostPort fallbackContainerPort =
      .ok mappings) : mappings ≠ [] := by
  cases each : (elementsOf input).mapM portMapping with
  | error failure =>
    rw [normalizePortMappings, each] at accepted
    cases accepted
  | ok read =>
    by_cases none : read.reduceOption = []
    · rw [normalizePortMappings_missing each none] at accepted
      split at accepted
      · cases accepted
        exact List.cons_ne_nil _ _
      · cases accepted
    · rw [normalizePortMappings_given each none] at accepted
      cases duplicates : checkDuplicates [] read.reduceOption with
      | error failure =>
        rw [duplicates] at accepted
        cases accepted
      | ok _ =>
        rw [duplicates] at accepted
        cases accepted
        simpa using none

theorem normalizePortMappings_ne_nil {input : Value} {hostPort containerPort : Option ℤ}
    {mappings : List ServicePortMapping}
    (accepted : normalizePortMappings input hostPort containerPort = .ok mappings) :
    mappings ≠ [] := by
  have loosely := loose_normalizePortMappings input hostPort containerPort
  rw [accepted] at loosely
  rintro rfl
  exact Loose.normalizePortMappings_ne_nil loosely rfl

/-! ## Well-formed mappings -/

/-- A value that is the number of a port. -/
def IsPort (value : Value) : Prop := ∃ port, InRange port ∧ value = portValue port

/-- A list of mappings as a value. -/
def listed (mappings : List LooseMapping) : Value :=
  .array (mappings.map fun mapping =>
    .object [("hostPort", mapping.hostPort), ("containerPort", mapping.containerPort)])

/-- Mappings that are there, between ports, and without a port in common. -/
structure WellFormedMappings (mappings : List LooseMapping) : Prop where
  some : mappings ≠ []
  ports : ∀ mapping ∈ mappings, IsPort mapping.hostPort ∧ IsPort mapping.containerPort
  apart : mappings.Pairwise fun first second =>
    first.hostPort ≠ second.hostPort ∧ first.containerPort ≠ second.containerPort

/-- Mappings that come to themselves, whatever the fallback is. -/
def Rereads (mappings : List LooseMapping) : Prop :=
  ∀ fallbackHostPort fallbackContainerPort,
    Loose.normalizePortMappings (listed mappings) fallbackHostPort fallbackContainerPort =
      .ok mappings

/-- No entry is a mapping, and there is something to fall back on. -/
structure FallsBack (input fallbackHostPort fallbackContainerPort : Value) : Prop where
  none : ∀ entry ∈ elementsOf input, portMapping entry = .ok none
  hostPort : fallbackHostPort.isDefined = true
  containerPort : fallbackContainerPort.isDefined = true

theorem portValue_injective : Function.Injective portValue := by
  intro port port' same
  exact Decimal.ofInt_injective (Number.finite.inj (Value.number.inj same))

/-- Mappings with integer ports are well formed and come to themselves. -/
theorem wellFormed_loose {mappings : List ServicePortMapping} (some : mappings ≠ [])
    (ports : ∀ mapping ∈ mappings, InRange mapping.hostPort ∧ InRange mapping.containerPort)
    (apart : mappings.Pairwise Apart) :
    WellFormedMappings (mappings.map loose) ∧ Rereads (mappings.map loose) := by
  constructor
  · refine ⟨by simpa using some, ?_, ?_⟩
    · refine List.forall_mem_map.mpr fun mapping inside => ?_
      exact ⟨⟨_, (ports mapping inside).1, rfl⟩, ⟨_, (ports mapping inside).2, rfl⟩⟩
    · refine List.pairwise_map.mpr (apart.imp fun distinct => ?_)
      exact ⟨fun same => distinct.1 (portValue_injective same),
        fun same => distinct.2 (portValue_injective same)⟩
  · intro fallbackHostPort fallbackContainerPort
    have stored : listed (mappings.map loose) = storedPortMappings mappings := by
      rw [listed, storedPortMappings, List.map_map]
      rfl
    have read : (mappings.map Option.some).reduceOption = mappings := by
      rw [List.reduceOption, List.filterMap_map, Function.id_comp, List.filterMap_some]
    rw [stored, Loose.normalizePortMappings_given (mapM_storedPortMappings ports) (by rwa [read]),
      read, (checkDuplicates_ok_iff mappings).mpr apart]
    rfl

/-- Every way of getting mappings gives well-formed ones that come to themselves, exactly if the
fallback consists of ports whenever it is used. -/
theorem normalizePortMappings_wellFormed_iff (input fallbackHostPort fallbackContainerPort : Value) :
    (∀ mappings,
      Loose.normalizePortMappings input fallbackHostPort fallbackContainerPort = .ok mappings →
      WellFormedMappings mappings ∧ Rereads mappings) ↔
    (FallsBack input fallbackHostPort fallbackContainerPort →
      IsPort fallbackHostPort ∧ IsPort fallbackContainerPort) := by
  constructor
  · intro formed falls
    have each : (elementsOf input).mapM portMapping =
        .ok ((elementsOf input).map fun _ => none) := by
      rw [mapM_eq_ok_iff, List.forall₂_map_right_iff, List.forall₂_same]
      exact falls.none
    have missing : ((elementsOf input).map fun _ =>
        (none : Option ServicePortMapping)).reduceOption = [] := by
      simp [List.reduceOption]
    have given := Loose.normalizePortMappings_missing each missing fallbackHostPort
      fallbackContainerPort
    rw [falls.hostPort, falls.containerPort, Bool.and_self, if_pos rfl] at given
    exact (formed _ given).1.ports _ List.mem_cons_self
  · intro sound mappings given
    cases each : (elementsOf input).mapM portMapping with
    | error failure =>
      rw [Loose.normalizePortMappings, each] at given
      cases given
    | ok read =>
      by_cases some : read.reduceOption = []
      · rw [Loose.normalizePortMappings_missing each some] at given
        split at given
        · rename_i defined
          rw [Bool.and_eq_true] at defined
          have none : ∀ entry ∈ elementsOf input, portMapping entry = .ok none := by
            intro entry inside
            obtain ⟨value, member, here⟩ := exists_mem_mapM each inside
            cases value with
            | none => exact here
            | some mapping =>
              have kept := List.reduceOption_mem_iff.mpr member
              rw [some] at kept
              cases kept
          obtain ⟨⟨port, host, rfl⟩, port', container, rfl⟩ := sound ⟨none, defined.1, defined.2⟩
          cases given
          exact @wellFormed_loose [⟨port, port'⟩] (List.cons_ne_nil _ _)
            (by simpa using ⟨host, container⟩) (List.pairwise_singleton _ _)
        · cases given
      · rw [Loose.normalizePortMappings_given each some] at given
        cases duplicates : checkDuplicates [] read.reduceOption with
        | error failure =>
          rw [duplicates] at given
          cases given
        | ok _ =>
          rw [duplicates] at given
          cases given
          exact wellFormed_loose some (reduceOption_mappings each)
            ((checkDuplicates_ok_iff _).mp duplicates)

/-- A single mapping is asked for without a list, by a port that is none. -/
theorem not_normalizePortMappings_wellFormed_zero :
    ∃ mappings,
      Loose.normalizePortMappings .undefined (portValue 0) (portValue 80) = .ok mappings ∧
      ¬ WellFormedMappings mappings := by
  refine ⟨[{ hostPort := portValue 0, containerPort := portValue 80 }], rfl, fun formed => ?_⟩
  obtain ⟨⟨port, bounded, same⟩, -⟩ := formed.ports _ List.mem_cons_self
  rw [← portValue_injective same] at bounded
  exact absurd bounded (by decide)

end ServiceService

end OpticsHub
