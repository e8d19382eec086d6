import OpticsHub.Script.Enumeration

/-!
# Paths into a value, and renamed keys

A path leads from a value to a part of it, by the indices of elements and the keys of members.
Renaming the keys of a value leaves everything else as it is. A renaming that turns no key into an
array index and no array index into another key leaves the members in the order they had, and one
that takes no two keys of an object to the same leaves every part at its renamed path.
-/
namespace Script

open Members

namespace Members

variable {α : Type} {β : Type}

/-- `Object.fromEntries(entries)` -/
def fromEntries (entries : Members α) : Members α :=
  entries.foldl (fun object entry => define object entry.1 entry.2) []

/-- The members with other keys. -/
def mapKeys (rename : Text → Text) (members : Members α) : Members α :=
  members.map fun entry => (rename entry.1, entry.2)

theorem keys_mapKeys (rename : Text → Text) (members : Members α) :
    keys (mapKeys rename members) = (keys members).map rename := by
  simp [keys, mapKeys, Function.comp_def]

theorem mapKeys_mapValues (rename : Text → Text) (change : α → β) (members : Members α) :
    mapKeys rename (mapValues change members) = mapValues change (mapKeys rename members) := by
  simp [mapKeys, mapValues, Function.comp_def]

theorem foldl_define (members entries : Members α) (distinct : (keys (members ++ entries)).Nodup) :
    entries.foldl (fun object entry => define object entry.1 entry.2) members =
      members ++ entries := by
  induction entries generalizing members with
  | nil => rw [List.foldl_nil, List.append_nil]
  | cons entry rest ih =>
    have absent : entry.1 ∉ keys members := by
      intro inside
      rw [keys, List.map_append, List.nodup_append] at distinct
      exact distinct.2.2 _ inside _ (List.mem_map_of_mem List.mem_cons_self) rfl
    rw [List.foldl_cons, define_of_notMem absent, ih]
    · rw [List.append_assoc, List.singleton_append]
    · rwa [List.append_assoc, List.singleton_append]

/-- Entries of distinct keys are the members of their object. -/
theorem fromEntries_eq {entries : Members α} (distinct : (keys entries).Nodup) :
    fromEntries entries = entries :=
  foldl_define [] entries distinct

/-- Enumeration does not change what it has put in order. -/
theorem enumerate_enumerate (members : Members α) :
    enumerate (enumerate members) = enumerate members :=
  (enumerate_eq_self_iff _).mpr (pairwise_enumerate members)

/-- A renaming that keeps the array indices keeps the order of enumeration. -/
theorem enumerate_mapKeys {rename : Text → Text}
    (indices : ∀ key, arrayIndex? (rename key) = arrayIndex? key) (members : Members α) :
    enumerate (mapKeys rename members) = mapKeys rename (enumerate members) := by
  have sorted : ∀ list : Members α,
      (mapKeys rename list).insertionSort indexLe = mapKeys rename (list.insertionSort indexLe) := by
    intro list
    refine (List.map_insertionSort indexLe indexLe _ list fun left _ right _ => ?_).symm
    simp only [indexLe, indices]
  have kept : ∀ selected : Option ℕ → Bool,
      (mapKeys rename members).filter (fun entry => selected (arrayIndex? entry.1)) =
        mapKeys rename (members.filter fun entry => selected (arrayIndex? entry.1)) := by
    intro selected
    simp [mapKeys, List.filter_map, Function.comp_def, indices]
  rw [enumerate, kept Option.isSome, kept Option.isNone, sorted, enumerate, mapKeys, mapKeys,
    mapKeys, List.map_append]

end Members

namespace Value

/-! ## Paths -/

inductive PathStep where
  | element (index : ℕ)
  | member (key : Text)
  deriving DecidableEq

/-- A step of a value with other keys. -/
def PathStep.renamed (rename : Text → Text) : PathStep → PathStep
  | .element index => .element index
  | .member key => .member (rename key)

/-- A part of a value is where a path leads. -/
inductive At : Value → List PathStep → Value → Prop
  | here (value : Value) : At value [] value
  | element {elements : List Value} {index : ℕ} {element part : Value} {path : List PathStep}
      (found : elements[index]? = some element) (below : At element path part) :
      At (.array elements) (.element index :: path) part
  | member {members : Members Value} {key : Text} {value part : Value} {path : List PathStep}
      (found : (key, value) ∈ members) (below : At value path part) :
      At (.object members) (.member key :: path) part

theorem At.trans {value middle part : Value} {path path' : List PathStep}
    (first : At value path middle) (second : At middle path' part) :
    At value (path ++ path') part := by
  induction first with
  | here value => exact second
  | element found below ih => exact .element found (ih second)
  | member found below ih => exact .member found (ih second)

/-! ## Renamed keys -/

mutual

/-- A value with the keys of every object renamed. -/
def renameKeys (rename : Text → Text) : Value → Value
  | .array elements => .array (renameElements rename elements)
  | .object members => .object (renameMembers rename members)
  | .undefined => .undefined
  | .null => .null
  | .boolean value => .boolean value
  | .number value => .number value
  | .string text => .string text
  | .date iso => .date iso

def renameElements (rename : Text → Text) : List Value → List Value
  | [] => []
  | element :: rest => renameKeys rename element :: renameElements rename rest

def renameMembers (rename : Text → Text) : Members Value → Members Value
  | [] => []
  | (key, value) :: rest => (rename key, renameKeys rename value) :: renameMembers rename rest

end

theorem renameKeys_array (rename : Text → Text) (elements : List Value) :
    renameKeys rename (.array elements) = .array (elements.map (renameKeys rename)) := by
  rw [renameKeys]
  congr 1
  induction elements with
  | nil => rfl
  | cons element rest ih => rw [renameElements, ih, List.map_cons]

theorem renameKeys_object (rename : Text → Text) (members : Members Value) :
    renameKeys rename (.object members) =
      .object (mapKeys rename (mapValues (renameKeys rename) members)) := by
  rw [renameKeys]
  congr 1
  induction members with
  | nil => rfl
  | cons entry rest ih =>
    rw [renameMembers, ih]
    rfl

end Value

/-! ## Texts -/

theorem stringifyElements_eq (elements : List Value) :
    stringifyElements elements = elements.map fun element => (stringify element).getD "null" := by
  induction elements with
  | nil => rfl
  | cons element rest ih => rw [stringifyElements, ih, List.map_cons]

/-- Members that all have a text are written with it. -/
theorem stringifyMembers_eq {members : Members Value}
    (texts : ∀ entry ∈ members, (stringify entry.2).isSome = true) :
    stringifyMembers members = mapValues (fun value => (stringify value).getD []) members := by
  induction members with
  | nil => rfl
  | cons entry rest ih =>
    rw [List.forall_mem_cons] at texts
    obtain ⟨text, written⟩ := Option.isSome_iff_exists.mp texts.1
    rw [stringifyMembers, written, ih texts.2]
    simp [mapValues, written]

/-- Only what is undefined has no text. -/
theorem isSome_stringify {value : Value} (defined : value ≠ .undefined) :
    (stringify value).isSome = true := by
  cases value with
  | undefined => exact absurd rfl defined
  | boolean value => cases value <;> rfl
  | number number => cases number <;> rfl
  | date iso => cases iso <;> rfl
  | _ => rfl

end Script
