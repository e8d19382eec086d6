import OpticsHub.Script.Number
import Mathlib.Data.List.Sort
import Mathlib.Data.List.Perm.Basic

/-!
# JavaScript values and the order of their members

A value is a tree of the data a program hands to `JSON.stringify`: primitives,
dates, arrays and plain objects. An object is the list of its own members in the
order they were created. Enumeration does not follow that order throughout: the
keys that are array indices come first, in ascending order, and only the others
follow in the order of creation. Assignment does not always create a member
either: an object without a member `__proto__` of its own inherits a setter of
that name, so `object['__proto__'] = value` changes its prototype and leaves its
members as they were.

Rearranging the members of every object of a value is one traversal with the
rearrangement as its parameter. A rearrangement that looks at keys only commutes
with any change of the member values, so two traversals in a row are one
traversal with the composed rearrangement, and two rearrangements that agree on
distinct keys rebuild a well-formed value alike.
-/
namespace Script

universe u v

/-- The data a program can hand to `JSON.stringify`. A date stands for the result
of its `toJSON`: the ISO text, or none for an invalid date. -/
inductive Value where
  | undefined
  | null
  | boolean (value : Bool)
  | number (value : Number)
  | string (text : Text)
  | date (iso : Option Text)
  | array (elements : List Value)
  | object (members : List (Text × Value))

/-- The own members of an object, in the order they were created. -/
abbrev Members (α : Type u) := List (Text × α)

/-- Induction over a value, with the hypothesis for every element and member. -/
@[elab_as_elim, induction_eliminator]
theorem Value.induction {motive : Value → Prop} (undefined : motive .undefined)
    (null : motive .null) (boolean : ∀ value, motive (.boolean value))
    (number : ∀ value, motive (.number value)) (string : ∀ text, motive (.string text))
    (date : ∀ iso, motive (.date iso))
    (array : ∀ elements, (∀ element ∈ elements, motive element) → motive (.array elements))
    (object : ∀ members, (∀ entry ∈ members, motive entry.2) → motive (.object members)) :
    ∀ value, motive value := by
  intro value
  refine @Value.rec motive (fun elements => ∀ element ∈ elements, motive element)
    (fun members => ∀ entry ∈ members, motive entry.2) (fun entry => motive entry.2)
    undefined null boolean number string date array object ?_ ?_ ?_ ?_ ?_ value
  · simp
  · exact fun head tail first rest => List.forall_mem_cons.mpr ⟨first, rest⟩
  · simp
  · exact fun head tail first rest => List.forall_mem_cons.mpr ⟨first, rest⟩
  · exact fun _ _ held => held

namespace Members

variable {α : Type u} {β : Type v}

/-- The keys in the order of creation. -/
def keys (members : Members α) : List Text := members.map Prod.fst

/-- Change the value of every member, keeping its key and place. -/
def mapValues (change : α → β) (members : Members α) : Members β :=
  members.map fun entry => (entry.1, change entry.2)

/-- The own member of a key. -/
def own (members : Members α) (key : Text) : Option α :=
  (List.find? (fun entry => entry.1 == key) members).map Prod.snd

/-- `delete object[key]`. -/
def erase (members : Members α) (key : Text) : Members α :=
  members.filter fun entry => entry.1 != key

/-- Define an own member, as an object literal and a spread do: an existing member
keeps its place, a new one goes to the end. -/
def define (members : Members α) (key : Text) (value : α) : Members α :=
  if key ∈ keys members then
    members.map fun entry => if entry.1 = key then (key, value) else entry
  else members ++ [(key, value)]

end Members

/-- The name of the setter every plain object inherits. -/
def protoKey : Text := "__proto__"

namespace Members

variable {α : Type u} {β : Type v}

/-- `object[key] = value` on a plain object: without an own member `__proto__`, the
inherited setter of that name takes the value. -/
def assign (members : Members α) (key : Text) (value : α) : Members α :=
  if key = protoKey ∧ key ∉ keys members then members else define members key value

/-- The integer a key denotes when it is an array index: the decimal text of a
number below `2 ^ 32 - 1`. -/
def arrayIndex? (key : Text) : Option ℕ :=
  if key.all CodeUnit.isDigit && decimalText (decimalValue key) == key &&
      decide (decimalValue key < 2 ^ 32 - 1)
    then some (decimalValue key) else none

/-- Compare the array indices two keys denote. -/
def indexLe (left right : Text × α) : Prop :=
  (arrayIndex? left.1).getD 0 ≤ (arrayIndex? right.1).getD 0

instance : DecidableRel (indexLe (α := α)) :=
  fun _ _ => inferInstanceAs (Decidable (_ ≤ _))

instance : Std.Total (indexLe (α := α)) :=
  ⟨fun _ _ => Nat.le_total _ _⟩

instance : IsTrans (Text × α) indexLe :=
  ⟨fun _ _ _ => Nat.le_trans⟩

/-- The members in the order `Object.keys`, spread and `JSON.stringify` visit them:
array indices ascending, then the rest as they were created. -/
def enumerate (members : Members α) : Members α :=
  (members.filter fun entry => (arrayIndex? entry.1).isSome).insertionSort indexLe ++
    members.filter fun entry => (arrayIndex? entry.1).isNone

/-- Compare keys by code units, as `Array.prototype.sort` does by default. -/
def keyLe (left right : Text × α) : Prop := left.1 ≤ right.1

instance : DecidableRel (keyLe (α := α)) :=
  fun _ _ => inferInstanceAs (Decidable (_ ≤ _))

instance : Std.Total (keyLe (α := α)) :=
  ⟨fun left right => List.le_total left.1 right.1⟩

instance : IsTrans (Text × α) keyLe :=
  ⟨fun _ _ _ => List.le_trans⟩

/-- The members in ascending order of their keys. -/
def sortByKey (members : Members α) : Members α := members.insertionSort keyLe

@[simp]
theorem keys_mapValues (change : α → β) (members : Members α) :
    keys (mapValues change members) = keys members := by
  simp [keys, mapValues, Function.comp_def]

theorem mapValues_mapValues {γ : Type*} (first : α → β) (second : β → γ) (members : Members α) :
    mapValues second (mapValues first members) = mapValues (second ∘ first) members := by
  simp [mapValues, Function.comp_def]

theorem mapValues_congr {change change' : α → β} {members : Members α}
    (agree : ∀ entry ∈ members, change entry.2 = change' entry.2) :
    mapValues change members = mapValues change' members :=
  List.map_congr_left fun entry inside => by rw [agree entry inside]

/-- A stable sort that compares keys only commutes with a change of the values. -/
theorem insertionSort_mapValues (change : α → β) (le : Text × α → Text × α → Prop)
    (le' : Text × β → Text × β → Prop) [DecidableRel le] [DecidableRel le']
    (byKey : ∀ left right, le left right ↔ le' (left.1, change left.2) (right.1, change right.2))
    (members : Members α) :
    (mapValues change members).insertionSort le' =
      mapValues change (members.insertionSort le) :=
  (List.map_insertionSort le le' (fun entry => (entry.1, change entry.2)) members
    fun left _ right _ => byKey left right).symm

theorem sortByKey_mapValues (change : α → β) (members : Members α) :
    sortByKey (mapValues change members) = mapValues change (sortByKey members) :=
  insertionSort_mapValues change keyLe keyLe (fun _ _ => Iff.rfl) members

theorem filter_mapValues (change : α → β) (selected : Text → Bool) (members : Members α) :
    (mapValues change members).filter (fun entry => selected entry.1) =
      mapValues change (members.filter fun entry => selected entry.1) := by
  simp [mapValues, List.filter_map, Function.comp_def]

theorem enumerate_mapValues (change : α → β) (members : Members α) :
    enumerate (mapValues change members) = mapValues change (enumerate members) := by
  unfold enumerate
  rw [filter_mapValues change (fun key => (arrayIndex? key).isSome),
    filter_mapValues change (fun key => (arrayIndex? key).isNone),
    insertionSort_mapValues change indexLe indexLe (fun _ _ => Iff.rfl)]
  simp [mapValues]

theorem sortByKey_perm (members : Members α) : (sortByKey members).Perm members :=
  List.perm_insertionSort keyLe members

theorem enumerate_perm (members : Members α) : (enumerate members).Perm members := by
  refine ((List.perm_insertionSort indexLe _).append_right _).trans ?_
  simpa using List.filter_append_perm (fun entry : Text × α => (arrayIndex? entry.1).isSome)
    members

/-- Two members of one object with one key are one member. -/
theorem eq_of_key_eq {members : Members α} (distinct : (keys members).Nodup)
    {left right : Text × α} (inside : left ∈ members) (inside' : right ∈ members)
    (same : left.1 = right.1) : left = right :=
  List.inj_on_of_nodup_map distinct inside inside' same

/-- With distinct keys the sorted order depends on which members there are, and
not on the order they came in. -/
theorem sortByKey_eq_of_perm {members members' : Members α} (distinct : (keys members).Nodup)
    (moved : members.Perm members') : sortByKey members = sortByKey members' := by
  refine @List.Perm.eq_of_pairwise _ keyLe _ _ ?_ (List.pairwise_insertionSort keyLe members)
    (List.pairwise_insertionSort keyLe members')
    ((sortByKey_perm members).trans (moved.trans (sortByKey_perm members').symm))
  intro left right inside inside' below above
  have left' := (sortByKey_perm members).mem_iff.mp inside
  have right' := moved.mem_iff.mpr ((sortByKey_perm members').mem_iff.mp inside')
  exact eq_of_key_eq distinct left' right' (List.le_antisymm below above)

/-- Taking members out of a sorted object leaves the rest sorted. -/
theorem filter_sortByKey {members : Members α} (distinct : (keys members).Nodup)
    (selected : Text × α → Bool) :
    (sortByKey members).filter selected = sortByKey (members.filter selected) := by
  have ordered : ((sortByKey members).filter selected).Pairwise keyLe :=
    (List.pairwise_insertionSort keyLe members).filter selected
  have rest : (keys (members.filter selected)).Nodup :=
    distinct.sublist (List.filter_sublist.map Prod.fst)
  calc (sortByKey members).filter selected = sortByKey ((sortByKey members).filter selected) :=
        (ordered.insertionSort_eq).symm
    _ = sortByKey (members.filter selected) :=
        (sortByKey_eq_of_perm rest ((sortByKey_perm members).symm.filter selected)).symm

theorem keys_perm {members members' : Members α} (moved : members.Perm members') :
    (keys members).Perm (keys members') :=
  moved.map Prod.fst

theorem define_of_notMem {members : Members α} {key : Text} (absent : key ∉ keys members)
    (value : α) : define members key value = members ++ [(key, value)] :=
  if_neg absent

/-- A member just defined is the one found under its key. -/
theorem own_define (members : Members α) (key : Text) (value : α) :
    own (define members key value) key = some value := by
  unfold own define
  split
  · rename_i present
    induction members with
    | nil => simp [keys] at present
    | cons entry rest ih =>
      by_cases same : entry.1 = key
      · simp [same]
      · have later : key ∈ keys rest := by
          simpa [keys, Ne.symm same] using present
        simpa [same] using ih later
  · rename_i absent
    have none : List.find? (fun entry => entry.1 == key) members = none := by
      rw [List.find?_eq_none]
      intro entry inside
      simp only [beq_iff_eq]
      rintro rfl
      exact absent (List.mem_map_of_mem inside)
    simp [List.find?_append, none]

/-- Defining a member leaves the others as they were. -/
theorem own_define_ne (members : Members α) {key other : Text} (differs : other ≠ key)
    (value : α) : own (define members key value) other = own members other := by
  by_cases present : key ∈ keys members
  · rw [define, if_pos present]
    clear present
    induction members with
    | nil => rfl
    | cons entry rest ih =>
      by_cases same : entry.1 = key
      · have passed : entry.1 ≠ other := same ▸ differs.symm
        simpa [own, same, passed, differs.symm] using ih
      · by_cases found : entry.1 = other
        · simp [own, found, differs]
        · simpa [own, same, found] using ih
  · rw [define_of_notMem present]
    simp [own, List.find?_append, differs.symm]

/-- Erasing a member leaves the others as they were. -/
theorem own_erase (members : Members α) (key other : Text) :
    own (erase members key) other = if other = key then none else own members other := by
  induction members with
  | nil => simp [own, erase]
  | cons entry rest ih =>
    simp only [own, erase] at ih ⊢
    by_cases erased : entry.1 = key
    · by_cases found : entry.1 = other
      · simp [erased, ← found]
      · have differs : other ≠ key := fun same => found (erased.trans same.symm)
        simpa [erased, found, differs, differs.symm] using ih
    · by_cases found : entry.1 = other
      · have differs : other ≠ key := fun same => erased (found.trans same)
        simp [found, differs]
      · simpa [erased, found] using ih

/-- What is found under a key is an entry that is found under its key. -/
theorem forall_own {members : Members α} {held : Text → α → Prop} :
    (∀ key value, own members key = some value → held key value) ↔
      ∀ entry ∈ members, own members entry.1 = some entry.2 → held entry.1 entry.2 := by
  refine ⟨fun every entry _ found => every entry.1 entry.2 found, fun every key value found => ?_⟩
  obtain ⟨entry, first, rfl⟩ := Option.map_eq_some_iff.mp found
  obtain rfl : entry.1 = key := by simpa using List.find?_some first
  exact every entry (List.mem_of_find?_eq_some first) found

instance decidableForallOwn {held : Text → α → Prop} [DecidableEq α]
    [∀ key value, Decidable (held key value)] (members : Members α) :
    Decidable (∀ key value, own members key = some value → held key value) :=
  decidable_of_iff _ forall_own.symm

/-- With distinct keys, the own member of a key is the one that is there. -/
theorem own_eq_some_iff {members : Members α} (distinct : (keys members).Nodup) {key : Text}
    {value : α} : own members key = some value ↔ (key, value) ∈ members := by
  constructor
  · intro found
    obtain ⟨entry, first, rfl⟩ := Option.map_eq_some_iff.mp found
    have same : entry.1 = key := by simpa using List.find?_some first
    exact same ▸ List.mem_of_find?_eq_some first
  · intro inside
    cases first : List.find? (fun entry => entry.1 == key) members with
    | none =>
      have absent := List.find?_eq_none.mp first (key, value) inside
      simp at absent
    | some entry =>
      have same : entry.1 = key := by simpa using List.find?_some first
      have equal : entry = (key, value) :=
        eq_of_key_eq distinct (List.mem_of_find?_eq_some first) inside same
      rw [own, first, equal]
      rfl

/-- The order of creation does not change what is found under a key. -/
theorem own_perm {members members' : Members α} (distinct : (keys members).Nodup)
    (moved : members.Perm members') (key : Text) : own members key = own members' key := by
  apply Option.ext
  intro value
  rw [own_eq_some_iff distinct, own_eq_some_iff ((keys_perm moved).nodup_iff.mp distinct)]
  exact moved.mem_iff

theorem own_mapValues (change : α → β) (members : Members α) (key : Text) :
    own (mapValues change members) key = (own members key).map change := by
  simp [own, mapValues, List.find?_map, Function.comp_def]

/-- `{...members, ...source}`: every member of the source, in the order of
enumeration, is defined on the object. -/
def spread (members source : Members α) : Members α :=
  (enumerate source).foldl (fun object entry => define object entry.1 entry.2) members

/-- Assigning distinct keys to a fresh object one after another creates them all,
in that order, except the one that the setter takes. -/
theorem foldl_assign (members created : Members α)
    (distinct : (keys (created ++ members)).Nodup) (plain : protoKey ∉ keys created) :
    members.foldl (fun object entry => assign object entry.1 entry.2) created =
      created ++ members.filter fun entry => entry.1 != protoKey := by
  induction members generalizing created with
  | nil => simp
  | cons entry rest ih =>
    have fresh : entry.1 ∉ keys created := by
      intro inside
      simp only [keys, List.map_append, List.map_cons] at distinct
      exact (List.nodup_append.mp distinct).2.2 _ inside _ List.mem_cons_self rfl
    by_cases special : entry.1 = protoKey
    · have unchanged : assign created entry.1 entry.2 = created :=
        if_pos ⟨special, fresh⟩
      have distinct' : (keys (created ++ rest)).Nodup :=
        distinct.sublist ((List.Sublist.append_left (List.sublist_cons_self _ _) _).map _)
      rw [List.foldl_cons, unchanged, ih created distinct' plain, List.filter_cons]
      simp [special]
    · have appended : assign created entry.1 entry.2 = created ++ [entry] := by
        rw [assign, if_neg (fun h => special h.1), define_of_notMem fresh]
      have distinct' : (keys (created ++ [entry] ++ rest)).Nodup := by
        rwa [List.append_assoc, List.singleton_append]
      have plain' : protoKey ∉ keys (created ++ [entry]) := by
        simp only [keys, List.map_append, List.map_cons, List.map_nil, List.mem_append,
          List.mem_singleton]
        rintro (inside | same)
        · exact plain inside
        · exact special same.symm
      rw [List.foldl_cons, appended, ih _ distinct' plain', List.filter_cons]
      simp [special]

end Members

/-! ## Rearranging the members of every object -/

namespace Value

open Members

mutual

/-- Rearrange the members of every object of a value, the inner objects first. -/
def rebuild (rearrange : Members Value → Members Value) : Value → Value
  | .array elements => .array (rebuildElements rearrange elements)
  | .object members => .object (rearrange (rebuildMembers rearrange members))
  | .undefined => .undefined
  | .null => .null
  | .boolean value => .boolean value
  | .number value => .number value
  | .string text => .string text
  | .date iso => .date iso

def rebuildElements (rearrange : Members Value → Members Value) : List Value → List Value
  | [] => []
  | element :: rest => rebuild rearrange element :: rebuildElements rearrange rest

def rebuildMembers (rearrange : Members Value → Members Value) : Members Value → Members Value
  | [] => []
  | (key, value) :: rest => (key, rebuild rearrange value) :: rebuildMembers rearrange rest

end

mutual

/-- A JSON value: no undefined, no date, every number finite, and the keys of every
object distinct. It is what `JSON.parse` can return. -/
def isJson : Value → Bool
  | .undefined => false
  | .null => true
  | .boolean _ => true
  | .number (.finite _) => true
  | .number .nan => false
  | .number (.infinity _) => false
  | .string _ => true
  | .date _ => false
  | .array elements => isJsonElements elements
  | .object members => decide (keys members).Nodup && isJsonMembers members

def isJsonElements : List Value → Bool
  | [] => true
  | element :: rest => isJson element && isJsonElements rest

def isJsonMembers : Members Value → Bool
  | [] => true
  | (_, value) :: rest => isJson value && isJsonMembers rest

end

theorem rebuildElements_eq (rearrange : Members Value → Members Value) (elements : List Value) :
    rebuildElements rearrange elements = elements.map (rebuild rearrange) := by
  induction elements with
  | nil => rfl
  | cons element rest ih => rw [rebuildElements, ih, List.map_cons]

theorem rebuildMembers_eq (rearrange : Members Value → Members Value)
    (members : Members Value) :
    rebuildMembers rearrange members = mapValues (rebuild rearrange) members := by
  induction members with
  | nil => rfl
  | cons entry rest ih =>
    rw [rebuildMembers, ih]
    rfl

@[simp]
theorem rebuild_array (rearrange : Members Value → Members Value) (elements : List Value) :
    rebuild rearrange (.array elements) = .array (elements.map (rebuild rearrange)) := by
  rw [rebuild, rebuildElements_eq]

@[simp]
theorem rebuild_object (rearrange : Members Value → Members Value) (members : Members Value) :
    rebuild rearrange (.object members) =
      .object (rearrange (mapValues (rebuild rearrange) members)) := by
  rw [rebuild, rebuildMembers_eq]

@[simp]
theorem isJson_array (elements : List Value) :
    isJson (.array elements) = true ↔ ∀ element ∈ elements, isJson element = true := by
  rw [isJson]
  induction elements with
  | nil => simp [isJsonElements]
  | cons element rest ih => simp [isJsonElements, ih]

@[simp]
theorem isJson_object (members : Members Value) :
    isJson (.object members) = true ↔
      (keys members).Nodup ∧ ∀ entry ∈ members, isJson entry.2 = true := by
  have inner : isJsonMembers members = true ↔ ∀ entry ∈ members, isJson entry.2 = true := by
    induction members with
    | nil => simp [isJsonMembers]
    | cons entry rest ih => simp [isJsonMembers, ih]
  rw [isJson, Bool.and_eq_true, decide_eq_true_iff, inner]

/-- A rearrangement that looks at the keys only. -/
def KeyWise (rearrange : Members Value → Members Value) : Prop :=
  ∀ (change : Value → Value) (members : Members Value),
    rearrange (mapValues change members) = mapValues change (rearrange members)

theorem keyWise_sortByKey : KeyWise sortByKey := sortByKey_mapValues

theorem keyWise_enumerate : KeyWise enumerate := enumerate_mapValues

theorem keyWise_filter (selected : Text → Bool) :
    KeyWise (List.filter fun entry => selected entry.1) :=
  fun change members => filter_mapValues change selected members

theorem KeyWise.comp {outer inner : Members Value → Members Value} (first : KeyWise outer)
    (second : KeyWise inner) : KeyWise (outer ∘ inner) := by
  intro change members
  rw [Function.comp_apply, second, first, Function.comp_apply]

/-- Two traversals in a row are one traversal with the composed rearrangement. -/
theorem rebuild_rebuild {outer inner : Members Value → Members Value} (byKey : KeyWise inner)
    (value : Value) : rebuild outer (rebuild inner value) = rebuild (outer ∘ inner) value := by
  induction value with
  | undefined | null | boolean _ | number _ | string _ | date _ => simp only [rebuild]
  | array elements ih =>
    simp only [rebuild_array, List.map_map]
    exact congrArg Value.array (List.map_congr_left ih)
  | object members ih =>
    simp only [rebuild_object, Function.comp_apply]
    have inside : mapValues (rebuild outer ∘ rebuild inner) members =
        mapValues (rebuild (outer ∘ inner)) members := mapValues_congr ih
    rw [← byKey, mapValues_mapValues, inside]

/-- Rearrangements that agree on distinct keys rebuild a JSON value alike. -/
theorem rebuild_congr {rearrange rearrange' : Members Value → Members Value}
    (agree : ∀ members : Members Value, (keys members).Nodup →
      rearrange members = rearrange' members)
    {value : Value} (json : value.isJson = true) :
    rebuild rearrange value = rebuild rearrange' value := by
  induction value with
  | undefined | null | boolean _ | number _ | string _ | date _ => simp only [rebuild]
  | array elements ih =>
    rw [isJson_array] at json
    simp only [rebuild_array]
    exact congrArg Value.array
      (List.map_congr_left fun element inside => ih element inside (json element inside))
  | object members ih =>
    rw [isJson_object] at json
    simp only [rebuild_object]
    have inside : mapValues (rebuild rearrange) members = mapValues (rebuild rearrange') members :=
      mapValues_congr fun entry inside => ih entry inside (json.2 entry inside)
    rw [inside, agree _ (by rw [keys_mapValues]; exact json.1)]

/-- A rearrangement that only drops and moves members keeps a value JSON. -/
theorem isJson_rebuild {rearrange : Members Value → Members Value}
    (subset : ∀ members, (rearrange members).Subperm members) {value : Value}
    (json : value.isJson = true) : (rebuild rearrange value).isJson = true := by
  induction value with
  | undefined | null | boolean _ | number _ | string _ | date _ => simpa only [rebuild] using json
  | array elements ih =>
    rw [isJson_array] at json
    simp only [rebuild_array, isJson_array, List.mem_map]
    rintro _ ⟨element, inside, rfl⟩
    exact ih element inside (json element inside)
  | object members ih =>
    rw [isJson_object] at json
    simp only [rebuild_object, isJson_object]
    obtain ⟨selected, moved, inside⟩ := subset (mapValues (rebuild rearrange) members)
    constructor
    · rw [(keys_perm moved.symm).nodup_iff]
      refine List.Nodup.sublist (inside.map Prod.fst) ?_
      change (keys (mapValues (rebuild rearrange) members)).Nodup
      rw [keys_mapValues]
      exact json.1
    · intro entry present
      obtain ⟨original, member, rfl⟩ :=
        List.mem_map.mp ((subset _).subset present)
      exact ih original member (json.2 original member)

/-! ## Equality of JSON values up to the order of members -/

/-- The value with the members of every object in ascending order of their keys. -/
def sorted (value : Value) : Value := rebuild sortByKey value

/-- Equality as JSON values: the order in which members were created does not count. -/
def Equivalent (left right : Value) : Prop := sorted left = sorted right

theorem sorted_sorted {value : Value} (json : value.isJson = true) :
    sorted (sorted value) = sorted value := by
  unfold sorted
  rw [rebuild_rebuild keyWise_sortByKey]
  refine rebuild_congr (fun members distinct => ?_) json
  exact (sortByKey_eq_of_perm distinct (sortByKey_perm members).symm).symm

/-- The order of enumeration does not change what a value is equivalent to. -/
theorem sorted_rebuild_enumerate {value : Value} (json : value.isJson = true) :
    sorted (rebuild enumerate value) = sorted value := by
  unfold sorted
  rw [rebuild_rebuild keyWise_enumerate]
  refine rebuild_congr (fun members distinct => ?_) json
  exact (sortByKey_eq_of_perm distinct (enumerate_perm members).symm).symm

/-- Two objects are equivalent exactly when each member of one stands in the other
with an equivalent value. -/
theorem equivalent_object {left right : Members Value} (json : (Value.object left).isJson = true) :
    Equivalent (.object left) (.object right) ↔
      (mapValues sorted left).Perm (mapValues sorted right) := by
  rw [isJson_object] at json
  unfold Equivalent
  simp only [sorted, rebuild_object, Value.object.injEq]
  constructor
  · intro same
    exact (sortByKey_perm _).symm.trans (same ▸ sortByKey_perm _)
  · intro moved
    refine sortByKey_eq_of_perm ?_ moved
    rw [keys_mapValues]
    exact json.1

end Value

/-- A plain object of JSON data. -/
structure JsonObject where
  members : Members Value
  json : (Value.object members).isJson = true

end Script
