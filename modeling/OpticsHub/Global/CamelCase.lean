import OpticsHub.Script.Paths

/-!
# Rows with the keys of the interface

The columns of the database have underscores in their names, and the interface has capitals. Every
row that is returned is rebuilt with its keys renamed. The function goes into whatever is an
object: a date is one, and has no members of its own, and the members of nested objects have keys
of their users' choice, which may become the same. Where there is neither, keys are renamed and
nothing else changes.
-/
namespace OpticsHub

open Script Members Value

namespace CamelCase

/-! ## Renaming -/

def underscore : CodeUnit := 0x5F

/-- `[a-z]` -/
def isLower (unit : CodeUnit) : Bool := 0x61 ≤ unit && unit ≤ 0x7A

/-- A letter after an underscore takes its place as a capital. -/
def toCamel : Text → Text
  | [] => []
  | [unit] => [unit]
  | unit :: next :: rest =>
    if unit = underscore ∧ isLower next = true then (next - 0x20) :: toCamel rest
    else unit :: toCamel (next :: rest)

mutual

def toCamelCase : Value → Value
  | .array elements => .array (toCamelCaseElements elements)
  | .object members =>
    .object (fromEntries (mapKeys toCamel (enumerate (toCamelCaseMembers members))))
  -- a date is an object without entries
  | .date _ => .object (fromEntries [])
  | .undefined => .undefined
  | .null => .null
  | .boolean value => .boolean value
  | .number value => .number value
  | .string text => .string text

def toCamelCaseElements : List Value → List Value
  | [] => []
  | element :: rest => toCamelCase element :: toCamelCaseElements rest

def toCamelCaseMembers : Members Value → Members Value
  | [] => []
  | (key, value) :: rest => (key, toCamelCase value) :: toCamelCaseMembers rest

end

example : toCamel "service_parent_workspace" = Text.ofString "serviceParentWorkspace" := by decide

theorem toCamelCase_array (elements : List Value) :
    toCamelCase (.array elements) = .array (elements.map toCamelCase) := by
  rw [toCamelCase]
  congr 1
  induction elements with
  | nil => rfl
  | cons element rest ih => rw [toCamelCaseElements, ih, List.map_cons]

theorem toCamelCase_object (members : Members Value) :
    toCamelCase (.object members) =
      .object (fromEntries (mapKeys toCamel (enumerate (mapValues toCamelCase members)))) := by
  have values : toCamelCaseMembers members = mapValues toCamelCase members := by
    induction members with
    | nil => rfl
    | cons entry rest ih =>
      rw [toCamelCaseMembers, ih]
      rfl
  rw [toCamelCase, values]

/-! ## Array indices -/

theorem isDigit_capital_table : ∀ n < 0x80, isLower (UInt16.ofNat n) = true →
    CodeUnit.isDigit (UInt16.ofNat n - 0x20) = false := by
  decide +kernel

/-- A capital is no digit. -/
theorem isDigit_capital {unit : CodeUnit} (lower : isLower unit = true) :
    CodeUnit.isDigit (unit - 0x20) = false := by
  have bound := lower
  rw [isLower, Bool.and_eq_true, decide_eq_true_eq, decide_eq_true_eq, UInt16.le_iff_toNat_le,
    UInt16.le_iff_toNat_le] at bound
  have small : unit.toNat < 0x80 := Nat.lt_of_le_of_lt bound.2 (by decide)
  have table := isDigit_capital_table unit.toNat small
  rw [UInt16.ofNat_toNat] at table
  exact table lower

/-- A renamed key has only digits if it had. -/
theorem all_isDigit_toCamel (key : Text) :
    (toCamel key).all CodeUnit.isDigit = key.all CodeUnit.isDigit := by
  fun_induction toCamel key with
  | case1 => rfl
  | case2 unit => rfl
  | case3 unit next rest capital ih =>
    have mark : CodeUnit.isDigit underscore = false := by decide
    rw [List.all_cons, List.all_cons, isDigit_capital capital.2, capital.1, mark, Bool.false_and,
      Bool.false_and]
  | case4 unit next rest plain ih => rw [List.all_cons, List.all_cons, ih]

/-- A key of digits keeps its name. -/
theorem toCamel_of_digits {key : Text} (digits : key.all CodeUnit.isDigit = true) :
    toCamel key = key := by
  fun_induction toCamel key with
  | case1 => rfl
  | case2 unit => rfl
  | case3 unit next rest capital ih =>
    rw [List.all_cons, Bool.and_eq_true, capital.1] at digits
    exact absurd digits.1 (by decide)
  | case4 unit next rest plain ih =>
    rw [List.all_cons, Bool.and_eq_true] at digits
    rw [ih digits.2]

theorem arrayIndex?_toCamel (key : Text) : arrayIndex? (toCamel key) = arrayIndex? key := by
  cases digits : key.all CodeUnit.isDigit with
  | true => rw [toCamel_of_digits digits]
  | false =>
    rw [arrayIndex?, arrayIndex?, all_isDigit_toCamel, digits]
    simp only [Bool.false_and, Bool.false_eq_true, if_false]

/-! ## What is returned -/

/-- A value that the database client returns: what is built from null, booleans, numbers, texts,
dates, arrays and objects, of which the keys are distinct. -/
inductive Returned : Value → Prop
  | null : Returned .null
  | boolean (value : Bool) : Returned (.boolean value)
  | number (value : Number) : Returned (.number value)
  | string (text : Text) : Returned (.string text)
  | date (iso : Option Text) : Returned (.date iso)
  | array {elements : List Value} (all : ∀ element ∈ elements, Returned element) :
      Returned (.array elements)
  | object {members : Members Value} (distinct : (keys members).Nodup)
      (all : ∀ entry ∈ members, Returned entry.2) : Returned (.object members)

/-- A value without parts. -/
inductive IsLeaf : Value → Prop
  | null : IsLeaf .null
  | boolean (value : Bool) : IsLeaf (.boolean value)
  | number (value : Number) : IsLeaf (.number value)
  | string (text : Text) : IsLeaf (.string text)
  | date (iso : Option Text) : IsLeaf (.date iso)

/-- The path of a renamed part. -/
def renamedPath (path : List PathStep) : List PathStep := path.map (PathStep.renamed toCamel)

/-- The keys of a value are renamed, and nothing else changes. -/
structure OnlyRenames (value : Value) : Prop where
  json : stringify (toCamelCase value) = stringify (value.renameKeys toCamel)
  leaves : ∀ path leaf, At value path leaf → IsLeaf leaf →
    ∃ kept, At (toCamelCase value) (renamedPath path) kept ∧ stringify kept = stringify leaf
  apart : ∀ path path' part part', At value path part → At value path' part' →
    renamedPath path = renamedPath path' → path = path'

/-- No object in a value has two keys that become the same. -/
def Unmerged (value : Value) : Prop :=
  ∀ path members, At value path (.object members) →
    ∀ key ∈ keys members, ∀ other ∈ keys members, toCamel key = toCamel other → key = other

/-- There is no date in a value. -/
def Dateless (value : Value) : Prop := ∀ path iso, ¬ At value path (.date iso)

/-! ## Parts -/

section Parts

variable {members : Members Value}

theorem Dateless.element {elements : List Value} {index : ℕ} {element : Value}
    (dateless : Dateless (.array elements)) (found : elements[index]? = some element) :
    Dateless element :=
  fun path iso inside => dateless (.element index :: path) iso (.element found inside)

theorem Dateless.member {key : Text} {value : Value} (dateless : Dateless (.object members))
    (found : (key, value) ∈ members) : Dateless value :=
  fun path iso inside => dateless (.member key :: path) iso (.member found inside)

theorem Unmerged.element {elements : List Value} {index : ℕ} {element : Value}
    (unmerged : Unmerged (.array elements)) (found : elements[index]? = some element) :
    Unmerged element :=
  fun path members inside => unmerged (.element index :: path) members (.element found inside)

theorem Unmerged.member {key : Text} {value : Value} (unmerged : Unmerged (.object members))
    (found : (key, value) ∈ members) : Unmerged value :=
  fun path members inside => unmerged (.member key :: path) members (.member found inside)

/-- Keys that stay apart are distinct once they are renamed. -/
theorem nodup_renamed (unmerged : Unmerged (.object members)) (distinct : (keys members).Nodup) :
    (keys (mapKeys toCamel (enumerate (mapValues toCamelCase members)))).Nodup := by
  have moved := keys_perm (enumerate_perm (mapValues toCamelCase members))
  rw [keys_mapValues] at moved
  rw [keys_mapKeys]
  refine List.Nodup.map_on (fun key inside other inside' same => ?_)
    (moved.nodup_iff.mpr distinct)
  exact unmerged [] members (.here _) key (moved.subset inside) other (moved.subset inside') same

/-- The members of an object whose keys stay apart. -/
theorem toCamelCase_unmerged (unmerged : Unmerged (.object members))
    (distinct : (keys members).Nodup) :
    toCamelCase (.object members) =
      .object (mapKeys toCamel (enumerate (mapValues toCamelCase members))) := by
  rw [toCamelCase_object, fromEntries_eq (nodup_renamed unmerged distinct)]

end Parts

/-- Every part of a value is at its renamed path, if no keys become the same. -/
theorem at_toCamelCase {value part : Value} {path : List PathStep} (inside : At value path part)
    (returned : Returned value) (unmerged : Unmerged value) :
    At (toCamelCase value) (renamedPath path) (toCamelCase part) := by
  induction inside with
  | here value => exact .here _
  | @element elements index element part path found below ih =>
    cases returned with
    | array all =>
      have kept : (elements.map toCamelCase)[index]? = some (toCamelCase element) := by
        rw [List.getElem?_map, found, Option.map_some]
      rw [toCamelCase_array]
      exact .element kept (ih (all _ (List.mem_of_getElem? found)) (unmerged.element found))
  | @member members key value part path found below ih =>
    cases returned with
    | object distinct all =>
      have listed : (key, toCamelCase value) ∈ enumerate (mapValues toCamelCase members) :=
        (enumerate_perm _).mem_iff.mpr (List.mem_map_of_mem (f := fun entry => _) found)
      have kept : (toCamel key, toCamelCase value) ∈
          mapKeys toCamel (enumerate (mapValues toCamelCase members)) :=
        List.mem_map_of_mem (f := fun entry => _) listed
      rw [toCamelCase_unmerged unmerged distinct]
      exact .member kept (ih (all _ found) (unmerged.member found))

/-- Paths that become the same are the same, if no keys do. -/
theorem eq_of_renamedPath {value part part' : Value} {path path' : List PathStep}
    (inside : At value path part) (inside' : At value path' part') (returned : Returned value)
    (unmerged : Unmerged value) (same : renamedPath path = renamedPath path') : path = path' := by
  induction inside generalizing path' with
  | here value => exact (List.map_eq_nil_iff.mp same.symm).symm
  | @element elements index element part path found below ih =>
    cases inside' with
    | here => cases same
    | @element _ index' element' _ path' found' below' =>
      cases returned with
      | array all =>
        obtain ⟨here, later⟩ := List.cons.inj same
        obtain rfl := PathStep.element.inj here
        obtain rfl := Option.some.inj (found.symm.trans found')
        rw [ih below' (all _ (List.mem_of_getElem? found)) (unmerged.element found) later]
  | @member members key value part path found below ih =>
    cases inside' with
    | here => cases same
    | @member _ key' value' _ path' found' below' =>
      cases returned with
      | object distinct all =>
        obtain ⟨here, later⟩ := List.cons.inj same
        obtain rfl := unmerged [] members (.here _) key (List.mem_map_of_mem found) key'
          (List.mem_map_of_mem found') (PathStep.member.inj here)
        obtain rfl := congrArg Prod.snd (eq_of_key_eq distinct found found' rfl)
        rw [ih below' (all _ found) (unmerged.member found) later]

/-! ## Texts -/

theorem toCamelCase_ne_undefined {value : Value} (returned : Returned value) :
    toCamelCase value ≠ .undefined := by
  cases returned <;> simp [toCamelCase]

theorem renameKeys_ne_undefined {value : Value} (returned : Returned value) :
    value.renameKeys toCamel ≠ .undefined := by
  cases returned <;> simp [renameKeys]

/-- The text of a value without dates has its keys renamed, if no keys become the same.

Proof: by induction on the value. The members are enumerated before their keys are renamed and
again when they are written, and renaming leaves that order as it is. -/
theorem stringify_toCamelCase {value : Value} (returned : Returned value)
    (dateless : Dateless value) (unmerged : Unmerged value) :
    stringify (toCamelCase value) = stringify (value.renameKeys toCamel) := by
  induction returned with
  | null => rfl
  | boolean value => rfl
  | number value => rfl
  | string text => rfl
  | date iso => exact absurd (.here _) (dateless [] iso)
  | @array elements all ih =>
    have texts : stringifyElements (elements.map toCamelCase) =
        stringifyElements (elements.map (renameKeys toCamel)) := by
      rw [stringifyElements_eq, stringifyElements_eq, List.map_map, List.map_map]
      refine List.map_congr_left fun element inside => ?_
      obtain ⟨index, found⟩ := List.getElem?_of_mem inside
      rw [Function.comp_apply, Function.comp_apply,
        ih element inside (dateless.element found) (unmerged.element found)]
    rw [toCamelCase_array, renameKeys_array, stringify, stringify, texts]
  | @object members distinct all ih =>
    have written : ∀ entry ∈ mapKeys toCamel (enumerate (mapValues toCamelCase members)),
        (stringify entry.2).isSome = true := by
      intro entry listed
      obtain ⟨renamed, enumerated, rfl⟩ := List.mem_map.mp listed
      obtain ⟨member, inside, rfl⟩ := List.mem_map.mp ((enumerate_perm _).mem_iff.mp enumerated)
      exact isSome_stringify (toCamelCase_ne_undefined (all member inside))
    have written' : ∀ entry ∈ mapKeys toCamel (mapValues (renameKeys toCamel) members),
        (stringify entry.2).isSome = true := by
      intro entry listed
      obtain ⟨renamed, changed, rfl⟩ := List.mem_map.mp listed
      obtain ⟨member, inside, rfl⟩ := List.mem_map.mp changed
      exact isSome_stringify (renameKeys_ne_undefined (all member inside))
    have texts : mapValues (fun value => (stringify value).getD [])
          (mapValues toCamelCase members) =
        mapValues (fun value => (stringify value).getD [])
          (mapValues (renameKeys toCamel) members) := by
      rw [mapValues_mapValues, mapValues_mapValues]
      refine mapValues_congr fun entry inside => ?_
      rw [Function.comp_apply, Function.comp_apply,
        ih entry inside (dateless.member inside) (unmerged.member inside)]
    rw [toCamelCase_unmerged unmerged distinct, renameKeys_object, stringify, stringify,
      stringifyMembers_eq written, stringifyMembers_eq written', ← mapKeys_mapValues,
      ← mapKeys_mapValues, enumerate_mapKeys arrayIndex?_toCamel,
      enumerate_mapKeys arrayIndex?_toCamel, ← enumerate_mapValues, enumerate_enumerate, texts]

/-! ## Where only keys are renamed -/

/-- A path leads to one part. -/
theorem at_unique {value part part' : Value} {path : List PathStep} (returned : Returned value)
    (inside : At value path part) (inside' : At value path part') : part = part' := by
  induction inside with
  | here value =>
    cases inside'
    rfl
  | element found below ih =>
    cases returned with
    | array all =>
      cases inside' with
      | element found' below' =>
        obtain rfl := Option.some.inj (found.symm.trans found')
        exact ih (all _ (List.mem_of_getElem? found)) below'
  | member found below ih =>
    cases returned with
    | object distinct all =>
      cases inside' with
      | member found' below' =>
        obtain rfl := congrArg Prod.snd (eq_of_key_eq distinct found found' rfl)
        exact ih (all _ found) below'

/-- What becomes of a returned value could be returned. -/
theorem returned_toCamelCase {value : Value} (returned : Returned value)
    (unmerged : Unmerged value) : Returned (toCamelCase value) := by
  induction returned with
  | null => exact .null
  | boolean value => exact .boolean value
  | number value => exact .number value
  | string text => exact .string text
  | date iso => exact .object List.nodup_nil fun entry inside => absurd inside List.not_mem_nil
  | @array elements all ih =>
    rw [toCamelCase_array]
    refine .array fun element changed => ?_
    obtain ⟨source, inside, rfl⟩ := List.mem_map.mp changed
    obtain ⟨index, found⟩ := List.getElem?_of_mem inside
    exact ih source inside (unmerged.element found)
  | @object members distinct all ih =>
    rw [toCamelCase_unmerged unmerged distinct]
    refine .object (nodup_renamed unmerged distinct) fun entry listed => ?_
    obtain ⟨renamed, enumerated, rfl⟩ := List.mem_map.mp listed
    obtain ⟨member, inside, rfl⟩ := List.mem_map.mp ((enumerate_perm _).mem_iff.mp enumerated)
    exact ih member inside (unmerged.member inside)

/-- A date has another text than an object without members. -/
theorem stringify_date_ne (iso : Option Text) :
    stringify (.object []) ≠ stringify (.date iso) := by
  cases iso with
  | none => decide
  | some text =>
    intro same
    have head := congrArg List.head? (Option.some.inj same)
    exact absurd (Option.some.inj head) (by decide)

/-- Keys stay apart where the paths to them do. -/
theorem unmerged_of_apart {value : Value}
    (apart : ∀ path path' part part', At value path part → At value path' part' →
      renamedPath path = renamedPath path' → path = path') : Unmerged value := by
  intro path members inside key listed other listed' same
  obtain ⟨⟨_, child⟩, found, rfl⟩ := List.mem_map.mp listed
  obtain ⟨⟨_, child'⟩, found', rfl⟩ := List.mem_map.mp listed'
  have paths := apart _ _ _ _ (inside.trans (.member found (.here child)))
    (inside.trans (.member found' (.here child')))
    (by simp [renamedPath, PathStep.renamed, same])
  exact PathStep.member.inj (List.cons.inj (List.append_cancel_left paths)).1

/-- Exactly the keys of a returned value are renamed if and only if there is no date in it and no
two keys of an object in it become the same. -/
theorem onlyRenames_iff {value : Value} (returned : Returned value) :
    OnlyRenames value ↔ Dateless value ∧ Unmerged value := by
  constructor
  · rintro ⟨-, leaves, apart⟩
    have unmerged := unmerged_of_apart apart
    refine ⟨fun path iso inside => ?_, unmerged⟩
    obtain ⟨kept, found, same⟩ := leaves path _ inside (.date iso)
    have lost := at_toCamelCase inside returned unmerged
    rw [at_unique (returned_toCamelCase returned unmerged) found lost] at same
    exact stringify_date_ne iso same
  · rintro ⟨dateless, unmerged⟩
    refine ⟨stringify_toCamelCase returned dateless unmerged, fun path leaf inside isLeaf => ?_,
      fun path path' part part' inside inside' => eq_of_renamedPath inside inside' returned unmerged⟩
    refine ⟨toCamelCase leaf, at_toCamelCase inside returned unmerged, ?_⟩
    cases isLeaf with
    | date iso => exact absurd inside (dateless path iso)
    | _ => rfl

/-- What the client returns for a new workspace. -/
def createdWorkspace : Value :=
  .object [("workspace_name", .string "acme"),
    ("workspace_created_at", .date (some "2025-01-01T00:00:00.000Z"))]

/-- Variables of a service that its user has named. -/
def environmentVariables : Value := .object [("a_b", .string "1"), ("aB", .string "2")]

theorem returned_createdWorkspace : Returned createdWorkspace := by
  refine .object (by decide) fun entry inside => ?_
  simp only [List.mem_cons, List.not_mem_nil, or_false] at inside
  rcases inside with rfl | rfl
  · exact .string _
  · exact .date _

theorem onlyRenames_createdWorkspace : Returned createdWorkspace ∧
    (OnlyRenames createdWorkspace ↔ Dateless createdWorkspace ∧ Unmerged createdWorkspace) :=
  ⟨returned_createdWorkspace, onlyRenames_iff returned_createdWorkspace⟩

/-- The time of a workspace is lost, and a variable takes the place of another. -/
theorem not_onlyRenames :
    stringify (toCamelCase createdWorkspace) =
        some "\x7b\"workspaceName\":\"acme\",\"workspaceCreatedAt\":\x7b\x7d\x7d" ∧
      stringify (toCamelCase environmentVariables) = some "\x7b\"aB\":\"2\"\x7d" ∧
      ¬ OnlyRenames createdWorkspace ∧ ¬ OnlyRenames environmentVariables :=
  ⟨by decide +kernel, by decide +kernel,
    fun renames => absurd renames.json (by decide +kernel),
    fun renames => absurd renames.json (by decide +kernel)⟩

end CamelCase

end OpticsHub
