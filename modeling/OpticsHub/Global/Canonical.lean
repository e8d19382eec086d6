import OpticsHub.Global.SigningMaterial
import OpticsHub.Script.Enumeration

/-!
# The canonical text against its published rules

The rules say that the members of every object stand in ascending order of their keys. The
normalization realises them through a fresh object: it assigns the sorted members one after
another and leaves it to `JSON.stringify` to visit them. Two rules of the language come between.
The fresh object has no member `__proto__` of its own, so an assignment of that name reaches the
inherited setter and the member is lost, and the array indices of an object are visited by number
before all its other keys, in whatever order they were created.

Both texts are written from a rearranged value, so they are equal exactly when the two
rearrangements are, and this is decided object by object: no key is `__proto__`, and the
two orders agree on the keys.
-/
namespace OpticsHub

open Script Script.Value Script.Members

namespace Hash

/-- The text the published rules prescribe: the compact JSON text of the value with the members
of every object in ascending order of their keys, all of them there. -/
def publishedText (value : Value) : Text := write value.sorted

mutual

/-- Whether no object of a value, at any depth, has a member `__proto__` or two keys that
enumeration visits against the order of their code units. -/
def isOrderly : Value → Bool
  | .array elements => isOrderlyElements elements
  | .object members =>
    !(keys members).contains protoKey && agreesWithOrder (keys members) && isOrderlyMembers members
  | .undefined | .null | .boolean _ | .number _ | .string _ | .date _ => true

def isOrderlyElements : List Value → Bool
  | [] => true
  | element :: rest => isOrderly element && isOrderlyElements rest

def isOrderlyMembers : Members Value → Bool
  | [] => true
  | (_, value) :: rest => isOrderly value && isOrderlyMembers rest

end

theorem isOrderly_array (elements : List Value) :
    isOrderly (.array elements) = true ↔ ∀ element ∈ elements, isOrderly element = true := by
  rw [isOrderly]
  induction elements with
  | nil => simp [isOrderlyElements]
  | cons element rest ih => simp [isOrderlyElements, ih]

theorem isOrderly_object (members : Members Value) :
    isOrderly (.object members) = true ↔
      (protoKey ∉ keys members ∧ agreesWithOrder (keys members) = true) ∧
        ∀ entry ∈ members, isOrderly entry.2 = true := by
  have inner : isOrderlyMembers members = true ↔
      ∀ entry ∈ members, isOrderly entry.2 = true := by
    induction members with
    | nil => simp [isOrderlyMembers]
    | cons entry rest ih => simp [isOrderlyMembers, ih]
  rw [isOrderly, Bool.and_eq_true, Bool.and_eq_true, inner, Bool.not_eq_true',
    ← Bool.not_eq_true, List.contains_iff_mem]

/-! ## The two rearrangements -/

/-- What the fresh object and its enumeration make of the members of an object. -/
def assigned (members : Members Value) : Members Value :=
  enumerate (sortByKey (members.filter fun entry => entry.1 != protoKey))

theorem keyWise_assigned : KeyWise assigned :=
  keyWise_enumerate.comp
    (keyWise_sortByKey.comp (keyWise_filter fun key => key != protoKey))

theorem arranged_normalize {value : Value} (json : value.isJson = true) :
    arranged (normalize value) = value.rebuild assigned := by
  rw [normalize_eq_sorted json, arranged, sorted, withoutProto,
    rebuild_rebuild (keyWise_filter fun key => key != protoKey),
    rebuild_rebuild (keyWise_sortByKey.comp (keyWise_filter fun key => key != protoKey))]
  rfl

theorem canonicalize_eq_write {value : Value} (json : value.isJson = true) :
    canonicalize value = write (value.rebuild assigned) := by
  have normalized : (normalize value).isJson = true := by
    rw [normalize_eq_sorted json]
    exact isJson_sorted (isJson_withoutProto json)
  rw [canonicalize, stringify_eq_write normalized, Option.getD_some, arranged_normalize json]

/-- The members of an object are assigned in their sorted order exactly when none is lost and
none is moved. -/
theorem assigned_eq_sortByKey_iff {members : Members Value} (distinct : (keys members).Nodup) :
    assigned members = sortByKey members ↔
      protoKey ∉ keys members ∧ agreesWithOrder (keys members) = true := by
  have present : protoKey ∉ keys members →
      (members.filter fun entry => entry.1 != protoKey) = members := by
    intro absent
    refine List.filter_eq_self.mpr fun entry inside => ?_
    exact bne_iff_ne.mpr fun same => absent (same ▸ List.mem_map_of_mem inside)
  constructor
  · intro same
    have absent : protoKey ∉ keys members := by
      intro inside
      obtain ⟨entry, member, special⟩ := List.mem_map.mp inside
      have kept : entry ∈ assigned members := by
        rw [same]
        exact (sortByKey_perm members).mem_iff.mpr member
      have filtered := (sortByKey_perm _).mem_iff.mp ((enumerate_perm _).mem_iff.mp kept)
      exact bne_iff_ne.mp (List.mem_filter.mp filtered).2 special
    rw [assigned, present absent] at same
    exact ⟨absent, (enumerate_sortByKey_iff distinct).mp same⟩
  · rintro ⟨absent, agrees⟩
    rw [assigned, present absent]
    exact (enumerate_sortByKey_iff distinct).mpr agrees

theorem assigned_subperm (members : Members Value) : (assigned members).Subperm members :=
  (((enumerate_perm _).trans (sortByKey_perm _)).subperm).trans List.filter_sublist.subperm

theorem assigned_subset (members : Members Value) : assigned members ⊆ members :=
  (assigned_subperm members).subset

/-- The value the normalization arranges is the sorted one exactly when it is orderly. -/
theorem rebuild_assigned_eq_iff {value : Value} (json : value.isJson = true) :
    value.rebuild assigned = value.sorted ↔ isOrderly value = true := by
  unfold sorted
  induction value with
  | undefined | null | boolean _ | number _ | string _ | date _ => simp only [rebuild, isOrderly]
  | array elements ih =>
    rw [isJson_array] at json
    rw [rebuild_array, rebuild_array, Value.array.injEq, isOrderly_array, List.map_inj_left]
    exact forall₂_congr fun element inside => ih element inside (json element inside)
  | object members ih =>
    rw [isJson_object] at json
    have sorting := sortByKey_perm members
    rw [rebuild_object, rebuild_object, Value.object.injEq, keyWise_assigned, keyWise_sortByKey,
      isOrderly_object,
      mapValues_eq_iff json.1 (assigned_subset members) sorting.subset,
      assigned_eq_sortByKey_iff json.1]
    refine and_congr_right fun placed => ?_
    have listed := (assigned_eq_sortByKey_iff json.1).mpr placed
    constructor
    · intro alike entry inside
      have member : entry ∈ assigned members := by
        rw [listed]
        exact sorting.mem_iff.mpr inside
      exact (ih entry inside (json.2 entry inside)).mp (alike entry member)
    · intro orderly entry inside
      have member := assigned_subset members inside
      exact (ih entry member (json.2 entry member)).mpr (orderly entry member)

/-- The canonical text is the published one exactly for the values none of whose objects has a
member `__proto__` or two keys that enumeration visits against the order of their code units. -/
theorem canonicalize_published_iff {value : Value} (json : value.isJson = true) :
    canonicalize value = publishedText value ↔ isOrderly value = true := by
  rw [canonicalize_eq_write json, publishedText, ← rebuild_assigned_eq_iff json]
  constructor
  · intro same
    have arrangedJson : (value.rebuild assigned).isJson = true :=
      isJson_rebuild assigned_subperm json
    have ends : Ends [] := by simp [Ends, Delimited]
    refine (write_append_cancel arrangedJson (isJson_sorted json) ends ends ?_).1
    rw [same]
  · intro same
    rw [same]

/-- An object with an inner object, both with their members out of order. -/
def nestedValue : Value :=
  .object [("outer", .object [("z", .boolean true), ("a", .null)]), ("at", .string "now")]

theorem canonicalize_published_nestedValue :
    canonicalize nestedValue = publishedText nestedValue ↔ isOrderly nestedValue = true :=
  canonicalize_published_iff (by decide)

/-- A table with numbers for its keys. -/
def numberedValue : Value := .object [("10", .boolean true), ("9", .boolean false)]

/-- The sorted keys `"10"` and `"9"` are written by number. -/
theorem canonicalize_numberedValue :
    numberedValue.isJson = true ∧
      canonicalize numberedValue = Text.ofString "\x7b\"9\":false,\"10\":true\x7d" ∧
      publishedText numberedValue = Text.ofString "\x7b\"10\":true,\"9\":false\x7d" ∧
      canonicalize numberedValue ≠ publishedText numberedValue := by
  decide

end Hash

end OpticsHub
