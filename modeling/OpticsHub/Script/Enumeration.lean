import OpticsHub.Script.Json

/-!
# When enumeration follows the order of the keys

An object that was created key by key in ascending order is visited in another order as soon as
an array index comes after a key that is not one, or after an array index of a larger number:
`"10"` sorts before `"9"` and is visited after it. Enumeration is the identity on a list of
members exactly when no such pair is in it, and the sorted members of an object have no such pair
exactly when no two of its keys are ordered one way by their code units and the other way by
enumeration.
-/
namespace Script

namespace Members

universe u v

variable {α : Type u} {β : Type v}

/-- Whether enumeration leaves two keys in the order they came in: an array index stands before
every key that is not one, and array indices stand by number. -/
def keepsOrder (first second : Text) : Bool :=
  match arrayIndex? first, arrayIndex? second with
  | some index, some index' => decide (index ≤ index')
  | none, some _ => false
  | _, none => true

theorem keepsOrder_of_none {first second : Text} (plain : arrayIndex? second = none) :
    keepsOrder first second = true := by
  unfold keepsOrder
  rw [plain]
  cases arrayIndex? first <;> rfl

/-- Behind a key that is not an array index, only such keys keep their place. -/
theorem arrayIndex?_of_keepsOrder {first second : Text} (plain : arrayIndex? first = none)
    (kept : keepsOrder first second = true) : arrayIndex? second = none := by
  unfold keepsOrder at kept
  rw [plain] at kept
  cases index : arrayIndex? second with
  | none => rfl
  | some number =>
    rw [index] at kept
    exact absurd kept Bool.false_ne_true

/-- Two array indices keep their order exactly when they are in the order of their numbers. -/
theorem keepsOrder_iff_indexLe {first second : Text × α}
    (index : (arrayIndex? first.1).isSome = true) (index' : (arrayIndex? second.1).isSome = true) :
    keepsOrder first.1 second.1 = true ↔ indexLe first second := by
  obtain ⟨number, found⟩ := Option.isSome_iff_exists.mp index
  obtain ⟨number', found'⟩ := Option.isSome_iff_exists.mp index'
  unfold keepsOrder indexLe
  rw [found, found']
  exact decide_eq_true_iff

/-- Enumeration puts every pair of members in the order it keeps. -/
theorem pairwise_enumerate (members : Members α) :
    (enumerate members).Pairwise fun left right => keepsOrder left.1 right.1 = true := by
  unfold enumerate
  refine List.pairwise_append.mpr ⟨?_, ?_, ?_⟩
  · refine (List.pairwise_insertionSort indexLe _).imp_of_mem ?_
    intro left right inside inside' before
    have index := (List.mem_filter.mp ((List.mem_insertionSort indexLe).mp inside)).2
    have index' := (List.mem_filter.mp ((List.mem_insertionSort indexLe).mp inside')).2
    exact (keepsOrder_iff_indexLe index index').mpr before
  · refine List.pairwise_of_forall_mem_list fun left _ right inside => ?_
    exact keepsOrder_of_none (Option.isNone_iff_eq_none.mp (List.mem_filter.mp inside).2)
  · intro left _ right inside
    exact keepsOrder_of_none (Option.isNone_iff_eq_none.mp (List.mem_filter.mp inside).2)

/-- Where every pair is in that order, the array indices come first already. -/
theorem filter_append_filter {members : Members α}
    (kept : members.Pairwise fun left right => keepsOrder left.1 right.1 = true) :
    (members.filter fun entry => (arrayIndex? entry.1).isSome) ++
      (members.filter fun entry => (arrayIndex? entry.1).isNone) = members := by
  induction members with
  | nil => rfl
  | cons entry rest ih =>
    rw [List.pairwise_cons] at kept
    cases index : arrayIndex? entry.1 with
    | some number =>
      rw [List.filter_cons_of_pos (by rw [index]; rfl),
        List.filter_cons_of_neg (by rw [index]; exact Bool.false_ne_true), List.cons_append,
        ih kept.2]
    | none =>
      have plain : ∀ other ∈ rest, arrayIndex? other.1 = none :=
        fun other inside => arrayIndex?_of_keepsOrder index (kept.1 other inside)
      have noIndices : (rest.filter fun entry => (arrayIndex? entry.1).isSome) = [] :=
        List.filter_eq_nil_iff.mpr fun other inside => by simp [plain other inside]
      have allPlain : (rest.filter fun entry => (arrayIndex? entry.1).isNone) = rest :=
        List.filter_eq_self.mpr fun other inside => by simp [plain other inside]
      rw [List.filter_cons_of_neg (by rw [index]; exact Bool.false_ne_true),
        List.filter_cons_of_pos (by rw [index]; rfl), noIndices, allPlain, List.nil_append]

/-- Enumeration leaves a list of members alone exactly when it keeps every pair of it. -/
theorem enumerate_eq_self_iff (members : Members α) :
    enumerate members = members ↔
      members.Pairwise fun left right => keepsOrder left.1 right.1 = true := by
  constructor
  · intro same
    exact same ▸ pairwise_enumerate members
  · intro kept
    have ordered : (members.filter fun entry => (arrayIndex? entry.1).isSome).Pairwise
        indexLe := by
      refine (kept.sublist List.filter_sublist).imp_of_mem ?_
      intro left right inside inside' before
      exact (keepsOrder_iff_indexLe (List.mem_filter.mp inside).2
        (List.mem_filter.mp inside').2).mp before
    rw [enumerate, ordered.insertionSort_eq, filter_append_filter kept]

/-- Whether no two keys are ordered one way by their code units and the other way by
enumeration. -/
def agreesWithOrder (keys : List Text) : Bool :=
  keys.all fun key => keys.all fun key' => !(decide (key < key')) || keepsOrder key key'

theorem agreesWithOrder_iff (keys : List Text) :
    agreesWithOrder keys = true ↔
      ∀ key ∈ keys, ∀ key' ∈ keys, key < key' → keepsOrder key key' = true := by
  simp only [agreesWithOrder, List.all_eq_true, Bool.or_eq_true, Bool.not_eq_true',
    decide_eq_false_iff_not, Decidable.imp_iff_not_or]

/-- The sorted members of an object are visited as they stand exactly when the two orders agree
on its keys. -/
theorem enumerate_sortByKey_iff {members : Members α} (distinct : (keys members).Nodup) :
    enumerate (sortByKey members) = sortByKey members ↔ agreesWithOrder (keys members) = true := by
  have moved := sortByKey_perm members
  have apart : (sortByKey members).Pairwise fun left right => left.1 ≠ right.1 :=
    List.pairwise_map.mp ((keys_perm moved).nodup_iff.mpr distinct)
  have ascending : (sortByKey members).Pairwise fun left right => left.1 < right.1 := by
    refine ((List.pairwise_insertionSort keyLe members).and apart).imp ?_
    intro left right before
    by_contra above
    exact before.2 (List.le_antisymm before.1 (List.not_lt.mp above))
  rw [enumerate_eq_self_iff, agreesWithOrder_iff]
  constructor
  · intro kept
    have forward : (sortByKey members).Pairwise fun left right =>
        left.1 < right.1 → keepsOrder left.1 right.1 = true := by
      refine kept.imp ?_
      intro left right before _
      exact before
    have backward : (sortByKey members).Pairwise fun left right =>
        right.1 < left.1 → keepsOrder right.1 left.1 = true := by
      refine ascending.imp ?_
      intro left right before above
      exact absurd (List.lt_trans before above) (List.lt_irrefl _)
    have every := forward.forall_of_forall_of_flip
      (fun entry _ below => absurd below (List.lt_irrefl _)) backward
    intro key inside key' inside' before
    obtain ⟨left, member, rfl⟩ := List.mem_map.mp inside
    obtain ⟨right, member', rfl⟩ := List.mem_map.mp inside'
    exact every (moved.mem_iff.mpr member) (moved.mem_iff.mpr member') before
  · intro agrees
    refine ascending.imp_of_mem fun inside inside' before => ?_
    exact agrees _ (List.mem_map_of_mem (moved.mem_iff.mp inside)) _
      (List.mem_map_of_mem (moved.mem_iff.mp inside')) before

/-- Members of one object in two lists are the same when their keys are. -/
theorem eq_of_keys_eq {object members members' : Members α} (distinct : (keys object).Nodup)
    (inside : members ⊆ object) (inside' : members' ⊆ object)
    (same : keys members = keys members') : members = members' := by
  induction members generalizing members' with
  | nil => exact (List.map_eq_nil_iff.mp same.symm).symm
  | cons entry rest ih =>
    cases members' with
    | nil => exact absurd same (List.cons_ne_nil _ _)
    | cons entry' rest' =>
      rw [List.cons_subset] at inside inside'
      obtain ⟨first, others⟩ := List.cons.inj same
      rw [eq_of_key_eq distinct inside.1 inside'.1 first, ih inside.2 inside'.2 others]

/-- Members of one object that are changed in two ways come out the same exactly when they stood
in the same places and every one of them was changed alike. -/
theorem mapValues_eq_iff {change change' : α → β} {object members members' : Members α}
    (distinct : (keys object).Nodup) (inside : members ⊆ object) (inside' : members' ⊆ object) :
    mapValues change members = mapValues change' members' ↔
      members = members' ∧ ∀ entry ∈ members, change entry.2 = change' entry.2 := by
  constructor
  · intro same
    have keyed : keys members = keys members' := by
      rw [← keys_mapValues change, same, keys_mapValues]
    obtain rfl := eq_of_keys_eq distinct inside inside' keyed
    exact ⟨rfl, fun entry present => (Prod.mk.inj (List.map_inj_left.mp same entry present)).2⟩
  · rintro ⟨rfl, alike⟩
    exact mapValues_congr alike

end Members

end Script
