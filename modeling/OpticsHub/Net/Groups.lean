import Mathlib.Data.List.Nodup

/-!
# Groups

Those who are present may join groups, and what is addressed to a group goes to its members. Who
leaves is in no group any more, and who is not there cannot join one. Nobody is in a group twice,
so nobody gets twice what is addressed to it.
-/
namespace Net

universe u v

/-- Who is present, and who has joined which group. -/
structure Groups (γ : Type u) (μ : Type v) where
  present : List μ := []
  joined : List (γ × μ) := []
  present_nodup : present.Nodup := by exact List.nodup_nil
  joined_nodup : joined.Nodup := by exact List.nodup_nil
  present_of_joined : ∀ membership ∈ joined, membership.2 ∈ present := by
    exact fun _ inside => absurd inside List.not_mem_nil

namespace Groups

variable {γ : Type u} {μ : Type v}

/-! ## Coming and going -/

section Presence

variable [DecidableEq μ]

/-- Be there, in no group yet unless one was there before. -/
def enter (member : μ) (groups : Groups γ μ) : Groups γ μ :=
  { groups with
    present := groups.present.insert member
    present_nodup := groups.present_nodup.insert
    present_of_joined := fun membership inside =>
      List.mem_insert_of_mem (groups.present_of_joined membership inside) }

/-- Be there no more, nor in any group. -/
def leave (member : μ) (groups : Groups γ μ) : Groups γ μ where
  present := groups.present.filter (· ≠ member)
  joined := groups.joined.filter fun membership => membership.2 ≠ member
  present_nodup := groups.present_nodup.filter _
  joined_nodup := groups.joined_nodup.filter _
  present_of_joined membership inside := by
    rw [List.mem_filter] at inside ⊢
    exact ⟨groups.present_of_joined membership inside.1, inside.2⟩

variable {groups : Groups γ μ} {member member' : μ}

theorem mem_present_enter (here : member ∈ groups.present) :
    member ∈ (groups.enter member').present :=
  List.mem_insert_of_mem here

theorem mem_present_leave :
    member ∈ (groups.leave member').present ↔ member ∈ groups.present ∧ member ≠ member' := by
  rw [leave, List.mem_filter, decide_eq_true_eq]

end Presence

/-! ## Members -/

section Members

variable [DecidableEq γ]

/-- Those who get what is addressed to a group. -/
def members (groups : Groups γ μ) (group : γ) : List μ :=
  (groups.joined.filter fun membership => membership.1 = group).map Prod.snd

variable {groups : Groups γ μ} {group group' : γ} {member member' : μ}

theorem mem_members : member ∈ groups.members group ↔ (group, member) ∈ groups.joined := by
  constructor
  · intro inside
    obtain ⟨⟨group', member'⟩, found, rfl⟩ := List.mem_map.mp inside
    rw [List.mem_filter, decide_eq_true_eq] at found
    obtain ⟨joined, rfl⟩ := found
    exact joined
  · intro joined
    exact List.mem_map.mpr ⟨_, List.mem_filter.mpr ⟨joined, decide_eq_true rfl⟩, rfl⟩

theorem mem_present_of_mem_members (inside : member ∈ groups.members group) :
    member ∈ groups.present :=
  groups.present_of_joined _ (mem_members.mp inside)

/-- Nobody is in a group twice. -/
theorem nodup_members (groups : Groups γ μ) (group : γ) : (groups.members group).Nodup := by
  refine List.Nodup.map_on ?_ (groups.joined_nodup.filter _)
  rintro ⟨group₁, member₁⟩ first ⟨group₂, member₂⟩ second same
  rw [List.mem_filter, decide_eq_true_eq] at first second
  exact Prod.ext (first.2.trans second.2.symm) same

variable [DecidableEq μ]

theorem mem_members_enter :
    member ∈ (groups.enter member').members group ↔ member ∈ groups.members group :=
  Iff.rfl

theorem mem_members_leave :
    member ∈ (groups.leave member').members group ↔
      member ∈ groups.members group ∧ member ≠ member' := by
  rw [mem_members, mem_members, leave, List.mem_filter, decide_eq_true_eq]

/-- Join a group, if one is there. -/
def join (group : γ) (member : μ) (groups : Groups γ μ) : Groups γ μ :=
  if here : member ∈ groups.present then
    { groups with
      joined := groups.joined.insert (group, member)
      joined_nodup := groups.joined_nodup.insert
      present_of_joined := by
        intro membership inside
        rcases List.mem_insert_iff.mp inside with rfl | before
        · exact here
        · exact groups.present_of_joined membership before }
  else groups

@[simp]
theorem present_join : (groups.join group member).present = groups.present := by
  rw [join]
  split <;> rfl

/-- Those who have joined are those who had, and the one who joins, if that one is there. -/
theorem mem_members_join :
    member ∈ (groups.join group' member').members group ↔
      (group' = group ∧ member' = member ∧ member ∈ groups.present) ∨
        member ∈ groups.members group := by
  rw [mem_members, mem_members, join]
  split
  · rename_i here
    change _ ∈ groups.joined.insert _ ↔ _
    rw [List.mem_insert_iff, Prod.mk.injEq]
    constructor
    · rintro (⟨rfl, rfl⟩ | before)
      · exact .inl ⟨rfl, rfl, here⟩
      · exact .inr before
    · rintro (⟨rfl, rfl, -⟩ | before)
      · exact .inl ⟨rfl, rfl⟩
      · exact .inr before
  · rename_i away
    refine ⟨.inr, ?_⟩
    rintro (⟨-, rfl, here⟩ | before)
    · exact absurd here away
    · exact before

end Members

end Groups

end Net
