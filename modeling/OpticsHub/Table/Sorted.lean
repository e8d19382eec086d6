import Mathlib.Data.List.Basic

/-!
# What comes first in a sorted list

A stable sort by a total preorder puts a least element first. The first element that meets a
condition is therefore least among those that meet it; and every element that is least among them
comes first in some order of the list.
-/

universe u

namespace List

variable {α : Type u} {le : α → α → Bool} {selected : α → Bool}
  (transitive : ∀ first second third, le first second = true → le second third = true →
    le first third = true)
  (total : ∀ first second, (le first second || le second first) = true)

include transitive total

/-- The first element that is selected comes before all that are. -/
theorem least_of_find?_mergeSort {list : List α} {found : α}
    (first : (list.mergeSort le).find? selected = some found) :
    found ∈ list ∧ selected found = true ∧
      ∀ other ∈ list, selected other = true → other = found ∨ le found other = true := by
  obtain ⟨chosen, before, after, split, skipped⟩ := find?_eq_some_iff_append.mp first
  have ordered := pairwise_mergeSort transitive total list
  rw [split] at ordered
  refine ⟨mem_mergeSort.mp (mem_of_find?_eq_some first), chosen, fun other inside selects => ?_⟩
  have there : other ∈ before ++ found :: after := split ▸ mem_mergeSort.mpr inside
  rcases mem_append.mp there with passed | rest
  · have ignored := skipped other passed
    rw [selects] at ignored
    cases ignored
  · rcases mem_cons.mp rest with same | later
    · exact .inl same
    · exact .inr (rel_of_pairwise_cons (pairwise_append.mp ordered).2.1 later)

/-- An element that comes before all that are selected is found first, if it stands first. -/
theorem find?_mergeSort_cons {element : α} {list : List α} (chosen : selected element = true)
    (least : ∀ other ∈ list, selected other = true → le element other = true) :
    ((element :: list).mergeSort le).find? selected = some element := by
  obtain ⟨before, after, split, rest, greater⟩ := mergeSort_cons transitive total element list
  rw [split, find?_append, find?_eq_none.mpr, Option.none_or, find?_cons_of_pos chosen]
  intro other inside selects
  have there : other ∈ list := mem_mergeSort.mp (rest ▸ mem_append_left after inside)
  have above := greater other inside
  rw [least other there selects] at above
  cases above

end List
