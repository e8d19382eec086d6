import Mathlib.Data.List.Nodup

/-!
# Tables of named rows

The rows of such a table have names of their own, and a name finds its row. A row is added only
when its name is free; otherwise the row of the name is changed. Changes keep the names.
-/

universe u v

/-- Rows of which no two have the same name. -/
structure NamedTable (ρ : Type u) {κ : Type v} (name : ρ → κ) where
  rows : List ρ
  distinct : (rows.map name).Nodup

namespace NamedTable

variable {ρ : Type u} {κ : Type v} {name : ρ → κ}

instance : Membership ρ (NamedTable ρ name) := ⟨fun table row => row ∈ table.rows⟩

theorem mem_def {table : NamedTable ρ name} {row : ρ} : row ∈ table ↔ row ∈ table.rows := Iff.rfl

/-- The table without rows. -/
def empty : NamedTable ρ name := ⟨[], List.nodup_nil⟩

/-- Two rows with one name are one row. -/
theorem eq_of_name {table : NamedTable ρ name} {row row' : ρ} (inside : row ∈ table)
    (inside' : row' ∈ table) (same : name row = name row') : row = row' :=
  List.inj_on_of_nodup_map table.distinct inside inside' same

/-- Change the rows that are selected. -/
def updateMany (table : NamedTable ρ name) (selected : ρ → Bool) (change : ρ → ρ)
    (named : ∀ row, name (change row) = name row := by intro; rfl) : NamedTable ρ name where
  rows := table.rows.map fun row => if selected row then change row else row
  distinct := by
    have same : (name ∘ fun row => if selected row then change row else row) = name := by
      funext row
      simp only [Function.comp_apply]
      split
      · exact named row
      · rfl
    rw [List.map_map, same]
    exact table.distinct

theorem mem_updateMany {table : NamedTable ρ name} {selected : ρ → Bool} {change : ρ → ρ}
    (named : ∀ row, name (change row) = name row) {row' : ρ} :
    row' ∈ table.updateMany selected change named ↔
      ∃ row ∈ table, row' = if selected row then change row else row := by
  rw [mem_def, updateMany, List.mem_map]
  exact exists_congr fun row => and_congr_right fun _ => eq_comm

/-- A row that is not selected stays. -/
theorem mem_updateMany_of_not {table : NamedTable ρ name} {selected : ρ → Bool} {change : ρ → ρ}
    (named : ∀ row, name (change row) = name row) {row : ρ} (inside : row ∈ table)
    (kept : ¬ selected row = true) : row ∈ table.updateMany selected change named :=
  (mem_updateMany named).mpr ⟨row, inside, (if_neg kept).symm⟩

variable [DecidableEq κ]

/-- The row of a name. -/
def find (table : NamedTable ρ name) (wanted : κ) : Option ρ :=
  table.rows.find? fun row => decide (name row = wanted)

theorem find_eq_some_iff {table : NamedTable ρ name} {wanted : κ} {row : ρ} :
    table.find wanted = some row ↔ row ∈ table ∧ name row = wanted := by
  constructor
  · intro found
    exact ⟨List.mem_of_find?_eq_some found, by simpa using List.find?_some found⟩
  · rintro ⟨inside, rfl⟩
    cases found : table.find (name row) with
    | none => exact absurd (decide_eq_true rfl) (List.find?_eq_none.mp found row inside)
    | some other =>
      have named : name other = name row := by simpa using List.find?_some found
      rw [eq_of_name (List.mem_of_find?_eq_some found) inside named]

theorem find_eq_none_iff {table : NamedTable ρ name} {wanted : κ} :
    table.find wanted = none ↔ ∀ row ∈ table, name row ≠ wanted := by
  simp [find, mem_def]

/-- Change the row that has the name of a new row, or add that. -/
def upsert (table : NamedTable ρ name) (create : ρ) (change : ρ → ρ)
    (named : ∀ row, name (change row) = name row := by intro; rfl) : NamedTable ρ name :=
  if absent : table.find (name create) = none then
    { rows := table.rows ++ [create]
      distinct := by
        rw [List.map_append]
        refine List.Nodup.append table.distinct (List.nodup_singleton _) ?_
        rw [List.map_singleton, List.disjoint_singleton]
        intro inside
        obtain ⟨row, here, same⟩ := List.mem_map.mp inside
        exact find_eq_none_iff.mp absent row here same }
  else table.updateMany (fun row => decide (name row = name create)) change named

/-- The rows after a row was added or changed. -/
theorem mem_upsert {table : NamedTable ρ name} {create : ρ} {change : ρ → ρ}
    {named : ∀ row, name (change row) = name row} {row' : ρ} :
    row' ∈ table.upsert create change named ↔
      (row' ∈ table ∧ name row' ≠ name create) ∨
      (∃ row ∈ table, name row = name create ∧ row' = change row) ∨
      (∀ row ∈ table, name row ≠ name create) ∧ row' = create := by
  by_cases absent : table.find (name create) = none
  · have none := find_eq_none_iff.mp absent
    rw [upsert, dif_pos absent, mem_def, List.mem_append, List.mem_singleton]
    constructor
    · rintro (inside | rfl)
      · exact .inl ⟨inside, none row' inside⟩
      · exact .inr (.inr ⟨none, rfl⟩)
    · rintro (⟨inside, -⟩ | ⟨row, inside, same, -⟩ | ⟨-, rfl⟩)
      · exact .inl inside
      · exact absurd same (none row inside)
      · exact .inr rfl
  · obtain ⟨old, found⟩ := Option.ne_none_iff_exists'.mp absent
    obtain ⟨there, same⟩ := find_eq_some_iff.mp found
    rw [upsert, dif_neg absent, mem_updateMany]
    constructor
    · rintro ⟨row, inside, rfl⟩
      by_cases named : name row = name create
      · rw [if_pos (decide_eq_true named)]
        exact .inr (.inl ⟨row, inside, named, rfl⟩)
      · rw [if_neg (by simpa using named)]
        exact .inl ⟨inside, named⟩
    · rintro (⟨inside, named⟩ | ⟨row, inside, named, rfl⟩ | ⟨none, -⟩)
      · exact ⟨row', inside, (if_neg (by simpa using named)).symm⟩
      · exact ⟨row, inside, (if_pos (decide_eq_true named)).symm⟩
      · exact absurd same (none old there)

end NamedTable
