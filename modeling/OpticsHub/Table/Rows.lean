import Mathlib.Data.List.Basic
import Mathlib.Data.List.Nodup
import Mathlib.Data.List.Pairwise

/-!
# Tables with a counted key

A table is a list of rows in the order of their keys. Keys are counted up from the
last one given, so a new row goes to the end and a row that is deleted leaves no
key behind that is given again. A query without an order returns the first row, by
key, that it selects. Order and bound of the keys are part of the table, so that a
key determines its row and every operation only has to say what it does to rows.
-/

universe u

/-- Rows that have a key. -/
class Keyed (ρ : Type u) where
  key : ρ → ℕ

open Keyed

/-- Rows in the order of their keys, all below the next key. -/
structure Table (ρ : Type u) [Keyed ρ] where
  rows : List ρ
  next : ℕ
  sorted : rows.Pairwise fun first second => key first < key second
  below : ∀ row ∈ rows, key row < next

namespace Table

variable {ρ : Type u} [Keyed ρ]

/-- No rows. -/
def empty : Table ρ where
  rows := []
  next := 1
  sorted := List.Pairwise.nil
  below := fun _ inside => absurd inside List.not_mem_nil

instance : Membership ρ (Table ρ) where
  mem table row := row ∈ table.rows

theorem mem_def {table : Table ρ} {row : ρ} : row ∈ table ↔ row ∈ table.rows := Iff.rfl

/-- A key determines its row. -/
theorem eq_of_key {table : Table ρ} {row row' : ρ} (inside : row ∈ table)
    (inside' : row' ∈ table) (same : key row = key row') : row = row' := by
  have distinct : (table.rows.map key).Nodup :=
    List.pairwise_map.mpr (table.sorted.imp fun less => Nat.ne_of_lt less)
  exact List.inj_on_of_nodup_map distinct inside inside' same

instance (table : Table ρ) (property : ρ → Prop) [DecidablePred property] :
    Decidable (∀ row ∈ table, property row) :=
  inferInstanceAs (Decidable (∀ row ∈ table.rows, property row))

instance (table : Table ρ) (property : ρ → Prop) [DecidablePred property] :
    Decidable (∃ row ∈ table, property row) :=
  inferInstanceAs (Decidable (∃ row ∈ table.rows, property row))

/-! ## Reading -/

/-- The first row that is selected. -/
def findFirst (table : Table ρ) (selected : ρ → Bool) : Option ρ := table.rows.find? selected

/-- How many rows are selected. -/
def count (table : Table ρ) (selected : ρ → Bool) : ℕ := table.rows.countP selected

theorem mem_of_findFirst {table : Table ρ} {selected : ρ → Bool} {row : ρ}
    (found : table.findFirst selected = some row) : row ∈ table ∧ selected row = true :=
  ⟨List.mem_of_find?_eq_some found, List.find?_some found⟩

/-- A row that is the only one selected is the one found. -/
theorem findFirst_of_key {table : Table ρ} {selected : ρ → Bool} {row : ρ} (inside : row ∈ table)
    (here : selected row = true)
    (only : ∀ other ∈ table, selected other = true → key other = key row) :
    table.findFirst selected = some row := by
  obtain ⟨other, found⟩ := Option.isSome_iff_exists.mp (List.find?_isSome.mpr ⟨row, inside, here⟩)
  have selects := List.find?_some found
  have inside' := List.mem_of_find?_eq_some found
  rw [findFirst, found, eq_of_key inside' inside (only other inside' selects)]

theorem findFirst_eq_none {table : Table ρ} {selected : ρ → Bool} :
    table.findFirst selected = none ↔ ∀ row ∈ table, selected row = false := by
  simp [findFirst, mem_def]

/-! ## Writing -/

/-- Add the row that goes with the next key. -/
def create (table : Table ρ) (row : ℕ → ρ) (keyed : ∀ n, key (row n) = n := by intro; rfl) :
    Table ρ where
  rows := table.rows ++ [row table.next]
  next := table.next + 1
  sorted := List.pairwise_append.mpr ⟨table.sorted, List.pairwise_singleton _ _,
    fun first inside last same => by
      rw [List.mem_singleton.mp same, keyed]
      exact table.below first inside⟩
  below := fun row' inside => by
    rcases List.mem_append.mp inside with before | last
    · exact Nat.lt_succ_of_lt (table.below row' before)
    · rw [List.mem_singleton.mp last, keyed]
      exact Nat.lt_succ_self _

/-- Change the rows that are selected. -/
def updateMany (table : Table ρ) (selected : ρ → Bool) (change : ρ → ρ)
    (keyed : ∀ row, key (change row) = key row := by intro; rfl) : Table ρ where
  rows := table.rows.map fun row => if selected row then change row else row
  next := table.next
  sorted := by
    refine List.pairwise_map.mpr (table.sorted.imp fun less => ?_)
    split <;> split <;> simpa [keyed] using less
  below := fun row' inside => by
    obtain ⟨row, original, rfl⟩ := List.mem_map.mp inside
    split <;> simpa [keyed] using table.below row original

/-- Remove the rows that are selected. -/
def deleteMany (table : Table ρ) (selected : ρ → Bool) : Table ρ where
  rows := table.rows.filter fun row => !selected row
  next := table.next
  sorted := table.sorted.filter _
  below := fun row inside => table.below row (List.mem_of_mem_filter inside)

/-- Add the rows that go with the next keys, in order. -/
def createMany (table : Table ρ) {δ : Type u} (row : δ → ℕ → ρ)
    (keyed : ∀ item n, key (row item n) = n := by intros; rfl) : List δ → Table ρ
  | [] => table
  | item :: items => (table.create (row item) (keyed item)).createMany row keyed items

variable {table : Table ρ} {selected : ρ → Bool}

theorem mem_create {row : ℕ → ρ} {keyed : ∀ n, key (row n) = n} {row' : ρ} :
    row' ∈ table.create row keyed ↔ row' ∈ table ∨ row' = row table.next := by
  simp [mem_def, create]

theorem mem_updateMany {change : ρ → ρ} {keyed : ∀ row, key (change row) = key row} {row' : ρ} :
    row' ∈ table.updateMany selected change keyed ↔
      ∃ row ∈ table, row' = if selected row then change row else row := by
  rw [mem_def, updateMany, List.mem_map]
  exact exists_congr fun row => and_congr_right fun _ => eq_comm

/-- The rows after a change to the row of a key. -/
theorem mem_updateMany_key {change : ρ → ρ} {keyed : ∀ row, key (change row) = key row} {row row' : ρ}
    (inside : row ∈ table) :
    row' ∈ table.updateMany (fun other => key other == key row) change keyed ↔
      row' = change row ∨ row' ∈ table ∧ key row' ≠ key row := by
  rw [mem_updateMany]
  constructor
  · rintro ⟨other, here, rfl⟩
    split
    · rename_i same
      exact .inl (congrArg change (eq_of_key here inside (beq_iff_eq.mp same)))
    · rename_i differ
      exact .inr ⟨here, fun same => differ (beq_iff_eq.mpr same)⟩
  · rintro (rfl | ⟨here, differ⟩)
    · exact ⟨row, inside, (if_pos (beq_self_eq_true _)).symm⟩
    · exact ⟨row', here, (if_neg fun same => differ (beq_iff_eq.mp same)).symm⟩

theorem mem_deleteMany {row : ρ} :
    row ∈ table.deleteMany selected ↔ row ∈ table ∧ selected row = false := by
  simp [mem_def, deleteMany]

/-- A change that does not matter to a query is made to what the query finds. -/
theorem findFirst_updateMany {change : ρ → ρ} {keyed : ∀ row, key (change row) = key row}
    {wanted : ρ → Bool} (unchanged : ∀ row, wanted (change row) = wanted row) :
    (table.updateMany selected change keyed).findFirst wanted =
      (table.findFirst wanted).map fun row => if selected row then change row else row := by
  rw [findFirst, updateMany, List.find?_map, findFirst]
  congr 2
  funext row
  rw [Function.comp_apply]
  split
  · exact unchanged row
  · rfl

/-- A new row is found when no other row is. -/
theorem findFirst_create {row : ℕ → ρ} {keyed : ∀ n, key (row n) = n} {wanted : ρ → Bool} :
    (table.create row keyed).findFirst wanted =
      (table.findFirst wanted).or
        (if wanted (row table.next) then some (row table.next) else none) := by
  rw [findFirst, create, List.find?_append, findFirst, List.find?_singleton]

/-- Of two items with the same label there is one, if the labels are distinct. -/
theorem eq_of_nodup_filterMap {ι : Type u} {τ : Type*} {label : ι → Option τ} {items : List ι}
    (distinct : (items.filterMap label).Nodup) {item other : ι} (inside : item ∈ items)
    (inside' : other ∈ items) (given : label item ≠ none) (same : label item = label other) :
    item = other := by
  rw [List.Nodup, List.pairwise_filterMap] at distinct
  have apart (first second : ι) (differ : ∀ value, label first = some value →
      ∀ value', label second = some value' → value ≠ value') :
      label first ≠ none → label first = label second → first = second := by
    intro given same
    obtain ⟨value, named⟩ := Option.ne_none_iff_exists'.mp given
    exact absurd rfl (differ value named value (same.symm.trans named))
  refine List.Pairwise.forall_of_forall_of_flip (fun _ _ _ _ => rfl) (distinct.imp (apart _ _))
    (distinct.imp fun {first second} differ given same => ?_) inside inside' given same
  exact (apart first second differ (same ▸ given) same.symm).symm

/-- The rows that `createMany` adds follow the older ones, one for each item. -/
theorem rows_createMany {δ : Type u} {row : δ → ℕ → ρ} {keyed : ∀ item n, key (row item n) = n}
    (items : List δ) : ∃ made : List ρ,
      (table.createMany row keyed items).rows = table.rows ++ made ∧
        List.Forall₂ (fun item made => ∃ n, made = row item n) items made := by
  induction items generalizing table with
  | nil => exact ⟨[], (List.append_nil _).symm, .nil⟩
  | cons item items ih =>
    obtain ⟨made, rows, matched⟩ := @ih (table.create (row item) (keyed item))
    refine ⟨row item table.next :: made, ?_, .cons ⟨table.next, rfl⟩ matched⟩
    rw [createMany, rows, create, List.append_assoc, List.singleton_append]

/-- The rows that `createMany` adds are made from the items, and have new keys. -/
theorem mem_createMany {δ : Type u} {row : δ → ℕ → ρ} {keyed : ∀ item n, key (row item n) = n}
    {items : List δ} {row' : ρ} (inside : row' ∈ table.createMany row keyed items) :
    row' ∈ table ∨ ∃ item ∈ items, ∃ n, row' = row item n := by
  induction items generalizing table with
  | nil => exact .inl inside
  | cons item items ih =>
    rcases ih inside with before | ⟨item', member, n, made⟩
    · rcases mem_create.mp before with older | made
      · exact .inl older
      · exact .inr ⟨item, List.mem_cons_self, table.next, made⟩
    · exact .inr ⟨item', List.mem_cons_of_mem _ member, n, made⟩

/-- A row that `createMany` adds has a key that no row had before. -/
theorem le_key_of_mem_createMany {δ : Type u} {row : δ → ℕ → ρ}
    {keyed : ∀ item n, key (row item n) = n} {items : List δ} {row' : ρ}
    (inside : row' ∈ table.createMany row keyed items) : row' ∈ table ∨ table.next ≤ key row' := by
  induction items generalizing table with
  | nil => exact .inl inside
  | cons item items ih =>
    rcases ih inside with before | later
    · rcases mem_create.mp before with older | rfl
      · exact .inl older
      · exact .inr (Nat.le_of_eq (keyed item table.next).symm)
    · exact .inr (Nat.le_of_succ_le later)

theorem mem_createMany_of_mem {δ : Type u} {row : δ → ℕ → ρ}
    {keyed : ∀ item n, key (row item n) = n} {items : List δ} {row' : ρ} (inside : row' ∈ table) :
    row' ∈ table.createMany row keyed items := by
  induction items generalizing table with
  | nil => exact inside
  | cons item items ih => exact ih (mem_create.mpr (.inl inside))

/-- Every item has a row. -/
theorem exists_mem_createMany {δ : Type u} {row : δ → ℕ → ρ}
    {keyed : ∀ item n, key (row item n) = n} {items : List δ} {item : δ} (member : item ∈ items) :
    ∃ n, row item n ∈ table.createMany row keyed items := by
  induction items generalizing table with
  | nil => cases member
  | cons head items ih =>
    cases member with
    | head =>
      refine ⟨table.next, ?_⟩
      rw [createMany]
      exact mem_createMany_of_mem (mem_create.mpr (.inr rfl))
    | tail _ later => exact ih later

/-! ## Counting -/

theorem count_create {row : ℕ → ρ} {keyed : ∀ n, key (row n) = n} {wanted : ρ → Bool} :
    (table.create row keyed).count wanted =
      table.count wanted + if wanted (row table.next) then 1 else 0 := by
  rw [count, create, List.countP_append, List.countP_singleton, count]

/-- A change that selects nothing which it makes wanted makes no more rows wanted. -/
theorem count_updateMany_le {change : ρ → ρ} {keyed : ∀ row, key (change row) = key row}
    {wanted : ρ → Bool}
    (fewer : ∀ row ∈ table, selected row = true → wanted (change row) = true → wanted row = true) :
    (table.updateMany selected change keyed).count wanted ≤ table.count wanted := by
  rw [count, updateMany, List.countP_map, count]
  refine List.countP_mono_left fun row inside held => ?_
  rw [Function.comp_apply] at held
  split at held
  · rename_i here
    exact fewer row inside here held
  · exact held

/-- A change to the row of a key counts by what it does to this row. -/
theorem count_updateMany_key {change : ρ → ρ} {keyed : ∀ row, key (change row) = key row}
    {wanted : ρ → Bool} {row : ρ} (inside : row ∈ table) :
    (table.updateMany (fun other => key other == key row) change keyed).count wanted +
        (if wanted row then 1 else 0) =
      table.count wanted + if wanted (change row) then 1 else 0 := by
  obtain ⟨before, after, split⟩ := List.append_of_mem (mem_def.mp inside)
  have sorted := table.sorted
  rw [split, List.pairwise_append, List.pairwise_cons] at sorted
  obtain ⟨-, ⟨larger, -⟩, smaller⟩ := sorted
  have same (rows : List ρ) (differ : ∀ other ∈ rows, key other ≠ key row) :
      (rows.map fun other => if key other == key row then change other else other) = rows := by
    refine (List.map_congr_left fun other inside => ?_).trans (List.map_id rows)
    exact if_neg (by simpa using differ other inside)
  change (table.rows.map fun other => if key other == key row then change other else other).countP
    wanted + _ = table.rows.countP wanted + _
  rw [split, List.map_append, List.map_cons,
    same before fun other inside => Nat.ne_of_lt (smaller other inside row List.mem_cons_self),
    same after fun other inside => Nat.ne_of_gt (larger other inside)]
  simp only [beq_self_eq_true, if_true, List.countP_append, List.countP_cons]
  omega

/-! ## Relations between rows -/

/-- A symmetric relation that holds between any two rows with different keys. -/
def Separates (related : ρ → ρ → Prop) (table : Table ρ) : Prop :=
  ∀ row ∈ table, ∀ row' ∈ table, key row ≠ key row' → related row row'

variable {related : ρ → ρ → Prop}

theorem separates_empty : (empty : Table ρ).Separates related :=
  fun _ inside => absurd inside List.not_mem_nil

/-- A row may be added when it is related to every row there is. -/
theorem Separates.create (symmetric : ∀ {row row'}, related row row' → related row' row)
    (separates : table.Separates related) {row : ℕ → ρ} {keyed : ∀ n, key (row n) = n}
    (fresh : ∀ row' ∈ table, related row' (row table.next)) :
    (table.create row keyed).Separates related := by
  intro first inside second inside' differ
  rcases mem_create.mp inside with before | rfl <;> rcases mem_create.mp inside' with before' | rfl
  · exact separates first before second before' differ
  · exact fresh first before
  · exact symmetric (fresh second before')
  · exact absurd rfl differ

/-- A row may be added exactly if it is related to every row there is. -/
theorem separates_create_iff (symmetric : ∀ {row row'}, related row row' → related row' row)
    (separates : table.Separates related) {row : ℕ → ρ} {keyed : ∀ n, key (row n) = n} :
    (table.create row keyed).Separates related ↔ ∀ row' ∈ table, related row' (row table.next) := by
  refine ⟨fun apart row' inside => ?_, separates.create symmetric⟩
  refine apart row' (mem_create.mpr (.inl inside)) _ (mem_create.mpr (.inr rfl)) ?_
  rw [keyed]
  exact Nat.ne_of_lt (table.below row' inside)

/-- Rows made from related items may be added when each is related to every row there
is. -/
theorem Separates.createMany (symmetric : ∀ {row row'}, related row row' → related row' row)
    {δ : Type u} {row : δ → ℕ → ρ} {keyed : ∀ item n, key (row item n) = n} {items : List δ}
    (separates : table.Separates related)
    (fresh : ∀ row' ∈ table, ∀ item ∈ items, ∀ n, related row' (row item n))
    (among : items.Pairwise fun item item' => ∀ n n', related (row item n) (row item' n')) :
    (table.createMany row keyed items).Separates related := by
  induction items generalizing table with
  | nil => exact separates
  | cons item items ih =>
    obtain ⟨first, later⟩ := List.pairwise_cons.mp among
    refine ih ?_ ?_ later
    · exact separates.create symmetric fun row' inside =>
        fresh row' inside item List.mem_cons_self _
    · intro row' inside item' member n
      rcases mem_create.mp inside with before | rfl
      · exact fresh row' before item' (List.mem_cons_of_mem _ member) n
      · exact first item' member _ n

theorem Separates.deleteMany (separates : table.Separates related) :
    (table.deleteMany selected).Separates related :=
  fun row inside row' inside' =>
    separates row (mem_deleteMany.mp inside).1 row' (mem_deleteMany.mp inside').1

/-- Rows may be changed when the changed ones are related to the rest and to each other. -/
theorem Separates.updateMany (separates : table.Separates related) {change : ρ → ρ}
    {keyed : ∀ row, key (change row) = key row}
    (changed : ∀ row ∈ table, ∀ row' ∈ table, key row ≠ key row' →
      (selected row = true ∨ selected row' = true) →
      related (if selected row then change row else row)
        (if selected row' then change row' else row')) :
    (table.updateMany selected change keyed).Separates related := by
  intro first inside second inside' differ
  obtain ⟨row, original, rfl⟩ := mem_updateMany.mp inside
  obtain ⟨row', original', rfl⟩ := mem_updateMany.mp inside'
  have keys : key row ≠ key row' := by
    intro same
    apply differ
    split <;> split <;> simpa [keyed] using same
  by_cases touched : selected row = true ∨ selected row' = true
  · exact changed row original row' original' keys touched
  · rw [not_or] at touched
    rw [if_neg touched.1, if_neg touched.2]
    exact separates row original row' original' keys

/-- The row of a key may be changed exactly if the changed row is related to all others. -/
theorem separates_updateMany_key (symmetric : ∀ {row row'}, related row row' → related row' row)
    (separates : table.Separates related) {change : ρ → ρ}
    {keyed : ∀ row, key (change row) = key row} {row : ρ} (inside : row ∈ table) :
    (table.updateMany (fun other => key other == key row) change keyed).Separates related ↔
      ∀ other ∈ table, key other ≠ key row → related other (change row) := by
  constructor
  · intro apart other inside' differ
    refine apart other ?_ (change row) ?_ (by rwa [keyed])
    · exact mem_updateMany.mpr ⟨other, inside', (if_neg (by simpa using differ)).symm⟩
    · exact mem_updateMany.mpr ⟨row, inside, (if_pos (beq_self_eq_true _)).symm⟩
  · intro fits
    refine separates.updateMany fun first here second here' differ touched => ?_
    rcases touched with hit | hit
    · obtain rfl := eq_of_key here inside (beq_iff_eq.mp hit)
      rw [if_pos hit, if_neg (by simpa using differ.symm)]
      exact symmetric (fits second here' differ.symm)
    · obtain rfl := eq_of_key here' inside (beq_iff_eq.mp hit)
      rw [if_pos hit, if_neg (by simpa using differ)]
      exact fits first here differ

end Table
