import Mathlib.Data.List.Basic

/-!
# Escapes

Some units have a form of their own that is written for them, the others stand for themselves.
Writing all forms at once is the meaning of escaping. Replacing one unit after the other comes to
the same if no form contains a unit that is replaced after it. A text is read back in one pass from
left to right, if no form begins another and each begins with a unit that never stands for itself.
-/
namespace Script

universe u

/-- Units with the forms that are written for them. -/
abbrev Escapes (α : Type u) := List (α × List α)

namespace Escapes

variable {α : Type u} [DecidableEq α]

/-- What is written for a unit. -/
def form (escapes : Escapes α) (unit : α) : List α := (escapes.lookup unit).getD [unit]

/-- A text with every unit in its form. -/
def escape (escapes : Escapes α) (text : List α) : List α := text.flatMap escapes.form

/-- A text with one unit in its form. -/
def replaceAll (text : List α) (entry : α × List α) : List α :=
  text.flatMap fun unit => if unit = entry.1 then entry.2 else [unit]

/-- Read forms back from left to right, where some units belong to a form that was read already. -/
def unescapeFrom (escapes : Escapes α) : ℕ → List α → List α
  | _, [] => []
  | skip + 1, _ :: rest => unescapeFrom escapes skip rest
  | 0, unit :: rest =>
    match escapes.find? fun entry => entry.2.isPrefixOf (unit :: rest) with
    | none => unit :: unescapeFrom escapes 0 rest
    | some entry => entry.1 :: unescapeFrom escapes (entry.2.length - 1) rest

def unescape (escapes : Escapes α) (text : List α) : List α := unescapeFrom escapes 0 text

/-- Forms can be told from each other, and from units that stand for themselves. -/
structure Readable (escapes : Escapes α) : Prop where
  apart : ∀ entry ∈ escapes, ∀ other ∈ escapes, entry.2 <+: other.2 → entry = other
  begins : ∀ entry ∈ escapes, ∃ first ∈ entry.2.head?, ∃ other ∈ escapes, other.1 = first

variable {escapes : Escapes α} {unit : α} {text : List α}

/-! ## Forms -/

theorem form_eq (escapes : Escapes α) (unit : α) :
    (unit, escapes.form unit) ∈ escapes ∨
      escapes.form unit = [unit] ∧ ∀ entry ∈ escapes, entry.1 ≠ unit := by
  unfold form
  cases found : escapes.lookup unit with
  | none =>
    rw [List.lookup_eq_none_iff] at found
    exact .inr ⟨rfl, fun entry inside same => by simpa [same] using found entry inside⟩
  | some form =>
    obtain ⟨before, after, rfl, -⟩ := List.lookup_eq_some_iff.mp found
    exact .inl (List.mem_append_right before List.mem_cons_self)

@[simp]
theorem escape_cons (escapes : Escapes α) (unit : α) (text : List α) :
    escapes.escape (unit :: text) = escapes.form unit ++ escapes.escape text :=
  List.flatMap_cons

/-! ## One unit after the other -/

theorem escape_eq_self (absent : ∀ unit ∈ text, ∀ entry ∈ escapes, entry.1 ≠ unit) :
    escapes.escape text = text := by
  induction text with
  | nil => rfl
  | cons unit text ih =>
    have plain : escapes.form unit = [unit] := by
      rcases escapes.form_eq unit with known | ⟨alone, -⟩
      · exact absurd rfl (absent unit List.mem_cons_self _ known)
      · exact alone
    rw [escape_cons, plain, ih fun unit inside => absent unit (List.mem_cons_of_mem _ inside),
      List.singleton_append]

/-- Replacing one unit after the other is writing all forms at once, if no form contains a unit that
is replaced after it. -/
theorem foldl_replaceAll (ordered : escapes.Pairwise fun entry later => later.1 ∉ entry.2)
    (text : List α) : escapes.foldl replaceAll text = escapes.escape text := by
  induction escapes generalizing text with
  | nil => exact (escape_eq_self fun _ _ _ inside => absurd inside List.not_mem_nil).symm
  | cons entry later ih =>
    obtain ⟨first, ordered⟩ := List.pairwise_cons.mp ordered
    rw [List.foldl_cons, ih ordered, replaceAll, escape, escape, List.flatMap_assoc]
    refine List.flatMap_congr fun unit _ => ?_
    by_cases same : unit = entry.1
    · -- the passes that follow leave the form as it is
      have kept : Escapes.escape later entry.2 = entry.2 :=
        escape_eq_self fun unit inside other known equal => first other known (equal ▸ inside)
      rw [if_pos same, form, same, List.lookup_cons_self, Option.getD_some]
      exact kept
    · rw [if_neg same, List.flatMap_singleton, form, form, List.lookup_cons,
        beq_eq_false_iff_ne.mpr same]

/-! ## Reading back -/

theorem unescapeFrom_skip (escapes : Escapes α) (skip : ℕ) (text : List α) :
    unescapeFrom escapes skip text = escapes.unescape (text.drop skip) := by
  induction skip generalizing text with
  | zero => rfl
  | succ skip ih =>
    cases text with
    | nil => rfl
    | cons unit rest => exact ih rest

/-- A form is read as its unit, whatever follows. -/
theorem Readable.unescape_form (readable : Readable escapes) {entry : α × List α}
    (known : entry ∈ escapes) (rest : List α) :
    escapes.unescape (entry.2 ++ rest) = entry.1 :: escapes.unescape rest := by
  obtain ⟨first, head, -⟩ := readable.begins entry known
  obtain ⟨tail, form⟩ := List.head?_eq_some_iff.mp head
  have found : escapes.find? (fun other => other.2.isPrefixOf (entry.2 ++ rest)) = some entry := by
    cases found : escapes.find? fun other => other.2.isPrefixOf (entry.2 ++ rest) with
    | none =>
      refine absurd ?_ (List.find?_eq_none.mp found entry known)
      exact List.isPrefixOf_iff_prefix.mpr (List.prefix_append _ _)
    | some other =>
      have known' := List.mem_of_find?_eq_some found
      have begins := List.find?_some found
      rw [List.isPrefixOf_iff_prefix] at begins
      rcases List.prefix_or_prefix_of_prefix begins (List.prefix_append entry.2 rest) with
        shorter | longer
      · rw [readable.apart other known' entry known shorter]
      · rw [readable.apart entry known other known' longer]
  rw [form, List.cons_append] at found ⊢
  rw [unescape, unescapeFrom, found]
  dsimp only
  rw [unescapeFrom_skip, form, List.length_cons, Nat.add_sub_cancel, List.drop_left]

/-- A unit without a form is read as it stands. -/
theorem Readable.unescape_plain (readable : Readable escapes)
    (plain : ∀ entry ∈ escapes, entry.1 ≠ unit) (rest : List α) :
    escapes.unescape (unit :: rest) = unit :: escapes.unescape rest := by
  have missing : escapes.find? (fun entry => entry.2.isPrefixOf (unit :: rest)) = none := by
    refine List.find?_eq_none.mpr fun entry known begins => ?_
    obtain ⟨first, head, other, known', same⟩ := readable.begins entry known
    obtain ⟨tail, form⟩ := List.head?_eq_some_iff.mp head
    rw [form, List.isPrefixOf_iff_prefix, List.cons_prefix_cons] at begins
    exact plain other known' (same.trans begins.1)
  rw [unescape, unescapeFrom, missing]
  rfl

/-- What was escaped is read back, also where it looked escaped before. -/
theorem Readable.unescape_escape (readable : Readable escapes) (text : List α) :
    escapes.unescape (escapes.escape text) = text := by
  induction text with
  | nil => rfl
  | cons unit text ih =>
    rw [escape_cons]
    rcases escapes.form_eq unit with known | ⟨alone, plain⟩
    · rw [readable.unescape_form known, ih]
    · rw [alone, List.singleton_append, readable.unescape_plain plain, ih]

end Escapes

end Script
