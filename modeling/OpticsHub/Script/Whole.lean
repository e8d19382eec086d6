import OpticsHub.Script.Coercion
import Mathlib.Tactic.Positivity

/-!
# Whole numbers as texts

An index leaves a program as the text of its digits and comes back through `Number`.
Below 2 ^ 53 it is the same number again: the double nearest to a whole number is the
number itself, and so is the shortest decimal that denotes it, since every decimal that
is tried is a whole number too.
-/
namespace Script

/-! ## Rounding -/

theorem roundEven_intCast (n : ℤ) : roundEven n = n := by
  simp [roundEven]

theorem roundEven_nonneg {q : ℚ} (nonneg : 0 ≤ q) : 0 ≤ roundEven q := by
  have floor : 0 ≤ ⌊q⌋ := Int.floor_nonneg.mpr nonneg
  rw [roundEven]
  split_ifs <;> omega

/-- A whole number of 53 bits is a double. -/
theorem roundDouble_natCast {n : ℕ} (small : n < 2 ^ 53) : roundDouble n = n := by
  have log : Nat.log 2 n < 53 := by
    by_cases zero : n = 0
    · rw [zero, Nat.log_zero_right]
      decide
    · exact (Nat.log_lt_iff_lt_pow (by decide) zero).mpr small
  obtain ⟨k, exponent⟩ : ∃ k : ℕ, max (Int.log 2 (n : ℚ) - 52) (-1074) = -(k : ℤ) := by
    rw [Int.log_natCast]
    exact ⟨(-max ((Nat.log 2 n : ℤ) - 52) (-1074)).toNat, by omega⟩
  have whole : (n : ℚ) / 2 ^ (-(k : ℤ)) = ((n * 2 ^ k : ℤ) : ℚ) := by
    rw [zpow_neg, div_inv_eq_mul, zpow_natCast]
    push_cast
    rfl
  simp only [roundDouble]
  rw [exponent, whole, roundEven_intCast, zpow_neg, zpow_natCast]
  push_cast
  field_simp

theorem floor_le_roundEven (q : ℚ) : ⌊q⌋ ≤ roundEven q := by
  rw [roundEven]
  split_ifs <;> omega

/-- A whole number of more than 53 bits is rounded to one of more than 53 bits. -/
theorem le_roundDouble {n : ℕ} (large : 2 ^ 53 ≤ n) : (2 : ℚ) ^ 53 ≤ roundDouble n := by
  have log : 53 ≤ Nat.log 2 n := Nat.le_log_of_pow_le (by decide) large
  obtain ⟨k, split⟩ : ∃ k, Nat.log 2 n = 52 + k := ⟨Nat.log 2 n - 52, by omega⟩
  have exponent : max (Int.log 2 (n : ℚ) - 52) (-1074) = (k : ℤ) := by
    rw [Int.log_natCast, split]
    omega
  have power : 2 ^ 52 * 2 ^ k ≤ n := by
    rw [← pow_add, ← split]
    exact Nat.pow_log_le_self 2 (by omega)
  have scaled : (2 : ℚ) ^ 52 ≤ n / 2 ^ k := by
    rw [le_div_iff₀ (by positivity)]
    exact_mod_cast power
  have rounded : (2 : ℤ) ^ 52 ≤ roundEven (n / 2 ^ k) :=
    (Int.le_floor.mpr (by exact_mod_cast scaled)).trans (floor_le_roundEven _)
  simp only [roundDouble]
  rw [exponent, zpow_natCast]
  calc (2 : ℚ) ^ 53 = 2 ^ 52 * 2 ^ 1 := by norm_num
    _ ≤ 2 ^ 52 * 2 ^ k := by
      gcongr
      · norm_num
      · omega
    _ ≤ roundEven (n / 2 ^ k) * 2 ^ k := by
      gcongr
      exact_mod_cast rounded

/-- Rounding to a whole number that keeps those that are whole, and the sign. -/
structure RoundsNear (round : ℚ → ℤ) : Prop where
  intCast : ∀ n : ℤ, round n = n
  nonneg : ∀ q, 0 ≤ q → 0 ≤ round q

theorem roundsNear_roundEven : RoundsNear roundEven :=
  ⟨roundEven_intCast, fun _ => roundEven_nonneg⟩

theorem roundsNear_ceil : RoundsNear Int.ceil :=
  ⟨Int.ceil_intCast, fun _ => Int.ceil_nonneg⟩

/-- A decimal that is tried for a whole number is a whole number. -/
theorem roundDecimal_natCast {round : ℚ → ℤ} (near : RoundsNear round) (n digits : ℕ) :
    ∃ m : ℕ, (roundDecimal round n digits).toRat = m ∧ (Nat.log 10 n < digits → m = n) := by
  rw [roundDecimal]
  simp only [Decimal.toRat_ofParts, Int.log_natCast]
  rcases Nat.lt_or_ge (Nat.log 10 n) digits with fine | coarse
  · obtain ⟨k, exponent⟩ : ∃ k : ℕ, (Nat.log 10 n : ℤ) + 1 - digits = -(k : ℤ) :=
      ⟨digits - (Nat.log 10 n + 1), by omega⟩
    have whole : (n : ℚ) / 10 ^ (-(k : ℤ)) = ((n * 10 ^ k : ℤ) : ℚ) := by
      rw [zpow_neg, div_inv_eq_mul, zpow_natCast]
      push_cast
      rfl
    refine ⟨n, ?_, fun _ => rfl⟩
    rw [exponent, whole, near.intCast, zpow_neg, zpow_natCast]
    push_cast
    field_simp
  · obtain ⟨k, exponent⟩ : ∃ k : ℕ, (Nat.log 10 n : ℤ) + 1 - digits = (k : ℤ) :=
      ⟨Nat.log 10 n + 1 - digits, by omega⟩
    obtain ⟨r, rounded⟩ := Int.eq_ofNat_of_zero_le
      (near.nonneg ((n : ℚ) / 10 ^ k) (by positivity))
    refine ⟨r * 10 ^ k, ?_, fun fine => by omega⟩
    rw [exponent, zpow_natCast, rounded]
    push_cast
    rfl

/-- The shortest decimal of a whole number is the number. -/
theorem shortest_natCast {n : ℕ} (positive : 0 < n) (small : n < 2 ^ 53) :
    shortest n = Decimal.ofInt n := by
  apply Decimal.toRat_injective
  rw [Decimal.toRat_ofInt, shortest]
  cases found : ((List.range 17).flatMap fun digits => [roundDecimal roundEven n (digits + 1),
      roundDecimal Int.ceil n (digits + 1)]).find? fun decimal =>
        decide (roundDouble decimal.toRat = n) with
  | none =>
    have log : Nat.log 10 n < 17 :=
      (Nat.log_lt_iff_lt_pow (by decide) positive.ne').mpr (by omega)
    obtain ⟨m, value, exact⟩ :=
      roundDecimal_natCast roundsNear_roundEven n 17
    rw [Option.getD_none, value, exact log]
    rfl
  | some decimal =>
    -- a decimal that denotes the number as a double has no more than 53 bits
    obtain ⟨digits, -, tried⟩ := List.mem_flatMap.mp (List.mem_of_find?_eq_some found)
    have denotes : roundDouble decimal.toRat = n := by simpa using List.find?_some found
    obtain ⟨m, value⟩ : ∃ m : ℕ, decimal.toRat = m := by
      rcases List.mem_pair.mp tried with rfl | rfl
      · obtain ⟨m, value, -⟩ :=
          roundDecimal_natCast roundsNear_roundEven n (digits + 1)
        exact ⟨m, value⟩
      · obtain ⟨m, value, -⟩ :=
          roundDecimal_natCast roundsNear_ceil n (digits + 1)
        exact ⟨m, value⟩
    rw [value] at denotes
    have small' : m < 2 ^ 53 := by
      by_contra large
      have above := le_roundDouble (not_lt.mp large)
      rw [denotes] at above
      exact absurd small (not_lt.mpr (by exact_mod_cast above))
    rw [roundDouble_natCast small'] at denotes
    rw [Option.getD_some, value, denotes]
    rfl

theorem Number.ofRat_natCast {n : ℕ} (positive : 0 < n) (small : n < 2 ^ 53) :
    Number.ofRat n = .finite (Decimal.ofInt n) := by
  have nonzero : (n : ℚ) ≠ 0 := Nat.cast_ne_zero.mpr positive.ne'
  have bounded : ¬ (2 : ℚ) ^ 1024 ≤ n := by
    have natural : (n : ℚ) < 2 ^ 53 := by exact_mod_cast small
    have larger : (2 : ℚ) ^ 53 ≤ 2 ^ 1024 := pow_le_pow_right₀ (by norm_num) (by decide)
    exact not_le.mpr (natural.trans_le larger)
  rw [Number.ofRat, if_neg nonzero, Nat.abs_cast, roundDouble_natCast (by omega), if_neg bounded]
  dsimp only
  rw [if_neg (by simp), shortest_natCast positive small]

/-! ## Reading digits -/

theorem isSpace_of_isDigit {unit : CodeUnit} (digit : CodeUnit.isDigit unit = true) :
    CodeUnit.isSpace unit = false := by
  simp only [CodeUnit.isDigit, CodeUnit.isSpace, Bool.and_eq_true, decide_eq_true_eq] at *
  simp only [UInt16.le_iff_toNat_le, ← UInt16.toNat_inj, Bool.or_eq_false_iff,
    Bool.and_eq_false_iff, decide_eq_false_iff_not, beq_eq_false_iff_ne, ne_eq] at *
  simp only [UInt16.reduceToNat] at *
  omega

theorem lower_of_isDigit {unit : CodeUnit} (digit : CodeUnit.isDigit unit = true) :
    unit.lower = unit := by
  rw [CodeUnit.lower, if_neg]
  simp only [CodeUnit.isDigit, CodeUnit.isUpper, Bool.and_eq_true, decide_eq_true_eq] at *
  simp only [UInt16.le_iff_toNat_le, UInt16.reduceToNat] at *
  omega

/-- There is no white space to take from a text without any. -/
theorem trim_of_visible {text : Text} (visible : ∀ unit ∈ text, CodeUnit.isSpace unit = false) :
    text.trim = text := by
  have none {text : Text} (visible : ∀ unit ∈ text, CodeUnit.isSpace unit = false) :
      text.dropWhile CodeUnit.isSpace = text := by
    cases text with
    | nil => rfl
    | cons unit rest =>
      rw [List.dropWhile_cons_of_neg]
      simp [visible unit List.mem_cons_self]
  have reversed : ∀ unit ∈ text.reverse, CodeUnit.isSpace unit = false :=
    fun unit inside => visible unit (List.mem_reverse.mp inside)
  rw [Text.trim, none visible, none reversed, List.reverse_reverse]

theorem trim_digits {digits : Text} (all : ∀ unit ∈ digits, CodeUnit.isDigit unit = true) :
    digits.trim = digits :=
  trim_of_visible fun unit inside => isSpace_of_isDigit (all unit inside)

theorem readDecimal_digits {digits : Text} (some : digits ≠ [])
    (all : ∀ unit ∈ digits, CodeUnit.isDigit unit = true) :
    readDecimal digits = Option.some (decimalValue digits : ℚ) := by
  have span : digits.span CodeUnit.isDigit = (digits, []) := by
    rw [List.span_eq_takeWhile_dropWhile, List.takeWhile_eq_self_iff.mpr all,
      List.dropWhile_eq_nil_iff.mpr all]
  rw [readDecimal, span]
  simp [readExponent, some]

/-- Digits denote the double nearest to their decimal value: no prefix of another base stands
before them. -/
theorem toNumber_digits {digits : Text} (some : digits ≠ [])
    (all : ∀ unit ∈ digits, CodeUnit.isDigit unit = true) :
    digits.toNumber = Number.ofRat (decimalValue digits) := by
  have read := readDecimal_digits some all
  obtain ⟨first, rest, rfl⟩ := List.exists_cons_of_ne_nil some
  rw [Text.toNumber, trim_digits all]
  have differs {unit other : CodeUnit} (digit : CodeUnit.isDigit unit = true)
      (foreign : CodeUnit.isDigit other = false) : unit ≠ other := by
    rintro rfl
    exact absurd (digit.symm.trans foreign) (by decide)
  have head := all first List.mem_cons_self
  have unsigned : (first == CodeUnit.plus || first == CodeUnit.minus) = false := by
    rw [beq_eq_false_iff_ne.mpr (differs head (by decide)),
      beq_eq_false_iff_ne.mpr (differs head (by decide)), Bool.or_self]
  have word : first :: rest ≠ Text.ofString "Infinity" := by
    intro same
    have letter : first = 0x49 := (List.cons.inj same).1
    exact differs head (by decide) letter
  dsimp only
  rw [unsigned, if_neg (by decide), if_neg word]
  have literal : ∀ prefixUnit ∈ rest.head?, (prefixUnit.lower == 0x78) = false ∧
      (prefixUnit.lower == 0x6F) = false ∧ (prefixUnit.lower == 0x62) = false := by
    intro prefixUnit second
    have digit := all prefixUnit (List.mem_cons_of_mem _ (List.mem_of_mem_head? second))
    rw [lower_of_isDigit digit]
    exact ⟨beq_eq_false_iff_ne.mpr (differs digit (by decide)),
      beq_eq_false_iff_ne.mpr (differs digit (by decide)),
      beq_eq_false_iff_ne.mpr (differs digit (by decide))⟩
  cases rest with
  | nil => cases first == CodeUnit.zero <;> simp only [read]
  | cons prefixUnit units =>
    obtain ⟨hex, octal, binary⟩ := literal prefixUnit rfl
    cases first == CodeUnit.zero <;>
      simp only [hex, octal, binary, Bool.false_eq_true, if_false, read]

/-- The text of a whole number is read back as the number. -/
theorem toNumber_decimalText {n : ℕ} (positive : 0 < n) (small : n < 2 ^ 53) :
    (decimalText n).toNumber = .finite (Decimal.ofInt n) := by
  rw [toNumber_digits (decimalText_ne_nil n) (decimalText_digits n), decimalValue_decimalText]
  exact Number.ofRat_natCast positive small

theorem toInteger?_decimalText {n : ℕ} (positive : 0 < n) (small : n < 2 ^ 53) :
    (decimalText n).toNumber.toInteger? = some (n : ℤ) := by
  rw [toNumber_decimalText positive small]
  exact Decimal.toInt?_ofInt n

end Script
