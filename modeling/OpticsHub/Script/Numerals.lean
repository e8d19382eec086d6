import OpticsHub.Script.Parse
import OpticsHub.Script.Whole
import Mathlib.Data.Nat.Digits.Lemmas

/-!
# Numbers read back from their texts

The text of a number is a sign, an integral part, an optional fraction and an optional power of
ten. Both readers of numbers, the one of the language and the one of JSON, take exactly these
parts, and what they denote is the number that was written, before it is rounded to a double.
-/
namespace Script

open Spelling

/-- A run of units of one class is split from a text that does not go on with one. -/
theorem span_run {inClass : CodeUnit → Bool} {run rest : Text}
    (all : ∀ unit ∈ run, inClass unit = true) (ends : Delimited inClass rest) :
    (run ++ rest).span inClass = (run, rest) := by
  have stops : rest.takeWhile inClass = [] ∧ rest.dropWhile inClass = rest := by
    cases rest with
    | nil => exact ⟨rfl, rfl⟩
    | cons unit tail =>
      have outside : inClass unit = false := ends unit rfl
      exact ⟨List.takeWhile_cons_of_neg (by simp [outside]),
        List.dropWhile_cons_of_neg (by simp [outside])⟩
  rw [List.span_eq_takeWhile_dropWhile, List.takeWhile_append_of_pos all,
    List.dropWhile_append_of_pos all, stops.1, stops.2, List.append_nil]

theorem isSpace_of_isNumberUnit {unit : CodeUnit} (written : isNumberUnit unit = true) :
    CodeUnit.isSpace unit = false := by
  simp only [isNumberUnit, CodeUnit.isDigit, CodeUnit.point, CodeUnit.lowerE, CodeUnit.minus,
    CodeUnit.plus, CodeUnit.isSpace, Bool.and_eq_true, Bool.or_eq_true, decide_eq_true_eq,
    beq_iff_eq] at *
  simp only [UInt16.le_iff_toNat_le, ← UInt16.toNat_inj, Bool.or_eq_false_iff,
    Bool.and_eq_false_iff, decide_eq_false_iff_not, beq_eq_false_iff_ne, ne_eq] at *
  simp only [UInt16.reduceToNat] at *
  omega

/-! ## The reader of the language -/

/-- A power is read back with its sign. -/
theorem readExponent_powerText (power : Option ℤ) :
    readExponent (powerText power) = some (power.getD 0) := by
  cases power with
  | none => rfl
  | some power =>
    have digits := decimalText_digits power.natAbs
    have nonempty : (decimalText power.natAbs).isEmpty = false := by
      rw [List.isEmpty_eq_false_iff]
      exact decimalText_ne_nil _
    have all : (decimalText power.natAbs).all CodeUnit.isDigit = true :=
      List.all_eq_true.mpr digits
    have letter : (CodeUnit.lowerE.lower == CodeUnit.lowerE) = true := by decide
    rw [powerText, readExponent, if_pos letter]
    by_cases negative : power < 0
    · rw [if_pos negative]
      simp only [List.head?_cons, beq_self_eq_true, Bool.true_or, if_true, List.tail_cons,
        nonempty, all, Bool.not_true, Bool.or_self, Bool.false_eq_true, if_false,
        decimalValue_decimalText, Option.getD_some]
      congr 1
      omega
    · have sign : (some CodeUnit.plus == some CodeUnit.minus) = false := by decide
      rw [if_neg negative]
      simp only [List.head?_cons, sign, beq_self_eq_true, Bool.or_true, if_true, List.tail_cons,
        nonempty, all, Bool.not_true, Bool.or_self, Bool.false_eq_true, if_false,
        decimalValue_decimalText, Option.getD_some]
      congr 1
      omega

/-- The parts of a text denote what was laid out. -/
theorem readDecimal_text {spelling : Spelling} (formed : spelling.WellFormed) :
    readDecimal spelling.text = some spelling.value := by
  obtain ⟨integral, fraction, power⟩ := spelling
  have nonempty : integral.isEmpty = false := by
    rw [List.isEmpty_eq_false_iff]
    exact formed.integral_ne_nil
  have whole := span_run formed.integral_digits (fractionText_delimited fraction power)
  rw [Spelling.text, readDecimal, whole]
  dsimp only
  cases fraction with
  | none =>
    have noPoint : ((powerText power).head? == some CodeUnit.point) = false := by
      cases power <;> rfl
    simp [fractionText, noPoint, nonempty, readExponent_powerText, Spelling.value]
  | some digits =>
    have part := span_run formed.fraction_digits (powerText_delimited power)
    simp only [Option.getD_some] at part
    simp only [fractionText, List.cons_append, List.head?_cons, beq_self_eq_true, if_true,
      List.tail_cons, part, nonempty, Bool.false_and, Bool.false_eq_true, if_false,
      readExponent_powerText, Option.map_some, Spelling.value, Option.getD_some]

/-- The text of a magnitude denotes it. -/
theorem readDecimal_spell (digits : ℕ) (exponent : ℤ) :
    readDecimal (spell digits exponent).text = some ((digits : ℚ) * 10 ^ exponent) := by
  rw [readDecimal_text (spell_wellFormed digits exponent), spell_value]

theorem isDigit_ne {unit other : CodeUnit} (digit : CodeUnit.isDigit unit = true)
    (foreign : CodeUnit.isDigit other = false) : unit ≠ other := by
  rintro rfl
  exact absurd (digit.symm.trans foreign) (by decide)

/-- No prefix of another base stands in the text of a number. -/
theorem lower_of_isNumberUnit {unit : CodeUnit} (written : isNumberUnit unit = true) :
    unit.lower ≠ 0x78 ∧ unit.lower ≠ 0x6F ∧ unit.lower ≠ 0x62 := by
  have small : unit.lower = unit := by
    rw [CodeUnit.lower, if_neg]
    simp only [isNumberUnit, CodeUnit.isDigit, CodeUnit.point, CodeUnit.lowerE, CodeUnit.minus,
      CodeUnit.plus, CodeUnit.isUpper, Bool.and_eq_true, Bool.or_eq_true, decide_eq_true_eq,
      beq_iff_eq, UInt16.le_iff_toNat_le, ← UInt16.toNat_inj] at *
    simp only [UInt16.reduceToNat] at *
    omega
  rw [small]
  refine ⟨?_, ?_, ?_⟩ <;>
  · rintro rfl
    exact absurd written (by decide)

/-- `Number` reads the text of a number as the double nearest to it. -/
theorem toNumber_text (decimal : Decimal) :
    decimal.text.toNumber = Number.ofRat decimal.toRat := by
  have units := decimal.text_isNumberUnit
  have trimmed := trim_of_visible fun unit inside => isSpace_of_isNumberUnit (units unit inside)
  have read := readDecimal_spell decimal.mantissa.natAbs decimal.exponent
  have value : decimal.toRat = (if decimal.mantissa < 0 then -1 else 1) *
      ((decimal.mantissa.natAbs : ℚ) * 10 ^ decimal.exponent) := by
    rw [Decimal.toRat, decimal.mantissa_cast, mul_assoc]
  rw [Text.toNumber, trimmed]
  unfold Decimal.text at units ⊢
  dsimp only at units ⊢
  obtain ⟨first, rest, starts, digit⟩ :=
    spell_text_head decimal.mantissa.natAbs decimal.exponent
  have word : first ≠ 0x49 := isDigit_ne digit (by decide)
  rw [starts] at read units ⊢
  by_cases negative : decimal.mantissa < 0
  · have name : ¬ first :: rest = Text.ofString "Infinity" := fun same =>
      word (List.cons.inj same).1
    rw [if_pos negative, neg_one_mul] at value
    rw [if_pos negative]
    simp only [beq_self_eq_true, Bool.or_true, if_true, if_neg name, read, value]
  · have name : ¬ first :: rest = Text.ofString "Infinity" := fun same =>
      word (List.cons.inj same).1
    have unsigned : (first == CodeUnit.plus || first == CodeUnit.minus) = false := by
      rw [beq_eq_false_iff_ne.mpr (isDigit_ne digit (by decide)),
        beq_eq_false_iff_ne.mpr (isDigit_ne digit (by decide)), Bool.or_self]
    rw [if_neg negative] at value units ⊢
    rw [one_mul] at value
    simp only [unsigned, Bool.false_eq_true, if_false, if_neg name]
    cases rest with
    | nil => cases first == CodeUnit.zero <;> simp only [read, value]
    | cons second tail =>
      obtain ⟨hex, octal, binary⟩ := lower_of_isNumberUnit
        (units second (List.mem_cons_of_mem _ List.mem_cons_self))
      cases first == CodeUnit.zero <;>
        simp only [beq_eq_false_iff_ne.mpr hex, beq_eq_false_iff_ne.mpr octal,
          beq_eq_false_iff_ne.mpr binary, Bool.false_eq_true, if_false, read, value]

/-! ## The reader of JSON -/

/-- A text that ends a value: it is empty, or goes on with a comma or a closing bracket. -/
def Closes (rest : Text) : Prop :=
  ∀ unit ∈ rest.head?,
    unit = CodeUnit.comma ∨ unit = CodeUnit.closeBracket ∨ unit = CodeUnit.closeBrace

theorem Closes.delimited {rest : Text} (closes : Closes rest) :
    Delimited CodeUnit.isDigit rest := by
  intro unit first
  rcases closes unit first with rfl | rfl | rfl <;> rfl

theorem decimalText_head {n : ℕ} (positive : n ≠ 0) :
    (decimalText n).head? ≠ some CodeUnit.zero := by
  have digits : Nat.digits 10 n ≠ [] := Nat.digits_ne_nil_iff_ne_zero.mpr positive
  have last := Nat.getLast_digit_ne_zero 10 positive
  have small : (Nat.digits 10 n).getLast digits < 10 :=
    Nat.digits_lt_base (by decide) (List.getLast_mem digits)
  rw [decimalText, if_neg positive, List.head?_map, List.head?_reverse,
    List.getLast?_eq_some_getLast digits, Option.map_some]
  intro same
  have value := congrArg digitValue (Option.some.inj same)
  rw [digitValue_digitUnit small] at value
  exact last value

/-- What is written begins with a zero only if nothing else stands before the point, and with a
point some digit follows. -/
structure Spelling.Literal (spelling : Spelling) : Prop where
  formed : spelling.WellFormed
  leading : spelling.integral.head? = some CodeUnit.zero → spelling.integral.length = 1
  fraction_ne_nil : spelling.fraction ≠ some []

theorem spell_literal {digits : ℕ} {exponent : ℤ} (normal : digits = 0 → exponent = 0) :
    (spell digits exponent).Literal := by
  by_cases zero : digits = 0
  · rw [zero, normal zero]
    exact ⟨spell_wellFormed 0 0, by decide, by decide⟩
  have head := decimalText_head zero
  have nonempty := decimalText_ne_nil digits
  have some := List.length_pos_of_ne_nil nonempty
  refine ⟨spell_wellFormed digits exponent, ?_, ?_⟩
  · unfold spell
    dsimp only
    split
    · split
      · intro leading
        rw [List.head?_append_of_ne_nil _ nonempty] at leading
        exact absurd leading head
      · split
        · intro leading
          rw [List.head?_take, if_neg (by omega)] at leading
          exact absurd leading head
        · exact fun _ => rfl
    · split
      · rename_i single
        exact fun _ => by exact_mod_cast single
      · intro _
        rw [List.length_take]
        omega
  · unfold spell
    dsimp only
    split
    · split
      · simp
      · split
        · rename_i below inside
          intro same
          rw [Option.some.injEq, List.drop_eq_nil_iff] at same
          omega
        · simp [nonempty]
    · split
      · simp
      · rename_i several
        intro same
        rw [Option.some.injEq, List.drop_eq_nil_iff] at same
        omega

namespace Json

theorem parseDigits_append {digits rest : Text} (some : digits ≠ [])
    (all : ∀ unit ∈ digits, CodeUnit.isDigit unit = true)
    (ends : Delimited CodeUnit.isDigit rest) :
    parseDigits (digits ++ rest) = Option.some (digits, rest) := by
  have nonempty : digits.isEmpty = false := by
    rw [List.isEmpty_eq_false_iff]
    exact some
  rw [parseDigits, span_run all ends]
  simp only [nonempty, Bool.false_eq_true, if_false]

/-- The parts of a literal are taken one after another, and nothing else. -/
theorem parseNumber_parts {spelling : Spelling} (literal : spelling.Literal) {text sign rest : Text}
    (split : (if text.head? = some CodeUnit.minus then ([CodeUnit.minus], text.tail)
      else ([], text)) = (sign, spelling.text ++ rest)) (closes : Closes rest) :
    parseNumber text = some (Text.toNumber (sign ++ spelling.text), rest) := by
  obtain ⟨integral, fraction, power⟩ := spelling
  obtain ⟨formed, leading, fraction_ne_nil⟩ := literal
  have lead : ¬ (integral.head? = some CodeUnit.zero ∧ integral.length ≠ 1) :=
    fun both => both.2 (leading both.1)
  have tail : Delimited CodeUnit.isDigit (fractionText fraction ++ (powerText power ++ rest)) := by
    cases fraction with
    | some digits => simp [Delimited, fractionText, CodeUnit.isDigit, CodeUnit.point]
    | none =>
      cases power with
      | some power => simp [Delimited, fractionText, powerText, CodeUnit.isDigit, CodeUnit.lowerE]
      | none => exact closes.delimited
  have whole := parseDigits_append formed.integral_ne_nil formed.integral_digits tail
  have body : Spelling.text ⟨integral, fraction, power⟩ ++ rest =
      integral ++ (fractionText fraction ++ (powerText power ++ rest)) := by
    simp only [Spelling.text, List.append_assoc]
  unfold parseNumber
  rw [split, body]
  dsimp only
  rw [Option.bind_eq_bind, whole, Option.bind_some]
  dsimp only
  rw [if_neg lead]
  have noPoint : fraction = none → (powerText power ++ rest).head? ≠ some CodeUnit.point := by
    rintro -
    cases power with
    | some power => simp [powerText, CodeUnit.lowerE, CodeUnit.point]
    | none =>
      intro point
      rcases closes _ point with same | same | same <;> exact absurd same (by decide)
  have part : ∀ digits, fraction = some digits →
      parseDigits (digits ++ (powerText power ++ rest)) =
        some (digits, powerText power ++ rest) := by
    rintro digits rfl
    refine parseDigits_append (fun empty => fraction_ne_nil (by rw [empty]))
      formed.fraction_digits ?_
    cases power with
    | some power => simp [Delimited, powerText, CodeUnit.isDigit, CodeUnit.lowerE]
    | none => exact closes.delimited
  cases power with
  | none =>
    have foreign : ∀ unit others, rest = unit :: others → ¬ unit.lower = CodeUnit.lowerE := by
      rintro unit others rfl
      rcases closes unit rfl with rfl | rfl | rfl <;> decide
    simp only [powerText, List.nil_append] at noPoint part ⊢
    cases fraction with
    | none =>
      simp only [fractionText, List.nil_append, if_neg (noPoint rfl), Option.pure_def,
        Option.bind_some, Spelling.text, powerText]
      cases rest with
      | nil => rfl
      | cons unit others =>
        dsimp only
        rw [if_neg (foreign unit others rfl)]
    | some digits =>
      simp only [fractionText, List.cons_append, List.head?_cons, if_true, List.tail_cons,
        part digits rfl, Option.pure_def, Option.bind_some, Spelling.text, powerText]
      cases rest with
      | nil => rfl
      | cons unit others =>
        dsimp only
        rw [if_neg (foreign unit others rfl)]
  | some power =>
    have digits := parseDigits_append (decimalText_ne_nil power.natAbs)
      (decimalText_digits power.natAbs) closes.delimited
    have letter : CodeUnit.lowerE.lower = CodeUnit.lowerE := by decide
    obtain ⟨mark, marked, signed⟩ : ∃ mark, powerText (some power) =
        CodeUnit.lowerE :: mark :: decimalText power.natAbs ∧
          (some mark = some CodeUnit.plus ∨ some mark = some CodeUnit.minus) := by
      refine ⟨_, rfl, ?_⟩
      split
      · exact .inr rfl
      · exact .inl rfl
    have plain : ¬ some CodeUnit.lowerE = some CodeUnit.point := by decide
    rw [marked] at part ⊢
    simp only [List.cons_append] at part ⊢
    cases fraction with
    | none =>
      simp only [fractionText, List.nil_append, List.head?_cons, plain, if_false, Option.pure_def,
        Option.bind_some, Spelling.text, marked, letter, if_true, signed, List.tail_cons, digits,
        List.take_succ_cons, List.take_zero, List.cons_append]
    | some fraction =>
      simp only [fractionText, List.cons_append, List.head?_cons, if_true, List.tail_cons,
        part fraction rfl, Option.pure_def, Option.bind_some, Spelling.text, marked, letter,
        signed, digits, List.take_succ_cons, List.take_zero, List.nil_append]

/-- The text of a number is read as the double nearest to it. -/
theorem parseNumber_text (decimal : Decimal) {rest : Text} (closes : Closes rest) :
    parseNumber (decimal.text ++ rest) = some (Number.ofRat decimal.toRat, rest) := by
  have literal : (spell decimal.mantissa.natAbs decimal.exponent).Literal := by
    refine spell_literal fun zero => ?_
    have normal := decimal.normal
    rwa [if_pos (Int.natAbs_eq_zero.mp zero)] at normal
  rw [← toNumber_text, Decimal.text]
  by_cases negative : decimal.mantissa < 0
  · rw [if_pos negative]
    exact @parseNumber_parts _ literal _ [CodeUnit.minus] rest (by simp) closes
  · obtain ⟨first, others, starts, digit⟩ :=
      spell_text_head decimal.mantissa.natAbs decimal.exponent
    have unsigned : ((spell decimal.mantissa.natAbs decimal.exponent).text ++ rest).head? ≠
        some CodeUnit.minus := by
      rw [starts]
      exact fun same => isDigit_ne digit (by decide) (Option.some.inj same)
    rw [if_neg negative]
    exact @parseNumber_parts _ literal _ [] rest (if_neg unsigned) closes

end Json

end Script
