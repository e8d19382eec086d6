import OpticsHub.Script.Text
import Mathlib.Algebra.Order.Field.Rat
import Mathlib.Algebra.Order.Field.Power
import Mathlib.Tactic.FieldSimp
import Mathlib.Tactic.Linarith

/-!
# JavaScript numbers and their decimal text

A finite number is represented by the shortest decimal that denotes it, which is
what `Number::toString` computes first and what determines the double. The
mantissa carries no trailing zero, so two finite numbers are equal exactly when
their decimals are. Positive and negative zero are one value here, as they are
under `===` and in their text. Differences of two numbers are taken exactly; for
clock readings in milliseconds the double difference is exact as well.

`String(x)` lays the digits out in one of the four shapes the language
prescribes. Every shape is an integral part, an optional fraction and an optional
power of ten; the parts are recovered from the text, the value is recovered from
the parts, and so the text determines the number.
-/
namespace Script

/-- A finite number as the shortest decimal denoting it. -/
structure Decimal where
  mantissa : ℤ
  exponent : ℤ
  normal : if mantissa = 0 then exponent = 0 else mantissa % 10 ≠ 0
  deriving DecidableEq

/-- A value of type `number`. -/
inductive Number where
  | finite (decimal : Decimal)
  | nan
  | infinity (negative : Bool)
  deriving DecidableEq

namespace Decimal

/-- The rational number a decimal denotes. -/
def toRat (d : Decimal) : ℚ := d.mantissa * 10 ^ d.exponent

theorem ext_of_parts {d d' : Decimal} (mantissas : d.mantissa = d'.mantissa)
    (exponents : d.exponent = d'.exponent) : d = d' := by
  cases d
  cases d'
  simp_all

/-- Of two decimals with one value, the one with the smaller exponent cannot have
traded a factor ten for it: that factor would be a trailing zero. -/
theorem exponent_eq_of_le {d d' : Decimal} (order : d.exponent ≤ d'.exponent)
    (same : d.toRat = d'.toRat) : d.exponent = d'.exponent ∧ d.mantissa = d'.mantissa := by
  obtain ⟨k, gap⟩ := Int.eq_ofNat_of_zero_le (sub_nonneg.mpr order)
  have raised : d'.exponent = d.exponent + k := by omega
  have mantissas : d.mantissa = d'.mantissa * 10 ^ k := by
    have power : (10 : ℚ) ^ d.exponent ≠ 0 := zpow_ne_zero _ (by norm_num)
    have scaled : (d.mantissa : ℚ) * 10 ^ d.exponent
        = (d'.mantissa * 10 ^ k) * 10 ^ d.exponent := by
      calc (d.mantissa : ℚ) * 10 ^ d.exponent = d'.mantissa * 10 ^ (d.exponent + k) := by
            rw [← raised]
            exact same
        _ = (d'.mantissa * 10 ^ k) * 10 ^ d.exponent := by
            rw [zpow_add₀ (by norm_num), zpow_natCast]
            ring
    exact_mod_cast mul_right_cancel₀ power scaled
  cases k with
  | zero => exact ⟨by simpa using raised.symm, by simpa using mantissas⟩
  | succ k =>
    have trailing : d.mantissa % 10 = 0 := by
      rw [mantissas, pow_succ, ← mul_assoc]
      exact Int.mul_emod_left _ _
    have normal := d.normal
    split at normal
    · rename_i zero
      have other : d'.mantissa = 0 := by
        rw [zero] at mantissas
        rcases mul_eq_zero.mp mantissas.symm with none | power
        · exact none
        · exact absurd power (by positivity)
      have normal' := d'.normal
      rw [if_pos other] at normal'
      exact ⟨normal.trans normal'.symm, zero.trans other.symm⟩
    · exact absurd trailing normal

theorem toRat_injective : Function.Injective toRat := by
  intro d d' same
  rcases le_total d.exponent d'.exponent with order | order
  · obtain ⟨exponents, mantissas⟩ := exponent_eq_of_le order same
    exact ext_of_parts mantissas exponents
  · obtain ⟨exponents, mantissas⟩ := exponent_eq_of_le order same.symm
    exact ext_of_parts mantissas.symm exponents.symm

/-- Move factors of ten from the mantissa to the exponent, at most `fuel` of them. -/
def shiftZeros : ℕ → ℤ → ℤ → ℤ × ℤ
  | 0, mantissa, exponent => (mantissa, exponent)
  | fuel + 1, mantissa, exponent =>
    if mantissa % 10 = 0 then shiftZeros fuel (mantissa / 10) (exponent + 1)
    else (mantissa, exponent)

/-- With as much fuel as the number has digits, no trailing zero is left. -/
theorem shiftZeros_normal {fuel : ℕ} {mantissa exponent : ℤ} (nonzero : mantissa ≠ 0)
    (enough : mantissa.natAbs < 10 ^ fuel) :
    (shiftZeros fuel mantissa exponent).1 % 10 ≠ 0 := by
  induction fuel generalizing mantissa exponent with
  | zero => omega
  | succ fuel ih =>
    rw [shiftZeros]
    split
    · apply ih
      · omega
      · rw [pow_succ] at enough
        omega
    · assumption

theorem shiftZeros_value (fuel : ℕ) (mantissa exponent : ℤ) :
    ((shiftZeros fuel mantissa exponent).1 : ℚ) * 10 ^ (shiftZeros fuel mantissa exponent).2 =
      mantissa * 10 ^ exponent := by
  induction fuel generalizing mantissa exponent with
  | zero => rfl
  | succ fuel ih =>
    rw [shiftZeros]
    split
    · rename_i trailing
      have whole : mantissa = mantissa / 10 * 10 := by omega
      rw [ih, zpow_add₀ (by norm_num), zpow_one]
      conv_rhs => rw [whole]
      push_cast
      ring
    · rfl

/-- The number that a mantissa and a power of ten denote. -/
def ofParts (mantissa exponent : ℤ) : Decimal :=
  if nonzero : mantissa = 0 then ⟨0, 0, by simp⟩
  else
    ⟨(shiftZeros (Nat.digits 10 mantissa.natAbs).length mantissa exponent).1,
      (shiftZeros (Nat.digits 10 mantissa.natAbs).length mantissa exponent).2, by
        have normal :
            (shiftZeros (Nat.digits 10 mantissa.natAbs).length mantissa exponent).1 % 10 ≠ 0 :=
          shiftZeros_normal nonzero (Nat.lt_base_pow_length_digits (by decide))
        rw [if_neg]
        · exact normal
        · intro zero
          rw [zero] at normal
          exact normal rfl⟩

/-- The number an integer denotes. -/
def ofInt (n : ℤ) : Decimal := ofParts n 0

@[simp]
theorem toRat_ofParts (mantissa exponent : ℤ) :
    (ofParts mantissa exponent).toRat = mantissa * 10 ^ exponent := by
  rw [ofParts]
  split
  · rename_i zero
    simp [toRat, zero]
  · exact shiftZeros_value _ mantissa exponent

@[simp]
theorem toRat_ofInt (n : ℤ) : (ofInt n).toRat = n := by
  rw [ofInt, toRat_ofParts, zpow_zero, mul_one]

theorem ofInt_injective : Function.Injective ofInt := by
  intro m n same
  have values := congrArg toRat same
  rw [toRat_ofInt, toRat_ofInt] at values
  exact_mod_cast values

/-- The integer a decimal denotes, when it denotes one. -/
def toInt? (d : Decimal) : Option ℤ :=
  if 0 ≤ d.exponent then some (d.mantissa * 10 ^ d.exponent.toNat) else none

theorem toRat_of_toInt? {d : Decimal} {n : ℤ} (whole : d.toInt? = some n) : d.toRat = n := by
  unfold toInt? at whole
  split at whole
  · rename_i nonnegative
    obtain ⟨k, power⟩ := Int.eq_ofNat_of_zero_le nonnegative
    rw [Option.some.injEq, power, Int.toNat_natCast] at whole
    rw [toRat, power, zpow_natCast, ← whole]
    push_cast
    rfl
  · cases whole

theorem toInt?_ofInt (n : ℤ) : (ofInt n).toInt? = some n := by
  have nonnegative : ∀ fuel mantissa (exponent : ℤ), 0 ≤ exponent →
      0 ≤ (shiftZeros fuel mantissa exponent).2 := by
    intro fuel
    induction fuel with
    | zero => exact fun _ _ start => start
    | succ fuel ih =>
      intro mantissa exponent start
      rw [shiftZeros]
      split
      · exact ih _ _ (by omega)
      · exact start
  have whole : 0 ≤ (ofInt n).exponent := by
    rw [ofInt, ofParts]
    split
    · exact le_refl 0
    · exact nonnegative _ _ 0 (le_refl 0)
  rw [toInt?, if_pos whole, Option.some.injEq]
  have value := toRat_ofInt n
  rw [toRat] at value
  obtain ⟨k, power⟩ := Int.eq_ofNat_of_zero_le whole
  rw [power, zpow_natCast] at value
  rw [power]
  exact_mod_cast value

end Decimal

/-! ## The parts of a number's text -/

/-- The layout of a positive number: digits, digits after a point, a power of ten. -/
structure Spelling where
  integral : Text
  fraction : Option Text
  power : Option ℤ

namespace Spelling

/-- The fraction with its point, absent when there is none. -/
def fractionText : Option Text → Text
  | none => []
  | some digits => CodeUnit.point :: digits

/-- The power with its sign, which is always written. -/
def powerText : Option ℤ → Text
  | none => []
  | some power =>
    CodeUnit.lowerE :: (if power < 0 then CodeUnit.minus else CodeUnit.plus) ::
      decimalText power.natAbs

def text (spelling : Spelling) : Text :=
  spelling.integral ++ (fractionText spelling.fraction ++ powerText spelling.power)

/-- The number the parts denote: the digits as one integer, shifted left by the
power and right by the length of the fraction. -/
def value (spelling : Spelling) : ℚ :=
  decimalValue (spelling.integral ++ spelling.fraction.getD []) *
    10 ^ (spelling.power.getD 0 - (spelling.fraction.getD []).length)

/-- Only digits stand in the integral part and in the fraction. -/
structure WellFormed (spelling : Spelling) : Prop where
  integral_ne_nil : spelling.integral ≠ []
  integral_digits : ∀ unit ∈ spelling.integral, CodeUnit.isDigit unit = true
  fraction_digits : ∀ unit ∈ spelling.fraction.getD [], CodeUnit.isDigit unit = true

theorem powerText_delimited (power : Option ℤ) :
    Delimited CodeUnit.isDigit (powerText power) := by
  cases power <;> simp [Delimited, powerText, CodeUnit.isDigit, CodeUnit.lowerE]

theorem fractionText_delimited (fraction : Option Text) (power : Option ℤ) :
    Delimited CodeUnit.isDigit (fractionText fraction ++ powerText power) := by
  cases fraction with
  | none => exact powerText_delimited power
  | some digits => simp [Delimited, fractionText, CodeUnit.isDigit, CodeUnit.point]

theorem powerText_injective : Function.Injective powerText := by
  intro power power' same
  cases power with
  | none =>
    cases power' with
    | none => rfl
    | some _ => simp [powerText] at same
  | some power =>
    cases power' with
    | none => simp [powerText] at same
    | some power' =>
      simp only [powerText, List.cons.injEq, true_and] at same
      have magnitudes : power.natAbs = power'.natAbs := decimalText_injective same.2
      have signs : power < 0 ↔ power' < 0 := by
        have sign := same.1
        split at sign <;> split at sign
        all_goals first | contradiction | (constructor <;> intro <;> omega)
      rw [Option.some.injEq]
      omega

/-- The fraction is present in both texts or in neither, and is then the same. -/
theorem tail_injective {fraction fraction' : Option Text} {power power' : Option ℤ}
    (digits : ∀ unit ∈ fraction.getD [], CodeUnit.isDigit unit = true)
    (digits' : ∀ unit ∈ fraction'.getD [], CodeUnit.isDigit unit = true)
    (same : fractionText fraction ++ powerText power =
      fractionText fraction' ++ powerText power') :
    fraction = fraction' ∧ power = power' := by
  have noPoint : ∀ (power : Option ℤ) (rest : Text),
      powerText power ≠ CodeUnit.point :: rest := by
    intro power rest
    cases power <;> simp [powerText, CodeUnit.lowerE, CodeUnit.point]
  cases fraction with
  | none =>
    cases fraction' with
    | none => exact ⟨rfl, powerText_injective same⟩
    | some _ => exact absurd same (noPoint power _)
  | some left =>
    cases fraction' with
    | none => exact absurd same.symm (noPoint power' _)
    | some right =>
      have rest := (List.cons.inj same).2
      obtain ⟨fractions, powers⟩ := run_append_cancel digits digits'
        (powerText_delimited power) (powerText_delimited power') rest
      exact ⟨congrArg some fractions, powerText_injective powers⟩

theorem text_injective {left right : Spelling} (formed : left.WellFormed)
    (formed' : right.WellFormed) (same : left.text = right.text) : left = right := by
  obtain ⟨integrals, tails⟩ := run_append_cancel formed.integral_digits formed'.integral_digits
    (fractionText_delimited _ _) (fractionText_delimited _ _) same
  obtain ⟨fractions, powers⟩ :=
    tail_injective formed.fraction_digits formed'.fraction_digits tails
  cases left
  cases right
  simp_all

/-- The units a number's text is made of. -/
def isNumberUnit (unit : CodeUnit) : Bool :=
  CodeUnit.isDigit unit || unit == CodeUnit.point || unit == CodeUnit.lowerE ||
    unit == CodeUnit.minus || unit == CodeUnit.plus

theorem isNumberUnit_of_isDigit {unit : CodeUnit} (digit : CodeUnit.isDigit unit = true) :
    isNumberUnit unit = true := by
  simp [isNumberUnit, digit]

theorem text_isNumberUnit {spelling : Spelling} (formed : spelling.WellFormed) :
    ∀ unit ∈ spelling.text, isNumberUnit unit = true := by
  intro unit written
  rcases List.mem_append.mp written with whole | tail
  · exact isNumberUnit_of_isDigit (formed.integral_digits unit whole)
  rcases List.mem_append.mp tail with part | power
  · cases fraction : spelling.fraction with
    | none => simp [fraction, fractionText] at part
    | some digits =>
      rw [fraction] at part
      rcases List.mem_cons.mp part with rfl | inside
      · rfl
      · exact isNumberUnit_of_isDigit (formed.fraction_digits unit (by simpa [fraction] using inside))
  · cases exponent : spelling.power with
    | none => simp [exponent, powerText] at power
    | some exponent' =>
      rw [exponent] at power
      rcases List.mem_cons.mp power with rfl | power
      · rfl
      rcases List.mem_cons.mp power with rfl | digits
      · split <;> rfl
      · exact isNumberUnit_of_isDigit (decimalText_digits _ unit digits)

end Spelling

/-! ## `Number::toString` -/

/-- The layout of the positive number `digits × 10 ^ exponent`. With `k` digits and
`n = k + exponent`, the point stands `n` places into the digits while `n` is from
-5 to 21, and the number is written with a power of ten otherwise. -/
def spell (digits : ℕ) (exponent : ℤ) : Spelling :=
  let units := decimalText digits
  let k : ℤ := units.length
  let n := k + exponent
  if -5 ≤ n ∧ n ≤ 21 then
    if k ≤ n then ⟨units ++ List.replicate (n - k).toNat CodeUnit.zero, none, none⟩
    else if 0 < n then ⟨units.take n.toNat, some (units.drop n.toNat), none⟩
    else ⟨[CodeUnit.zero], some (List.replicate (-n).toNat CodeUnit.zero ++ units), none⟩
  else if k = 1 then ⟨units, none, some (n - 1)⟩
  else ⟨units.take 1, some (units.drop 1), some (n - 1)⟩

theorem spell_wellFormed (digits : ℕ) (exponent : ℤ) : (spell digits exponent).WellFormed := by
  have written := decimalText_digits digits
  have some := decimalText_ne_nil digits
  have zeros : ∀ count, ∀ unit ∈ List.replicate count CodeUnit.zero,
      CodeUnit.isDigit unit = true := by
    intro count unit inside
    rw [List.eq_of_mem_replicate inside]
    rfl
  unfold spell
  dsimp only
  split
  · split
    · refine ⟨by simp [some], ?_, by simp⟩
      intro unit inside
      rcases List.mem_append.mp inside with digit | zero
      · exact written unit digit
      · exact zeros _ unit zero
    · split
      · refine ⟨?_, fun unit inside => written unit (List.mem_of_mem_take inside),
          fun unit inside => written unit (List.mem_of_mem_drop inside)⟩
        rw [Ne, List.take_eq_nil_iff]
        rintro (none | none)
        · omega
        · exact some none
      · refine ⟨by simp, by simp [CodeUnit.isDigit, CodeUnit.zero], ?_⟩
        intro unit inside
        rcases List.mem_append.mp inside with zero | digit
        · exact zeros _ unit zero
        · exact written unit digit
  · split
    · exact ⟨some, written, by simp⟩
    · refine ⟨?_, fun unit inside => written unit (List.mem_of_mem_take inside),
        fun unit inside => written unit (List.mem_of_mem_drop inside)⟩
      rw [Ne, List.take_eq_nil_iff]
      rintro (none | none)
      · omega
      · exact some none

/-- Whatever the layout, the parts denote the number that was laid out. -/
theorem spell_value (digits : ℕ) (exponent : ℤ) :
    (spell digits exponent).value = digits * 10 ^ exponent := by
  have ten : (10 : ℚ) ≠ 0 := by norm_num
  have nonempty := List.length_pos_of_ne_nil (decimalText_ne_nil digits)
  unfold spell
  dsimp only
  split
  · split
    · rename_i whole
      obtain ⟨zeros, shift⟩ := Int.eq_ofNat_of_zero_le (show 0 ≤ exponent by omega)
      simp [Spelling.value, decimalValue_append, shift]
    · split
      · rename_i below inside
        have length : (decimalText digits).length -
            ((decimalText digits).length + exponent).toNat = -exponent := by omega
        simp only [Spelling.value, Option.getD_some, Option.getD_none, List.take_append_drop,
          decimalValue_decimalText, List.length_drop]
        congr 2
        omega
      · rename_i below outside
        have lead : decimalValue [CodeUnit.zero] = 0 := rfl
        simp only [Spelling.value, Option.getD_some, Option.getD_none, decimalValue_append, lead,
          decimalValue_zeros, decimalValue_decimalText, List.length_append,
          List.length_replicate, Nat.zero_mul, Nat.zero_add]
        congr 2
        omega
  · split
    · rename_i outside single
      simp only [Spelling.value, Option.getD_some, Option.getD_none, List.append_nil,
        decimalValue_decimalText, List.length_nil]
      congr 2
      omega
    · simp only [Spelling.value, Option.getD_some, List.take_append_drop,
        decimalValue_decimalText, List.length_drop]
      congr 2
      omega

/-- `String(x)` for a finite number. -/
def Decimal.text (d : Decimal) : Text :=
  let magnitude := (spell d.mantissa.natAbs d.exponent).text
  if d.mantissa < 0 then CodeUnit.minus :: magnitude else magnitude

/-- The text of a magnitude begins with a digit. -/
theorem spell_text_head (digits : ℕ) (exponent : ℤ) :
    ∃ unit rest, (spell digits exponent).text = unit :: rest ∧
      CodeUnit.isDigit unit = true := by
  have formed := spell_wellFormed digits exponent
  obtain ⟨unit, rest, starts⟩ := List.exists_cons_of_ne_nil formed.integral_ne_nil
  exact ⟨unit, _, by rw [Spelling.text, starts, List.cons_append],
    formed.integral_digits unit (by simp [starts])⟩

theorem spell_text_ne_minus (digits : ℕ) (exponent : ℤ) (rest : Text) :
    (spell digits exponent).text ≠ CodeUnit.minus :: rest := by
  obtain ⟨unit, tail, starts, digit⟩ := spell_text_head digits exponent
  intro same
  rw [starts, List.cons.injEq] at same
  rw [same.1] at digit
  exact absurd digit (by decide)

/-- A mantissa is its magnitude with its sign. -/
theorem Decimal.mantissa_cast (d : Decimal) :
    (d.mantissa : ℚ) = (if d.mantissa < 0 then -1 else 1) * (d.mantissa.natAbs : ℚ) := by
  split
  · rename_i negative
    rw [← Int.cast_natCast, Int.ofNat_natAbs_of_nonpos negative.le]
    push_cast
    ring
  · rename_i nonnegative
    rw [← Int.cast_natCast, Int.natAbs_of_nonneg (not_lt.mp nonnegative), one_mul]

/-- Decimals of one sign with one magnitude text are equal. -/
theorem Decimal.eq_of_magnitude_text {d d' : Decimal}
    (signs : d.mantissa < 0 ↔ d'.mantissa < 0)
    (texts : (spell d.mantissa.natAbs d.exponent).text =
      (spell d'.mantissa.natAbs d'.exponent).text) : d = d' := by
  have values : (d.mantissa.natAbs : ℚ) * 10 ^ d.exponent
      = d'.mantissa.natAbs * 10 ^ d'.exponent := by
    rw [← spell_value, ← spell_value,
      Spelling.text_injective (spell_wellFormed _ _) (spell_wellFormed _ _) texts]
  apply Decimal.toRat_injective
  unfold Decimal.toRat
  rw [d.mantissa_cast, d'.mantissa_cast, mul_assoc, mul_assoc, values]
  simp only [signs]

theorem Decimal.text_injective : Function.Injective Decimal.text := by
  intro d d' same
  unfold Decimal.text at same
  dsimp only at same
  split at same <;> split at same
  · rename_i negative negative'
    exact eq_of_magnitude_text (iff_of_true negative negative') (List.cons.inj same).2
  · exact absurd same.symm (spell_text_ne_minus _ _ _)
  · exact absurd same (spell_text_ne_minus _ _ _)
  · rename_i nonnegative nonnegative'
    exact eq_of_magnitude_text (iff_of_false nonnegative nonnegative') same

theorem Decimal.text_isNumberUnit (d : Decimal) :
    ∀ unit ∈ d.text, Spelling.isNumberUnit unit = true := by
  intro unit written
  unfold Decimal.text at written
  dsimp only at written
  split at written
  · rcases List.mem_cons.mp written with rfl | inside
    · rfl
    · exact Spelling.text_isNumberUnit (spell_wellFormed _ _) unit inside
  · exact Spelling.text_isNumberUnit (spell_wellFormed _ _) unit written

/-- The text of a number begins with a digit or a sign. -/
theorem Decimal.text_head (d : Decimal) :
    ∃ unit rest, d.text = unit :: rest ∧
      (CodeUnit.isDigit unit = true ∨ unit = CodeUnit.minus) := by
  unfold Decimal.text
  dsimp only
  split
  · exact ⟨_, _, rfl, .inr rfl⟩
  · obtain ⟨unit, rest, starts, digit⟩ := spell_text_head d.mantissa.natAbs d.exponent
    exact ⟨unit, rest, starts, .inl digit⟩

/-- `String(x)`. -/
def Number.text : Number → Text
  | .finite decimal => decimal.text
  | .nan => "NaN"
  | .infinity negative => if negative then "-Infinity" else "Infinity"

theorem Number.text_finite_ne {decimal : Decimal} {number : Number} {unit : CodeUnit}
    (inside : unit ∈ number.text) (foreign : Spelling.isNumberUnit unit = false) :
    decimal.text ≠ number.text := by
  intro same
  have part := decimal.text_isNumberUnit unit (same ▸ inside)
  exact absurd (part.symm.trans foreign) (by decide)

/-- The text of a number determines it. -/
theorem Number.text_injective : Function.Injective Number.text := by
  have wordNan : (0x4E : CodeUnit) ∈ Number.nan.text := by decide
  have wordInfinity : ∀ negative, (0x49 : CodeUnit) ∈ (Number.infinity negative).text := by decide
  intro x y same
  cases x with
  | finite decimal =>
    cases y with
    | finite decimal' => rw [Decimal.text_injective same]
    | nan => exact absurd same (text_finite_ne wordNan (by decide))
    | infinity negative => exact absurd same (text_finite_ne (wordInfinity negative) (by decide))
  | nan =>
    cases y with
    | finite decimal' => exact absurd same.symm (text_finite_ne wordNan (by decide))
    | nan => rfl
    | infinity negative => cases negative <;> exact absurd same (by decide)
  | infinity negative =>
    cases y with
    | finite decimal' =>
      exact absurd same.symm (text_finite_ne (wordInfinity negative) (by decide))
    | nan => cases negative <;> exact absurd same (by decide)
    | infinity negative' =>
      cases negative <;> cases negative' <;> first | rfl | exact absurd same (by decide)

/-- The text of a number is one line. -/
theorem Number.newline_notMem_text (number : Number) : CodeUnit.newline ∉ number.text := by
  cases number with
  | finite decimal =>
    exact fun written => absurd (decimal.text_isNumberUnit _ written) (by decide)
  | nan => decide
  | infinity negative => cases negative <;> decide

example : (Decimal.mk 1756 9 (by decide)).text = Text.ofString "1756000000000" := by decide

example : (Decimal.mk (-125) (-9) (by decide)).text = Text.ofString "-1.25e-7" := by decide

end Script
