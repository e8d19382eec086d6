import Mathlib.Data.Nat.Digits.Defs
import Mathlib.Data.List.Basic
import Mathlib.Data.List.TakeWhile
import Mathlib.Tactic.IntervalCases
import Mathlib.Tactic.Ring

/-!
# JavaScript strings as code units

A JavaScript string is a finite sequence of UTF-16 code units, and every
operation the language defines on strings (comparison, concatenation, indexing,
escaping) works on those units, not on characters. A text is therefore a list of
16-bit units; a lone surrogate is an ordinary member of it. The module holds the
units a canonical JSON text is made of, the decimal and hexadecimal renderings,
and two facts about reading a text back: a run of units of one class is
recovered from what precedes the first unit outside the class, and the pieces of
a joined text are recovered when none of them holds the separator.
-/
namespace Script

/-- One UTF-16 code unit. -/
abbrev CodeUnit := UInt16

/-- A JavaScript string: any sequence of code units, well formed or not. -/
abbrev Text := List CodeUnit

/-- The units of one character: itself in the basic plane, a surrogate pair above it. -/
def charUnits (c : Char) : Text :=
  if c.toNat < 0x10000 then [UInt16.ofNat c.toNat]
  else
    [UInt16.ofNat (0xD800 + (c.toNat - 0x10000) / 0x400),
      UInt16.ofNat (0xDC00 + (c.toNat - 0x10000) % 0x400)]

/-- The text a string literal of the source denotes. -/
def Text.ofString (literal : String) : Text :=
  literal.toList.flatMap charUnits

instance : Coe String Text := ⟨Text.ofString⟩

/-! ## Units with a meaning of their own -/

namespace CodeUnit

def newline : CodeUnit := 0x0A
def quote : CodeUnit := 0x22
def plus : CodeUnit := 0x2B
def comma : CodeUnit := 0x2C
def minus : CodeUnit := 0x2D
def point : CodeUnit := 0x2E
def zero : CodeUnit := 0x30
def colon : CodeUnit := 0x3A
def openBracket : CodeUnit := 0x5B
def backslash : CodeUnit := 0x5C
def closeBracket : CodeUnit := 0x5D
def lowerE : CodeUnit := 0x65
def openBrace : CodeUnit := 0x7B
def closeBrace : CodeUnit := 0x7D

/-- The first unit of a surrogate pair. -/
def isHighSurrogate (unit : CodeUnit) : Bool := 0xD800 ≤ unit && unit ≤ 0xDBFF

/-- The second unit of a surrogate pair. -/
def isLowSurrogate (unit : CodeUnit) : Bool := 0xDC00 ≤ unit && unit ≤ 0xDFFF

/-- A decimal digit. -/
def isDigit (unit : CodeUnit) : Bool := 0x30 ≤ unit && unit ≤ 0x39

/-- An upper-case letter of the Latin alphabet. -/
def isUpper (unit : CodeUnit) : Bool := 0x41 ≤ unit && unit ≤ 0x5A

/-- A hexadecimal digit in either case, as the class `[0-9a-f]` matches under
the flag `i`. -/
def isHexDigit (unit : CodeUnit) : Bool :=
  isDigit unit || (0x41 ≤ unit && unit ≤ 0x46) || (0x61 ≤ unit && unit ≤ 0x66)

/-- The lower-case form of a Latin letter; any other unit is kept. -/
def lower (unit : CodeUnit) : CodeUnit := if isUpper unit then unit + 0x20 else unit

end CodeUnit

/-! ## Decimal digits -/

/-- The unit of a decimal digit. -/
def digitUnit (digit : ℕ) : CodeUnit := CodeUnit.zero + UInt16.ofNat digit

/-- The digit a unit stands for; the inverse of `digitUnit`. -/
def digitValue (unit : CodeUnit) : ℕ := unit.toNat - 0x30

theorem digitValue_digitUnit {digit : ℕ} (small : digit < 10) :
    digitValue (digitUnit digit) = digit := by
  interval_cases digit <;> rfl

theorem digitUnit_isDigit {digit : ℕ} (small : digit < 10) :
    CodeUnit.isDigit (digitUnit digit) = true := by
  interval_cases digit <;> rfl

/-- The decimal digits of a natural number, most significant first; zero has one. -/
def decimalText (n : ℕ) : Text :=
  if n = 0 then [CodeUnit.zero] else (Nat.digits 10 n).reverse.map digitUnit

/-- The number a sequence of digit units denotes. -/
def decimalValue (units : Text) : ℕ :=
  Nat.ofDigits 10 (units.map digitValue).reverse

theorem decimalText_digits (n : ℕ) : ∀ unit ∈ decimalText n, CodeUnit.isDigit unit = true := by
  intro unit written
  unfold decimalText at written
  split at written
  · rw [List.mem_singleton] at written
    subst written
    rfl
  · obtain ⟨digit, drawn, rfl⟩ := List.mem_map.mp written
    exact digitUnit_isDigit (Nat.digits_lt_base (by decide) (List.mem_reverse.mp drawn))

theorem decimalText_ne_nil (n : ℕ) : decimalText n ≠ [] := by
  unfold decimalText
  split
  · simp
  · simpa [Nat.digits_eq_nil_iff_eq_zero] using ‹¬ n = 0›

/-- The value of digits that were written from a list of small numbers. -/
theorem decimalValue_map_digitUnit {digits : List ℕ} (small : ∀ digit ∈ digits, digit < 10) :
    decimalValue (digits.map digitUnit) = Nat.ofDigits 10 digits.reverse := by
  have readBack : digits.map (digitValue ∘ digitUnit) = digits.map id :=
    List.map_congr_left fun digit inside => digitValue_digitUnit (small digit inside)
  rw [decimalValue, List.map_map, readBack, List.map_id]

@[simp]
theorem decimalValue_decimalText (n : ℕ) : decimalValue (decimalText n) = n := by
  unfold decimalText
  split
  · subst n
    rfl
  · rw [decimalValue_map_digitUnit, List.reverse_reverse, Nat.ofDigits_digits]
    intro digit drawn
    exact Nat.digits_lt_base (by decide) (List.mem_reverse.mp drawn)

theorem decimalText_injective : Function.Injective decimalText := by
  intro m n same
  rw [← decimalValue_decimalText m, same, decimalValue_decimalText]

/-- Reading concatenated digits shifts the first part past the second. -/
theorem decimalValue_append (left right : Text) :
    decimalValue (left ++ right) =
      decimalValue left * 10 ^ right.length + decimalValue right := by
  unfold decimalValue
  rw [List.map_append, List.reverse_append, Nat.ofDigits_append, List.length_reverse,
    List.length_map]
  ring

@[simp]
theorem decimalValue_zeros (count : ℕ) :
    decimalValue (List.replicate count CodeUnit.zero) = 0 := by
  induction count with
  | zero => rfl
  | succ count ih =>
    rw [List.replicate_succ', decimalValue_append, ih]
    rfl

/-! ## Hexadecimal -/

/-- The unit of a hexadecimal digit in lower case. -/
def hexUnit (digit : ℕ) : CodeUnit :=
  if digit < 10 then digitUnit digit else 0x61 + UInt16.ofNat (digit - 10)

/-- The digit a unit stands for, in either case. -/
def hexValue (unit : CodeUnit) : Option ℕ :=
  if CodeUnit.isDigit unit then some (unit.toNat - 0x30)
  else if 0x61 ≤ unit && unit ≤ 0x66 then some (unit.toNat - 0x61 + 10)
  else if 0x41 ≤ unit && unit ≤ 0x46 then some (unit.toNat - 0x41 + 10)
  else none

theorem hexValue_hexUnit {digit : ℕ} (small : digit < 16) :
    hexValue (hexUnit digit) = some digit := by
  interval_cases digit <;> rfl

theorem hexUnit_isHexDigit {digit : ℕ} (small : digit < 16) :
    CodeUnit.isHexDigit (hexUnit digit) = true := by
  interval_cases digit <;> rfl

theorem lower_hexUnit {digit : ℕ} (small : digit < 16) :
    CodeUnit.lower (hexUnit digit) = hexUnit digit := by
  interval_cases digit <;> rfl

/-- `hash.digest('hex')`: two lower-case digits a byte. -/
def hexText : List UInt8 → Text
  | [] => []
  | byte :: rest => hexUnit (byte.toNat / 16) :: hexUnit (byte.toNat % 16) :: hexText rest

/-- `Buffer.from(text, 'hex')`: whole pairs of digits are decoded, and the first
pair that is incomplete or not hexadecimal ends the result. -/
def bytesOfHex : Text → List UInt8
  | high :: low :: rest =>
    match hexValue high, hexValue low with
    | some h, some l => UInt8.ofNat (h * 16 + l) :: bytesOfHex rest
    | _, _ => []
  | _ => []

theorem bytesOfHex_hexText (bytes : List UInt8) : bytesOfHex (hexText bytes) = bytes := by
  induction bytes with
  | nil => rfl
  | cons byte rest ih =>
    have inside : byte.toNat < 256 := byte.toNat_lt
    have high := hexValue_hexUnit (show byte.toNat / 16 < 16 by omega)
    have low := hexValue_hexUnit (show byte.toNat % 16 < 16 by omega)
    have joined : byte.toNat / 16 * 16 + byte.toNat % 16 = byte.toNat := by omega
    simp only [hexText, bytesOfHex, high, low, ih, joined, UInt8.ofNat_toNat]

theorem hexText_isHexDigit (bytes : List UInt8) :
    ∀ unit ∈ hexText bytes, CodeUnit.isHexDigit unit = true := by
  induction bytes with
  | nil => exact fun unit inside => absurd inside List.not_mem_nil
  | cons byte rest ih =>
    have inside : byte.toNat < 256 := byte.toNat_lt
    simp only [hexText, List.mem_cons]
    rintro unit (rfl | rfl | later)
    · exact hexUnit_isHexDigit (by omega)
    · exact hexUnit_isHexDigit (by omega)
    · exact ih unit later

theorem lower_hexText (bytes : List UInt8) :
    (hexText bytes).map CodeUnit.lower = hexText bytes := by
  induction bytes with
  | nil => rfl
  | cons byte rest ih =>
    have inside : byte.toNat < 256 := byte.toNat_lt
    simp only [hexText, List.map_cons, ih, lower_hexUnit (show byte.toNat / 16 < 16 by omega),
      lower_hexUnit (show byte.toNat % 16 < 16 by omega)]

theorem hexText_eq_nil {bytes : List UInt8} : hexText bytes = [] ↔ bytes = [] := by
  cases bytes <;> simp [hexText]

/-! ## Reading a text back -/

/-- A text that does not begin with a unit of the class. -/
def Delimited (inClass : CodeUnit → Bool) (rest : Text) : Prop :=
  ∀ unit ∈ rest.head?, inClass unit = false

/-- A run of one class is recovered from the text that follows it, when that
text begins outside the class. -/
theorem run_append_cancel {inClass : CodeUnit → Bool} {left left' rest rest' : Text}
    (leftRun : ∀ unit ∈ left, inClass unit = true)
    (leftRun' : ∀ unit ∈ left', inClass unit = true)
    (ends : Delimited inClass rest) (ends' : Delimited inClass rest')
    (same : left ++ rest = left' ++ rest') : left = left' ∧ rest = rest' := by
  have stops : ∀ {tail : Text}, Delimited inClass tail → tail.takeWhile inClass = [] := by
    intro tail delimited
    cases tail with
    | nil => rfl
    | cons unit tail => simp [List.takeWhile, delimited unit rfl]
  have runs : ∀ {run tail : Text}, (∀ unit ∈ run, inClass unit = true) →
      Delimited inClass tail → (run ++ tail).takeWhile inClass = run := by
    intro run tail inside delimited
    rw [List.takeWhile_append_of_pos inside, stops delimited, List.append_nil]
  have heads : left = left' := by
    rw [← runs leftRun ends, same, runs leftRun' ends']
  subst heads
  exact ⟨rfl, List.append_cancel_left same⟩

/-- The separators in a joined text, counted with multiplicity. -/
theorem separator_append_cancel {separator : CodeUnit} {left left' rest rest' : Text}
    (absent : separator ∉ left) (absent' : separator ∉ left')
    (same : left ++ separator :: rest = left' ++ separator :: rest') :
    left = left' ∧ rest = rest' := by
  have outside : ∀ {run : Text}, separator ∉ run →
      ∀ unit ∈ run, (unit != separator) = true := by
    intro run missing unit inside
    exact bne_iff_ne.mpr fun equal => missing (equal ▸ inside)
  have ends : ∀ tail : Text, Delimited (· != separator) (separator :: tail) := by
    intro tail unit head
    simp only [List.head?_cons, Option.mem_def, Option.some.injEq] at head
    simp [head]
  obtain ⟨heads, tails⟩ :=
    run_append_cancel (outside absent) (outside absent') (ends rest) (ends rest') same
  exact ⟨heads, (List.cons.inj tails).2⟩

example : Text.ofString "_sig" = [0x5F, 0x73, 0x69, 0x67] := by decide

example : decimalText 1756 = Text.ofString "1756" := by decide

end Script
