import OpticsHub.Script.Utf8
import Mathlib.Tactic.NormNum
import Mathlib.Tactic.Linarith

/-!
# What survives decoding

A byte below 0x80 is a unit of its own wherever it stands: it ends whatever character has begun, and
no other bytes give such a unit. So a text can be taken apart at these units before it is decoded or
after. Bytes that are the encoding of a text are decoded to a text with the same encoding, and no
others survive being decoded and encoded.
-/
namespace Script

/-- The unit of a byte below 0x80. -/
def plainUnit (byte : UInt8) : CodeUnit := UInt16.ofNat byte.toNat

namespace Utf8

/-! ## Characters that have begun -/

/-- Every way to go on with a character gives a code that is not plain and not too large. -/
structure Partial.Sound (opened : Partial) : Prop where
  missing : 1 ≤ opened.missing
  least : 0x80 ≤ opened.least
  large : 0x80 ≤ (opened.code * 0x40 + (opened.least.toNat - 0x80)) * 0x40 ^ (opened.missing - 1)
  small : (opened.code * 0x40 + (opened.greatest.toNat - 0x80) + 1) * 0x40 ^ (opened.missing - 1)
    ≤ 0x110000

instance (opened : Partial) : Decidable opened.Sound :=
  decidable_of_iff (1 ≤ opened.missing ∧ 0x80 ≤ opened.least ∧
      0x80 ≤ (opened.code * 0x40 + (opened.least.toNat - 0x80)) * 0x40 ^ (opened.missing - 1) ∧
      (opened.code * 0x40 + (opened.greatest.toNat - 0x80) + 1) * 0x40 ^ (opened.missing - 1)
        ≤ 0x110000)
    ⟨fun bounds => ⟨bounds.1, bounds.2.1, bounds.2.2.1, bounds.2.2.2⟩,
      fun sound => ⟨sound.missing, sound.least, sound.large, sound.small⟩⟩

theorem start_table : ∀ n < 256, (n < 0x80 → (start (UInt8.ofNat n)).1 = [UInt16.ofNat n] ∧
      (start (UInt8.ofNat n)).2.isNone = true) ∧
    (0x80 ≤ n → ((start (UInt8.ofNat n)).1.all fun unit => decide (0x80 ≤ unit)) = true) ∧
    ∀ opened ∈ (start (UInt8.ofNat n)).2, opened.Sound := by
  decide +kernel

/-- A plain byte is a unit of its own. -/
theorem start_plain {byte : UInt8} (plain : byte < 0x80) :
    start byte = ([plainUnit byte], none) := by
  have table := (start_table byte.toNat byte.toNat_lt).1 (UInt8.lt_iff_toNat_lt.mp plain)
  rw [UInt8.ofNat_toNat] at table
  exact Prod.ext table.1 (Option.isNone_iff_eq_none.mp table.2)

theorem start_other {byte : UInt8} (other : 0x80 ≤ byte) : ∀ unit ∈ (start byte).1, 0x80 ≤ unit := by
  have table := (start_table byte.toNat byte.toNat_lt).2.1 (UInt8.le_iff_toNat_le.mp other)
  rw [UInt8.ofNat_toNat, List.all_eq_true] at table
  exact fun unit inside => of_decide_eq_true (table unit inside)

theorem sound_start (byte : UInt8) : ∀ opened ∈ (start byte).2, opened.Sound := by
  have table := (start_table byte.toNat byte.toNat_lt).2.2
  rwa [UInt8.ofNat_toNat] at table

theorem codeUnits_other {code : ℕ} (large : 0x80 ≤ code) (small : code < 0x110000) :
    ∀ unit ∈ codeUnits code, 0x80 ≤ unit := by
  have size : UInt16.size = 0x10000 := rfl
  intro unit inside
  rw [codeUnits] at inside
  split at inside
  · rw [List.mem_singleton.mp inside, UInt16.le_iff_toNat_le, UInt16.toNat_ofNat_of_lt' (by omega)]
    exact large
  · simp only [List.mem_cons, List.not_mem_nil, or_false] at inside
    rcases inside with rfl | rfl
    · rw [UInt16.le_iff_toNat_le, UInt16.toNat_ofNat_of_lt' (by omega)]
      simp only [UInt16.reduceToNat]
      omega
    · rw [UInt16.le_iff_toNat_le, UInt16.toNat_ofNat_of_lt' (by omega)]
      simp only [UInt16.reduceToNat]
      omega

/-- A byte that goes on with a character gives no plain unit, and the character stays sound. -/
theorem proceed_spec {opened : Partial} (sound : opened.Sound) {byte : UInt8}
    (after : opened.least ≤ byte) (before : byte ≤ opened.greatest) :
    (∀ unit ∈ (proceed opened byte).1, 0x80 ≤ unit) ∧
      ∀ opened' ∈ (proceed opened byte).2, opened'.Sound := by
  obtain ⟨missing, least, large, small⟩ := sound
  rw [UInt8.le_iff_toNat_le] at after before least
  simp only [UInt8.reduceToNat] at least
  rw [proceed]
  split
  · rename_i last
    have one : opened.missing - 1 = 0 := by omega
    rw [one, pow_zero, mul_one] at large small
    have other := @codeUnits_other (opened.code * 0x40 + (byte.toNat - 0x80)) (by omega) (by omega)
    refine ⟨?_, ?_⟩
    · dsimp only
      exact other
    · intro opened' known
      cases known
  · rename_i more
    obtain ⟨k, later⟩ : ∃ k, opened.missing = k + 2 := ⟨opened.missing - 2, by omega⟩
    rw [later] at large small
    refine ⟨fun _ inside => absurd inside List.not_mem_nil, fun opened' known => ?_⟩
    obtain rfl := Option.some.inj known
    have bounds : (0x80 : UInt8).toNat = 128 ∧ (0xBF : UInt8).toNat = 191 := by decide
    refine ⟨by simp only [later]; omega, UInt8.le_refl 0x80, ?_, ?_⟩
    · simp only [later, bounds]
      calc 0x80 ≤ (opened.code * 0x40 + (opened.least.toNat - 0x80)) * 0x40 ^ (k + 1) := large
        _ ≤ (opened.code * 0x40 + (byte.toNat - 0x80)) * 0x40 ^ (k + 1) := by gcongr
        _ = ((opened.code * 0x40 + (byte.toNat - 0x80)) * 0x40 + (128 - 0x80)) * 0x40 ^ k := by
          rw [pow_succ]
          ring
    · simp only [later, bounds]
      calc ((opened.code * 0x40 + (byte.toNat - 0x80)) * 0x40 + (191 - 0x80) + 1) * 0x40 ^ k
          = (opened.code * 0x40 + (byte.toNat - 0x80) + 1) * 0x40 ^ (k + 1) := by
            rw [pow_succ]
            ring
        _ ≤ (opened.code * 0x40 + (opened.greatest.toNat - 0x80) + 1) * 0x40 ^ (k + 1) := by gcongr
        _ ≤ 0x110000 := small

/-! ## Plain bytes -/

/-- A plain byte ends a character that has begun. -/
theorem read_plain {opened : Option Partial} (sound : ∀ known ∈ opened, known.Sound) {byte : UInt8}
    (plain : byte < 0x80) :
    read opened byte = (decodeFrom opened [] ++ [plainUnit byte], none) := by
  cases opened with
  | none => exact start_plain plain
  | some opened =>
    have least := (sound opened rfl).least
    have outside : (opened.least ≤ byte && byte ≤ opened.greatest) = false := by
      rw [Bool.and_eq_false_iff, decide_eq_false_iff_not]
      rw [UInt8.le_iff_toNat_le] at least
      rw [UInt8.lt_iff_toNat_lt] at plain
      exact .inl fun within => by rw [UInt8.le_iff_toNat_le] at within; omega
    rw [read, outside, if_neg Bool.false_ne_true, start_plain plain]
    rfl

/-- Another byte gives no plain unit, and what it begins or goes on with is sound. -/
theorem read_other {opened : Option Partial} (sound : ∀ known ∈ opened, known.Sound) {byte : UInt8}
    (other : 0x80 ≤ byte) : ∀ unit ∈ (read opened byte).1, 0x80 ≤ unit := by
  cases opened with
  | none => exact start_other other
  | some opened =>
    rw [read]
    split
    · rename_i within
      rw [Bool.and_eq_true, decide_eq_true_eq, decide_eq_true_eq] at within
      exact (proceed_spec (sound opened rfl) within.1 within.2).1
    · exact List.forall_mem_cons.mpr ⟨by decide, start_other other⟩

theorem sound_read {opened : Option Partial} (sound : ∀ known ∈ opened, known.Sound)
    (byte : UInt8) : ∀ known ∈ (read opened byte).2, known.Sound := by
  cases opened with
  | none => exact sound_start byte
  | some opened =>
    rw [read]
    split
    · rename_i within
      rw [Bool.and_eq_true, decide_eq_true_eq, decide_eq_true_eq] at within
      exact (proceed_spec (sound opened rfl) within.1 within.2).2
    · exact sound_start byte

theorem decodeFrom_cons (opened : Option Partial) (byte : UInt8) (rest : Bytes) :
    decodeFrom opened (byte :: rest) =
      (read opened byte).1 ++ decodeFrom (read opened byte).2 rest := rfl

/-- What is before a plain byte and what is after it are decoded by themselves. -/
theorem decodeFrom_append {opened : Option Partial} (sound : ∀ known ∈ opened, known.Sound)
    (front : Bytes) {byte : UInt8} (plain : byte < 0x80) (rest : Bytes) :
    decodeFrom opened (front ++ byte :: rest) =
      decodeFrom opened front ++ plainUnit byte :: decodeFrom none rest := by
  induction front generalizing opened with
  | nil =>
    rw [List.nil_append, decodeFrom_cons, read_plain sound plain, List.append_assoc,
      List.singleton_append]
  | cons first front ih =>
    rw [List.cons_append, decodeFrom_cons, decodeFrom_cons, ih (sound_read sound first),
      List.append_assoc]

theorem plainUnit_lt_iff {byte : UInt8} : plainUnit byte < 0x80 ↔ byte < 0x80 := by
  rw [plainUnit, UInt16.lt_iff_toNat_lt,
    UInt16.toNat_ofNat_of_lt' (byte.toNat_lt.trans (by decide)), UInt8.lt_iff_toNat_lt]
  rfl

/-- What is not in the first part is found in the second. -/
theorem exists_of_append_eq {α : Type} {first second front back : List α} {unit : α}
    (absent : unit ∉ first) (same : first ++ second = front ++ unit :: back) :
    ∃ middle, front = first ++ middle ∧ second = middle ++ unit :: back := by
  rcases List.append_eq_append_iff.mp same with ⟨middle, split, rest⟩ | ⟨middle, split, rest⟩
  · exact ⟨middle, split, rest⟩
  · cases middle with
    | nil => exact ⟨[], by rw [split, List.append_nil, List.append_nil], rest.symm⟩
    | cons other middle =>
      obtain ⟨rfl, -⟩ := List.cons.inj rest
      exact absurd (split ▸ List.mem_append_right _ List.mem_cons_self) absent

/-- A byte is known by its unit. -/
theorem eq_of_plainUnit {byte : UInt8} {unit : CodeUnit} (value : plainUnit byte = unit) :
    byte = UInt8.ofNat unit.toNat := by
  rw [← value, plainUnit, UInt16.toNat_ofNat_of_lt' (byte.toNat_lt.trans (by decide)),
    UInt8.ofNat_toNat]

/-- A plain unit comes from a plain byte. -/
theorem exists_of_decodeFrom {opened : Option Partial} (sound : ∀ known ∈ opened, known.Sound)
    {bytes : Bytes} {front back : Text} {unit : CodeUnit} (plain : unit < 0x80)
    (decoded : decodeFrom opened bytes = front ++ unit :: back) :
    ∃ before byte after, bytes = before ++ byte :: after ∧ byte < 0x80 ∧ plainUnit byte = unit ∧
      decodeFrom opened before = front ∧ decodeFrom none after = back := by
  have absent {units : Text} (other : ∀ unit' ∈ units, 0x80 ≤ unit') : unit ∉ units :=
    fun inside => absurd plain (UInt16.not_lt.mpr (other unit inside))
  have ended (known : Option Partial) : unit ∉ decodeFrom known [] := by
    refine absent ?_
    rw [decodeFrom]
    split
    · exact List.forall_mem_singleton.mpr (by decide)
    · simp
  induction bytes generalizing opened front with
  | nil => exact absurd (decoded ▸ List.mem_append_right _ List.mem_cons_self) (ended opened)
  | cons byte rest ih =>
    rw [decodeFrom_cons] at decoded
    by_cases isPlain : byte < 0x80
    · rw [read_plain sound isPlain, List.append_assoc, List.singleton_append] at decoded
      obtain ⟨middle, rfl, later⟩ := exists_of_append_eq (ended opened) decoded
      cases middle with
      | nil =>
        obtain ⟨same, rfl⟩ := List.cons.inj later
        exact ⟨[], byte, rest, rfl, isPlain, same, (List.append_nil _).symm, rfl⟩
      | cons first middle =>
        obtain ⟨rfl, last⟩ := List.cons.inj later
        obtain ⟨before, other, after, rfl, plain', unit', front', back'⟩ :=
          @ih none (fun _ known => nomatch known) middle last
        refine ⟨byte :: before, other, after, rfl, plain', unit', ?_, back'⟩
        rw [decodeFrom_cons, read_plain sound isPlain, front', List.append_assoc,
          List.singleton_append]
    · obtain ⟨middle, rfl, later⟩ :=
        exists_of_append_eq (absent (read_other sound (UInt8.not_lt.mp isPlain))) decoded
      obtain ⟨before, other, after, rfl, plain', unit', front', back'⟩ :=
        ih (sound_read sound byte) later
      refine ⟨byte :: before, other, after, rfl, plain', unit', ?_, back'⟩
      rw [decodeFrom_cons, front']

theorem decodeFrom_some_ne_nil (opened : Partial) (bytes : Bytes) :
    decodeFrom (some opened) bytes ≠ [] := by
  induction bytes generalizing opened with
  | nil => simp [decodeFrom]
  | cons byte rest ih =>
    rw [decodeFrom_cons, read]
    split
    · rw [proceed]
      split
      · simp only [codeUnits]
        split <;> simp
      · exact ih _
    · simp

/-! ## Characters that are written -/

/-- A code that is no surrogate. -/
def IsScalar (code : ℕ) : Prop := code < 0xD800 ∨ 0xE000 ≤ code ∧ code < 0x110000

theorem read_tail {opened : Partial} {digits : ℕ} (small : digits < 0x40)
    (after : opened.least.toNat ≤ 0x80 + digits)
    (before : 0x80 + digits ≤ opened.greatest.toNat) :
    read (some opened) (UInt8.ofNat (0x80 + digits)) =
      if opened.missing ≤ 1 then (codeUnits (opened.code * 0x40 + digits), none)
      else ([], some { code := opened.code * 0x40 + digits, missing := opened.missing - 1 }) := by
  have value : (UInt8.ofNat (0x80 + digits)).toNat = 0x80 + digits :=
    UInt8.toNat_ofNat_of_lt' (by have : UInt8.size = 256 := rfl; omega)
  have within : (opened.least ≤ UInt8.ofNat (0x80 + digits) &&
      UInt8.ofNat (0x80 + digits) ≤ opened.greatest) = true := by
    rw [Bool.and_eq_true, decide_eq_true_eq, decide_eq_true_eq, UInt8.le_iff_toNat_le,
      UInt8.le_iff_toNat_le, value]
    exact ⟨after, before⟩
  rw [read, if_pos within, proceed, value, Nat.add_sub_cancel_left]

theorem start_two {digits : ℕ} (least : 2 ≤ digits) (small : digits < 32) :
    read none (UInt8.ofNat (0xC0 + digits)) = ([], some { code := digits, missing := 1 }) := by
  interval_cases digits <;> rfl

theorem start_three {digits : ℕ} (small : digits < 16) :
    read none (UInt8.ofNat (0xE0 + digits)) = ([], some {
      code := digits
      missing := 2
      least := if digits = 0 then 0xA0 else 0x80
      greatest := if digits = 13 then 0x9F else 0xBF }) := by
  interval_cases digits <;> rfl

theorem start_four {digits : ℕ} (small : digits < 5) :
    read none (UInt8.ofNat (0xF0 + digits)) = ([], some {
      code := digits
      missing := 3
      least := if digits = 0 then 0x90 else 0x80
      greatest := if digits = 4 then 0x8F else 0xBF }) := by
  interval_cases digits <;> rfl

/-- A character is read as it was written. -/
theorem decodeFrom_codeBytes {code : ℕ} (scalar : IsScalar code) (rest : Bytes) :
    decodeFrom none (codeBytes code ++ rest) = codeUnits code ++ decodeFrom none rest := by
  have bounds : (0x80 : UInt8).toNat = 0x80 ∧ (0xBF : UInt8).toNat = 0xBF ∧
      (0xA0 : UInt8).toNat = 0xA0 ∧ (0x9F : UInt8).toNat = 0x9F ∧ (0x90 : UInt8).toNat = 0x90 ∧
      (0x8F : UInt8).toNat = 0x8F := by decide
  obtain ⟨b80, bBF, bA0, b9F, b90, b8F⟩ := bounds
  rw [codeBytes]
  split
  · rename_i plain
    have value : (UInt8.ofNat code).toNat = code :=
      UInt8.toNat_ofNat_of_lt' (by have : UInt8.size = 256 := rfl; omega)
    have plain' : UInt8.ofNat code < 0x80 := by
      rw [UInt8.lt_iff_toNat_lt, value]
      exact plain
    rw [List.singleton_append, decodeFrom_cons, @read_plain none (fun _ known => nomatch known) _ plain',
      plainUnit, value, codeUnits, if_pos (by omega)]
    rfl
  split
  · simp only [List.cons_append, List.nil_append]
    rw [decodeFrom_cons, start_two (by omega) (by omega), List.nil_append, decodeFrom_cons,
      read_tail (by omega) (by simp only [b80]; omega) (by simp only [bBF]; omega), if_pos (by simp)]
    dsimp only
    congr 2
    omega
  split
  · simp only [List.cons_append, List.nil_append]
    rw [decodeFrom_cons, start_three (by omega), List.nil_append, decodeFrom_cons,
      read_tail (by omega) (by dsimp only; split <;> simp only [b80, bA0] <;> omega)
        (by rw [IsScalar] at scalar; dsimp only; split <;> simp only [bBF, b9F] <;> omega),
      if_neg (by simp), List.nil_append, decodeFrom_cons,
      read_tail (by omega) (by simp only [b80]; omega) (by simp only [bBF]; omega), if_pos (by simp)]
    dsimp only
    congr 2
    omega
  · rw [IsScalar] at scalar
    simp only [List.cons_append, List.nil_append]
    rw [decodeFrom_cons, start_four (by omega), List.nil_append, decodeFrom_cons,
      read_tail (by omega) (by dsimp only; split <;> simp only [b80, b90] <;> omega)
        (by dsimp only; split <;> simp only [bBF, b8F] <;> omega),
      if_neg (by simp), List.nil_append, decodeFrom_cons,
      read_tail (by omega) (by simp only [b80]; omega) (by simp only [bBF]; omega),
      if_neg (by simp), List.nil_append, decodeFrom_cons,
      read_tail (by omega) (by simp only [b80]; omega) (by simp only [bBF]; omega), if_pos (by simp)]
    dsimp only
    congr 2
    omega

/-! ## Texts as codes -/

/-- The codes of a text; a surrogate without its partner is replaced. -/
def codesOf : Text → List ℕ
  | [] => []
  | [unit] => if unit.isHighSurrogate || unit.isLowSurrogate then [0xFFFD] else [unit.toNat]
  | unit :: next :: rest =>
    if unit.isHighSurrogate && next.isLowSurrogate then
      (0x10000 + (unit.toNat - 0xD800) * 0x400 + (next.toNat - 0xDC00)) :: codesOf rest
    else if unit.isHighSurrogate || unit.isLowSurrogate then 0xFFFD :: codesOf (next :: rest)
    else unit.toNat :: codesOf (next :: rest)

theorem encodeUtf8_eq (text : Text) : encodeUtf8 text = (codesOf text).flatMap codeBytes := by
  fun_induction codesOf text with
  | case1 => rfl
  | case2 unit alone => rw [encodeUtf8, if_pos alone, List.flatMap_singleton]
  | case3 unit other => rw [encodeUtf8, if_neg other, List.flatMap_singleton]
  | case4 unit next rest pair ih => rw [encodeUtf8, if_pos pair, List.flatMap_cons, ih]
  | case5 unit next rest single alone ih =>
    rw [encodeUtf8, if_neg single, if_pos alone, List.flatMap_cons, ih]
  | case6 unit next rest single other ih =>
    rw [encodeUtf8, if_neg single, if_neg other, List.flatMap_cons, ih]

theorem isScalar_of_plain {unit : CodeUnit}
    (other : ¬ (unit.isHighSurrogate || unit.isLowSurrogate) = true) : IsScalar unit.toNat := by
  have bound := unit.toNat_lt
  simp only [CodeUnit.isHighSurrogate, CodeUnit.isLowSurrogate, Bool.or_eq_true, Bool.and_eq_true,
    decide_eq_true_eq, UInt16.le_iff_toNat_le, UInt16.reduceToNat] at other
  rw [IsScalar]
  omega

theorem isScalar_of_pair {unit next : CodeUnit}
    (pair : (unit.isHighSurrogate && next.isLowSurrogate) = true) :
    IsScalar (0x10000 + (unit.toNat - 0xD800) * 0x400 + (next.toNat - 0xDC00)) := by
  simp only [CodeUnit.isHighSurrogate, CodeUnit.isLowSurrogate, Bool.and_eq_true,
    decide_eq_true_eq, UInt16.le_iff_toNat_le, UInt16.reduceToNat] at pair
  rw [IsScalar]
  omega

theorem isScalar_codesOf (text : Text) : ∀ code ∈ codesOf text, IsScalar code := by
  have replacement : IsScalar 0xFFFD := .inr (by decide)
  fun_induction codesOf text with
  | case1 => simp
  | case2 unit alone => simpa using replacement
  | case3 unit other => simpa using isScalar_of_plain other
  | case4 unit next rest pair ih => exact List.forall_mem_cons.mpr ⟨isScalar_of_pair pair, ih⟩
  | case5 unit next rest single alone ih => exact List.forall_mem_cons.mpr ⟨replacement, ih⟩
  | case6 unit next rest single other ih =>
    exact List.forall_mem_cons.mpr ⟨isScalar_of_plain other, ih⟩

theorem decodeFrom_codes {codes : List ℕ} (scalar : ∀ code ∈ codes, IsScalar code) :
    decodeFrom none (codes.flatMap codeBytes) = codes.flatMap codeUnits := by
  induction codes with
  | nil => rfl
  | cons code codes ih =>
    obtain ⟨first, others⟩ := List.forall_mem_cons.mp scalar
    rw [List.flatMap_cons, List.flatMap_cons, decodeFrom_codeBytes first, ih others]

theorem codesOf_cons {unit : CodeUnit}
    (other : ¬ (unit.isHighSurrogate || unit.isLowSurrogate) = true) (rest : Text) :
    codesOf (unit :: rest) = unit.toNat :: codesOf rest := by
  cases rest with
  | nil => simp only [codesOf, if_neg other]
  | cons next rest =>
    rw [codesOf, if_neg, if_neg other]
    intro pair
    rw [Bool.and_eq_true] at pair
    rw [pair.1] at other
    exact other rfl

theorem codesOf_codeUnits {code : ℕ} (scalar : IsScalar code) (rest : Text) :
    codesOf (codeUnits code ++ rest) = code :: codesOf rest := by
  have size : UInt16.size = 0x10000 := rfl
  rw [IsScalar] at scalar
  rw [codeUnits]
  split
  · rename_i small
    have value : (UInt16.ofNat code).toNat = code := UInt16.toNat_ofNat_of_lt' (by omega)
    rw [List.singleton_append, codesOf_cons, value]
    simp only [CodeUnit.isHighSurrogate, CodeUnit.isLowSurrogate, Bool.or_eq_true,
      Bool.and_eq_true, decide_eq_true_eq, UInt16.le_iff_toNat_le, UInt16.reduceToNat, value]
    omega
  · have high : (UInt16.ofNat (0xD800 + (code - 0x10000) / 0x400)).toNat =
        0xD800 + (code - 0x10000) / 0x400 := UInt16.toNat_ofNat_of_lt' (by omega)
    have low : (UInt16.ofNat (0xDC00 + (code - 0x10000) % 0x400)).toNat =
        0xDC00 + (code - 0x10000) % 0x400 := UInt16.toNat_ofNat_of_lt' (by omega)
    have value : 0x10000 + (0xD800 + (code - 0x10000) / 0x400 - 0xD800) * 0x400 +
        (0xDC00 + (code - 0x10000) % 0x400 - 0xDC00) = code := by omega
    rw [List.cons_append, List.singleton_append, codesOf, if_pos, high, low, value]
    · simp only [CodeUnit.isHighSurrogate, CodeUnit.isLowSurrogate, Bool.and_eq_true,
        decide_eq_true_eq, UInt16.le_iff_toNat_le, UInt16.reduceToNat, high, low]
      omega

theorem codesOf_flatMap {codes : List ℕ} (scalar : ∀ code ∈ codes, IsScalar code) :
    codesOf (codes.flatMap codeUnits) = codes := by
  induction codes with
  | nil => rfl
  | cons code codes ih =>
    obtain ⟨first, others⟩ := List.forall_mem_cons.mp scalar
    rw [List.flatMap_cons, codesOf_codeUnits first, ih others]

theorem codesOf_append_plain (front : Text) {unit : CodeUnit} (plain : unit < 0x80)
    (back : Text) : codesOf (front ++ unit :: back) = codesOf front ++ unit.toNat :: codesOf back := by
  have single : ¬ (unit.isHighSurrogate || unit.isLowSurrogate) = true := by
    rw [UInt16.lt_iff_toNat_lt] at plain
    simp only [CodeUnit.isHighSurrogate, CodeUnit.isLowSurrogate, Bool.or_eq_true, Bool.and_eq_true,
      decide_eq_true_eq, UInt16.le_iff_toNat_le, UInt16.reduceToNat] at plain ⊢
    omega
  have low : unit.isLowSurrogate = false := by
    rw [Bool.or_eq_true, not_or] at single
    exact Bool.eq_false_iff.mpr single.2
  fun_induction codesOf front with
  | case1 => exact codesOf_cons single back
  | case2 first alone =>
    rw [List.singleton_append, codesOf, low, Bool.and_false, if_neg Bool.false_ne_true,
      if_pos alone, codesOf_cons single]
    rfl
  | case3 first other =>
    rw [List.singleton_append, codesOf_cons other, codesOf_cons single]
    rfl
  | case4 first next rest pair ih =>
    rw [List.cons_append, List.cons_append, codesOf, if_pos pair, ih, List.cons_append]
  | case5 first next rest unpaired alone ih =>
    rw [List.cons_append, List.cons_append, codesOf, if_neg unpaired, if_pos alone,
      ← List.cons_append, ih, List.cons_append]
  | case6 first next rest unpaired other ih =>
    rw [List.cons_append, codesOf_cons other, ih, List.cons_append]

/-- A plain code is a unit of its own. -/
theorem exists_of_codesOf {text : Text} {front back : List ℕ} {code : ℕ} (plain : code < 0x80)
    (same : codesOf text = front ++ code :: back) :
    ∃ before unit after, text = before ++ unit :: after ∧ unit.toNat = code ∧
      codesOf before = front ∧ codesOf after = back := by
  fun_induction codesOf text generalizing front with
  | case1 => simp at same
  | case2 unit alone =>
    have inside : code ∈ [0xFFFD] := same ▸ by simp
    have value := List.mem_singleton.mp inside
    omega
  | case3 unit other =>
    obtain ⟨rfl, rfl, rfl⟩ : front = [] ∧ unit.toNat = code ∧ back = [] := by
      cases front <;> simp_all
    exact ⟨[], unit, [], rfl, rfl, rfl, rfl⟩
  | case4 unit next rest pair ih =>
    cases front with
    | nil =>
      have value := (List.cons.inj same).1
      omega
    | cons first front =>
      obtain ⟨rfl, later⟩ := List.cons.inj same
      obtain ⟨before, unit', after, rfl, value, rfl, last⟩ := ih later
      refine ⟨unit :: next :: before, unit', after, rfl, value, ?_, last⟩
      rw [codesOf, if_pos pair]
  | case5 unit next rest unpaired alone ih =>
    cases front with
    | nil =>
      have value := (List.cons.inj same).1
      omega
    | cons first front =>
      obtain ⟨rfl, later⟩ := List.cons.inj same
      obtain ⟨before, unit', after, split, value, rfl, last⟩ := ih later
      refine ⟨unit :: before, unit', after, congrArg (unit :: ·) split, value, ?_, last⟩
      cases before with
      | nil => simp only [codesOf, if_pos alone]
      | cons next' before =>
        obtain ⟨rfl, -⟩ := List.cons.inj split
        rw [codesOf, if_neg unpaired, if_pos alone]
  | case6 unit next rest unpaired other ih =>
    cases front with
    | nil =>
      obtain ⟨rfl, rfl⟩ := List.cons.inj same
      exact ⟨[], unit, next :: rest, rfl, rfl, rfl, rfl⟩
    | cons first front =>
      obtain ⟨rfl, later⟩ := List.cons.inj same
      obtain ⟨before, unit', after, split, value, rfl, last⟩ := ih later
      exact ⟨unit :: before, unit', after, congrArg (unit :: ·) split, value,
        codesOf_cons other before, last⟩

theorem codeBytes_other {code : ℕ} (other : 0x80 ≤ code) (small : code < 0x110000) :
    ∀ byte ∈ codeBytes code, 0x80 ≤ byte := by
  have size : UInt8.size = 256 := rfl
  have large {n : ℕ} (low : 0x80 ≤ n) (high : n < 256) : 0x80 ≤ UInt8.ofNat n := by
    rw [UInt8.le_iff_toNat_le, UInt8.toNat_ofNat_of_lt' high]
    exact low
  rw [codeBytes]
  split
  · omega
  split
  · simp only [List.forall_mem_cons]
    exact ⟨large (by omega) (by omega), large (by omega) (by omega), by simp⟩
  split
  · simp only [List.forall_mem_cons]
    exact ⟨large (by omega) (by omega), large (by omega) (by omega), large (by omega) (by omega),
      by simp⟩
  · simp only [List.forall_mem_cons]
    exact ⟨large (by omega) (by omega), large (by omega) (by omega), large (by omega) (by omega),
      large (by omega) (by omega), by simp⟩

/-- A plain byte of an encoding comes from a plain code. -/
theorem exists_of_flatMap {codes : List ℕ} (scalar : ∀ code ∈ codes, IsScalar code)
    {front back : Bytes} {byte : UInt8} (plain : byte < 0x80)
    (same : codes.flatMap codeBytes = front ++ byte :: back) :
    ∃ before code after, codes = before ++ code :: after ∧ code < 0x80 ∧
      UInt8.ofNat code = byte ∧ before.flatMap codeBytes = front ∧
      after.flatMap codeBytes = back := by
  induction codes generalizing front with
  | nil => simp at same
  | cons code codes ih =>
    obtain ⟨isScalar, others⟩ := List.forall_mem_cons.mp scalar
    rw [List.flatMap_cons] at same
    have further {middle : Bytes} (later : codes.flatMap codeBytes = middle ++ byte :: back)
        (split : front = codeBytes code ++ middle) :
        ∃ before code' after, code :: codes = before ++ code' :: after ∧ code' < 0x80 ∧
          UInt8.ofNat code' = byte ∧ before.flatMap codeBytes = front ∧
          after.flatMap codeBytes = back := by
      obtain ⟨before, code', after, rfl, small, value, rfl, last⟩ := ih others later
      exact ⟨code :: before, code', after, rfl, small, value, split.symm, last⟩
    by_cases small : code < 0x80
    · have single : codeBytes code = [UInt8.ofNat code] := if_pos small
      rw [single] at same further
      cases front with
      | nil =>
        obtain ⟨value, last⟩ := List.cons.inj same
        exact ⟨[], code, codes, rfl, small, value, rfl, last⟩
      | cons first front =>
        obtain ⟨rfl, later⟩ := List.cons.inj same
        exact further later rfl
    · have absent : byte ∉ codeBytes code := by
        intro inside
        have bound : code < 0x110000 := by
          rw [IsScalar] at isScalar
          omega
        exact absurd plain (UInt8.not_lt.mpr (codeBytes_other (not_lt.mp small) bound byte inside))
      obtain ⟨middle, split, later⟩ := exists_of_append_eq absent same
      exact further later split

end Utf8

/-! ## Decoding and encoding -/

/-- The bytes are the encoding of a text. -/
def IsUtf8 (bytes : Bytes) : Prop := ∃ text, encodeUtf8 text = bytes

/-- What is the encoding of a text stays so, and nothing else does. -/
theorem encodeUtf8_decodeUtf8_iff {bytes : Bytes} :
    encodeUtf8 (decodeUtf8 bytes) = bytes ↔ IsUtf8 bytes := by
  constructor
  · exact fun same => ⟨_, same⟩
  · rintro ⟨text, rfl⟩
    have scalar := Utf8.isScalar_codesOf text
    rw [Utf8.encodeUtf8_eq text, decodeUtf8, Utf8.decodeFrom_codes scalar, Utf8.encodeUtf8_eq,
      Utf8.codesOf_flatMap scalar]

theorem encodeUtf8_append_plain (front : Text) {unit : CodeUnit} (plain : unit < 0x80)
    (back : Text) :
    encodeUtf8 (front ++ unit :: back) =
      encodeUtf8 front ++ UInt8.ofNat unit.toNat :: encodeUtf8 back := by
  rw [UInt16.lt_iff_toNat_lt] at plain
  have bytes : Utf8.codeBytes unit.toNat = [UInt8.ofNat unit.toNat] := if_pos plain
  rw [Utf8.encodeUtf8_eq, Utf8.codesOf_append_plain front (UInt16.lt_iff_toNat_lt.mpr plain),
    List.flatMap_append, List.flatMap_cons, bytes, ← Utf8.encodeUtf8_eq, ← Utf8.encodeUtf8_eq]
  rfl

/-- The parts of an encoding before and after a plain byte are encodings. -/
theorem isUtf8_append_plain_iff {front back : Bytes} {byte : UInt8} (plain : byte < 0x80) :
    IsUtf8 (front ++ byte :: back) ↔ IsUtf8 front ∧ IsUtf8 back := by
  constructor
  · rintro ⟨text, encoded⟩
    rw [Utf8.encodeUtf8_eq] at encoded
    obtain ⟨before, code, after, split, small, -, rfl, rfl⟩ :=
      Utf8.exists_of_flatMap (Utf8.isScalar_codesOf text) plain encoded
    obtain ⟨before, unit, after, -, -, rfl, rfl⟩ := Utf8.exists_of_codesOf small split
    exact ⟨⟨before, Utf8.encodeUtf8_eq before⟩, ⟨after, Utf8.encodeUtf8_eq after⟩⟩
  · rintro ⟨⟨before, rfl⟩, ⟨after, rfl⟩⟩
    refine ⟨before ++ plainUnit byte :: after, ?_⟩
    rw [encodeUtf8_append_plain before (Utf8.plainUnit_lt_iff.mpr plain), ← Utf8.eq_of_plainUnit rfl]

/-- No bytes are left out. -/
theorem decodeUtf8_eq_nil_iff {bytes : Bytes} : decodeUtf8 bytes = [] ↔ bytes = [] := by
  constructor
  · intro empty
    cases bytes with
    | nil => rfl
    | cons byte rest =>
      rw [decodeUtf8, Utf8.decodeFrom_cons, List.append_eq_nil_iff] at empty
      obtain ⟨units, later⟩ := empty
      have begins : (Utf8.start byte).1 ≠ [] ∨ ∃ opened, (Utf8.start byte).2 = some opened := by
        rw [Utf8.start]
        cases Utf8.lead byte <;> simp
      rcases begins with some | ⟨opened, begun⟩
      · exact absurd units some
      · rw [Utf8.read, begun] at later
        exact absurd later (Utf8.decodeFrom_some_ne_nil opened rest)
  · rintro rfl
    rfl

theorem decodeUtf8_append_plain (front : Bytes) {byte : UInt8} (plain : byte < 0x80)
    (back : Bytes) :
    decodeUtf8 (front ++ byte :: back) = decodeUtf8 front ++ plainUnit byte :: decodeUtf8 back :=
  @Utf8.decodeFrom_append none (fun _ known => nomatch known) front _ plain back

theorem exists_of_decodeUtf8 {bytes : Bytes} {front back : Text} {unit : CodeUnit}
    (plain : unit < 0x80) (decoded : decodeUtf8 bytes = front ++ unit :: back) :
    ∃ before byte after, bytes = before ++ byte :: after ∧ byte < 0x80 ∧ plainUnit byte = unit ∧
      decodeUtf8 before = front ∧ decodeUtf8 after = back :=
  @Utf8.exists_of_decodeFrom none (fun _ known => nomatch known) _ _ _ _ plain decoded

end Script
