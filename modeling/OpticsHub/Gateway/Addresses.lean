import OpticsHub.Gateway.Request
import OpticsHub.Workspaces.Validation

/-!
# Addresses

An address is made of the labels of a service and a workspace, with points between them and the
domain at the end. All its units are plain, none of them is white space, and its lower case is
unit by unit, so nothing that is done to a text on the way disturbs it.
-/
namespace OpticsHub

open Script

namespace Gateway

open Validation ServiceService

/-! ## Units of an address -/

/-- A unit that an address with a port may have, in lower case. -/
def isAddressUnit (unit : CodeUnit) : Bool :=
  isLabelUnit unit || unit == CodeUnit.minus || unit == CodeUnit.point || unit == CodeUnit.colon

theorem plain_of_isAddressUnit {unit : CodeUnit} (named : isAddressUnit unit = true) :
    unit < 0x80 := by
  simp only [isAddressUnit, isLabelUnit, CodeUnit.isDigit, CodeUnit.minus, CodeUnit.point,
    CodeUnit.colon, Bool.or_eq_true, Bool.and_eq_true, decide_eq_true_eq, beq_iff_eq,
    UInt16.le_iff_toNat_le, UInt16.lt_iff_toNat_lt, ← UInt16.toNat_inj] at *
  simp only [UInt16.reduceToNat] at *
  omega

/-- Whatever the case of a letter of an address is, its lower case is one unit and it is no
white space. -/
theorem toLower_of_isAddressUnit {unit : CodeUnit} (named : isAddressUnit unit.lower = true) :
    unit.toLower = [unit.lower] ∧ unit.isSpace = false := by
  have range : 0x2D ≤ unit.toNat ∧ unit.toNat < 0x80 := by
    by_cases upper : unit.isUpper
    · simp only [CodeUnit.isUpper, Bool.and_eq_true, decide_eq_true_eq,
        UInt16.le_iff_toNat_le] at upper
      simp only [UInt16.reduceToNat] at upper
      omega
    · rw [CodeUnit.lower, if_neg upper] at named
      simp only [isAddressUnit, isLabelUnit, CodeUnit.isDigit, CodeUnit.minus, CodeUnit.point,
        CodeUnit.colon, Bool.or_eq_true, Bool.and_eq_true, decide_eq_true_eq, beq_iff_eq,
        UInt16.le_iff_toNat_le, ← UInt16.toNat_inj] at named
      simp only [UInt16.reduceToNat] at named
      omega
  constructor
  · have kelvin : ¬ unit = 0x212A := by
      rintro rfl
      exact absurd range.2 (by decide)
    have dotted : ¬ unit = 0x130 := by
      rintro rfl
      exact absurd range.2 (by decide)
    rw [CodeUnit.toLower, if_neg (by simpa using kelvin), if_neg (by simpa using dotted)]
  · simp only [CodeUnit.isSpace, UInt16.le_iff_toNat_le, ← UInt16.toNat_inj, Bool.or_eq_false_iff,
      Bool.and_eq_false_iff, decide_eq_false_iff_not, beq_eq_false_iff_ne, ne_eq]
    simp only [UInt16.reduceToNat]
    omega

theorem lower_of_isAddressUnit {unit : CodeUnit} (named : isAddressUnit unit = true) :
    unit.lower = unit := by
  rw [CodeUnit.lower, if_neg]
  simp only [isAddressUnit, isLabelUnit, CodeUnit.isDigit, CodeUnit.minus, CodeUnit.point,
    CodeUnit.colon, CodeUnit.isUpper, Bool.or_eq_true, Bool.and_eq_true, decide_eq_true_eq,
    beq_iff_eq, UInt16.le_iff_toNat_le, ← UInt16.toNat_inj] at *
  simp only [UInt16.reduceToNat] at *
  omega

/-- A text whose lower case has units of an address only. -/
def Spells (text : Text) : Prop := ∀ unit ∈ text, isAddressUnit unit.lower = true

theorem Spells.toLowerCase {text : Text} (spells : Spells text) :
    text.toLowerCase = text.map CodeUnit.lower := by
  induction text with
  | nil => rfl
  | cons unit rest ih =>
    have first := (toLower_of_isAddressUnit (spells unit List.mem_cons_self)).1
    have others := ih fun other inside => spells other (List.mem_cons_of_mem _ inside)
    rw [Text.toLowerCase, List.flatMap_cons, first, ← Text.toLowerCase, others]
    rfl

/-- White space is dropped up to the first unit of a text without any. -/
theorem Spells.dropWhile {blank text : Text} (spells : Spells text) (some : text ≠ [])
    (blanks : ∀ unit ∈ blank, unit.isSpace = true) (rest : Text) :
    (blank ++ (text ++ rest)).dropWhile CodeUnit.isSpace = text ++ rest := by
  rw [List.dropWhile_append_of_pos blanks]
  obtain ⟨unit, units, rfl⟩ := List.exists_cons_of_ne_nil some
  have visible := (toLower_of_isAddressUnit (spells unit List.mem_cons_self)).2
  rw [List.cons_append, List.dropWhile_cons_of_neg (by simp [visible])]

theorem Spells.trim {text trailing : Text} (spells : Spells text) (some : text ≠ [])
    (blanks : ∀ unit ∈ trailing, unit.isSpace = true) : (text ++ trailing).trim = text := by
  have front : (text ++ trailing).dropWhile CodeUnit.isSpace = text ++ trailing :=
    spells.dropWhile some (fun _ inside => absurd inside List.not_mem_nil) trailing
  have turned : Spells text.reverse := fun unit inside => spells unit (List.mem_reverse.mp inside)
  have back := turned.dropWhile (by simpa using some)
    (fun unit inside => blanks unit (List.mem_reverse.mp inside)) []
  rw [List.append_nil] at back
  rw [Text.trim, front, List.reverse_append, back, List.reverse_reverse]

/-! ## Labels -/

theorem isSubdomainLabel_iff (text : Text) :
    isSubdomainLabel text = true ↔
      (1 ≤ text.length ∧ text.length ≤ 63) ∧ isLabel text = true := by
  simp only [isSubdomainLabel, isLabel, Bool.and_eq_true, decide_eq_true_eq, and_assoc]

theorem isAddressUnit_of_isLabel {text : Text} (label : isLabel text = true) :
    ∀ unit ∈ text, isAddressUnit unit = true ∧ unit ≠ CodeUnit.point ∧ unit ≠ CodeUnit.colon := by
  intro unit inside
  simp only [isLabel, Bool.and_eq_true, List.all_eq_true] at label
  have named := label.1.1 unit inside
  refine ⟨?_, ?_, ?_⟩
  · rw [isAddressUnit, named, Bool.true_or, Bool.true_or]
  · rintro rfl
    exact absurd named (by decide)
  · rintro rfl
    exact absurd named (by decide)

theorem spells_of_forall {text : Text} (all : ∀ unit ∈ text, isAddressUnit unit = true) :
    Spells text := by
  intro unit inside
  rw [lower_of_isAddressUnit (all unit inside)]
  exact all unit inside

/-! ## Addresses -/

/-- The labels of an address, in order. -/
def addressLabels (serviceSubdomain workspaceSubdomain : Text) : List Text :=
  (if serviceSubdomain.isEmpty then [] else [serviceSubdomain]) ++
    [workspaceSubdomain, Text.ofString "optics", Text.ofString "run"]

/-- The address under which an endpoint is published. -/
def addressOf (serviceSubdomain workspaceSubdomain : Text) : Text :=
  List.intercalate [CodeUnit.point] (addressLabels serviceSubdomain workspaceSubdomain)

/-- The text after a host: nothing, or a port. -/
def IsPort (text : Text) : Prop :=
  text = [] ∨ ∃ digits, text = CodeUnit.colon :: digits ∧ digits ≠ [] ∧
    ∀ unit ∈ digits, CodeUnit.isDigit unit = true

theorem IsPort.units {port : Text} (isPort : IsPort port) :
    ∀ unit ∈ port, isAddressUnit unit = true ∧ unit ≠ CodeUnit.point := by
  rcases isPort with rfl | ⟨digits, rfl, -, all⟩
  · exact fun _ inside => absurd inside List.not_mem_nil
  · intro unit inside
    rcases List.mem_cons.mp inside with rfl | digit
    · exact ⟨by decide, by decide⟩
    · have digit := all unit digit
      refine ⟨by simp [isAddressUnit, isLabelUnit, digit], ?_⟩
      rintro rfl
      exact absurd digit (by decide)

/-- What follows the name of the header is its value without the white space around. -/
theorem hostOf_eq {name blank text trailing : Text} (named : name.map CodeUnit.lower = hostName)
    (blanks : ∀ unit ∈ blank, unit.isSpace = true) (spells : Spells text) (some : text ≠ [])
    (trails : ∀ unit ∈ trailing, unit.isSpace = true) :
    hostOf (name ++ (blank ++ (text ++ trailing))) = text := by
  have length : name.length = hostName.length := by rw [← named, List.length_map]
  rw [hostOf, withoutName, ← length, List.take_left, if_pos named, List.drop_left,
    spells.dropWhile some blanks, spells.trim some trails]

/-- The labels of an address are read back from it. -/
theorem splitOn_addressOf {serviceSubdomain workspaceSubdomain : Text}
    (stored : serviceSubdomain = [] ∨ isSubdomainLabel serviceSubdomain = true)
    (label : isSubdomainLabel workspaceSubdomain = true) :
    (addressOf serviceSubdomain workspaceSubdomain).splitOn CodeUnit.point =
      addressLabels serviceSubdomain workspaceSubdomain := by
  have pointless {text : Text} (label : isSubdomainLabel text = true) :
      CodeUnit.point ∉ text := by
    intro inside
    exact (isAddressUnit_of_isLabel ((isSubdomainLabel_iff text).mp label).2 _ inside).2.1 rfl
  refine List.splitOn_intercalate CodeUnit.point ?_ (by simp [addressLabels])
  intro text inside
  simp only [addressLabels, List.mem_append, List.mem_cons, List.not_mem_nil, or_false] at inside
  rcases inside with service | rfl | rfl | rfl
  · split at service
    · cases service
    · rename_i nonempty
      rw [List.mem_singleton.mp service]
      exact pointless (stored.resolve_left (by simpa using nonempty))
  · exact pointless label
  · decide
  · decide

/-- The end of every address. -/
def domain : Text := ".optics.run"

theorem addressOf_eq (serviceSubdomain workspaceSubdomain : Text) :
    addressOf serviceSubdomain workspaceSubdomain =
      (if serviceSubdomain.isEmpty then [] else serviceSubdomain ++ [CodeUnit.point]) ++
        (workspaceSubdomain ++ domain) := by
  have spelled : domain =
      CodeUnit.point :: (Text.ofString "optics" ++ CodeUnit.point :: Text.ofString "run") := rfl
  rw [spelled]
  cases serviceSubdomain with
  | nil => simp [addressOf, addressLabels, List.intercalate]
  | cons unit rest => simp [addressOf, addressLabels, List.intercalate]

/-- An address is made of units of an address and has no colon. -/
theorem units_addressOf {serviceSubdomain workspaceSubdomain : Text}
    (stored : serviceSubdomain = [] ∨ isSubdomainLabel serviceSubdomain = true)
    (label : isSubdomainLabel workspaceSubdomain = true) :
    ∀ unit ∈ addressOf serviceSubdomain workspaceSubdomain,
      isAddressUnit unit = true ∧ unit ≠ CodeUnit.colon := by
  have units {text : Text} (label : isSubdomainLabel text = true) :
      ∀ unit ∈ text, isAddressUnit unit = true ∧ unit ≠ CodeUnit.colon := by
    intro unit inside
    have known := isAddressUnit_of_isLabel ((isSubdomainLabel_iff text).mp label).2 unit inside
    exact ⟨known.1, known.2.2⟩
  intro unit inside
  rw [addressOf_eq] at inside
  rcases List.mem_append.mp inside with service | later
  · split at service
    · cases service
    · rename_i nonempty
      rcases List.mem_append.mp service with first | point
      · exact units (stored.resolve_left (by simpa using nonempty)) unit first
      · rw [List.mem_singleton.mp point]
        decide
  · rcases List.mem_append.mp later with workspace | last
    · exact units label unit workspace
    · have ending : domain.all (fun unit => isAddressUnit unit && unit != CodeUnit.colon) = true :=
        by decide
      simpa using List.all_eq_true.mp ending unit last

end Gateway

end OpticsHub
