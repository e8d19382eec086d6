import OpticsHub.Script.Text
import Mathlib.Order.Compare

/-!
# Semantic versions

A version has three numbers, the identifiers of a pre-release if it is one, and those of a build.
Its precedence is decided by the numbers from the first to the last. Then a release is above its
pre-releases, and these are compared identifier by identifier: numbers as such, other identifiers
by their units, a number below what is none, and what ends first below what goes on. The build does
not count.
-/
namespace SemanticVersion

open Script

/-- A letter of the Latin alphabet, a digit or a hyphen. -/
def isPlain (unit : CodeUnit) : Bool :=
  unit.isDigit || unit.isUpper || (0x61 ≤ unit && unit ≤ 0x7A) || unit == CodeUnit.minus

/-- An identifier of a pre-release is a number, or it has a unit that is no digit. -/
inductive Identifier where
  | number (value : ℕ)
  | word (units : Text) (plain : ∀ unit ∈ units, isPlain unit = true)
      (other : ∃ unit ∈ units, CodeUnit.isDigit unit = false)

/-- An identifier of a build may also be a run of digits with zeros in front. -/
structure BuildIdentifier where
  units : Text
  plain : ∀ unit ∈ units, isPlain unit = true
  nonempty : units ≠ []

structure Version where
  major : ℕ
  minor : ℕ
  patch : ℕ
  pre : List Identifier := []
  build : List BuildIdentifier := []

/-! ## The text of a version -/

def Identifier.text : Identifier → Text
  | .number value => decimalText value
  | .word units _ _ => units

/-- Identifiers with points between them, after their sign, if there are any. -/
def part (sign : CodeUnit) : List Text → Text
  | [] => []
  | identifiers => sign :: List.intercalate [CodeUnit.point] identifiers

def Version.text (version : Version) : Text :=
  decimalText version.major ++ CodeUnit.point :: (decimalText version.minor ++ CodeUnit.point ::
    (decimalText version.patch ++
      (part CodeUnit.minus (version.pre.map Identifier.text) ++
        part CodeUnit.plus (version.build.map BuildIdentifier.units))))

/-! ## Precedence -/

def Identifier.precedence : Identifier → Identifier → Ordering
  | .number left, .number right => compare left right
  | .number _, .word .. => .lt
  | .word .., .number _ => .gt
  | .word left .., .word right .. => compareOfLessAndEq left right

def prePrecedence : List Identifier → List Identifier → Ordering
  | [], [] => .eq
  | [], _ :: _ => .gt
  | _ :: _, [] => .lt
  | left, right => List.compareLex Identifier.precedence left right

def Version.precedence (left right : Version) : Ordering :=
  (compare left.major right.major).then
    ((compare left.minor right.minor).then
      ((compare left.patch right.patch).then (prePrecedence left.pre right.pre)))

/-! ## Identifiers -/

theorem isPlain_of_isDigit {unit : CodeUnit} (digit : CodeUnit.isDigit unit = true) :
    isPlain unit = true := by
  rw [isPlain, digit]
  rfl

namespace Identifier

theorem text_plain (identifier : Identifier) : ∀ unit ∈ identifier.text, isPlain unit = true := by
  cases identifier with
  | number value =>
    exact fun unit inside => isPlain_of_isDigit (decimalText_digits value unit inside)
  | word units plain other => exact plain

theorem text_ne_nil (identifier : Identifier) : identifier.text ≠ [] := by
  cases identifier with
  | number value => exact decimalText_ne_nil value
  | word units plain other =>
    obtain ⟨unit, inside, -⟩ := other
    exact List.ne_nil_of_mem inside

end Identifier

/-- Identifiers with points between them consist of their units and of points. -/
theorem mem_intercalate {identifiers : List Text} {unit : CodeUnit}
    (inside : unit ∈ List.intercalate [CodeUnit.point] identifiers) :
    unit = CodeUnit.point ∨ ∃ identifier ∈ identifiers, unit ∈ identifier := by
  induction identifiers with
  | nil => cases inside
  | cons first rest ih =>
    cases rest with
    | nil => exact .inr ⟨first, List.mem_cons_self, by simpa using inside⟩
    | cons second rest =>
      rw [List.intercalate_cons_cons, List.mem_append, List.mem_append] at inside
      rcases inside with (front | point) | later
      · exact .inr ⟨first, List.mem_cons_self, front⟩
      · exact .inl (List.mem_singleton.mp point)
      · rcases ih later with point | ⟨identifier, member, there⟩
        · exact .inl point
        · exact .inr ⟨identifier, List.mem_cons_of_mem _ member, there⟩

theorem intercalate_ne_nil {identifiers : List Text} (some : identifiers ≠ [])
    (nonempty : ∀ identifier ∈ identifiers, identifier ≠ []) :
    List.intercalate [CodeUnit.point] identifiers ≠ [] := by
  cases identifiers with
  | nil => exact absurd rfl some
  | cons first rest =>
    have front := nonempty first List.mem_cons_self
    cases rest with
    | nil => simpa using front
    | cons second rest =>
      rw [List.intercalate_cons_cons]
      exact List.append_ne_nil_of_left_ne_nil (List.append_ne_nil_of_left_ne_nil front _) _

end SemanticVersion
