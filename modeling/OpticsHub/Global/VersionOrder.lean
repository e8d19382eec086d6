import OpticsHub.Global.Precedence
import OpticsHub.Global.SemanticVersion
import OpticsHub.Global.VersionGrammar

/-!
# The comparison of versions is their precedence

The text of a semantic version is spelled as the parser wants it. Its numbers, where they are safe
integers, are read as themselves, so that what is compared is what the precedence compares. For
other texts the comparison is still an order in which those that are no versions come first.
-/
namespace OpticsHub

open Script
open SemanticVersion (Version Identifier BuildIdentifier prePrecedence)
open Std (OrientedCmp TransCmp)

namespace Semver

/-! ## The text of a semantic version -/

theorem isIdentifierUnit_of_isPlain {unit : CodeUnit}
    (plain : SemanticVersion.isPlain unit = true) : isIdentifierUnit unit = true := by
  simp only [SemanticVersion.isPlain, isIdentifierUnit, Bool.or_eq_true] at plain ⊢
  rcases plain with others | hyphen
  · exact .inl (.inl others)
  · exact .inr hyphen

/-- Identifiers with points between them, as they are spelled. -/
def unitsOf (identifiers : List Text) (some : identifiers ≠ [])
    (nonempty : ∀ identifier ∈ identifiers, identifier ≠ [])
    (plain : ∀ identifier ∈ identifiers, ∀ unit ∈ identifier,
      SemanticVersion.isPlain unit = true) : Units isIdentifierUnit where
  units := List.intercalate [CodeUnit.point] identifiers
  nonempty := SemanticVersion.intercalate_ne_nil some nonempty
  all := by
    intro unit inside
    rcases SemanticVersion.mem_intercalate inside with rfl | ⟨identifier, member, there⟩
    · decide
    · exact isIdentifierUnit_of_isPlain (plain identifier member unit there)

/-- An optional part of a semantic version is spelled as one. -/
theorem exists_part (sign : CodeUnit) {identifiers : List Text}
    (nonempty : ∀ identifier ∈ identifiers, identifier ≠ [])
    (plain : ∀ identifier ∈ identifiers, ∀ unit ∈ identifier,
      SemanticVersion.isPlain unit = true) :
    ∃ spelled : Option (Units isIdentifierUnit),
      Spelling.part sign spelled = SemanticVersion.part sign identifiers ∧
      (spelled.map fun run => run.units.splitOn CodeUnit.point).getD [] = identifiers := by
  cases identifiers with
  | nil => exact ⟨none, rfl, rfl⟩
  | cons first rest =>
    refine ⟨some (unitsOf (first :: rest) (List.cons_ne_nil _ _) nonempty plain), rfl, ?_⟩
    refine List.splitOn_intercalate CodeUnit.point ?_ (List.cons_ne_nil _ _)
    intro identifier member inside
    exact absurd (plain identifier member _ inside) (by decide)

def digitsOf (value : ℕ) : Units CodeUnit.isDigit :=
  ⟨decimalText value, decimalText_ne_nil value, decimalText_digits value⟩

theorem parseSemver_version (version : Version) :
    parseSemver version.text = some {
      major := (decimalText version.major).toNumber
      minor := (decimalText version.minor).toNumber
      patch := (decimalText version.patch).toNumber
      pre := version.pre.map Identifier.text } := by
  obtain ⟨pre, preSpelled, preRead⟩ := @exists_part CodeUnit.minus
    (version.pre.map Identifier.text)
    (List.forall_mem_map.mpr fun identifier _ => identifier.text_ne_nil)
    (List.forall_mem_map.mpr fun identifier _ => identifier.text_plain)
  obtain ⟨build, buildSpelled, -⟩ := @exists_part CodeUnit.plus
    (version.build.map BuildIdentifier.units)
    (List.forall_mem_map.mpr fun identifier _ => identifier.nonempty)
    (List.forall_mem_map.mpr fun identifier _ => identifier.plain)
  let spelling : Spelling :=
    ⟨digitsOf version.major, digitsOf version.minor, digitsOf version.patch, pre, build⟩
  have spelled : version.text = spelling.text := by
    rw [Version.text, Spelling.text, preSpelled, buildSpelled]
    rfl
  rw [spelled, Spelling.parseSemver_text, Spelling.parsed, preRead]
  rfl

/-! ## Numbers -/

theorem toNumber_safe {value : ℕ} (safe : value < 2 ^ 53) :
    (decimalText value).toNumber = .finite (Decimal.ofInt value) := by
  cases value with
  | zero =>
    rw [toNumber_digits (decimalText_ne_nil 0) (decimalText_digits 0), decimalValue_decimalText,
      Nat.cast_zero, Number.ofRat, if_pos rfl]
    rfl
  | succ value => exact toNumber_decimalText (Nat.succ_pos value) safe

/-- Safe integers are compared as numbers. -/
theorem compareNumbers_safe {left right : ℕ} (safe : left < 2 ^ 53) (safe' : right < 2 ^ 53) :
    compareNumbers (decimalText left).toNumber (decimalText right).toNumber =
      compare left right := by
  simp only [toNumber_safe safe, toNumber_safe safe', compareNumbers, Number.less,
    Decimal.toRat_ofInt, Int.cast_natCast, Nat.cast_lt, decide_eq_true_eq]
  rcases lt_trichotomy left right with lower | rfl | higher
  · rw [if_pos lower, compare_lt_iff_lt.mpr lower]
  · rw [if_neg (lt_irrefl _), if_neg (lt_irrefl _), compare_eq_iff_eq.mpr rfl]
  · rw [if_neg (lt_asymm higher), if_pos higher, compare_gt_iff_gt.mpr higher]

/-! ## Identifiers -/

/-- The number of an identifier, if it is one, is a safe integer. -/
def SafeIdentifier : Identifier → Prop
  | .number value => value < 2 ^ 53
  | .word .. => True

/-- The numbers of a version are safe integers. -/
structure Safe (version : Version) : Prop where
  major : version.major < 2 ^ 53
  minor : version.minor < 2 ^ 53
  patch : version.patch < 2 ^ 53
  pre : ∀ identifier ∈ version.pre, SafeIdentifier identifier

theorem isNumeric_number (value : ℕ) : isNumeric (Identifier.number value).text = true := by
  rw [isNumeric, Bool.and_eq_true, Bool.not_eq_true', List.isEmpty_eq_false_iff,
    List.all_eq_true]
  exact ⟨decimalText_ne_nil value, decimalText_digits value⟩

theorem isNumeric_word {units : Text}
    (plain : ∀ unit ∈ units, SemanticVersion.isPlain unit = true)
    (other : ∃ unit ∈ units, CodeUnit.isDigit unit = false) :
    isNumeric (Identifier.word units plain other).text = false := by
  obtain ⟨unit, inside, letter⟩ := other
  rw [isNumeric, Bool.and_eq_false_iff, List.all_eq_false]
  exact .inr ⟨unit, inside, by simp [letter]⟩

theorem comparePreIdentifier_text {left right : Identifier} (safe : SafeIdentifier left)
    (safe' : SafeIdentifier right) :
    comparePreIdentifier left.text right.text = left.precedence right := by
  rw [comparePreIdentifier]
  cases left with
  | number left =>
    cases right with
    | number right =>
      rw [isNumeric_number, isNumeric_number, Bool.and_self, if_pos rfl]
      exact compareNumbers_safe safe safe'
    | word right plain other =>
      rw [isNumeric_number, isNumeric_word]
      rfl
  | word left plain other =>
    cases right with
    | number right =>
      rw [isNumeric_number, isNumeric_word]
      rfl
    | word right plain' other' =>
      rw [isNumeric_word, isNumeric_word]
      exact congrFun (congrFun compareTexts_eq left) right

/-- A safe integer is finite. -/
theorem not_isInfinite {identifier : Identifier} (safe : SafeIdentifier identifier) :
    isInfinite identifier.text = false := by
  rw [Bool.eq_false_iff]
  intro infinite
  obtain ⟨numeric, infinity⟩ := isInfinite_iff.mp infinite
  cases identifier with
  | number value =>
    rw [Identifier.text, toNumber_safe safe] at infinity
    cases infinity
  | word units plain other =>
    rw [isNumeric_word] at numeric
    cases numeric

theorem compareIdentifiers_text {left right : List Identifier}
    (safe : ∀ identifier ∈ left, SafeIdentifier identifier)
    (safe' : ∀ identifier ∈ right, SafeIdentifier identifier) :
    compareIdentifiers (left.map Identifier.text) (right.map Identifier.text) =
      List.compareLex Identifier.precedence left right := by
  induction left generalizing right with
  | nil => cases right <;> rfl
  | cons identifier rest ih =>
    cases right with
    | nil => rfl
    | cons identifier' rest' =>
      obtain ⟨first, others⟩ := List.forall_mem_cons.mp safe
      obtain ⟨first', others'⟩ := List.forall_mem_cons.mp safe'
      rw [List.map_cons, List.map_cons, compareIdentifiers, not_isInfinite first, Bool.false_and,
        if_neg Bool.false_ne_true, comparePreIdentifier_text first first', ih others others',
        List.compareLex_cons_cons]

theorem comparePre_text {left right : List Identifier}
    (safe : ∀ identifier ∈ left, SafeIdentifier identifier)
    (safe' : ∀ identifier ∈ right, SafeIdentifier identifier) :
    comparePre (left.map Identifier.text) (right.map Identifier.text) =
      prePrecedence left right := by
  cases left with
  | nil => cases right <;> rfl
  | cons identifier rest =>
    cases right with
    | nil => rfl
    | cons identifier' rest' => exact compareIdentifiers_text safe safe'

/-- The comparison of the texts of two versions is their precedence. -/
theorem compareSemver_version {left right : Version} (safe : Safe left) (safe' : Safe right) :
    compareSemver left.text right.text = left.precedence right := by
  rw [compareSemver, parseSemver_version, parseSemver_version]
  simp only [compareNumbers_safe safe.major safe'.major, compareNumbers_safe safe.minor safe'.minor,
    compareNumbers_safe safe.patch safe'.patch, comparePre_text safe.pre safe'.pre]
  rfl

/-! ## All texts -/

/-- A comparison of texts that is a total preorder, in which what is no version comes first and
build metadata does not count, and which is the precedence of semantic versions. -/
structure FollowsPrecedence (order : Text → Text → Ordering) : Prop where
  antisymmetric : ∀ left right, order left right = (order right left).swap
  transitive : ∀ first second third, (order first second).isLE = true →
    (order second third).isLE = true → (order first third).isLE = true
  equivalent : ∀ left right, parseSemver left = none → parseSemver right = none →
    order left right = .eq
  below : ∀ left right, parseSemver left = none → (parseSemver right).isSome = true →
    order left right = .lt
  build : ∀ left right, (parseSemver left).isSome = true →
    order (withoutBuild left) right = order left right
  precedence : ∀ left right : Version, Safe left → Safe right →
    order left.text right.text = left.precedence right

theorem compareSemver_follows : FollowsPrecedence compareSemver where
  antisymmetric _ _ := OrientedCmp.eq_swap
  transitive _ _ _ := TransCmp.isLE_trans
  equivalent left right first second := by rw [compareSemver, first, second]
  below left right first second := by
    obtain ⟨parsed, read⟩ := Option.isSome_iff_exists.mp second
    rw [compareSemver, first, read]
  build left right read := by rw [compareSemver, parseSemver_withoutBuild read, compareSemver]
  precedence _ _ := compareSemver_version

end Semver

end OpticsHub
