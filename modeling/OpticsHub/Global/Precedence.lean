import OpticsHub.Global.Semver
import OpticsHub.Script.Whole
import Mathlib.Order.Std
import Mathlib.Order.WithBot

/-!
# The precedence of versions

The comparison of versions orders all texts, those too that are not versions: of any two, one
comes first, and what comes before something comes before all that follows it. What is not a number
is equal to all and could break this. But digits denote a number, and where the difference of two
infinite ones is none, the identifiers after these do not count in any comparison.
-/
namespace OpticsHub

open Script
open Std (TransCmp OrientedCmp TransOrd)

namespace Semver

/-! ## Numbers -/

/-- The place of a number among the numbers. -/
def place : Number → WithBot (WithTop ℚ)
  | .finite decimal => ((decimal.toRat : WithTop ℚ) : WithBot (WithTop ℚ))
  | .infinity false => ((⊤ : WithTop ℚ) : WithBot (WithTop ℚ))
  | .infinity true | .nan => ⊥

theorem less_eq_place {left right : Number} (first : left ≠ .nan) (second : right ≠ .nan) :
    left.less right = decide (place left < place right) := by
  cases left with
  | nan => exact absurd rfl first
  | finite left =>
    cases right with
    | nan => exact absurd rfl second
    | finite right => simp [Number.less, place]
    | infinity negative =>
      cases negative with
      | false =>
        exact (decide_eq_true (WithBot.coe_lt_coe.mpr (WithTop.coe_lt_top left.toRat))).symm
      | true => simp [Number.less, place]
  | infinity negative =>
    cases right with
    | nan => exact absurd rfl second
    | finite right =>
      cases negative with
      | false => simp [Number.less, place]
      | true => exact (decide_eq_true (WithBot.bot_lt_coe _)).symm
    | infinity negative' => cases negative <;> cases negative' <;> simp [Number.less, place]

/-- Numbers are compared by their places. -/
theorem compareNumbers_eq {left right : Number} (first : left ≠ .nan) (second : right ≠ .nan) :
    compareNumbers left right = compare (place left) (place right) := by
  rw [compareNumbers, less_eq_place first second, less_eq_place second first]
  simp only [decide_eq_true_eq]
  split
  · rename_i lower
    exact (compare_lt_iff_lt.mpr lower).symm
  · split
    · rename_i higher
      exact (compare_gt_iff_gt.mpr higher).symm
    · rename_i notLower notHigher
      exact (compare_eq_iff_eq.mpr (le_antisymm (not_lt.mp notHigher) (not_lt.mp notLower))).symm

theorem ofRat_ne_nan (q : ℚ) : Number.ofRat q ≠ .nan := by
  rw [Number.ofRat]
  split
  · simp
  · split <;> simp

/-- Digits denote a number. -/
theorem toNumber_ne_nan {digits : Text} (some : digits ≠ [])
    (all : ∀ unit ∈ digits, CodeUnit.isDigit unit = true) : digits.toNumber ≠ .nan := by
  rw [toNumber_digits some all]
  exact ofRat_ne_nan _

theorem toNumber_isNumeric {identifier : Text} (numeric : isNumeric identifier = true) :
    identifier.toNumber ≠ .nan := by
  rw [isNumeric, Bool.and_eq_true, Bool.not_eq_true', List.isEmpty_eq_false_iff,
    List.all_eq_true] at numeric
  exact toNumber_ne_nan numeric.1 numeric.2

/-! ## Identifiers -/

/-- Texts are compared unit by unit. -/
def compareTexts (left right : Text) : Ordering :=
  if left < right then .lt else if right < left then .gt else .eq

theorem compareTexts_eq : compareTexts = fun left right : Text => compareOfLessAndEq left right := by
  funext left right
  rw [compareTexts, compareOfLessAndEq]
  by_cases lower : left < right
  · rw [if_pos lower, if_pos lower]
  · rw [if_neg lower, if_neg lower]
    by_cases same : left = right
    · subst same
      rw [if_neg lower, if_pos rfl]
    · rw [if_neg same, if_pos]
      by_contra higher
      exact same (List.le_antisymm (List.not_lt.mp higher) (List.not_lt.mp lower))

instance : TransCmp compareTexts := by
  rw [compareTexts_eq]
  apply TransOrd.compareOfLessAndEq_of_lt_trans_of_lt_iff
  · exact fun first second => List.lt_trans first second
  · intro left right
    constructor
    · intro lower
      exact ⟨List.lt_asymm lower, fun same => List.lt_irrefl _ (same ▸ lower)⟩
    · rintro ⟨notHigher, different⟩
      by_contra notLower
      exact different (List.le_antisymm (List.not_lt.mp notHigher) (List.not_lt.mp notLower))

/-- A numeric identifier is compared as a number, any other as a text. -/
theorem comparePreIdentifier_eq : comparePreIdentifier =
    compareLex (compareOn fun identifier => !isNumeric identifier)
      (compareLex (compareOn fun identifier : Text =>
          if isNumeric identifier then place identifier.toNumber else ⊥)
        fun left right : Text => compareTexts (if isNumeric left then [] else left)
          (if isNumeric right then [] else right)) := by
  funext left right
  simp only [comparePreIdentifier, compareLex, compareOn]
  cases first : isNumeric left <;> cases second : isNumeric right
  · simp [compareTexts]
  · rfl
  · rfl
  · simp [compareNumbers_eq (toNumber_isNumeric first) (toNumber_isNumeric second), compareTexts]

instance : TransCmp fun left right : Text => compareTexts (if isNumeric left then [] else left)
    (if isNumeric right then [] else right) where
  eq_swap := OrientedCmp.eq_swap
  isLE_trans := TransCmp.isLE_trans

instance : TransCmp comparePreIdentifier := by
  rw [comparePreIdentifier_eq]
  infer_instance

/-- The identifiers that count: those up to the first infinite number. -/
def upToInfinite : List Text → List Text
  | [] => []
  | identifier :: rest =>
    if isInfinite identifier then [identifier] else identifier :: upToInfinite rest

theorem place_eq_top {number : Number} (top : place number = ((⊤ : WithTop ℚ) : WithBot _)) :
    number = .infinity false := by
  cases number with
  | nan => cases top
  | finite decimal => cases top
  | infinity negative =>
    cases negative with
    | false => rfl
    | true => cases top

theorem isInfinite_iff {identifier : Text} :
    isInfinite identifier = true ↔
      isNumeric identifier = true ∧ identifier.toNumber = .infinity false := by
  rw [isInfinite, Bool.and_eq_true, beq_iff_eq]

/-- An infinite number equals only infinite numbers. -/
theorem isInfinite_of_eq {left right : Text} (same : comparePreIdentifier left right = .eq)
    (infinite : isInfinite left = true) : isInfinite right = true := by
  obtain ⟨numeric, infinity⟩ := isInfinite_iff.mp infinite
  rw [comparePreIdentifier, numeric, Bool.true_and] at same
  cases numeric' : isNumeric right with
  | false =>
    rw [numeric'] at same
    cases same
  | true =>
    rw [if_pos numeric', compareNumbers_eq (toNumber_isNumeric numeric)
      (toNumber_isNumeric numeric'), compare_eq_iff_eq, infinity] at same
    exact isInfinite_iff.mpr ⟨numeric', place_eq_top same.symm⟩

theorem eq_of_isInfinite {left right : Text} (infinite : isInfinite left = true)
    (infinite' : isInfinite right = true) : comparePreIdentifier left right = .eq := by
  obtain ⟨numeric, infinity⟩ := isInfinite_iff.mp infinite
  obtain ⟨numeric', infinity'⟩ := isInfinite_iff.mp infinite'
  rw [comparePreIdentifier, numeric, numeric', Bool.and_self, if_pos rfl, infinity, infinity']
  rfl

theorem compareIdentifiers_eq (left right : List Text) : compareIdentifiers left right =
    List.compareLex comparePreIdentifier (upToInfinite left) (upToInfinite right) := by
  induction left generalizing right with
  | nil =>
    cases right with
    | nil => rfl
    | cons identifier rest =>
      rw [upToInfinite, upToInfinite]
      split <;> rfl
  | cons identifier rest ih =>
    cases right with
    | nil =>
      rw [upToInfinite, upToInfinite]
      split <;> rfl
    | cons identifier' rest' =>
      rw [compareIdentifiers, upToInfinite, upToInfinite]
      cases infinite : isInfinite identifier <;> cases infinite' : isInfinite identifier'
      · simp only [Bool.and_self, Bool.false_eq_true, if_false, List.compareLex_cons_cons, ih]
      · -- a number that is infinite and one that is not differ
        simp only [Bool.and_true, Bool.false_eq_true, if_false, if_true, List.compareLex_cons_cons]
        cases order : comparePreIdentifier identifier identifier' with
        | lt => rfl
        | gt => rfl
        | eq =>
          have swapped : comparePreIdentifier identifier' identifier =
              (comparePreIdentifier identifier identifier').swap := OrientedCmp.eq_swap
          rw [order] at swapped
          rw [isInfinite_of_eq swapped infinite'] at infinite
          cases infinite
      · simp only [Bool.and_false, Bool.false_eq_true, if_false, if_true, List.compareLex_cons_cons]
        cases order : comparePreIdentifier identifier identifier' with
        | lt => rfl
        | gt => rfl
        | eq =>
          rw [isInfinite_of_eq order infinite] at infinite'
          cases infinite'
      · simp only [Bool.and_self, if_true, List.compareLex_cons_cons,
          eq_of_isInfinite infinite infinite']
        rfl

instance : TransCmp compareIdentifiers where
  eq_swap {left right} := by
    rw [compareIdentifiers_eq, compareIdentifiers_eq]
    exact OrientedCmp.eq_swap
  isLE_trans {first second third} earlier later := by
    rw [compareIdentifiers_eq] at earlier later ⊢
    exact TransCmp.isLE_trans earlier later

/-- What has no identifiers is higher; otherwise these are compared. -/
theorem comparePre_eq :
    comparePre = compareLex (compareOn List.isEmpty) compareIdentifiers := by
  funext left right
  cases left <;> cases right <;> rfl

instance : TransCmp comparePre := by
  rw [comparePre_eq]
  infer_instance

/-! ## Versions -/

/-- The comparison of parsed versions, by the places of their numbers. -/
def compareParsed : Parsed → Parsed → Ordering :=
  compareLex (compareOn fun parsed => place parsed.major)
    (compareLex (compareOn fun parsed => place parsed.minor)
      (compareLex (compareOn fun parsed => place parsed.patch)
        fun left right => comparePre left.pre right.pre))

instance : TransCmp fun left right : Parsed => comparePre left.pre right.pre where
  eq_swap := OrientedCmp.eq_swap
  isLE_trans := TransCmp.isLE_trans

instance : TransCmp compareParsed :=
  inferInstanceAs (TransCmp (compareLex _ _))

/-- What is not a version comes first. -/
def compareVersions (left right : Option Parsed) : Ordering :=
  match left, right with
  | none, none => .eq
  | none, some _ => .lt
  | some _, none => .gt
  | some left, some right => compareParsed left right

instance : TransCmp compareVersions where
  eq_swap {left right} := by
    cases left <;> cases right
    · rfl
    · rfl
    · rfl
    · rename_i left right
      exact (OrientedCmp.eq_swap : compareParsed left right = _)
  isLE_trans {first second third} earlier later := by
    cases first with
    | none => cases third <;> rfl
    | some first =>
      cases second with
      | none => cases earlier
      | some second =>
        cases third with
        | none => cases later
        | some third =>
          have related : (compareParsed first third).isLE :=
            TransCmp.isLE_trans (b := second) earlier later
          exact related

theorem parseDigits_ne_nan {text digits rest : Text}
    (parsed : Json.parseDigits text = some (digits, rest)) : digits.toNumber ≠ .nan := by
  simp only [Json.parseDigits, List.span_eq_takeWhile_dropWhile] at parsed
  split at parsed
  · cases parsed
  · rename_i some
    obtain ⟨rfl, -⟩ := Prod.mk.inj (Option.some.inj parsed)
    refine toNumber_ne_nan (by simpa using some) fun unit inside => ?_
    exact List.mem_takeWhile_imp inside

theorem parseSemver_ne_nan {version : Text} {parsed : Parsed}
    (read : parseSemver version = some parsed) :
    parsed.major ≠ .nan ∧ parsed.minor ≠ .nan ∧ parsed.patch ≠ .nan := by
  simp only [parseSemver, Option.bind_eq_bind, Option.bind_eq_some_iff] at read
  obtain ⟨⟨major, _⟩, first, _, -, ⟨minor, _⟩, second, _, -, ⟨patch, _⟩, third, _, -, _, -, last⟩ :=
    read
  split at last
  · obtain rfl := Option.some.inj last
    exact ⟨parseDigits_ne_nan first, parseDigits_ne_nan second, parseDigits_ne_nan third⟩
  · cases last

theorem compareSemver_eq (left right : Text) :
    compareSemver left right = compareVersions (parseSemver left) (parseSemver right) := by
  rw [compareSemver]
  cases first : parseSemver left with
  | none => cases parseSemver right <;> rfl
  | some left =>
    cases second : parseSemver right with
    | none => rfl
    | some right =>
      obtain ⟨major, minor, patch⟩ := parseSemver_ne_nan first
      obtain ⟨major', minor', patch'⟩ := parseSemver_ne_nan second
      simp only [compareVersions, compareParsed, compareLex, compareOn,
        compareNumbers_eq major major', compareNumbers_eq minor minor',
        compareNumbers_eq patch patch']

/-- The comparison of versions orders all texts. -/
instance : TransCmp compareSemver where
  eq_swap {left right} := by
    rw [compareSemver_eq left, compareSemver_eq right]
    exact OrientedCmp.eq_swap
  isLE_trans {first second third} earlier later := by
    rw [compareSemver_eq] at earlier later ⊢
    exact TransCmp.isLE_trans earlier later

end Semver

end OpticsHub
