import OpticsHub.Global.Semver
import OpticsHub.Script.Numerals

/-!
# How versions are spelled

A text is read as a version exactly if it is one, with white space around it: three runs of
digits with points between them, then perhaps a minus and identifiers, then perhaps a plus and
identifiers. What follows the plus is read and left out, so a version without it is read as the
same.
-/
namespace OpticsHub

open Script

namespace Semver

/-- Units of one kind, of which there is one at least. -/
structure Units (kind : CodeUnit → Bool) where
  units : Text
  nonempty : units ≠ []
  all : ∀ unit ∈ units, kind unit = true

/-- The parts of a version as they are written. -/
structure Spelling where
  major : Units CodeUnit.isDigit
  minor : Units CodeUnit.isDigit
  patch : Units CodeUnit.isDigit
  pre : Option (Units isIdentifierUnit)
  build : Option (Units isIdentifierUnit)

namespace Spelling

/-- An optional part with its sign. -/
def part (sign : CodeUnit) : Option (Units isIdentifierUnit) → Text
  | none => []
  | some identifiers => sign :: identifiers.units

def text (spelling : Spelling) : Text :=
  spelling.major.units ++ CodeUnit.point :: (spelling.minor.units ++ CodeUnit.point ::
    (spelling.patch.units ++
      (part CodeUnit.minus spelling.pre ++ part CodeUnit.plus spelling.build)))

/-- What a version that is spelled so is read as. -/
def parsed (spelling : Spelling) : Parsed where
  major := spelling.major.units.toNumber
  minor := spelling.minor.units.toNumber
  patch := spelling.patch.units.toNumber
  pre := (spelling.pre.map fun identifiers => identifiers.units.splitOn CodeUnit.point).getD []

end Spelling

open Spelling (part)

/-! ## Reading what is spelled -/

theorem parseDigits_units (digits : Units CodeUnit.isDigit) {rest : Text}
    (ends : Delimited CodeUnit.isDigit rest) :
    Json.parseDigits (digits.units ++ rest) = some (digits.units, rest) := by
  rw [Json.parseDigits, span_run digits.all ends]
  simp [digits.nonempty]

theorem parsePart_part {sign : CodeUnit} (identifiers : Option (Units isIdentifierUnit))
    {rest : Text} (ends : Delimited isIdentifierUnit rest) (other : rest.head? ≠ some sign) :
    parsePart sign (part sign identifiers ++ rest) =
      some (identifiers.map Units.units, rest) := by
  cases identifiers with
  | none =>
    cases rest with
    | nil => rfl
    | cons unit rest =>
      have differs : unit ≠ sign := fun same => other (congrArg some same)
      rw [part, List.nil_append, parsePart, if_neg differs]
      rfl
  | some identifiers =>
    rw [part, List.cons_append, parsePart, if_pos rfl, span_run identifiers.all ends]
    simp [identifiers.nonempty]

theorem dropPrefix_unit_iff {unit : CodeUnit} {text rest : Text} :
    Json.dropPrefix [unit] text = some rest ↔ text = unit :: rest := by
  rw [Json.dropPrefix]
  cases text with
  | nil => simp
  | cons first tail =>
    by_cases same : unit = first
    · simp [same]
    · simp [same, Ne.symm same]

/-- Neither a sign nor the end of a version is a unit of an identifier, or a digit. -/
theorem delimited_build (build : Option (Units isIdentifierUnit)) :
    Delimited isIdentifierUnit (part CodeUnit.plus build) := by
  cases build with
  | none => simp [Delimited, part]
  | some build =>
    intro unit first
    obtain rfl := Option.some.inj first
    decide

theorem delimited_parts (pre build : Option (Units isIdentifierUnit)) :
    Delimited CodeUnit.isDigit (part CodeUnit.minus pre ++ part CodeUnit.plus build) := by
  intro unit first
  cases pre with
  | some pre =>
    obtain rfl := Option.some.inj first
    decide
  | none =>
    cases build with
    | none => cases first
    | some build =>
      obtain rfl := Option.some.inj first
      decide

theorem delimited_point (rest : Text) : Delimited CodeUnit.isDigit (CodeUnit.point :: rest) := by
  intro unit first
  obtain rfl := Option.some.inj first
  decide

theorem parseSemver_text {version : Text} (spelling : Spelling)
    (spelled : version.trim = spelling.text) : parseSemver version = some spelling.parsed := by
  have afterPre : (part CodeUnit.plus spelling.build).head? ≠ some CodeUnit.minus := by
    cases spelling.build with
    | none => simp [part]
    | some build => exact fun same => absurd (Option.some.inj same) (by decide)
  have last : parsePart CodeUnit.plus (part CodeUnit.plus spelling.build) =
      some (spelling.build.map Units.units, []) := by
    have read := @parsePart_part CodeUnit.plus spelling.build [] (by simp [Delimited]) (by simp)
    rwa [List.append_nil] at read
  rw [parseSemver, spelled, Spelling.text]
  simp only [parseDigits_units spelling.major (delimited_point _),
    parseDigits_units spelling.minor (delimited_point _),
    parseDigits_units spelling.patch (delimited_parts _ _),
    dropPrefix_unit_iff.mpr rfl, Option.bind_eq_bind, Option.bind_some,
    parsePart_part spelling.pre (delimited_build _) afterPre, last]
  simp [Spelling.parsed, Option.map_map, Function.comp_def]

/-! ## What is read is spelled -/

theorem exists_of_span {kind : CodeUnit → Bool} {text : Text}
    (some : (text.takeWhile kind) ≠ []) :
    ∃ run : Units kind, run.units = text.takeWhile kind ∧
      text = run.units ++ text.dropWhile kind :=
  ⟨⟨text.takeWhile kind, some, fun _ => List.mem_takeWhile_imp⟩, rfl,
    List.takeWhile_append_dropWhile.symm⟩

theorem exists_of_parseDigits {text digits rest : Text}
    (read : Json.parseDigits text = some (digits, rest)) :
    ∃ run : Units CodeUnit.isDigit, run.units = digits ∧ text = run.units ++ rest := by
  simp only [Json.parseDigits, List.span_eq_takeWhile_dropWhile] at read
  split at read
  · cases read
  · rename_i some
    obtain ⟨rfl, rfl⟩ := Prod.mk.inj (Option.some.inj read)
    exact exists_of_span (by simpa using some)

theorem exists_of_parsePart {sign : CodeUnit} {text rest : Text} {units : Option Text}
    (read : parsePart sign text = some (units, rest)) :
    ∃ identifiers : Option (Units isIdentifierUnit),
      identifiers.map Units.units = units ∧ text = part sign identifiers ++ rest := by
  cases text with
  | nil =>
    obtain ⟨rfl, rfl⟩ := Prod.mk.inj (Option.some.inj read)
    exact ⟨none, rfl, rfl⟩
  | cons unit tail =>
    rw [parsePart] at read
    split at read
    · rename_i signed
      subst signed
      simp only [List.span_eq_takeWhile_dropWhile] at read
      split at read
      · cases read
      · rename_i some
        obtain ⟨rfl, rfl⟩ := Prod.mk.inj (Option.some.inj read)
        obtain ⟨run, same, split⟩ := @exists_of_span isIdentifierUnit tail (by simpa using some)
        exact ⟨Option.some run, congrArg Option.some same, congrArg (unit :: ·) split⟩
    · obtain ⟨rfl, rfl⟩ := Prod.mk.inj (Option.some.inj read)
      exact ⟨none, rfl, rfl⟩

/-- A text is read as a version exactly if it is spelled as one. -/
theorem parseSemver_iff {version : Text} {parsed : Parsed} :
    parseSemver version = some parsed ↔
      ∃ spelling : Spelling, version.trim = spelling.text ∧ spelling.parsed = parsed := by
  constructor
  · intro read
    simp only [parseSemver, Option.bind_eq_bind, Option.bind_eq_some_iff] at read
    obtain ⟨⟨major, _⟩, first, _, point, ⟨minor, _⟩, second, _, point', ⟨patch, _⟩, third,
      ⟨pre, _⟩, fourth, ⟨build, rest⟩, fifth, last⟩ := read
    obtain ⟨major, rfl, split⟩ := exists_of_parseDigits first
    obtain rfl := dropPrefix_unit_iff.mp point
    obtain ⟨minor, rfl, rfl⟩ := exists_of_parseDigits second
    obtain rfl := dropPrefix_unit_iff.mp point'
    obtain ⟨patch, rfl, rfl⟩ := exists_of_parseDigits third
    obtain ⟨pre, rfl, rfl⟩ := exists_of_parsePart fourth
    obtain ⟨build, rfl, rfl⟩ := exists_of_parsePart fifth
    split at last
    · rename_i whole
      obtain rfl := Option.some.inj last
      obtain rfl := List.isEmpty_iff.mp whole
      refine ⟨⟨major, minor, patch, pre, build⟩, by simpa [Spelling.text] using split, ?_⟩
      simp [Spelling.parsed, Option.map_map, Function.comp_def]
    · cases last
  · rintro ⟨spelling, spelled, rfl⟩
    exact parseSemver_text spelling spelled

/-! ## Build metadata -/

/-- A version without what follows the plus. -/
def withoutBuild (version : Text) : Text := version.trim.takeWhile (· != CodeUnit.plus)

theorem isIdentifierUnit_of_isDigit {unit : CodeUnit} (digit : CodeUnit.isDigit unit = true) :
    isIdentifierUnit unit = true := by
  rw [isIdentifierUnit, digit]
  rfl

theorem isIdentifierUnit_visible {unit : CodeUnit} (inside : isIdentifierUnit unit = true) :
    CodeUnit.isSpace unit = false := by
  simp only [isIdentifierUnit, CodeUnit.isDigit, CodeUnit.isUpper, CodeUnit.point, CodeUnit.minus,
    CodeUnit.isSpace, Bool.and_eq_true, Bool.or_eq_true, decide_eq_true_eq, beq_iff_eq] at *
  simp only [UInt16.le_iff_toNat_le, ← UInt16.toNat_inj, Bool.or_eq_false_iff,
    Bool.and_eq_false_iff, decide_eq_false_iff_not, beq_eq_false_iff_ne, ne_eq] at *
  simp only [UInt16.reduceToNat] at *
  omega

namespace Spelling

variable (spelling : Spelling)

/-- The parts before the build. -/
def core : Text :=
  spelling.major.units ++ CodeUnit.point :: (spelling.minor.units ++ CodeUnit.point ::
    (spelling.patch.units ++ part CodeUnit.minus spelling.pre))

theorem text_eq : spelling.text = spelling.core ++ part CodeUnit.plus spelling.build := by
  simp [text, core]

theorem core_plain : ∀ unit ∈ spelling.core, isIdentifierUnit unit = true := by
  have point : isIdentifierUnit CodeUnit.point = true := by decide
  have digits (run : Units CodeUnit.isDigit) : ∀ unit ∈ run.units, isIdentifierUnit unit = true :=
    fun unit inside => isIdentifierUnit_of_isDigit (run.all unit inside)
  have pre : ∀ unit ∈ part CodeUnit.minus spelling.pre, isIdentifierUnit unit = true := by
    cases spelling.pre with
    | none => simp [part]
    | some pre => exact List.forall_mem_cons.mpr ⟨by decide, pre.all⟩
  simp only [core, List.forall_mem_append, List.forall_mem_cons]
  exact ⟨digits _, point, digits _, point, digits _, pre⟩

theorem text_visible : ∀ unit ∈ spelling.text, CodeUnit.isSpace unit = false := by
  rw [text_eq, List.forall_mem_append]
  refine ⟨fun unit inside => isIdentifierUnit_visible (spelling.core_plain unit inside), ?_⟩
  cases spelling.build with
  | none => simp [part]
  | some build =>
    exact List.forall_mem_cons.mpr
      ⟨by decide, fun unit inside => isIdentifierUnit_visible (build.all unit inside)⟩

theorem trim_text : spelling.text.trim = spelling.text := trim_of_visible spelling.text_visible

theorem parseSemver_text : parseSemver spelling.text = some spelling.parsed :=
  parseSemver_iff.mpr ⟨spelling, spelling.trim_text, rfl⟩

theorem withoutBuild_text : spelling.text.takeWhile (· != CodeUnit.plus) = spelling.core := by
  have free : ∀ unit ∈ spelling.core, (unit != CodeUnit.plus) = true := by
    intro unit inside
    rw [bne_iff_ne]
    rintro rfl
    exact absurd (spelling.core_plain _ inside) (by decide)
  rw [text_eq, List.takeWhile_append_of_pos free]
  cases spelling.build with
  | none => exact List.append_nil _
  | some build => exact List.append_nil _

end Spelling

/-- Build metadata is not read. -/
theorem parseSemver_withoutBuild {version : Text} (read : (parseSemver version).isSome) :
    parseSemver (withoutBuild version) = parseSemver version := by
  obtain ⟨parsed, read⟩ := Option.isSome_iff_exists.mp read
  obtain ⟨spelling, spelled, rfl⟩ := parseSemver_iff.mp read
  have bare : ({ spelling with build := none } : Spelling).text = spelling.core :=
    (Spelling.text_eq _).trans (List.append_nil _)
  rw [read, withoutBuild, spelled, spelling.withoutBuild_text, ← bare,
    Spelling.parseSemver_text]
  rfl

end Semver

end OpticsHub
