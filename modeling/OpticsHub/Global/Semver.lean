import OpticsHub.Script.Parse

/-!
# Versions

A version is three numbers and perhaps the identifiers of a pre-release; what comes after
a plus sign does not count. A text that is not a version is lower than every version, and
a release is higher than its pre-releases. An Agent can be updated from the Hub since the
version that first listened for it.
-/
namespace OpticsHub

open Script

namespace Semver

/-- A parsed version. -/
structure Parsed where
  major : Number
  minor : Number
  patch : Number
  pre : List Text

/-- A unit of the identifiers after a version. -/
def isIdentifierUnit (unit : CodeUnit) : Bool :=
  unit.isDigit || unit.isUpper || (0x61 ≤ unit && unit ≤ 0x7A) ||
    unit == CodeUnit.point || unit == CodeUnit.minus

/-- One of the two optional parts after the numbers: a sign and identifiers. -/
def parsePart (sign : CodeUnit) : Text → Option (Option Text × Text)
  | [] => some (none, [])
  | unit :: rest =>
    if unit = sign then
      let (units, rest) := rest.span isIdentifierUnit
      if units.isEmpty then none else some (some units, rest)
    else some (none, unit :: rest)

def parseSemver (version : Text) : Option Parsed := do
  let (major, rest) ← Json.parseDigits version.trim
  let rest ← Json.dropPrefix [CodeUnit.point] rest
  let (minor, rest) ← Json.parseDigits rest
  let rest ← Json.dropPrefix [CodeUnit.point] rest
  let (patch, rest) ← Json.parseDigits rest
  let (pre, rest) ← parsePart CodeUnit.minus rest
  let (_, rest) ← parsePart CodeUnit.plus rest
  if rest.isEmpty then
    some {
      major := major.toNumber
      minor := minor.toNumber
      patch := patch.toNumber
      pre := (pre.map (List.splitOn CodeUnit.point)).getD [] }
  else none

/-- The sign of a difference of numbers. -/
def compareNumbers (left right : Number) : Ordering :=
  if left.less right then .lt else if right.less left then .gt else .eq

/-- Whether an identifier consists of digits. -/
def isNumeric (identifier : Text) : Bool :=
  !identifier.isEmpty && identifier.all CodeUnit.isDigit

/-- Numbers are compared as such, and are lower than other identifiers. -/
def comparePreIdentifier (left right : Text) : Ordering :=
  if isNumeric left && isNumeric right then compareNumbers left.toNumber right.toNumber
  else if isNumeric left then .lt
  else if isNumeric right then .gt
  else if left < right then .lt
  else if right < left then .gt
  else .eq

/-- Whether an identifier denotes a number too large to be finite. -/
def isInfinite (identifier : Text) : Bool :=
  isNumeric identifier && identifier.toNumber == .infinity false

/-- The first identifiers that differ decide, and fewer identifiers are lower. The difference of
two infinite numbers is not zero, so it decides as well, and it has no sign. -/
def compareIdentifiers : List Text → List Text → Ordering
  | [], [] => .eq
  | [], _ :: _ => .lt
  | _ :: _, [] => .gt
  | left :: lefts, right :: rights =>
    if isInfinite left && isInfinite right then .eq
    else (comparePreIdentifier left right).then (compareIdentifiers lefts rights)

/-- A release is higher than a pre-release. -/
def comparePre : List Text → List Text → Ordering
  | [], [] => .eq
  | [], _ :: _ => .gt
  | _ :: _, [] => .lt
  | left, right => compareIdentifiers left right

def compareSemver (left right : Text) : Ordering :=
  match parseSemver left, parseSemver right with
  | none, none => .eq
  | none, some _ => .lt
  | some _, none => .gt
  | some left, some right =>
    (compareNumbers left.major right.major).then
      ((compareNumbers left.minor right.minor).then
        ((compareNumbers left.patch right.patch).then (comparePre left.pre right.pre)))

example : compareSemver "0.10.0" "0.9.0+build" = .gt := by decide +kernel

example : compareSemver "0.6.0-rc.2" "0.6.0" = .lt := by decide +kernel

def minRemoteUpdateVersion : Text := "0.6.0"

/-- Whether an Agent listens for updates; one that reports no version does not. -/
def supportsRemoteUpdate : Option Text → Bool
  | none | some [] => false
  | some version => compareSemver version minRemoteUpdateVersion != .lt

end Semver

end OpticsHub
