import OpticsHub.Script.Value
import Mathlib.Data.Int.Log
import Mathlib.Algebra.Order.Floor.Ring
import Mathlib.Data.Rat.Floor

/-!
# What JavaScript makes of a value where it wants another kind

Values that arrive as JSON are used as conditions, texts and numbers without a
check of their type. A condition is false for a few values and true for the rest.
A text of an array joins the texts of its elements, and an object has one text,
unless a member of the object hides the method that gives it; then the coercion
throws. A number is read from a text by the grammar of numeric literals and rounded
to the nearest double, which is again represented by its shortest decimal.

Letters change case one by one. Outside ASCII only those letters are listed whose
other case is, wholly or in part, within ASCII; the others are left as they are,
which no comparison with an ASCII text can tell.
-/
namespace Script

/-! ## Texts -/

/-- Whether a unit is white space or a line terminator. -/
def CodeUnit.isSpace (unit : CodeUnit) : Bool :=
  (0x09 ≤ unit && unit ≤ 0x0D) || unit == 0x20 || unit == 0xA0 || unit == 0x1680 ||
    (0x2000 ≤ unit && unit ≤ 0x200A) || unit == 0x2028 || unit == 0x2029 || unit == 0x202F ||
    unit == 0x205F || unit == 0x3000 || unit == 0xFEFF

/-- `text.trim()`. -/
def Text.trim (text : Text) : Text :=
  ((text.dropWhile CodeUnit.isSpace).reverse.dropWhile CodeUnit.isSpace).reverse

/-- The lower case of a unit. The Kelvin sign becomes a plain letter, and the dotted
capital I a plain letter with a mark. -/
def CodeUnit.toLower (unit : CodeUnit) : Text :=
  if unit == 0x212A then [0x6B]
  else if unit == 0x130 then [0x69, 0x307]
  else [unit.lower]

/-- `text.toLowerCase()`. -/
def Text.toLowerCase (text : Text) : Text := text.flatMap CodeUnit.toLower

/-- The upper case of a unit. The dotless i, the long and the sharp s and the ligatures
of Latin letters become plain letters. -/
def CodeUnit.toUpper (unit : CodeUnit) : Text :=
  if 0x61 ≤ unit && unit ≤ 0x7A then [unit - 0x20]
  else if unit == 0x131 then [0x49]
  else if unit == 0x17F then [0x53]
  else if unit == 0xDF then [0x53, 0x53]
  else if unit == 0xFB00 then [0x46, 0x46]
  else if unit == 0xFB01 then [0x46, 0x49]
  else if unit == 0xFB02 then [0x46, 0x4C]
  else if unit == 0xFB03 then [0x46, 0x46, 0x49]
  else if unit == 0xFB04 then [0x46, 0x46, 0x4C]
  else if unit == 0xFB05 || unit == 0xFB06 then [0x53, 0x54]
  else [unit]

/-- `text.toUpperCase()`. -/
def Text.toUpperCase (text : Text) : Text := text.flatMap CodeUnit.toUpper

/-! ## Doubles -/

/-- The nearest integer, the even one of two that are equally near. -/
def roundEven (q : ℚ) : ℤ :=
  if q - ⌊q⌋ < 1 / 2 then ⌊q⌋
  else if 1 / 2 < q - ⌊q⌋ then ⌊q⌋ + 1
  else if ⌊q⌋ % 2 = 0 then ⌊q⌋ else ⌊q⌋ + 1

/-- The value of the double nearest to a positive rational, not bounded above. -/
def roundDouble (q : ℚ) : ℚ :=
  let exponent := max (Int.log 2 q - 52) (-1074)
  roundEven (q / 2 ^ exponent) * 2 ^ exponent

/-- The decimal with a number of digits to which a positive rational is rounded. -/
def roundDecimal (round : ℚ → ℤ) (q : ℚ) (digits : ℕ) : Decimal :=
  let exponent := Int.log 10 q + 1 - digits
  Decimal.ofParts (round (q / 10 ^ exponent)) exponent

/-- The shortest decimal that denotes the positive double of a value. The doubles above a
power of two lie further apart than those below it, so the decimal nearest to the power may
denote another double while the next one above denotes the power. -/
def shortest (double : ℚ) : Decimal :=
  (((List.range 17).flatMap fun digits => [roundDecimal roundEven double (digits + 1),
    roundDecimal Int.ceil double (digits + 1)]).find? fun decimal =>
      decide (roundDouble decimal.toRat = double)).getD (roundDecimal roundEven double 17)

def Decimal.neg (decimal : Decimal) : Decimal := Decimal.ofParts (-decimal.mantissa) decimal.exponent

/-- The double nearest to a rational. -/
def Number.ofRat (q : ℚ) : Number :=
  if q = 0 then .finite (Decimal.ofInt 0)
  else if (2 : ℚ) ^ 1024 ≤ roundDouble |q| then .infinity (decide (q < 0))
  else
    let decimal := shortest (roundDouble |q|)
    .finite (if q < 0 then decimal.neg else decimal)

/-! ## Numbers from texts -/

/-- The power of ten at the end of a decimal literal. -/
def readExponent : Text → Option ℤ
  | [] => some 0
  | unit :: rest =>
    if unit.lower == CodeUnit.lowerE then
      let negative := rest.head? == some CodeUnit.minus
      let digits := if negative || rest.head? == some CodeUnit.plus then rest.tail else rest
      if digits.isEmpty || !digits.all CodeUnit.isDigit then none
      else if negative then some (-(decimalValue digits : ℤ)) else some (decimalValue digits : ℤ)
    else none

/-- The value of a decimal literal without a sign. -/
def readDecimal (text : Text) : Option ℚ :=
  let (whole, afterWhole) := text.span CodeUnit.isDigit
  let (fraction, rest) :=
    if afterWhole.head? == some CodeUnit.point then afterWhole.tail.span CodeUnit.isDigit
    else ([], afterWhole)
  if whole.isEmpty && fraction.isEmpty then none
  else (readExponent rest).map fun exponent =>
    (decimalValue (whole ++ fraction) : ℚ) * 10 ^ (exponent - (fraction.length : ℤ))

/-- The value of a digit in a base up to sixteen. -/
def readDigit (base : ℕ) (unit : CodeUnit) : Option ℕ :=
  (hexValue unit).filter fun digit => decide (digit < base)

/-- The value of the digits after the prefix of a base. -/
def readBase (base : ℕ) (digits : Text) : Option ℚ :=
  if digits.isEmpty then none
  else (digits.mapM (readDigit base)).map fun values =>
    ((values.foldl (fun total digit => total * base + digit) 0 : ℕ) : ℚ)

/-- `Number(text)`. -/
def Text.toNumber (text : Text) : Number :=
  match text.trim with
  | [] => .finite (Decimal.ofInt 0)
  | first :: rest =>
    let literal : Option ℚ :=
      match first == CodeUnit.zero, rest with
      | true, prefixUnit :: digits =>
        if prefixUnit.lower == 0x78 then readBase 16 digits
        else if prefixUnit.lower == 0x6F then readBase 8 digits
        else if prefixUnit.lower == 0x62 then readBase 2 digits
        else readDecimal (first :: rest)
      | _, _ => readDecimal (first :: rest)
    let signed := first == CodeUnit.plus || first == CodeUnit.minus
    if signed then
      if rest = Text.ofString "Infinity" then .infinity (first == CodeUnit.minus)
      else match readDecimal rest with
        | some value => Number.ofRat (if first == CodeUnit.minus then -value else value)
        | none => .nan
    else if first :: rest = Text.ofString "Infinity" then .infinity false
    else match literal with
      | some value => Number.ofRat value
      | none => .nan

/-! ## Values -/

namespace Value

/-- Whether a value counts as true. -/
def truthy : Value → Bool
  | .undefined | .null | .boolean false => false
  | .number (.finite decimal) => decide (decimal.mantissa ≠ 0)
  | .number .nan => false
  | .string text => !text.isEmpty
  | _ => true

/-- The value, or the other one when there is none. -/
def orElse : Option Value → Option Value → Option Value
  | none, other | some .undefined, other | some .null, other => other
  | value, _ => value

/-- Join texts with commas, without spaces. -/
def joined (texts : List Text) : Text := List.intercalate [CodeUnit.comma] texts

mutual

/-- `String(value)`, or none when it throws. -/
def toText : Value → Option Text
  | .undefined => some "undefined"
  | .null => some "null"
  | .boolean true => some "true"
  | .boolean false => some "false"
  | .number value => some value.text
  | .string text => some text
  | .date iso => some (iso.getD "Invalid Date")
  | .array elements => (elementTexts elements).map joined
  | .object members =>
    if (Members.own members "toString").isSome then none else some "[object Object]"

/-- The texts that the text of an array joins. -/
def elementTexts : List Value → Option (List Text)
  | [] => some []
  | .undefined :: rest | .null :: rest => (elementTexts rest).map (([] : Text) :: ·)
  | element :: rest =>
    match toText element, elementTexts rest with
    | some text, some texts => some (text :: texts)
    | _, _ => none

end

/-- `Number(value)`, or none when it throws. -/
def toNumber : Value → Option Number
  | .undefined => some .nan
  | .null => some (.finite (Decimal.ofInt 0))
  | .boolean value => some (.finite (Decimal.ofInt (if value then 1 else 0)))
  | .number value => some value
  | .string text => some text.toNumber
  | value => value.toText.map Text.toNumber

end Value

/-- `Number.isInteger(number)`, with the integer. -/
def Number.toInteger? : Number → Option ℤ
  | .finite decimal => decimal.toInt?
  | _ => none

/-- `left < right`, which never holds of what is not a number. -/
def Number.less : Number → Number → Bool
  | .finite left, .finite right => decide (left.toRat < right.toRat)
  | .finite _, .infinity negative => !negative
  | .infinity negative, .finite _ => negative
  | .infinity left, .infinity right => left && !right
  | _, _ => false

example : (Text.toNumber " 0x1F90 ").toInteger? = some 8080 := by decide +kernel

example : (Text.toNumber "80.00000000000000000001").toInteger? = some 80 := by decide +kernel

example : (Text.toNumber "1.5e3").toInteger? = some 1500 := by decide +kernel

example : (Text.toNumber "0.30").text = Text.ofString "0.3" := by decide +kernel

end Script
