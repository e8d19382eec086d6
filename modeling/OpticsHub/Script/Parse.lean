import OpticsHub.Script.Coercion
import OpticsHub.Script.Json

/-!
# Reading JSON

`JSON.parse` by recursive descent. A value is read from the front of a text and what
is left of the text comes back with it. Every call consumes a unit before it calls
itself for a part, so the length of the text is enough fuel. Numbers go through the
double that is nearest to them, a repeated member keeps its first place and its last
value, and a string may not contain a control unit that is not escaped.
-/
namespace Script

namespace Json

/-- The white space between tokens. -/
def isBlank (unit : CodeUnit) : Bool :=
  unit == 0x20 || unit == 0x09 || unit == 0x0A || unit == 0x0D

def skipBlanks (text : Text) : Text := text.dropWhile isBlank

/-- What follows a text at the front of another. -/
def dropPrefix (literal text : Text) : Option Text :=
  if literal.isPrefixOf text then some (text.drop literal.length) else none

/-- The letters that stand for themselves or for a control unit after a backslash. -/
def isShortEscape (letter : CodeUnit) : Bool :=
  (Text.ofString "\"\\/bfnrt").contains letter

/-- Read one unit of a string as the reader of the serializer does, after the checks that
the grammar makes. -/
def parseUnit (text : Text) : Option (CodeUnit × Text) :=
  match text with
  | [] => none
  | first :: rest =>
    if first = CodeUnit.backslash then
      match rest with
      | [] => none
      | letter :: digits =>
        if letter = 0x75 then
          if (digits.take 4).length = 4 ∧ (digits.take 4).all CodeUnit.isHexDigit then
            readUnit text
          else none
        else if isShortEscape letter then readUnit text
        else none
    else if first < 0x20 then none
    else readUnit text

/-- The rest of a string after its opening quote. -/
def parseString : ℕ → Text → Option (Text × Text)
  | 0, _ => none
  | fuel + 1, text =>
    if text.head? = some CodeUnit.quote then some ([], text.tail)
    else do
      let (unit, rest) ← parseUnit text
      let (units, rest) ← parseString fuel rest
      return (unit :: units, rest)

/-- The digits at the front of a text, of which there must be one. -/
def parseDigits (text : Text) : Option (Text × Text) :=
  let (digits, rest) := text.span CodeUnit.isDigit
  if digits.isEmpty then none else some (digits, rest)

/-- A number literal: a sign, digits without a leading zero, a fraction, an exponent. -/
def parseNumber (text : Text) : Option (Number × Text) := do
  let (sign, unsigned) :=
    if text.head? = some CodeUnit.minus then ([CodeUnit.minus], text.tail) else ([], text)
  let (whole, rest) ← parseDigits unsigned
  if whole.head? = some CodeUnit.zero ∧ whole.length ≠ 1 then none
  let (fraction, rest) ←
    if rest.head? = some CodeUnit.point then do
      let (digits, rest) ← parseDigits rest.tail
      pure (CodeUnit.point :: digits, rest)
    else pure ([], rest)
  let (exponent, rest) ←
    match rest with
    | mark :: afterMark =>
      if mark.lower = CodeUnit.lowerE then
        let signed := afterMark.head? = some CodeUnit.plus ∨ afterMark.head? = some CodeUnit.minus
        let (signs, digits) := if signed then (afterMark.take 1, afterMark.tail) else ([], afterMark)
        do
          let (digits, rest) ← parseDigits digits
          pure (mark :: (signs ++ digits), rest)
      else pure ([], rest)
    | [] => pure ([], rest)
  return (Text.toNumber (sign ++ (whole ++ (fraction ++ exponent))), rest)

mutual

/-- A value at the front of a text. -/
def parseValue : ℕ → Text → Option (Value × Text)
  | 0, _ => none
  | fuel + 1, text =>
    match skipBlanks text with
    | [] => none
    | first :: rest =>
      if first = CodeUnit.openBrace then
        if (skipBlanks rest).head? = some CodeUnit.closeBrace then
          some (.object [], (skipBlanks rest).tail)
        else (parseMembers fuel rest []).map fun parsed => (.object parsed.1, parsed.2)
      else if first = CodeUnit.openBracket then
        if (skipBlanks rest).head? = some CodeUnit.closeBracket then
          some (.array [], (skipBlanks rest).tail)
        else (parseElements fuel rest).map fun parsed => (.array parsed.1, parsed.2)
      else if first = CodeUnit.quote then
        (parseString (rest.length + 1) rest).map fun parsed => (.string parsed.1, parsed.2)
      else
        ((dropPrefix "true" (first :: rest)).map fun rest => (.boolean true, rest)).or
          (((dropPrefix "false" (first :: rest)).map fun rest => (.boolean false, rest)).or
            (((dropPrefix "null" (first :: rest)).map fun rest => (.null, rest)).or
              ((parseNumber (first :: rest)).map fun parsed => (.number parsed.1, parsed.2))))

/-- The elements of an array up to its closing bracket. -/
def parseElements : ℕ → Text → Option (List Value × Text)
  | 0, _ => none
  | fuel + 1, text => do
    let (element, rest) ← parseValue fuel text
    match skipBlanks rest with
    | [] => none
    | next :: rest =>
      if next = CodeUnit.closeBracket then return ([element], rest)
      else if next = CodeUnit.comma then do
        let (elements, rest) ← parseElements fuel rest
        return (element :: elements, rest)
      else none

/-- The members of an object up to its closing brace, added to those before. -/
def parseMembers : ℕ → Text → Members Value → Option (Members Value × Text)
  | 0, _, _ => none
  | fuel + 1, text, members => do
    let opened ← dropPrefix [CodeUnit.quote] (skipBlanks text)
    let (key, rest) ← parseString (opened.length + 1) opened
    let rest ← dropPrefix [CodeUnit.colon] (skipBlanks rest)
    let (value, rest) ← parseValue fuel rest
    match skipBlanks rest with
    | [] => none
    | next :: rest =>
      if next = CodeUnit.closeBrace then return (Members.define members key value, rest)
      else if next = CodeUnit.comma then parseMembers fuel rest (Members.define members key value)
      else none

end

end Json

/-- `JSON.parse(text)`, or none when it throws. -/
def Text.parseJson (text : Text) : Option Value := do
  let (value, rest) ← Json.parseValue (2 * text.length + 2) text
  if (Json.skipBlanks rest).isEmpty then some value else none

end Script
