import OpticsHub.Script.Text

/-!
# Bytes and the texts they encode

Bytes are read as UTF-8 one after another. A byte that no character can begin with, or one
that cannot go on with the character that has begun, gives the replacement character in place
of what was read of it, and is then read again as a beginning. Writing turns surrogate pairs
into four bytes, and a surrogate without its partner into the replacement character.
-/
namespace Script

abbrev Bytes := List UInt8

/-- The character in place of what is not well formed. -/
def CodeUnit.replacement : CodeUnit := 0xFFFD

namespace Utf8

/-- A character of which a part is read: what it is so far, how many bytes are to follow, and
the bounds of the next one. -/
structure Partial where
  code : ℕ
  missing : ℕ
  least : UInt8 := 0x80
  greatest : UInt8 := 0xBF

/-- What a byte is at the beginning of a character. -/
inductive Lead where
  | character (unit : CodeUnit)
  | sequence (opened : Partial)
  | stray

def lead (byte : UInt8) : Lead :=
  if byte ≤ 0x7F then .character (UInt16.ofNat byte.toNat)
  else if 0xC2 ≤ byte && byte ≤ 0xDF then .sequence { code := byte.toNat - 0xC0, missing := 1 }
  else if 0xE0 ≤ byte && byte ≤ 0xEF then
    .sequence
      { code := byte.toNat - 0xE0
        missing := 2
        least := if byte = 0xE0 then 0xA0 else 0x80
        greatest := if byte = 0xED then 0x9F else 0xBF }
  else if 0xF0 ≤ byte && byte ≤ 0xF4 then
    .sequence
      { code := byte.toNat - 0xF0
        missing := 3
        least := if byte = 0xF0 then 0x90 else 0x80
        greatest := if byte = 0xF4 then 0x8F else 0xBF }
  else .stray

/-- The units of a code point. -/
def codeUnits (code : ℕ) : Text :=
  if code < 0x10000 then [UInt16.ofNat code]
  else
    [UInt16.ofNat (0xD800 + (code - 0x10000) / 0x400),
      UInt16.ofNat (0xDC00 + (code - 0x10000) % 0x400)]

/-- The bytes of a code point. -/
def codeBytes (code : ℕ) : Bytes :=
  if code < 0x80 then [UInt8.ofNat code]
  else if code < 0x800 then [UInt8.ofNat (0xC0 + code / 0x40), UInt8.ofNat (0x80 + code % 0x40)]
  else if code < 0x10000 then
    [UInt8.ofNat (0xE0 + code / 0x1000), UInt8.ofNat (0x80 + code / 0x40 % 0x40),
      UInt8.ofNat (0x80 + code % 0x40)]
  else
    [UInt8.ofNat (0xF0 + code / 0x40000), UInt8.ofNat (0x80 + code / 0x1000 % 0x40),
      UInt8.ofNat (0x80 + code / 0x40 % 0x40), UInt8.ofNat (0x80 + code % 0x40)]

/-- Read a byte at the beginning of a character: the units it gives at once, and the character
that it begins. -/
def start (byte : UInt8) : Text × Option Partial :=
  match lead byte with
  | .character unit => ([unit], none)
  | .sequence opened => ([], some opened)
  | .stray => ([CodeUnit.replacement], none)

/-- Read a byte that goes on with a character. -/
def proceed (opened : Partial) (byte : UInt8) : Text × Option Partial :=
  let code := opened.code * 0x40 + (byte.toNat - 0x80)
  if opened.missing ≤ 1 then (codeUnits code, none)
  else ([], some { code := code, missing := opened.missing - 1 })

/-- Read one byte after what was read before. -/
def read (opened : Option Partial) (byte : UInt8) : Text × Option Partial :=
  match opened with
  | none => start byte
  | some opened =>
    if opened.least ≤ byte && byte ≤ opened.greatest then proceed opened byte
    else (CodeUnit.replacement :: (start byte).1, (start byte).2)

/-- Read the bytes that follow what was read before. -/
def decodeFrom (opened : Option Partial) : Bytes → Text
  | [] => if opened.isSome then [CodeUnit.replacement] else []
  | byte :: rest => (read opened byte).1 ++ decodeFrom (read opened byte).2 rest

end Utf8

/-- `buffer.toString()` -/
def decodeUtf8 (bytes : Bytes) : Text := Utf8.decodeFrom none bytes

/-- `Buffer.from(text)` -/
def encodeUtf8 : Text → Bytes
  | [] => []
  | [unit] =>
    if unit.isHighSurrogate || unit.isLowSurrogate then Utf8.codeBytes 0xFFFD
    else Utf8.codeBytes unit.toNat
  | unit :: next :: rest =>
    if unit.isHighSurrogate && next.isLowSurrogate then
      Utf8.codeBytes (0x10000 + (unit.toNat - 0xD800) * 0x400 + (next.toNat - 0xDC00)) ++
        encodeUtf8 rest
    else if unit.isHighSurrogate || unit.isLowSurrogate then
      Utf8.codeBytes 0xFFFD ++ encodeUtf8 (next :: rest)
    else Utf8.codeBytes unit.toNat ++ encodeUtf8 (next :: rest)

example : decodeUtf8 (encodeUtf8 "héllo ✓ 𝄞") = Text.ofString "héllo ✓ 𝄞" := by decide

example : decodeUtf8 [0x61, 0xE2, 0x9C, 0x62, 0xFF] = [0x61, 0xFFFD, 0x62, 0xFFFD] := by decide

end Script
