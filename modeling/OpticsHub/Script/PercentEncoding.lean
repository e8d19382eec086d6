import OpticsHub.Script.Transcoding

/-!
# Percent-encoding

A percent sign and two hexadecimal digits stand for a byte, and the bytes of a character for the
character; any other unit stands for itself. The decoder of the language is given as it reads a
text: the first byte announces how many there are, and nothing but the encoding of one character is
taken. It succeeds exactly on the texts of a small grammar, and gives what these stand for.
-/
namespace Script

namespace PercentEncoding

def percent : CodeUnit := 0x25

/-- The byte that the beginning of a text stands for, and what follows it. -/
def octet : Text → Option (UInt8 × Text)
  | mark :: high :: low :: rest =>
    if mark = percent then
      match hexValue high, hexValue low with
      | some h, some l => some (UInt8.ofNat (h * 16 + l), rest)
      | _, _ => none
    else none
  | _ => none

/-- A number of bytes that the beginning of a text stands for, and what follows them. -/
def octets : ℕ → Text → Option (Bytes × Text)
  | 0, text => some ([], text)
  | count + 1, text =>
    match octet text with
    | none => none
    | some (byte, rest) =>
      (octets count rest).map fun read => (byte :: read.1, read.2)

/-- How many bytes a character has that begins with a byte. -/
def announced (byte : UInt8) : Option ℕ :=
  if byte < 0x80 then some 1
  else if byte < 0xC0 then none
  else if byte < 0xE0 then some 2
  else if byte < 0xF0 then some 3
  else if byte < 0xF8 then some 4
  else none

/-- The character that the beginning of a text stands for, and what follows it. -/
def character (text : Text) : Option (Text × Text) :=
  match (octet text).bind fun read => announced read.1 with
  | none => none
  | some count =>
    match octets count text with
    | none => none
    | some (bytes, rest) =>
      if encodeUtf8 (decodeUtf8 bytes) = bytes then some (decodeUtf8 bytes, rest) else none

/-- Decode a text of which some units belong to a character that was decoded already. -/
def decodeFrom : ℕ → Text → Option Text
  | _, [] => some []
  | skip + 1, _ :: rest => decodeFrom skip rest
  | 0, unit :: rest =>
    if unit = percent then
      match character (unit :: rest) with
      | none => none
      | some (units, after) =>
        (decodeFrom (rest.length - after.length) rest).map (units ++ ·)
    else (decodeFrom 0 rest).map (unit :: ·)

end PercentEncoding

/-- `decodeURIComponent(text)`, unless it throws. -/
def decodeURIComponent (text : Text) : Option Text := PercentEncoding.decodeFrom 0 text

example : decodeURIComponent "a%20b%E2%9C%93%f0%9d%84%9e" = some (Text.ofString "a b✓𝄞") := by
  decide

example : decodeURIComponent "50%" = none ∧ decodeURIComponent "%C0%80" = none ∧
    decodeURIComponent "%E2%9C" = none ∧ decodeURIComponent "%zz" = none := by
  decide

/-! ## The grammar -/

namespace PercentEncoding

/-- A text stands for bytes. -/
inductive Spells : Text → Bytes → Prop
  | nil : Spells [] []
  | cons {high low : CodeUnit} {h l : ℕ} {text : Text} {bytes : Bytes}
      (first : hexValue high = some h) (second : hexValue low = some l)
      (rest : Spells text bytes) :
      Spells (percent :: high :: low :: text) (UInt8.ofNat (h * 16 + l) :: bytes)

end PercentEncoding

/-- A text stands for another by percent-encoding. -/
inductive PercentEncodes : Text → Text → Prop
  | nil : PercentEncodes [] []
  | unit {unit : CodeUnit} {text value : Text} (plain : unit ≠ PercentEncoding.percent)
      (rest : PercentEncodes text value) : PercentEncodes (unit :: text) (unit :: value)
  | character {code : ℕ} {spelling text value : Text} (scalar : Utf8.IsScalar code)
      (spelled : PercentEncoding.Spells spelling (Utf8.codeBytes code))
      (rest : PercentEncodes text value) :
      PercentEncodes (spelling ++ text) (Utf8.codeUnits code ++ value)

/-! ## Decoding -/

namespace PercentEncoding

theorem octet_iff {text rest : Text} {byte : UInt8} :
    octet text = some (byte, rest) ↔
      ∃ high low h l, text = percent :: high :: low :: rest ∧ hexValue high = some h ∧
        hexValue low = some l ∧ byte = UInt8.ofNat (h * 16 + l) := by
  constructor
  · intro read
    unfold octet at read
    split at read
    · split at read
      · rename_i marked
        subst marked
        split at read
        · rename_i h l first second
          obtain ⟨rfl, rfl⟩ := Prod.mk.inj (Option.some.inj read)
          exact ⟨_, _, h, l, rfl, first, second, rfl⟩
        · cases read
      · cases read
    · cases read
  · rintro ⟨high, low, h, l, rfl, first, second, rfl⟩
    rw [octet, if_pos rfl, first, second]

theorem octets_iff {count : ℕ} {text rest : Text} {bytes : Bytes} :
    octets count text = some (bytes, rest) ↔
      ∃ spelling, text = spelling ++ rest ∧ Spells spelling bytes ∧ bytes.length = count := by
  induction count generalizing text bytes with
  | zero =>
    constructor
    · intro read
      obtain ⟨rfl, rfl⟩ := Prod.mk.inj (Option.some.inj read)
      exact ⟨[], rfl, .nil, rfl⟩
    · rintro ⟨spelling, rfl, spells, none⟩
      cases spells with
      | nil => rfl
      | cons first second later => cases none
  | succ count ih =>
    constructor
    · intro read
      rw [octets] at read
      split at read
      · cases read
      · rename_i byte after found
        obtain ⟨⟨later, left⟩, gathered, same⟩ := Option.map_eq_some_iff.mp read
        obtain ⟨rfl, rfl⟩ := Prod.mk.inj same
        obtain ⟨high, low, h, l, rfl, first, second, rfl⟩ := octet_iff.mp found
        obtain ⟨spelling, rfl, spells, length⟩ := ih.mp gathered
        exact ⟨percent :: high :: low :: spelling, rfl, .cons first second spells,
          congrArg (· + 1) length⟩
    · rintro ⟨spelling, rfl, spells, length⟩
      cases spells with
      | nil => cases length
      | @cons high low h l spelling bytes first second spells =>
        have found : octet (percent :: high :: low :: (spelling ++ rest)) =
            some (UInt8.ofNat (h * 16 + l), spelling ++ rest) :=
          octet_iff.mpr ⟨high, low, h, l, rfl, first, second, rfl⟩
        have later := ih.mpr ⟨spelling, rfl, spells, Nat.succ.inj length⟩
        simp only [List.cons_append, octets, found, later, Option.map_some]

theorem octet_append {spelling : Text} {byte : UInt8} {bytes : Bytes}
    (spells : Spells spelling (byte :: bytes)) (rest : Text) :
    ∃ after, octet (spelling ++ rest) = some (byte, after) := by
  cases spells with
  | @cons high low h l spelling _ first second later =>
    exact ⟨spelling ++ rest, octet_iff.mpr ⟨high, low, h, l, rfl, first, second, rfl⟩⟩

/-! ## One character -/

theorem announced_start : ∀ n < 256, (n < 0x80 → announced (UInt8.ofNat n) = some 1) ∧
    (0xC0 ≤ n → n < 0xE0 → announced (UInt8.ofNat n) = some 2) ∧
    (0xE0 ≤ n → n < 0xF0 → announced (UInt8.ofNat n) = some 3) ∧
    (0xF0 ≤ n → n < 0xF8 → announced (UInt8.ofNat n) = some 4) := by
  decide +kernel

theorem announced_ne_zero (byte : UInt8) : announced byte ≠ some 0 := by
  unfold announced
  split_ifs <;> simp

/-- The first byte of a character announces how many there are. -/
theorem announced_codeBytes {code : ℕ} (scalar : Utf8.IsScalar code) :
    ∃ first rest, Utf8.codeBytes code = first :: rest ∧
      announced first = some (Utf8.codeBytes code).length := by
  rw [Utf8.codeBytes]
  split
  · exact ⟨_, _, rfl, (announced_start code (by omega)).1 (by omega)⟩
  split
  · exact ⟨_, _, rfl, (announced_start _ (by omega)).2.1 (by omega) (by omega)⟩
  split
  · exact ⟨_, _, rfl, (announced_start _ (by omega)).2.2.1 (by omega) (by omega)⟩
  · rw [Utf8.IsScalar] at scalar
    exact ⟨_, _, rfl, (announced_start _ (by omega)).2.2.2 (by omega) (by omega)⟩

theorem decodeUtf8_codeBytes {code : ℕ} (scalar : Utf8.IsScalar code) :
    decodeUtf8 (Utf8.codeBytes code) = Utf8.codeUnits code := by
  have read := Utf8.decodeFrom_codeBytes scalar []
  rw [List.append_nil] at read
  rw [decodeUtf8, read]
  exact List.append_nil _

theorem codesOf_codeUnits {code : ℕ} (scalar : Utf8.IsScalar code) :
    Utf8.codesOf (Utf8.codeUnits code) = [code] := by
  have read := Utf8.codesOf_codeUnits scalar []
  rwa [List.append_nil] at read

/-- The bytes of a text that are as many as the first announces are those of one character. -/
theorem exists_of_announced {text : Text} {first : UInt8} {rest : Bytes}
    (encoded : encodeUtf8 text = first :: rest)
    (count : announced first = some (encodeUtf8 text).length) :
    ∃ code, Utf8.IsScalar code ∧ encodeUtf8 text = Utf8.codeBytes code := by
  have scalar := Utf8.isScalar_codesOf text
  rw [Utf8.encodeUtf8_eq] at encoded count ⊢
  cases codes : Utf8.codesOf text with
  | nil =>
    rw [codes] at encoded
    cases encoded
  | cons code later =>
    rw [codes] at encoded count scalar
    have here := scalar code List.mem_cons_self
    obtain ⟨lead, tail, begins, length⟩ := announced_codeBytes here
    rw [List.flatMap_cons] at encoded count ⊢
    have same : lead = first := by
      rw [begins] at encoded
      exact (List.cons.inj encoded).1
    rw [← same, length, List.length_append] at count
    have none : later.flatMap Utf8.codeBytes = [] := by
      have size := Option.some.inj count
      exact List.length_eq_zero_iff.mp (by omega)
    exact ⟨code, here, by rw [none, List.append_nil]⟩

/-- What is decoded is the character that the bytes are the encoding of. -/
theorem character_iff {text rest units : Text} :
    character text = some (units, rest) ↔
      ∃ code spelling, Utf8.IsScalar code ∧ Spells spelling (Utf8.codeBytes code) ∧
        text = spelling ++ rest ∧ units = Utf8.codeUnits code := by
  constructor
  · intro read
    rw [character] at read
    split at read
    · cases read
    · rename_i count begins
      obtain ⟨⟨first, after⟩, found, count'⟩ := Option.bind_eq_some_iff.mp begins
      split at read
      · cases read
      · rename_i bytes left gathered
        split at read
        · rename_i valid
          obtain ⟨rfl, rfl⟩ := Prod.mk.inj (Option.some.inj read)
          obtain ⟨spelling, rfl, spells, length⟩ := octets_iff.mp gathered
          cases bytes with
          | nil =>
            rw [← length] at count'
            exact absurd count' (announced_ne_zero first)
          | cons byte bytes =>
            obtain ⟨_, read⟩ := octet_append spells left
            obtain ⟨rfl, -⟩ := Prod.mk.inj (Option.some.inj (found.symm.trans read))
            rw [← length, ← valid] at count'
            obtain ⟨code, scalar, same⟩ := exists_of_announced valid count'
            rw [valid] at same
            rw [same] at spells ⊢
            exact ⟨code, spelling, scalar, spells, rfl, decodeUtf8_codeBytes scalar⟩
        · cases read
  · rintro ⟨code, spelling, scalar, spells, rfl, rfl⟩
    obtain ⟨first, later, begins, count⟩ := announced_codeBytes scalar
    have gathered : octets (Utf8.codeBytes code).length (spelling ++ rest) =
        some (Utf8.codeBytes code, rest) := octets_iff.mpr ⟨spelling, rfl, spells, rfl⟩
    have valid : encodeUtf8 (decodeUtf8 (Utf8.codeBytes code)) = Utf8.codeBytes code := by
      rw [decodeUtf8_codeBytes scalar, Utf8.encodeUtf8_eq, codesOf_codeUnits scalar,
        List.flatMap_singleton]
    have spells' := spells
    rw [begins] at spells'
    obtain ⟨after, read⟩ := octet_append spells' rest
    rw [character, read, Option.bind_some, count]
    simp only [gathered]
    rw [if_pos valid, decodeUtf8_codeBytes scalar]

/-! ## A whole text -/

theorem decodeFrom_skip (skip : ℕ) (text : Text) :
    decodeFrom skip text = decodeFrom 0 (text.drop skip) := by
  induction skip generalizing text with
  | zero => rfl
  | succ skip ih =>
    cases text with
    | nil => rfl
    | cons unit rest => exact ih rest

/-- What stands for a character begins with a percent sign. -/
theorem exists_of_spells {spelling : Text} {code : ℕ} (scalar : Utf8.IsScalar code)
    (spells : Spells spelling (Utf8.codeBytes code)) :
    ∃ later, spelling = percent :: later := by
  obtain ⟨first, rest, begins, -⟩ := announced_codeBytes scalar
  rw [begins] at spells
  cases spells with
  | cons _ _ _ => exact ⟨_, rfl⟩

theorem decodeFrom_plain {unit : CodeUnit} (plain : unit ≠ percent) (rest : Text) :
    decodeFrom 0 (unit :: rest) = (decodeFrom 0 rest).map (unit :: ·) := by
  rw [decodeFrom, if_neg plain]

/-- A character is decoded before what follows it. -/
theorem decodeFrom_spells {spelling : Text} {code : ℕ} (scalar : Utf8.IsScalar code)
    (spells : Spells spelling (Utf8.codeBytes code)) (rest : Text) :
    decodeFrom 0 (spelling ++ rest) = (decodeFrom 0 rest).map (Utf8.codeUnits code ++ ·) := by
  have read : character (spelling ++ rest) = some (Utf8.codeUnits code, rest) :=
    character_iff.mpr ⟨code, spelling, scalar, spells, rfl, rfl⟩
  obtain ⟨later, rfl⟩ := exists_of_spells scalar spells
  rw [List.cons_append] at read ⊢
  rw [decodeFrom, if_pos rfl]
  simp only [read]
  rw [decodeFrom_skip, List.length_append, Nat.add_sub_cancel, List.drop_left]

end PercentEncoding

/-- Decoding succeeds exactly on what percent-encodes a text, and gives that text.

Proof: by induction on the length of the text. It begins with a unit that stands for itself or
with the bytes of one character, and the decoder goes on with what follows. -/
theorem decodeURIComponent_iff {text value : Text} :
    decodeURIComponent text = some value ↔ PercentEncodes text value := by
  constructor
  · intro decoded
    rw [decodeURIComponent] at decoded
    induction size : text.length using Nat.strong_induction_on generalizing text value with
    | _ length ih =>
      subst size
      cases text with
      | nil =>
        obtain rfl := Option.some.inj decoded
        exact .nil
      | cons unit rest =>
        by_cases plain : unit = PercentEncoding.percent
        · subst plain
          have seen := decoded
          rw [PercentEncoding.decodeFrom, if_pos rfl] at seen
          cases read : PercentEncoding.character (PercentEncoding.percent :: rest) with
          | none =>
            rw [read] at seen
            cases seen
          | some found =>
            obtain ⟨code, spelling, scalar, spells, split, -⟩ :=
              PercentEncoding.character_iff.mp read
            rw [split, PercentEncoding.decodeFrom_spells scalar spells] at decoded
            obtain ⟨later, goesOn, rfl⟩ := Option.map_eq_some_iff.mp decoded
            obtain ⟨begun, rfl⟩ := PercentEncoding.exists_of_spells scalar spells
            rw [split]
            refine .character scalar spells (ih found.2.length ?_ goesOn rfl)
            rw [split, List.length_append, List.length_cons]
            omega
        · rw [PercentEncoding.decodeFrom_plain plain] at decoded
          obtain ⟨later, goesOn, rfl⟩ := Option.map_eq_some_iff.mp decoded
          exact .unit plain (ih rest.length (Nat.lt_succ_self _) goesOn rfl)
  · intro encodes
    rw [decodeURIComponent]
    induction encodes with
    | nil => rfl
    | unit plain rest ih => rw [PercentEncoding.decodeFrom_plain plain, ih, Option.map_some]
    | character scalar spells rest ih =>
      rw [PercentEncoding.decodeFrom_spells scalar spells, ih, Option.map_some]

end Script
