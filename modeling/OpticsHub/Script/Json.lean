import OpticsHub.Script.Value

/-!
# `JSON.stringify` and reading its text back

Serialization visits the members of an object in the order of enumeration, so it
is the composition of two steps: rearrange every object into that order, then
write the tree as it stands. Writing loses nothing. Each constructor begins with
a unit of its own, a string ends at its first unescaped quote because every
escape is read back as the unit it stands for, and a number ends at the first
unit that no number contains. Two JSON values with one text are therefore the
same tree once both are in the order of enumeration, and the same value up to
the order of members. The text of a value contains no newline, since strings
escape it and nothing else produces one.
-/
namespace Script

/-! ## Strings -/

/-- Four lower-case hexadecimal digits. -/
def hexQuad (unit : CodeUnit) : Text :=
  [hexUnit (unit.toNat / 0x1000), hexUnit (unit.toNat / 0x100 % 0x10),
    hexUnit (unit.toNat / 0x10 % 0x10), hexUnit (unit.toNat % 0x10)]

/-- The letter of a two-unit escape. -/
def shortEscape? (unit : CodeUnit) : Option CodeUnit :=
  if unit = 0x08 then some 0x62
  else if unit = 0x09 then some 0x74
  else if unit = 0x0A then some 0x6E
  else if unit = 0x0C then some 0x66
  else if unit = 0x0D then some 0x72
  else if unit = CodeUnit.quote then some CodeUnit.quote
  else if unit = CodeUnit.backslash then some CodeUnit.backslash
  else none

/-- One unit inside a quoted string: a short escape, a numeric escape for the other
control units and for a surrogate that is not part of a pair, or the unit itself. -/
def escapeUnit (lone : Bool) (unit : CodeUnit) : Text :=
  match shortEscape? unit with
  | some letter => [CodeUnit.backslash, letter]
  | none =>
    if unit < 0x20 || lone then CodeUnit.backslash :: 0x75 :: hexQuad unit else [unit]

/-- Whether a unit is a surrogate without its partner: a high one not followed by a
low one, or a low one not preceded by a high one. -/
def isLone (afterHigh : Bool) (unit : CodeUnit) (rest : Text) : Bool :=
  (CodeUnit.isHighSurrogate unit && !(rest.head?.any CodeUnit.isLowSurrogate)) ||
    (CodeUnit.isLowSurrogate unit && !afterHigh)

/-- The units of a quoted string, each escaped where it must be. -/
def quoteUnits (afterHigh : Bool) : Text → Text
  | [] => []
  | unit :: rest =>
    escapeUnit (isLone afterHigh unit rest) unit ++
      quoteUnits (CodeUnit.isHighSurrogate unit) rest

/-- `QuoteJSONString`. -/
def quoted (text : Text) : Text :=
  CodeUnit.quote :: (quoteUnits false text ++ [CodeUnit.quote])

/-- Read four hexadecimal digits. -/
def readHexQuad (a b c d : CodeUnit) : CodeUnit :=
  UInt16.ofNat (((((hexValue a).getD 0) * 0x10 + (hexValue b).getD 0) * 0x10 +
    (hexValue c).getD 0) * 0x10 + (hexValue d).getD 0)

/-- The unit the letter of a two-unit escape stands for. -/
def readShortEscape (letter : CodeUnit) : CodeUnit :=
  if letter = 0x62 then 0x08
  else if letter = 0x74 then 0x09
  else if letter = 0x6E then 0x0A
  else if letter = 0x66 then 0x0C
  else if letter = 0x72 then 0x0D
  else letter

/-- Read one escaped unit from the front of a text. -/
def readUnit : Text → Option (CodeUnit × Text)
  | [] => none
  | first :: rest =>
    if first = CodeUnit.backslash then
      match rest with
      | [] => none
      | letter :: rest =>
        if letter = 0x75 then
          match rest with
          | a :: b :: c :: d :: rest => some (readHexQuad a b c d, rest)
          | _ => none
        else some (readShortEscape letter, rest)
    else some (first, rest)

theorem readHexQuad_hexQuad (unit : CodeUnit) :
    readHexQuad (hexUnit (unit.toNat / 0x1000)) (hexUnit (unit.toNat / 0x100 % 0x10))
      (hexUnit (unit.toNat / 0x10 % 0x10)) (hexUnit (unit.toNat % 0x10)) = unit := by
  have inside : unit.toNat < 65536 := unit.toNat_lt
  unfold readHexQuad
  rw [hexValue_hexUnit (by omega), hexValue_hexUnit (by omega), hexValue_hexUnit (by omega),
    hexValue_hexUnit (by omega)]
  simp only [Option.getD_some]
  have whole : ((unit.toNat / 0x1000 * 0x10 + unit.toNat / 0x100 % 0x10) * 0x10 +
      unit.toNat / 0x10 % 0x10) * 0x10 + unit.toNat % 0x10 = unit.toNat := by omega
  rw [whole, UInt16.ofNat_toNat]

/-- A short escape is read back, and its letter never announces four digits. -/
theorem readShortEscape_of_shortEscape {unit letter : CodeUnit}
    (escaped : shortEscape? unit = some letter) :
    readShortEscape letter = unit ∧ letter ≠ 0x75 := by
  unfold shortEscape? at escaped
  split_ifs at escaped with isB isT isN isF isR isQuote isBackslash
  all_goals
    cases escaped
    simp_all [readShortEscape, CodeUnit.quote, CodeUnit.backslash]

theorem backslash_escaped {unit : CodeUnit} (plain : shortEscape? unit = none) :
    unit ≠ CodeUnit.backslash ∧ unit ≠ CodeUnit.quote ∧ unit ≠ CodeUnit.newline := by
  refine ⟨?_, ?_, ?_⟩ <;>
  · rintro rfl
    exact absurd plain (by decide)

/-- Every escape is read back as the unit it stands for. -/
theorem readUnit_escapeUnit (lone : Bool) (unit : CodeUnit) (rest : Text) :
    readUnit (escapeUnit lone unit ++ rest) = some (unit, rest) := by
  unfold escapeUnit
  cases escaped : shortEscape? unit with
  | some letter =>
    obtain ⟨back, short⟩ := readShortEscape_of_shortEscape escaped
    simp [readUnit, short, back]
  | none =>
    obtain ⟨plain, -, -⟩ := backslash_escaped escaped
    dsimp only
    split
    · simp only [List.cons_append, hexQuad, List.nil_append, readUnit, if_true,
        readHexQuad_hexQuad]
    · simp [readUnit, plain]

theorem escapeUnit_append_cancel {lone lone' : Bool} {unit unit' : CodeUnit}
    {rest rest' : Text}
    (same : escapeUnit lone unit ++ rest = escapeUnit lone' unit' ++ rest') :
    unit = unit' ∧ rest = rest' := by
  have back := readUnit_escapeUnit lone unit rest
  rw [same, readUnit_escapeUnit, Option.some.injEq, Prod.mk.injEq] at back
  exact ⟨back.1.symm, back.2.symm⟩

/-- No escape begins with a quote, so the first bare quote ends the string. -/
theorem escapeUnit_append_ne_quote (lone : Bool) (unit : CodeUnit) (rest tail : Text) :
    escapeUnit lone unit ++ rest ≠ CodeUnit.quote :: tail := by
  intro same
  unfold escapeUnit at same
  cases escaped : shortEscape? unit with
  | some letter =>
    simp only [escaped, List.cons_append, List.cons.injEq] at same
    exact absurd same.1 (by decide)
  | none =>
    obtain ⟨-, bare, -⟩ := backslash_escaped escaped
    simp only [escaped] at same
    split at same
    · simp only [List.cons_append, List.cons.injEq] at same
      exact absurd same.1 (by decide)
    · simp only [List.cons_append, List.cons.injEq] at same
      exact bare same.1

theorem quoteUnits_append_cancel {text text' : Text} {afterHigh afterHigh' : Bool}
    {rest rest' : Text}
    (same : quoteUnits afterHigh text ++ CodeUnit.quote :: rest =
      quoteUnits afterHigh' text' ++ CodeUnit.quote :: rest') :
    text = text' ∧ rest = rest' := by
  induction text generalizing text' afterHigh afterHigh' with
  | nil =>
    cases text' with
    | nil => exact ⟨rfl, (List.cons.inj same).2⟩
    | cons unit' text' =>
      rw [quoteUnits, quoteUnits, List.append_assoc] at same
      exact absurd same.symm (escapeUnit_append_ne_quote _ _ _ _)
  | cons unit text ih =>
    cases text' with
    | nil =>
      rw [quoteUnits, quoteUnits, List.append_assoc] at same
      exact absurd same (escapeUnit_append_ne_quote _ _ _ _)
    | cons unit' text' =>
      rw [quoteUnits, quoteUnits, List.append_assoc, List.append_assoc] at same
      obtain ⟨units, tails⟩ := escapeUnit_append_cancel same
      obtain ⟨texts, rests⟩ := ih tails
      exact ⟨by rw [units, texts], rests⟩

/-- A quoted string is recovered from any text it begins. -/
theorem quoted_append_cancel {text text' rest rest' : Text}
    (same : quoted text ++ rest = quoted text' ++ rest') : text = text' ∧ rest = rest' := by
  simp only [quoted, List.cons_append, List.append_assoc, List.nil_append, List.cons.injEq,
    true_and] at same
  exact quoteUnits_append_cancel same

theorem newline_notMem_escapeUnit (lone : Bool) (unit : CodeUnit) :
    CodeUnit.newline ∉ escapeUnit lone unit := by
  have digits : ∀ digit < 16, CodeUnit.newline ≠ hexUnit digit := by decide
  have inside : unit.toNat < 65536 := unit.toNat_lt
  unfold escapeUnit
  cases escaped : shortEscape? unit with
  | some letter =>
    have visible : letter ≠ CodeUnit.newline := by
      unfold shortEscape? at escaped
      split_ifs at escaped
      all_goals
        cases escaped
        decide
    simp only [List.mem_cons, List.not_mem_nil, or_false, not_or]
    exact ⟨by decide, visible.symm⟩
  | none =>
    obtain ⟨-, -, other⟩ := backslash_escaped escaped
    dsimp only
    split
    · simp only [hexQuad, List.mem_cons, List.not_mem_nil, or_false, not_or]
      exact ⟨by decide, by decide, digits _ (by omega), digits _ (by omega),
        digits _ (by omega), digits _ (by omega)⟩
    · simpa using other.symm

theorem newline_notMem_quoted (text : Text) : CodeUnit.newline ∉ quoted text := by
  have units : ∀ afterHigh, CodeUnit.newline ∉ quoteUnits afterHigh text := by
    induction text with
    | nil => simp [quoteUnits]
    | cons unit rest ih =>
      intro afterHigh
      rw [quoteUnits, List.mem_append, not_or]
      exact ⟨newline_notMem_escapeUnit _ _, ih _⟩
  simp only [quoted, List.mem_cons, List.mem_append, List.not_mem_nil, or_false, not_or]
  exact ⟨by decide, units false, by decide⟩

/-! ## Values -/

/-- The texts with a comma between each two. -/
def joinCommas : List Text → Text
  | [] => []
  | text :: rest => text ++ rest.flatMap fun next => CodeUnit.comma :: next

/-- One member of an object. -/
def memberText (entry : Text × Text) : Text := quoted entry.1 ++ CodeUnit.colon :: entry.2

mutual

/-- `JSON.stringify(value)`, which has no text for undefined. A member whose value
has none is left out; an element is written as null in its place. -/
def stringify : Value → Option Text
  | .undefined => none
  | .null => some "null"
  | .boolean true => some "true"
  | .boolean false => some "false"
  | .number (.finite decimal) => some decimal.text
  | .number _ => some "null"
  | .string text => some (quoted text)
  | .date (some iso) => some (quoted iso)
  | .date none => some "null"
  | .array elements =>
    some (CodeUnit.openBracket :: (joinCommas (stringifyElements elements) ++
      [CodeUnit.closeBracket]))
  | .object members =>
    some (CodeUnit.openBrace :: (joinCommas
      ((Members.enumerate (stringifyMembers members)).map memberText) ++ [CodeUnit.closeBrace]))

def stringifyElements : List Value → List Text
  | [] => []
  | element :: rest => (stringify element).getD "null" :: stringifyElements rest

def stringifyMembers : Members Value → Members Text
  | [] => []
  | (key, value) :: rest =>
    match stringify value with
    | none => stringifyMembers rest
    | some text => (key, text) :: stringifyMembers rest

end

mutual

/-- The text of a value with the members of every object written as they stand. -/
def write : Value → Text
  | .undefined => []
  | .null => "null"
  | .boolean true => "true"
  | .boolean false => "false"
  | .number (.finite decimal) => decimal.text
  | .number _ => []
  | .string text => quoted text
  | .date _ => []
  | .array elements =>
    CodeUnit.openBracket :: (joinCommas (writeElements elements) ++ [CodeUnit.closeBracket])
  | .object members =>
    CodeUnit.openBrace :: (joinCommas (writeMembers members) ++ [CodeUnit.closeBrace])

def writeElements : List Value → List Text
  | [] => []
  | element :: rest => write element :: writeElements rest

def writeMembers : Members Value → List Text
  | [] => []
  | (key, value) :: rest => memberText (key, write value) :: writeMembers rest

end

theorem writeElements_eq (elements : List Value) :
    writeElements elements = elements.map write := by
  induction elements with
  | nil => rfl
  | cons element rest ih => rw [writeElements, ih, List.map_cons]

theorem writeMembers_eq (members : Members Value) :
    writeMembers members = (Members.mapValues write members).map memberText := by
  induction members with
  | nil => rfl
  | cons entry rest ih =>
    rw [writeMembers, ih]
    rfl

/-- The members of a value, in the order of enumeration at every depth. -/
def arranged (value : Value) : Value := value.rebuild Members.enumerate

/-- Serialization rearranges every object and then writes it as it stands. -/
theorem stringify_eq_write {value : Value} (json : value.isJson = true) :
    stringify value = some (write (arranged value)) := by
  unfold arranged
  induction value with
  | undefined => simp [Value.isJson] at json
  | date _ => simp [Value.isJson] at json
  | null => rfl
  | boolean value => cases value <;> rfl
  | number value =>
    cases value with
    | finite decimal => rfl
    | nan => simp [Value.isJson] at json
    | infinity _ => simp [Value.isJson] at json
  | string text => rfl
  | array elements ih =>
    rw [Value.isJson_array] at json
    have texts : stringifyElements elements =
        writeElements (elements.map (Value.rebuild Members.enumerate)) := by
      rw [writeElements_eq, List.map_map]
      induction elements with
      | nil => rfl
      | cons element rest inner =>
        rw [List.forall_mem_cons] at ih json
        rw [stringifyElements, ih.1 json.1, inner ih.2 json.2]
        rfl
    rw [stringify, texts, Value.rebuild_array, write]
  | object members ih =>
    rw [Value.isJson_object] at json
    have texts : stringifyMembers members =
        Members.mapValues (fun value => write (value.rebuild Members.enumerate)) members := by
      obtain ⟨-, json⟩ := json
      induction members with
      | nil => rfl
      | cons entry rest inner =>
        rw [List.forall_mem_cons] at ih json
        simp only [stringifyMembers, ih.1 json.1, inner ih.2 json.2]
        rfl
    rw [stringify, texts, Value.rebuild_object, write, writeMembers_eq,
      Members.enumerate_mapValues, Members.enumerate_mapValues, Members.mapValues_mapValues]
    rfl

/-! ## Reading a written value back -/

/-- Where a number's text has to end. -/
abbrev Ends (rest : Text) : Prop := Delimited Spelling.isNumberUnit rest

theorem ends_cons {unit : CodeUnit} (outside : Spelling.isNumberUnit unit = false)
    (rest : Text) : Ends (unit :: rest) := by
  simpa [Ends, Delimited] using outside

section Lists

variable {α : Type*} {closing : CodeUnit}

/-- The items after the first are recovered up to the closing bracket. -/
theorem commas_append_cancel (item : α → Text) (good : α → Prop) (bracket : closing ≠ CodeUnit.comma)
    (outside : Spelling.isNumberUnit closing = false) {xs ys : List α}
    (cancels : ∀ x ∈ xs, ∀ y, good y → ∀ rest rest', Ends rest → Ends rest' →
      item x ++ rest = item y ++ rest' → x = y ∧ rest = rest')
    (inside : ∀ y ∈ ys, good y) {rest rest' : Text}
    (same : (xs.flatMap fun x => CodeUnit.comma :: item x) ++ closing :: rest =
      (ys.flatMap fun y => CodeUnit.comma :: item y) ++ closing :: rest') :
    xs = ys ∧ rest = rest' := by
  have ends : ∀ (zs : List α) (tail : Text),
      Ends ((zs.flatMap fun z => CodeUnit.comma :: item z) ++ closing :: tail) := by
    intro zs tail
    cases zs with
    | nil => exact ends_cons outside _
    | cons z zs => exact ends_cons (by decide) _
  induction xs generalizing ys with
  | nil =>
    cases ys with
    | nil => exact ⟨rfl, (List.cons.inj same).2⟩
    | cons y ys => exact absurd (List.cons.inj same).1 bracket
  | cons x xs ih =>
    cases ys with
    | nil => exact absurd (List.cons.inj same).1.symm bracket
    | cons y ys =>
      rw [List.forall_mem_cons] at cancels inside
      simp only [List.flatMap_cons, List.cons_append, List.append_assoc, List.cons.injEq,
        true_and] at same
      obtain ⟨heads, tails⟩ := cancels.1 y inside.1 _ _ (ends xs rest) (ends ys rest') same
      obtain ⟨others, rests⟩ := ih cancels.2 inside.2 tails
      exact ⟨by rw [heads, others], rests⟩

/-- A bracketed list is recovered from its joined items when no item begins with
the closing bracket. -/
theorem joinCommas_append_cancel (item : α → Text) (good : α → Prop) (bracket : closing ≠ CodeUnit.comma)
    (outside : Spelling.isNumberUnit closing = false) {xs ys : List α}
    (cancels : ∀ x ∈ xs, ∀ y, good y → ∀ rest rest', Ends rest → Ends rest' →
      item x ++ rest = item y ++ rest' → x = y ∧ rest = rest')
    (inside : ∀ y ∈ ys, good y)
    (opens : ∀ x, x ∈ xs ∨ x ∈ ys → ∀ rest tail, item x ++ rest ≠ closing :: tail)
    {rest rest' : Text}
    (same : joinCommas (xs.map item) ++ closing :: rest =
      joinCommas (ys.map item) ++ closing :: rest') : xs = ys ∧ rest = rest' := by
  have ends : ∀ (zs : List α) (tail : Text),
      Ends ((zs.flatMap fun z => CodeUnit.comma :: item z) ++ closing :: tail) := by
    intro zs tail
    cases zs with
    | nil => exact ends_cons outside _
    | cons z zs => exact ends_cons (by decide) _
  cases xs with
  | nil =>
    cases ys with
    | nil => exact ⟨rfl, (List.cons.inj same).2⟩
    | cons y ys =>
      rw [List.map_cons, joinCommas, List.append_assoc] at same
      exact absurd same.symm (opens y (.inr List.mem_cons_self) _ _)
  | cons x xs =>
    cases ys with
    | nil =>
      rw [List.map_cons, joinCommas, List.append_assoc] at same
      exact absurd same (opens x (.inl List.mem_cons_self) _ _)
    | cons y ys =>
      rw [List.forall_mem_cons] at cancels inside
      simp only [List.map_cons, joinCommas, List.flatMap_map, List.append_assoc] at same
      obtain ⟨heads, tails⟩ := cancels.1 y inside.1 _ _ (ends xs rest) (ends ys rest') same
      obtain ⟨others, rests⟩ :=
        commas_append_cancel item good bracket outside cancels.2 inside.2 tails
      exact ⟨by rw [heads, others], rests⟩

end Lists

/-- The constructor a JSON text begins with, read from its first unit. A closing
bracket begins no text and has a number of its own. -/
def leadKind (unit : CodeUnit) : ℕ :=
  if unit = 0x6E then 0
  else if unit = 0x74 ∨ unit = 0x66 then 1
  else if unit = CodeUnit.quote then 2
  else if unit = CodeUnit.openBracket then 3
  else if unit = CodeUnit.openBrace then 4
  else if unit = CodeUnit.closeBracket ∨ unit = CodeUnit.closeBrace then 6
  else 5

/-- The constructor of a JSON value, in the numbering of `leadKind`. -/
def kind : Value → ℕ
  | .null => 0
  | .boolean _ => 1
  | .string _ => 2
  | .array _ => 3
  | .object _ => 4
  | _ => 5

theorem leadKind_of_digit {unit : CodeUnit}
    (starts : CodeUnit.isDigit unit = true ∨ unit = CodeUnit.minus) : leadKind unit = 5 := by
  have other : ∀ unit' : CodeUnit,
      ¬ (CodeUnit.isDigit unit' = true ∨ unit' = CodeUnit.minus) → unit ≠ unit' := by
    rintro unit' outside rfl
    exact outside starts
  unfold leadKind
  rw [if_neg (other _ (by decide)), if_neg (not_or.mpr ⟨other _ (by decide), other _ (by decide)⟩),
    if_neg (other _ (by decide)), if_neg (other _ (by decide)), if_neg (other _ (by decide)),
    if_neg (not_or.mpr ⟨other _ (by decide), other _ (by decide)⟩)]

/-- A written JSON value begins with a unit that tells its constructor. -/
theorem write_lead {value : Value} (json : value.isJson = true) :
    ∃ unit rest, write value = unit :: rest ∧ leadKind unit = kind value := by
  cases value with
  | undefined => simp [Value.isJson] at json
  | date _ => simp [Value.isJson] at json
  | null => exact ⟨_, _, rfl, by decide⟩
  | boolean value => cases value <;> exact ⟨_, _, rfl, by decide⟩
  | string text => exact ⟨CodeUnit.quote, _, rfl, show leadKind CodeUnit.quote = 2 by decide⟩
  | array elements =>
    exact ⟨CodeUnit.openBracket, _, rfl, show leadKind CodeUnit.openBracket = 3 by decide⟩
  | object members =>
    exact ⟨CodeUnit.openBrace, _, rfl, show leadKind CodeUnit.openBrace = 4 by decide⟩
  | number value =>
    cases value with
    | nan => simp [Value.isJson] at json
    | infinity _ => simp [Value.isJson] at json
    | finite decimal =>
      obtain ⟨unit, rest, starts, digit⟩ := decimal.text_head
      exact ⟨unit, rest, starts, leadKind_of_digit digit⟩

/-- Equal texts come from equal constructors. -/
theorem kind_eq_of_write_append {left right : Value} (json : left.isJson = true)
    (json' : right.isJson = true) {rest rest' : Text}
    (same : write left ++ rest = write right ++ rest') : kind left = kind right := by
  obtain ⟨unit, tail, starts, lead⟩ := write_lead json
  obtain ⟨unit', tail', starts', lead'⟩ := write_lead json'
  rw [starts, starts'] at same
  rw [← lead, ← lead', (List.cons.inj same).1]

/-- No JSON text begins with a closing bracket. -/
theorem write_append_ne {value : Value} (json : value.isJson = true) {closing : CodeUnit}
    (closes : leadKind closing = 6) (rest tail : Text) :
    write value ++ rest ≠ closing :: tail := by
  obtain ⟨unit, text, starts, lead⟩ := write_lead json
  intro same
  rw [starts, List.cons_append, List.cons.injEq] at same
  have number : kind value = 6 := by rw [← lead, same.1, closes]
  cases value <;> simp [kind] at number

/-- A JSON value is recovered from any text its writing begins, when what follows
cannot continue a number. -/
theorem write_append_cancel {left right : Value} (json : left.isJson = true)
    (json' : right.isJson = true) {rest rest' : Text} (ends : Ends rest) (ends' : Ends rest')
    (same : write left ++ rest = write right ++ rest') : left = right ∧ rest = rest' := by
  have kinds := kind_eq_of_write_append json json' same
  induction left generalizing right rest rest' with
  | undefined => simp [Value.isJson] at json
  | date _ => simp [Value.isJson] at json
  | null =>
    cases right with
    | null => exact ⟨rfl, List.append_cancel_left same⟩
    | undefined | date _ => simp [Value.isJson] at json'
    | _ => simp [kind] at kinds
  | boolean value =>
    cases right with
    | boolean value' =>
      cases value <;> cases value'
      · exact ⟨rfl, List.append_cancel_left same⟩
      · exact absurd (List.cons.inj same).1 (by decide)
      · exact absurd (List.cons.inj same).1 (by decide)
      · exact ⟨rfl, List.append_cancel_left same⟩
    | undefined | date _ => simp [Value.isJson] at json'
    | _ => simp [kind] at kinds
  | number value =>
    cases right with
    | number value' =>
      cases value with
      | nan | infinity _ => simp [Value.isJson] at json
      | finite decimal =>
        cases value' with
        | nan | infinity _ => simp [Value.isJson] at json'
        | finite decimal' =>
          obtain ⟨texts, rests⟩ := run_append_cancel decimal.text_isNumberUnit
            decimal'.text_isNumberUnit ends ends' same
          exact ⟨by rw [Decimal.text_injective texts], rests⟩
    | undefined | date _ => simp [Value.isJson] at json'
    | _ => simp [kind] at kinds
  | string text =>
    cases right with
    | string text' =>
      obtain ⟨texts, rests⟩ := quoted_append_cancel same
      exact ⟨by rw [texts], rests⟩
    | undefined | date _ => simp [Value.isJson] at json'
    | _ => simp [kind] at kinds
  | array elements ih =>
    cases right with
    | array elements' =>
      rw [Value.isJson_array] at json json'
      simp only [write, writeElements_eq, List.cons_append, List.append_assoc,
        List.nil_append, List.cons.injEq, true_and] at same
      obtain ⟨lists, rests⟩ := joinCommas_append_cancel write
        (fun value => value.isJson = true) (by decide) (by decide)
        (fun x inside y good rest rest' ends ends' same => ih x inside (json x inside) good
          ends ends' same (kind_eq_of_write_append (json x inside) good same))
        json'
        (fun x inside => write_append_ne (inside.elim (json x) (json' x)) (by decide))
        same
      exact ⟨by rw [lists], rests⟩
    | undefined | date _ => simp [Value.isJson] at json'
    | _ => simp [kind] at kinds
  | object members ih =>
    cases right with
    | object members' =>
      rw [Value.isJson_object] at json json'
      simp only [write, writeMembers_eq, Members.mapValues, List.map_map, List.cons_append,
        List.append_assoc, List.nil_append, List.cons.injEq, true_and] at same
      obtain ⟨lists, rests⟩ := joinCommas_append_cancel
        (memberText ∘ fun entry : Text × Value => (entry.1, write entry.2))
        (fun entry => entry.2.isJson = true) (by decide) (by decide)
        (fun x inside y good rest rest' ends ends' same => by
          simp only [Function.comp_apply, memberText, List.append_assoc,
            List.cons_append] at same
          obtain ⟨keys, tails⟩ := quoted_append_cancel same
          have values := (List.cons.inj tails).2
          obtain ⟨equal, rests⟩ := ih x inside (json.2 x inside) good ends ends' values
            (kind_eq_of_write_append (json.2 x inside) good values)
          exact ⟨Prod.ext keys equal, rests⟩)
        json'.2
        (fun x _ rest tail same => by
          simp only [Function.comp_apply, memberText, quoted, List.cons_append,
            List.cons.injEq] at same
          exact absurd same.1 (by decide))
        same
      exact ⟨by rw [lists], rests⟩
    | undefined | date _ => simp [Value.isJson] at json'
    | _ => simp [kind] at kinds

theorem arranged_isJson {value : Value} (json : value.isJson = true) :
    (arranged value).isJson = true :=
  Value.isJson_rebuild (fun members => (Members.enumerate_perm members).subperm) json

/-- Two JSON values with one text are equivalent: they differ at most in the order
in which their members were created. -/
theorem equivalent_of_stringify {left right : Value} (json : left.isJson = true)
    (json' : right.isJson = true) (same : stringify left = stringify right) :
    Value.Equivalent left right := by
  rw [stringify_eq_write json, stringify_eq_write json', Option.some.injEq] at same
  have ends : Ends [] := by simp [Ends, Delimited]
  have texts : write (arranged left) ++ [] = write (arranged right) ++ [] := by
    rw [List.append_nil, List.append_nil, same]
  obtain ⟨trees, -⟩ :=
    write_append_cancel (arranged_isJson json) (arranged_isJson json') ends ends texts
  calc Value.sorted left = Value.sorted (arranged left) :=
        (Value.sorted_rebuild_enumerate json).symm
    _ = Value.sorted (arranged right) := by rw [trees]
    _ = Value.sorted right := Value.sorted_rebuild_enumerate json'

/-! ## No newline -/

theorem newline_notMem_joinCommas {texts : List Text}
    (clean : ∀ text ∈ texts, CodeUnit.newline ∉ text) :
    CodeUnit.newline ∉ joinCommas texts := by
  cases texts with
  | nil => simp [joinCommas]
  | cons text rest =>
    rw [List.forall_mem_cons] at clean
    rw [joinCommas, List.mem_append, List.mem_flatMap, not_or]
    refine ⟨clean.1, ?_⟩
    rintro ⟨next, inside, written⟩
    rcases List.mem_cons.mp written with same | later
    · exact absurd same (by decide)
    · exact clean.2 next inside later

/-- The text of a JSON value is one line. -/
theorem newline_notMem_write {value : Value} (json : value.isJson = true) :
    CodeUnit.newline ∉ write value := by
  induction value with
  | undefined => simp [Value.isJson] at json
  | date _ => simp [Value.isJson] at json
  | null => rw [write]; decide
  | boolean value => cases value <;> rw [write] <;> decide
  | number value =>
    cases value with
    | nan | infinity _ => simp [Value.isJson] at json
    | finite decimal => exact Number.newline_notMem_text (.finite decimal)
  | string text => exact newline_notMem_quoted text
  | array elements ih =>
    rw [Value.isJson_array] at json
    have clean : ∀ text ∈ elements.map write, CodeUnit.newline ∉ text :=
      List.forall_mem_map.mpr fun element inside => ih element inside (json element inside)
    have items := newline_notMem_joinCommas clean
    rw [write, writeElements_eq, List.mem_cons, List.mem_append, List.mem_singleton]
    rintro (same | inside | same)
    · exact absurd same (by decide)
    · exact items inside
    · exact absurd same (by decide)
  | object members ih =>
    rw [Value.isJson_object] at json
    have entry : ∀ entry ∈ members,
        CodeUnit.newline ∉ memberText (entry.1, write entry.2) := by
      intro entry inside written
      rcases List.mem_append.mp written with key | tail
      · exact newline_notMem_quoted _ key
      rcases List.mem_cons.mp tail with same | value
      · exact absurd same (by decide)
      · exact ih entry inside (json.2 entry inside) value
    have clean : ∀ text ∈ (Members.mapValues write members).map memberText,
        CodeUnit.newline ∉ text := by
      rw [Members.mapValues, List.map_map]
      exact List.forall_mem_map.mpr entry
    have items := newline_notMem_joinCommas clean
    rw [write, writeMembers_eq, List.mem_cons, List.mem_append, List.mem_singleton]
    rintro (same | inside | same)
    · exact absurd same (by decide)
    · exact items inside
    · exact absurd same (by decide)

example : stringify (.object [("b", .boolean true), ("2", .null), ("10", .array [.undefined])]) =
    some (Text.ofString "\x7b\"2\":null,\"10\":[null],\"b\":true\x7d") := by decide

end Script
