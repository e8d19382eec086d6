import OpticsHub.Script.Numerals

/-!
# Values written as JSON and read back

What arrives when a value is written and read again is the value as JSON has it: members that are
undefined are left out, other places without a text become null, and a date becomes its text. The
members come in the order of enumeration. The writer does not tell a value from its form as JSON,
and the reader takes from a text exactly what the writer put there.
-/
namespace Script

open Members

namespace Value

/-! ## The form of a value as JSON -/

mutual

/-- A value that a program can hold: the keys of every object are distinct, and every finite
number is a double. -/
def WellFormed : Value → Prop
  | .undefined => True
  | .null => True
  | .boolean _ => True
  | .number (.finite decimal) => Number.ofRat decimal.toRat = .finite decimal
  | .number .nan => True
  | .number (.infinity _) => True
  | .string _ => True
  | .date _ => True
  | .array elements => WellFormedElements elements
  | .object members => (keys members).Nodup ∧ WellFormedMembers members

def WellFormedElements : List Value → Prop
  | [] => True
  | element :: rest => WellFormed element ∧ WellFormedElements rest

def WellFormedMembers : Members Value → Prop
  | [] => True
  | (_, value) :: rest => WellFormed value ∧ WellFormedMembers rest

end

@[simp]
theorem wellFormed_array (elements : List Value) :
    WellFormed (.array elements) ↔ ∀ element ∈ elements, WellFormed element := by
  rw [WellFormed]
  induction elements with
  | nil => simp [WellFormedElements]
  | cons element rest ih => simp [WellFormedElements, ih]

@[simp]
theorem wellFormed_object (members : Members Value) :
    WellFormed (.object members) ↔
      (keys members).Nodup ∧ ∀ entry ∈ members, WellFormed entry.2 := by
  have inner : WellFormedMembers members ↔ ∀ entry ∈ members, WellFormed entry.2 := by
    induction members with
    | nil => simp [WellFormedMembers]
    | cons entry rest ih => simp [WellFormedMembers, ih]
  rw [WellFormed, inner]

def isDefined : Value → Bool
  | .undefined => false
  | _ => true

/-- The members that have a value. -/
def definedMembers (members : Members Value) : Members Value :=
  members.filter fun entry => entry.2.isDefined

theorem definedMembers_cons (entry : Text × Value) (rest : Members Value) :
    definedMembers (entry :: rest) =
      if entry.2.isDefined then entry :: definedMembers rest else definedMembers rest :=
  List.filter_cons

mutual

/-- A value as JSON has it. -/
def asJson : Value → Value
  | .undefined => .null
  | .null => .null
  | .boolean value => .boolean value
  | .number (.finite decimal) => .number (.finite decimal)
  | .number .nan => .null
  | .number (.infinity _) => .null
  | .string text => .string text
  | .date (some iso) => .string iso
  | .date none => .null
  | .array elements => .array (asJsonElements elements)
  | .object members => .object (asJsonMembers members)

def asJsonElements : List Value → List Value
  | [] => []
  | element :: rest => asJson element :: asJsonElements rest

def asJsonMembers : Members Value → Members Value
  | [] => []
  | (key, value) :: rest =>
    if value.isDefined then (key, asJson value) :: asJsonMembers rest else asJsonMembers rest

end

@[simp]
theorem asJson_array (elements : List Value) :
    asJson (.array elements) = .array (elements.map asJson) := by
  rw [asJson]
  congr 1
  induction elements with
  | nil => rfl
  | cons element rest ih => rw [asJsonElements, ih, List.map_cons]

@[simp]
theorem asJson_object (members : Members Value) :
    asJson (.object members) = .object (mapValues asJson (definedMembers members)) := by
  rw [asJson]
  congr 1
  induction members with
  | nil => rfl
  | cons entry rest ih =>
    rw [asJsonMembers, definedMembers_cons, ih]
    split <;> rfl

theorem nodup_keys_definedMembers {members : Members Value} (distinct : (keys members).Nodup) :
    (keys (definedMembers members)).Nodup :=
  distinct.sublist (List.filter_sublist.map Prod.fst)

/-- The form of a value as JSON is JSON. -/
theorem isJson_asJson {value : Value} (formed : value.WellFormed) :
    (asJson value).isJson = true := by
  induction value with
  | undefined | null | boolean _ | string _ => rfl
  | number value => cases value <;> rfl
  | date iso => cases iso <;> rfl
  | array elements ih =>
    rw [wellFormed_array] at formed
    rw [asJson_array, isJson_array]
    exact List.forall_mem_map.mpr fun element inside => ih element inside (formed element inside)
  | object members ih =>
    rw [wellFormed_object] at formed
    rw [asJson_object, isJson_object, keys_mapValues]
    refine ⟨nodup_keys_definedMembers formed.1, ?_⟩
    exact List.forall_mem_map.mpr fun entry inside =>
      ih entry (List.mem_of_mem_filter inside) (formed.2 entry (List.mem_of_mem_filter inside))

theorem wellFormed_asJson {value : Value} (formed : value.WellFormed) :
    (asJson value).WellFormed := by
  induction value with
  | undefined | null | boolean _ | string _ => trivial
  | number value =>
    cases value with
    | finite decimal => exact formed
    | nan | infinity _ => trivial
  | date iso => cases iso <;> trivial
  | array elements ih =>
    rw [wellFormed_array] at formed
    rw [asJson_array, wellFormed_array]
    exact List.forall_mem_map.mpr fun element inside => ih element inside (formed element inside)
  | object members ih =>
    rw [wellFormed_object] at formed
    rw [asJson_object, wellFormed_object, keys_mapValues]
    refine ⟨nodup_keys_definedMembers formed.1, ?_⟩
    exact List.forall_mem_map.mpr fun entry inside =>
      ih entry (List.mem_of_mem_filter inside) (formed.2 entry (List.mem_of_mem_filter inside))

end Value

open Value

/-- The writer does not tell a value from its form as JSON. -/
theorem stringify_asJson {value : Value} (defined : value.isDefined = true) :
    stringify (asJson value) = stringify value := by
  induction value with
  | undefined => cases defined
  | null | boolean _ | string _ => rfl
  | number value => cases value <;> rfl
  | date iso => cases iso <;> rfl
  | array elements ih =>
    clear defined
    have texts : stringifyElements (elements.map asJson) = stringifyElements elements := by
      induction elements with
      | nil => rfl
      | cons element rest inner =>
        rw [List.forall_mem_cons] at ih
        have same : (stringify (asJson element)).getD "null" =
            (stringify element).getD "null" := by
          by_cases present : element.isDefined = true
          · rw [ih.1 present]
          · cases element with
            | undefined => rfl
            | _ => exact absurd rfl present
        rw [List.map_cons, stringifyElements, stringifyElements, same, inner ih.2]
    rw [asJson_array, stringify, stringify, texts]
  | object members ih =>
    clear defined
    have texts : stringifyMembers (mapValues asJson (definedMembers members)) =
        stringifyMembers members := by
      induction members with
      | nil => rfl
      | cons entry rest inner =>
        rw [List.forall_mem_cons] at ih
        obtain ⟨key, value⟩ := entry
        by_cases present : value.isDefined = true
        · rw [definedMembers_cons, if_pos present]
          simp only [mapValues, List.map_cons, stringifyMembers, ih.1 present]
          have rests := inner ih.2
          rw [mapValues] at rests
          rw [rests]
        · cases value with
          | undefined =>
            rw [definedMembers_cons, if_neg present, inner ih.2]
            rfl
          | _ => exact absurd rfl present
    rw [asJson_object, stringify, stringify, texts]

/-! ## Reading what was written -/

namespace Json

theorem skipBlanks_of_not_blank {unit : CodeUnit} (visible : isBlank unit = false) (rest : Text) :
    skipBlanks (unit :: rest) = unit :: rest := by
  rw [skipBlanks, List.dropWhile_cons_of_neg (by simp [visible])]

/-- Every escape of the writer is one the grammar allows. -/
theorem parseUnit_escapeUnit (lone : Bool) (unit : CodeUnit) (rest : Text) :
    parseUnit (escapeUnit lone unit ++ rest) = some (unit, rest) := by
  have back := readUnit_escapeUnit lone unit rest
  unfold escapeUnit at back ⊢
  cases escaped : shortEscape? unit with
  | some letter =>
    obtain ⟨-, short⟩ := readShortEscape_of_shortEscape escaped
    have allowed : isShortEscape letter = true := by
      unfold shortEscape? at escaped
      split_ifs at escaped
      all_goals
        cases escaped
        decide
    simp only [escaped, List.cons_append, List.nil_append] at back ⊢
    rw [parseUnit, if_pos rfl, if_neg short, if_pos allowed, back]
  | none =>
    obtain ⟨plain, -, -⟩ := backslash_escaped escaped
    simp only [escaped] at back ⊢
    by_cases numeric : unit < 0x20 || lone
    · rw [if_pos numeric] at back ⊢
      have digits : ∀ digit < 16, CodeUnit.isHexDigit (hexUnit digit) = true := by decide
      have inside : unit.toNat < 65536 := unit.toNat_lt
      have four : ((hexQuad unit ++ rest).take 4).length = 4 ∧
          ((hexQuad unit ++ rest).take 4).all CodeUnit.isHexDigit = true := by
        have first : (hexQuad unit ++ rest).take 4 = hexQuad unit := List.take_left' rfl
        rw [first, hexQuad]
        refine ⟨rfl, ?_⟩
        simp only [List.all_cons, List.all_nil, Bool.and_true, Bool.and_eq_true]
        exact ⟨digits _ (by omega), digits _ (by omega), digits _ (by omega), digits _ (by omega)⟩
      simp only [List.cons_append] at back ⊢
      rw [parseUnit, if_pos rfl, if_pos rfl, if_pos four, back]
    · rw [if_neg numeric] at back ⊢
      rw [Bool.or_eq_true, not_or, decide_eq_true_eq] at numeric
      simp only [List.cons_append, List.nil_append] at back ⊢
      rw [parseUnit.eq_def]
      dsimp only
      rw [if_neg plain, if_neg numeric.1, back]

/-- A string is read up to its closing quote. -/
theorem parseString_quoteUnits {fuel : ℕ} {text : Text} (enough : text.length < fuel)
    (afterHigh : Bool) (rest : Text) :
    parseString fuel (quoteUnits afterHigh text ++ CodeUnit.quote :: rest) =
      some (text, rest) := by
  induction text generalizing fuel afterHigh with
  | nil =>
    obtain ⟨fuel, rfl⟩ := Nat.exists_eq_add_of_lt enough
    rw [quoteUnits, List.nil_append, parseString, List.head?_cons, if_pos rfl, List.tail_cons]
  | cons unit units ih =>
    rw [List.length_cons] at enough
    obtain ⟨fuel, rfl⟩ : ∃ less, fuel = less + 1 := ⟨fuel - 1, by omega⟩
    rw [quoteUnits, List.append_assoc]
    have bare : (escapeUnit (isLone afterHigh unit units) unit ++
        (quoteUnits (CodeUnit.isHighSurrogate unit) units ++ CodeUnit.quote :: rest)).head? ≠
          some CodeUnit.quote := by
      intro quote
      obtain ⟨others, same⟩ := List.head?_eq_some_iff.mp quote
      exact escapeUnit_append_ne_quote _ _ _ _ same
    rw [parseString, if_neg bare, parseUnit_escapeUnit]
    rw [Option.bind_eq_bind, Option.bind_some]
    dsimp only
    rw [ih (by omega)]
    rfl

theorem length_le_quoteUnits (afterHigh : Bool) (text : Text) :
    text.length ≤ (quoteUnits afterHigh text).length := by
  induction text generalizing afterHigh with
  | nil => exact Nat.zero_le _
  | cons unit rest ih =>
    have some : 1 ≤ (escapeUnit (isLone afterHigh unit rest) unit).length := by
      unfold escapeUnit
      split
      · exact Nat.succ_le_of_lt (Nat.zero_lt_succ _)
      · split <;> exact Nat.succ_le_of_lt (Nat.zero_lt_succ _)
    have := ih (CodeUnit.isHighSurrogate unit)
    rw [quoteUnits, List.length_cons, List.length_append]
    omega

/-- A written value begins with a unit that is neither blank nor a closing bracket. -/
theorem write_visible {value : Value} (json : value.isJson = true) :
    ∃ unit rest, write value = unit :: rest ∧ isBlank unit = false ∧
      unit ≠ CodeUnit.closeBracket := by
  cases value with
  | undefined | date _ => cases json
  | null => exact ⟨_, _, rfl, by decide, by decide⟩
  | boolean value => cases value <;> exact ⟨_, _, rfl, by decide, by decide⟩
  | string text =>
    exact ⟨CodeUnit.quote, _, rfl, show isBlank CodeUnit.quote = false by decide,
      show CodeUnit.quote ≠ CodeUnit.closeBracket by decide⟩
  | array elements =>
    exact ⟨CodeUnit.openBracket, _, rfl, show isBlank CodeUnit.openBracket = false by decide,
      show CodeUnit.openBracket ≠ CodeUnit.closeBracket by decide⟩
  | object members =>
    exact ⟨CodeUnit.openBrace, _, rfl, show isBlank CodeUnit.openBrace = false by decide,
      show CodeUnit.openBrace ≠ CodeUnit.closeBracket by decide⟩
  | number value =>
    cases value with
    | nan | infinity _ => cases json
    | finite decimal =>
      obtain ⟨unit, rest, starts, digit | rfl⟩ := decimal.text_head
      · have visible : isBlank unit = false := by
          have space := isSpace_of_isDigit digit
          simp only [isBlank, Bool.or_eq_false_iff, beq_eq_false_iff_ne]
          refine ⟨⟨⟨?_, ?_⟩, ?_⟩, ?_⟩ <;>
          · rintro rfl
            exact absurd space (by decide)
        exact ⟨unit, rest, starts, visible, isDigit_ne digit (by decide)⟩
      · exact ⟨CodeUnit.minus, rest, starts, by decide, by decide⟩

theorem skipBlanks_write {value : Value} (json : value.isJson = true) (rest : Text) :
    skipBlanks (write value ++ rest) = write value ++ rest := by
  obtain ⟨unit, text, starts, visible, -⟩ := write_visible json
  rw [starts, List.cons_append, skipBlanks_of_not_blank visible]

/-- A number is taken by the reader of numbers. -/
theorem parseValue_number (decimal : Decimal) {fuel : ℕ} (enough : 1 ≤ fuel) {rest : Text}
    (closes : Closes rest) :
    parseValue fuel (decimal.text ++ rest) =
      some (.number (Number.ofRat decimal.toRat), rest) := by
  obtain ⟨fuel, rfl⟩ : ∃ less, fuel = less + 1 := ⟨fuel - 1, by omega⟩
  obtain ⟨first, others, starts, head⟩ := decimal.text_head
  have differs : ∀ other, CodeUnit.isDigit other = false → other ≠ CodeUnit.minus →
      first ≠ other := by
    rintro other foreign foreign' rfl
    rcases head with digit | same
    · exact absurd (digit.symm.trans foreign) (by decide)
    · exact foreign' same
  have word : ∀ letter letters, CodeUnit.isDigit letter = false → letter ≠ CodeUnit.minus →
      dropPrefix (letter :: letters) (first :: (others ++ rest)) = none := by
    intro letter letters foreign foreign'
    rw [dropPrefix, if_neg]
    rw [List.isPrefixOf_iff_prefix, List.cons_prefix_cons]
    exact fun both => differs letter foreign foreign' both.1.symm
  have visible : isBlank first = false := by
    simp only [isBlank, Bool.or_eq_false_iff, beq_eq_false_iff_ne]
    exact ⟨⟨⟨differs _ (by decide) (by decide), differs _ (by decide) (by decide)⟩,
      differs _ (by decide) (by decide)⟩, differs _ (by decide) (by decide)⟩
  have read := parseNumber_text decimal closes
  rw [starts, List.cons_append] at read ⊢
  rw [parseValue, skipBlanks_of_not_blank visible]
  dsimp only
  have t : dropPrefix (Text.ofString "true") (first :: (others ++ rest)) = none :=
    word 0x74 _ (by decide) (by decide)
  have f : dropPrefix (Text.ofString "false") (first :: (others ++ rest)) = none :=
    word 0x66 _ (by decide) (by decide)
  have n : dropPrefix (Text.ofString "null") (first :: (others ++ rest)) = none :=
    word 0x6E _ (by decide) (by decide)
  rw [if_neg (differs _ (by decide) (by decide)), if_neg (differs _ (by decide) (by decide)),
    if_neg (differs _ (by decide) (by decide)), t, f, n, read]
  rfl

theorem parseValue_literals {fuel : ℕ} (enough : 1 ≤ fuel) (rest : Text) :
    parseValue fuel (Text.ofString "null" ++ rest) = some (.null, rest) ∧
      parseValue fuel (Text.ofString "true" ++ rest) = some (.boolean true, rest) ∧
      parseValue fuel (Text.ofString "false" ++ rest) = some (.boolean false, rest) := by
  obtain ⟨fuel, rfl⟩ : ∃ less, fuel = less + 1 := ⟨fuel - 1, by omega⟩
  exact ⟨rfl, rfl, rfl⟩

/-- A string is read back from its quotation. -/
theorem parseString_quoted (text rest : Text) :
    quoted text ++ rest =
        CodeUnit.quote :: (quoteUnits false text ++ CodeUnit.quote :: rest) ∧
      parseString ((quoteUnits false text ++ CodeUnit.quote :: rest).length + 1)
        (quoteUnits false text ++ CodeUnit.quote :: rest) = some (text, rest) := by
  have long := length_le_quoteUnits false text
  refine ⟨by simp [quoted], parseString_quoteUnits ?_ false rest⟩
  rw [List.length_append, List.length_cons]
  omega

theorem parseValue_string (text : Text) {fuel : ℕ} (enough : 1 ≤ fuel) (rest : Text) :
    parseValue fuel (quoted text ++ rest) = some (.string text, rest) := by
  obtain ⟨fuel, rfl⟩ : ∃ less, fuel = less + 1 := ⟨fuel - 1, by omega⟩
  obtain ⟨written, read⟩ := parseString_quoted text rest
  have visible : isBlank CodeUnit.quote = false := by decide
  rw [written, parseValue, skipBlanks_of_not_blank visible]
  dsimp only
  rw [if_neg (by decide), if_neg (by decide), if_pos rfl, read]
  rfl

theorem joinCommas_cons_cons (first second : Text) (rest : List Text) :
    joinCommas (first :: second :: rest) =
      first ++ CodeUnit.comma :: joinCommas (second :: rest) := by
  simp [joinCommas]

theorem joinCommas_singleton (text : Text) : joinCommas [text] = text := by
  simp [joinCommas]

/-- The reader takes from a text exactly the value that was written there. -/
def ReadsBack (value : Value) : Prop :=
  ∀ fuel rest, 2 * (write value).length ≤ fuel → Closes rest →
    parseValue fuel (write value ++ rest) = some (value, rest)

theorem closes_cons {unit : CodeUnit} (closing : unit = CodeUnit.comma ∨
    unit = CodeUnit.closeBracket ∨ unit = CodeUnit.closeBrace) (rest : Text) :
    Closes (unit :: rest) := by
  intro first same
  obtain rfl : unit = first := by simpa using same
  exact closing

/-- The elements of an array are read up to its bracket. -/
theorem parseElements_write {elements : List Value} (some : elements ≠ [])
    (reads : ∀ element ∈ elements, ReadsBack element) {fuel : ℕ}
    (enough : 2 * (joinCommas (elements.map write)).length + 1 ≤ fuel) (rest : Text) :
    parseElements fuel
        (joinCommas (elements.map write) ++ CodeUnit.closeBracket :: rest) =
      Option.some (elements, rest) := by
  induction elements generalizing fuel with
  | nil => exact absurd rfl some
  | cons element others ih =>
    obtain ⟨fuel, rfl⟩ : ∃ less, fuel = less + 1 := ⟨fuel - 1, by omega⟩
    have read := reads element List.mem_cons_self
    cases others with
    | nil =>
      rw [List.map_singleton, joinCommas_singleton] at enough ⊢
      have visible : isBlank CodeUnit.closeBracket = false := by decide
      rw [parseElements, read fuel _ (by omega) (closes_cons (.inr (.inl rfl)) rest),
        Option.bind_eq_bind, Option.bind_some]
      dsimp only
      rw [skipBlanks_of_not_blank visible]
      dsimp only
      rw [if_pos rfl]
      rfl
    | cons next others =>
      rw [List.map_cons, List.map_cons, joinCommas_cons_cons, ← List.map_cons] at enough ⊢
      rw [List.length_append, List.length_cons] at enough
      have visible : isBlank CodeUnit.comma = false := by decide
      have later := @ih (by simp) (fun other inside => reads other (List.mem_cons_of_mem _ inside))
        fuel (by omega)
      rw [List.append_assoc, List.cons_append, parseElements,
        read fuel _ (by omega) (closes_cons (.inl rfl) _), Option.bind_eq_bind, Option.bind_some]
      dsimp only
      rw [skipBlanks_of_not_blank visible]
      dsimp only
      rw [if_neg (by decide), if_pos rfl, later]
      rfl

theorem dropPrefix_cons (unit : CodeUnit) (rest : Text) :
    dropPrefix [unit] (unit :: rest) = some rest := by
  rw [dropPrefix, if_pos (by simp)]
  rfl

/-- Where a member stands, its key is read, then the colon, then its value. -/
theorem readMember (key : Text) {value : Value} (read : ReadsBack value) {fuel : ℕ} {after : Text}
    (enough : 2 * (write value).length ≤ fuel) (closes : Closes after) :
    ∃ inside after',
      dropPrefix [CodeUnit.quote] (skipBlanks (memberText (key, write value) ++ after)) =
        some inside ∧
      parseString (inside.length + 1) inside = some (key, after') ∧
      dropPrefix [CodeUnit.colon] (skipBlanks after') = some (write value ++ after) ∧
      parseValue fuel (write value ++ after) = some (value, after) := by
  obtain ⟨written, name⟩ := parseString_quoted key (CodeUnit.colon :: (write value ++ after))
  have opens : isBlank CodeUnit.quote = false := by decide
  have separates : isBlank CodeUnit.colon = false := by decide
  refine ⟨_, _, ?_, name, ?_, read fuel after enough closes⟩
  · rw [memberText, List.append_assoc, List.cons_append, written, skipBlanks_of_not_blank opens,
      dropPrefix_cons]
  · rw [skipBlanks_of_not_blank separates, dropPrefix_cons]

theorem parseMembers_last (key : Text) {value : Value} (read : ReadsBack value) {fuel : ℕ}
    (enough : 2 * (write value).length ≤ fuel) (rest : Text) (before : Members Value) :
    parseMembers (fuel + 1) (memberText (key, write value) ++ CodeUnit.closeBrace :: rest)
        before =
      some (define before key value, rest) := by
  have closes := closes_cons (.inr (.inr rfl)) rest
  obtain ⟨inside, after, opened, name, colon, taken⟩ := readMember key read enough closes
  have visible : isBlank CodeUnit.closeBrace = false := by decide
  rw [parseMembers]
  simp only [opened, name, colon, taken, Option.bind_eq_bind, Option.bind_some,
    skipBlanks_of_not_blank visible, if_true]
  rfl

theorem parseMembers_next (key : Text) {value : Value} (read : ReadsBack value) {fuel : ℕ}
    (enough : 2 * (write value).length ≤ fuel) (rest : Text) (before : Members Value) :
    parseMembers (fuel + 1) (memberText (key, write value) ++ CodeUnit.comma :: rest) before =
      parseMembers fuel rest (define before key value) := by
  have closes := closes_cons (.inl rfl) rest
  obtain ⟨inside, after, opened, name, colon, taken⟩ := readMember key read enough closes
  have visible : isBlank CodeUnit.comma = false := by decide
  have differs : CodeUnit.comma ≠ CodeUnit.closeBrace := by decide
  rw [parseMembers]
  simp only [opened, name, colon, taken, Option.bind_eq_bind, Option.bind_some,
    skipBlanks_of_not_blank visible, if_neg differs, if_true]

/-- The members of an object are read up to its brace and added to those before. -/
theorem parseMembers_write {members : Members Value} (some : members ≠ [])
    (reads : ∀ entry ∈ members, ReadsBack entry.2) {before : Members Value}
    (distinct : (keys (before ++ members)).Nodup) {fuel : ℕ}
    (enough : 2 * (joinCommas (writeMembers members)).length + 1 ≤ fuel) (rest : Text) :
    parseMembers fuel
        (joinCommas (writeMembers members) ++ CodeUnit.closeBrace :: rest) before =
      Option.some (before ++ members, rest) := by
  induction members generalizing fuel before with
  | nil => exact absurd rfl some
  | cons entry others ih =>
    obtain ⟨fuel, rfl⟩ : ∃ less, fuel = less + 1 := ⟨fuel - 1, by omega⟩
    obtain ⟨key, value⟩ := entry
    have read : ReadsBack value := reads (key, value) List.mem_cons_self
    have fresh : key ∉ keys before := by
      intro inside
      rw [keys, List.map_append, List.map_cons] at distinct
      exact (List.nodup_append.mp distinct).2.2 _ inside _ List.mem_cons_self rfl
    have long : (write value).length ≤ (memberText (key, write value)).length := by
      rw [memberText, List.length_append, List.length_cons]
      exact (Nat.le_succ _).trans (Nat.le_add_left _ _)
    cases others with
    | nil =>
      have text : joinCommas (writeMembers [(key, value)]) = memberText (key, write value) :=
        joinCommas_singleton _
      rw [text] at enough ⊢
      rw [parseMembers_last key read (by omega), define_of_notMem fresh]
    | cons next others =>
      have text : joinCommas (writeMembers ((key, value) :: next :: others)) =
          memberText (key, write value) ++
            CodeUnit.comma :: joinCommas (writeMembers (next :: others)) :=
        joinCommas_cons_cons _ _ _
      rw [text] at enough ⊢
      rw [List.length_append, List.length_cons] at enough
      have apart : (keys (before ++ [(key, value)] ++ next :: others)).Nodup := by
        rwa [List.append_assoc, List.singleton_append]
      have later := @ih (by simp) (fun other inside => reads other (List.mem_cons_of_mem _ inside))
        (before ++ [(key, value)]) apart fuel (by omega)
      rw [List.append_assoc, List.cons_append, parseMembers_next key read (by omega),
        define_of_notMem fresh, later, List.append_assoc, List.singleton_append]

/-- What is joined begins as its first text does. -/
theorem joinCommas_cons (first : Text) (others : List Text) :
    ∃ later, joinCommas (first :: others) = first ++ later :=
  ⟨_, rfl⟩

theorem readsBack_array {elements : List Value} (json : ∀ element ∈ elements, element.isJson = true)
    (reads : ∀ element ∈ elements, ReadsBack element) : ReadsBack (.array elements) := by
  intro fuel rest enough _
  have visible : isBlank CodeUnit.openBracket = false := by decide
  rw [write, writeElements_eq] at enough ⊢
  rw [List.length_cons, List.length_append, List.length_singleton] at enough
  obtain ⟨fuel, rfl⟩ : ∃ less, fuel = less + 1 := ⟨fuel - 1, by omega⟩
  rw [List.cons_append, List.append_assoc, List.singleton_append, parseValue,
    skipBlanks_of_not_blank visible]
  dsimp only
  rw [if_neg (by decide), if_pos rfl]
  cases elements with
  | nil => rfl
  | cons element others =>
    have starts : (skipBlanks (joinCommas ((element :: others).map write) ++
        CodeUnit.closeBracket :: rest)).head? ≠ some CodeUnit.closeBracket := by
      obtain ⟨later, joined⟩ := joinCommas_cons (write element) (others.map write)
      obtain ⟨unit, text, written, -, differs⟩ := write_visible (json element List.mem_cons_self)
      rw [List.map_cons, joined, List.append_assoc,
        skipBlanks_write (json element List.mem_cons_self), written]
      exact fun same => differs (Option.some.inj same)
    rw [if_neg starts, parseElements_write (by simp) reads (by omega)]
    rfl

theorem readsBack_object {members : Members Value} (distinct : (keys members).Nodup)
    (reads : ∀ entry ∈ members, ReadsBack entry.2) : ReadsBack (.object members) := by
  intro fuel rest enough _
  have visible : isBlank CodeUnit.openBrace = false := by decide
  rw [write] at enough ⊢
  rw [List.length_cons, List.length_append, List.length_singleton] at enough
  obtain ⟨fuel, rfl⟩ : ∃ less, fuel = less + 1 := ⟨fuel - 1, by omega⟩
  rw [List.cons_append, List.append_assoc, List.singleton_append, parseValue,
    skipBlanks_of_not_blank visible]
  dsimp only
  rw [if_pos rfl]
  cases members with
  | nil => rfl
  | cons entry others =>
    have starts : (skipBlanks (joinCommas (writeMembers (entry :: others)) ++
        CodeUnit.closeBrace :: rest)).head? ≠ some CodeUnit.closeBrace := by
      have opens : isBlank CodeUnit.quote = false := by decide
      obtain ⟨later, joined⟩ :=
        joinCommas_cons (memberText (entry.1, write entry.2)) (writeMembers others)
      rw [writeMembers, joined, memberText, quoted]
      simp only [List.cons_append]
      rw [skipBlanks_of_not_blank opens]
      exact fun same => absurd (Option.some.inj same) (by decide)
    have read := @parseMembers_write _ (by simp) reads [] distinct fuel (by omega) rest
    rw [if_neg starts, read]
    rfl

/-- Every value that JSON has and a program can hold is read back. -/
theorem readsBack {value : Value} (json : value.isJson = true) (formed : value.WellFormed) :
    ReadsBack value := by
  induction value with
  | undefined | date _ => cases json
  | null =>
    intro fuel rest enough _
    exact (parseValue_literals (le_trans (by decide) enough) rest).1
  | boolean value =>
    intro fuel rest enough _
    cases value with
    | true => exact (parseValue_literals (le_trans (by decide) enough) rest).2.1
    | false => exact (parseValue_literals (le_trans (by decide) enough) rest).2.2
  | number value =>
    cases value with
    | nan | infinity _ => cases json
    | finite decimal =>
      intro fuel rest enough closes
      obtain ⟨unit, text, starts, -⟩ := decimal.text_head
      have some : 1 ≤ fuel := by
        rw [write, starts, List.length_cons] at enough
        omega
      have double : Number.ofRat decimal.toRat = .finite decimal := formed
      rw [write, parseValue_number decimal some closes, double]
  | string text =>
    intro fuel rest enough _
    refine parseValue_string text ?_ rest
    rw [write, quoted, List.length_cons] at enough
    omega
  | array elements ih =>
    rw [isJson_array] at json
    rw [wellFormed_array] at formed
    exact readsBack_array json fun element inside =>
      ih element inside (json element inside) (formed element inside)
  | object members ih =>
    rw [isJson_object] at json
    rw [wellFormed_object] at formed
    exact readsBack_object json.1 fun entry inside =>
      ih entry inside (json.2 entry inside) (formed.2 entry inside)

end Json

/-- Reading what was written gives the value. -/
theorem parseJson_write {value : Value} (json : value.isJson = true) (formed : value.WellFormed) :
    (write value).parseJson = some value := by
  have read := Json.readsBack json formed (2 * (write value).length + 2) [] (by omega)
    (fun _ same => by cases same)
  rw [List.append_nil] at read
  rw [Text.parseJson, read]
  rfl

theorem wellFormed_arranged {value : Value} (formed : value.WellFormed) :
    (arranged value).WellFormed := by
  unfold arranged
  induction value with
  | undefined | null | boolean _ | string _ | date _ => trivial
  | number value => exact formed
  | array elements ih =>
    rw [wellFormed_array] at formed
    rw [rebuild_array, wellFormed_array]
    exact List.forall_mem_map.mpr fun element inside => ih element inside (formed element inside)
  | object members ih =>
    rw [wellFormed_object] at formed
    have moved := enumerate_perm (mapValues (rebuild enumerate) members)
    rw [rebuild_object, wellFormed_object, (keys_perm moved).nodup_iff, keys_mapValues]
    refine ⟨formed.1, fun entry inside => ?_⟩
    obtain ⟨original, member, rfl⟩ := List.mem_map.mp (moved.mem_iff.mp inside)
    exact ih original member (formed.2 original member)

/-- `JSON.parse(JSON.stringify(value))` is the value as JSON has it, with the members of every
object in the order of enumeration. -/
theorem parseJson_stringify {value : Value} (defined : value.isDefined = true)
    (formed : value.WellFormed) :
    (stringify value).bind Text.parseJson = some (arranged (asJson value)) := by
  have json := isJson_asJson formed
  rw [← stringify_asJson defined, stringify_eq_write json, Option.bind_some,
    parseJson_write (arranged_isJson json) (wellFormed_arranged (wellFormed_asJson formed))]

end Script
