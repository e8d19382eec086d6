import OpticsHub.Script.Parse
import Mathlib.Data.List.DropRight

/-!
# What trimming and parsing leave of a text

Trimming takes white space off both ends, so a text is left alone exactly if it has none there,
and what was trimmed once is left alone. Parsing pays for the strings that it finds with their
quotes: the quotes and backslashes of a text are as many as those in the value that is read from
it, with two more for every string and every key. So no string of a value, and no text that the
value is converted to, is as rich in them as the text that the value was read from.
-/
namespace Script

/-! ## Trimming -/

section Trimming

variable {α : Type*} {dropped : α → Bool} {items items' : List α}

/-- What begins as a list that nothing is dropped from has nothing dropped either. -/
theorem dropWhile_of_prefix (begins : items' <+: items)
    (kept : items.dropWhile dropped = items) : items'.dropWhile dropped = items' := by
  cases items' with
  | nil => rfl
  | cons first rest =>
    obtain ⟨tail, rfl⟩ := begins
    rw [List.dropWhile_eq_self_iff] at kept ⊢
    exact fun _ => kept (Nat.zero_lt_succ _)

theorem rdropWhile_of_suffix (ends : items' <:+ items)
    (kept : items.rdropWhile dropped = items) : items'.rdropWhile dropped = items' := by
  have reversed : items.reverse.dropWhile dropped = items.reverse :=
    List.reverse_injective (kept.trans (List.reverse_reverse items).symm)
  have back := dropWhile_of_prefix (List.reverse_prefix.mpr ends) reversed
  rw [List.rdropWhile, back, List.reverse_reverse]

end Trimming

namespace Text

theorem trim_eq (text : Text) :
    text.trim = (text.dropWhile CodeUnit.isSpace).rdropWhile CodeUnit.isSpace :=
  rfl

/-- There is no white space at the end of a trimmed text. -/
theorem rdropWhile_trim (text : Text) :
    List.rdropWhile CodeUnit.isSpace text.trim = text.trim :=
  List.rdropWhile_idempotent _ _

/-- Nor is there any at its beginning. -/
theorem dropWhile_trim (text : Text) : List.dropWhile CodeUnit.isSpace text.trim = text.trim :=
  dropWhile_of_prefix (List.rdropWhile_prefix _ _) (List.dropWhile_idempotent _ _)

theorem trim_of_ends {text : Text} (front : text.dropWhile CodeUnit.isSpace = text)
    (back : text.rdropWhile CodeUnit.isSpace = text) : text.trim = text := by
  rw [trim_eq, front, back]

theorem trim_trim (text : Text) : text.trim.trim = text.trim :=
  trim_of_ends (dropWhile_trim text) (rdropWhile_trim text)

theorem trim_sublist (text : Text) : text.trim.Sublist text :=
  (List.rdropWhile_prefix _ _).sublist.trans (List.dropWhile_suffix _).sublist

end Text

/-! ## Marks -/

/-- Whether a unit is a quote or a backslash. -/
def isMark (unit : CodeUnit) : Bool := unit == CodeUnit.quote || unit == CodeUnit.backslash

/-- How many quotes and backslashes a text has. -/
def marks (text : Text) : ℕ := text.countP isMark

@[simp]
theorem marks_nil : marks [] = 0 := rfl

theorem marks_cons (unit : CodeUnit) (rest : Text) :
    marks (unit :: rest) = marks rest + if isMark unit then 1 else 0 :=
  List.countP_cons

theorem marks_append (first second : Text) : marks (first ++ second) = marks first + marks second :=
  List.countP_append

theorem marks_le_of_sublist {part whole : Text} (inside : part.Sublist whole) :
    marks part ≤ marks whole :=
  inside.countP_le

namespace Value

mutual

/-- The marks that a text needs at least to be read as a value: those of a string and two for its
quotes, those of all elements of an array, and those of any one member of an object with two for
the quotes of its key. -/
def marked : Value → ℕ
  | .string text => marks text + 2
  | .date iso => marks (iso.getD "Invalid Date")
  | .array elements => markedElements elements
  | .object members => markedMembers members
  | .undefined | .null | .boolean _ | .number _ => 0

def markedElements : List Value → ℕ
  | [] => 0
  | element :: rest => marked element + markedElements rest

def markedMembers : Members Value → ℕ
  | [] => 0
  | (_, value) :: rest => max (marked value + 2) (markedMembers rest)

end

theorem marked_le_markedElements {elements : List Value} {element : Value}
    (inside : element ∈ elements) : marked element ≤ markedElements elements := by
  induction elements with
  | nil => cases inside
  | cons head rest ih =>
    rw [markedElements]
    cases inside with
    | head => exact Nat.le_add_right _ _
    | tail _ later => exact (ih later).trans (Nat.le_add_left _ _)

theorem markedMembers_le_iff {members : Members Value} {bound : ℕ} :
    markedMembers members ≤ bound ↔ ∀ entry ∈ members, marked entry.2 + 2 ≤ bound := by
  induction members with
  | nil => simp [markedMembers]
  | cons entry rest ih => rw [markedMembers, max_le_iff, ih, List.forall_mem_cons]

/-- A member that is defined costs what its value costs, whatever it replaces. -/
theorem markedMembers_define {members : Members Value} {key : Text} {value : Value} {bound : ℕ}
    (before : markedMembers members ≤ bound) (here : marked value + 2 ≤ bound) :
    markedMembers (Members.define members key value) ≤ bound := by
  rw [markedMembers_le_iff] at before ⊢
  unfold Members.define
  split
  · refine List.forall_mem_map.mpr fun entry inside => ?_
    split
    · exact here
    · exact before entry inside
  · exact List.forall_mem_append.mpr ⟨before, List.forall_mem_singleton.mpr here⟩

theorem marked_own {members : Members Value} {key : Text} {value : Value}
    (found : Members.own members key = some value) :
    marked value + 2 ≤ marked (.object members) := by
  obtain ⟨entry, first, rfl⟩ := Option.map_eq_some_iff.mp found
  exact markedMembers_le_iff.mp le_rfl entry (List.mem_of_find?_eq_some first)

/-! ## The text of a value -/

theorem marks_eq_zero {text : Text} (plain : ∀ unit ∈ text, isMark unit = false) :
    marks text = 0 :=
  List.countP_eq_zero.mpr fun unit inside => by simp [plain unit inside]

theorem isMark_of_isNumberUnit {unit : CodeUnit} (written : Spelling.isNumberUnit unit = true) :
    isMark unit = false := by
  by_contra marked
  rw [Bool.not_eq_false, isMark, Bool.or_eq_true, beq_iff_eq, beq_iff_eq] at marked
  rcases marked with rfl | rfl <;> exact absurd written (by decide)

theorem marks_number (number : Number) : marks number.text = 0 := by
  cases number with
  | finite decimal =>
    exact marks_eq_zero fun unit inside =>
      isMark_of_isNumberUnit (decimal.text_isNumberUnit unit inside)
  | nan => decide
  | infinity negative => cases negative <;> decide

theorem marks_joined (texts : List Text) : marks (joined texts) = (texts.map marks).sum := by
  induction texts with
  | nil => rfl
  | cons text rest ih =>
    cases rest with
    | nil => simp [joined]
    | cons next rest =>
      rw [joined] at ih ⊢
      rw [List.intercalate_cons_cons, marks_append, marks_append, ih, List.map_cons, List.sum_cons]
      exact Nat.add_right_comm _ _ _

/-- The texts of the elements of an array have no more marks than the array, if each has no more
than its element. -/
theorem marks_elementTexts {elements : List Value} {texts : List Text}
    (each : elementTexts elements = some texts)
    (bounded : ∀ element ∈ elements, ∀ text, toText element = some text →
      marks text ≤ marked element) : (texts.map marks).sum ≤ markedElements elements := by
  induction elements generalizing texts with
  | nil =>
    rw [elementTexts] at each
    cases each
    exact le_rfl
  | cons element rest ih =>
    rw [List.forall_mem_cons] at bounded
    rw [markedElements]
    rw [elementTexts.eq_def] at each
    split at each
    · rename_i same
      cases same
    · rename_i same
      cases same
      obtain ⟨later, found, rfl⟩ := Option.map_eq_some_iff.mp each
      exact Nat.add_le_add (Nat.zero_le _) (ih found bounded.2)
    · rename_i same
      cases same
      obtain ⟨later, found, rfl⟩ := Option.map_eq_some_iff.mp each
      exact Nat.add_le_add (Nat.zero_le _) (ih found bounded.2)
    · rename_i same
      cases same
      split at each
      · rename_i text later here found
        cases each
        exact Nat.add_le_add (bounded.1 text here) (ih found bounded.2)
      · cases each

/-- The text of a value has no more marks than the value. -/
theorem marks_toText {value : Value} {text : Text} (given : value.toText = some text) :
    marks text ≤ marked value := by
  induction value generalizing text with
  | undefined =>
    cases given
    decide
  | null =>
    cases given
    decide
  | boolean value => cases value <;> cases given <;> decide
  | number value =>
    cases given
    exact (marks_number value).le
  | string text =>
    cases given
    exact Nat.le_add_right _ _
  | date iso =>
    cases given
    exact le_rfl
  | array elements ih =>
    rw [toText, Option.map_eq_some_iff] at given
    obtain ⟨texts, each, rfl⟩ := given
    rw [marks_joined]
    exact marks_elementTexts each fun element inside text => ih element inside
  | object members ih =>
    rw [toText] at given
    split at given
    · cases given
    · cases given
      exact (show marks (Text.ofString "[object Object]") = 0 by decide).le.trans (Nat.zero_le _)

end Value

/-! ## Parsing -/

namespace Json

theorem skipBlanks_suffix (text : Text) : skipBlanks text <:+ text :=
  List.dropWhile_suffix _

theorem dropPrefix_suffix {literal text rest : Text} (found : dropPrefix literal text = some rest) :
    rest <:+ text := by
  unfold dropPrefix at found
  split at found
  · cases found
    exact List.drop_suffix _ _
  · cases found

/-- A unit that is read has been paid for, by itself or by the backslash of its escape. -/
theorem marks_readUnit {text rest : Text} {unit : CodeUnit}
    (read : readUnit text = some (unit, rest)) : marks [unit] + marks rest ≤ marks text := by
  have single : marks [unit] ≤ 1 := List.countP_le_length
  unfold readUnit at read
  split at read
  · cases read
  · rename_i first others
    split at read
    · rename_i backslash
      have paid : marks (first :: others) = marks others + 1 := by
        rw [marks_cons, backslash]
        rfl
      split at read
      · cases read
      · rename_i letter later
        split at read
        · split at read
          · rename_i a b c d tail
            cases read
            have left := marks_le_of_sublist (List.suffix_append [letter, a, b, c, d] rest).sublist
            change marks rest ≤ marks (letter :: a :: b :: c :: d :: rest) at left
            omega
          · cases read
        · cases read
          have left := marks_le_of_sublist (List.sublist_cons_self letter rest)
          omega
    · cases read
      rw [← marks_append]
      exact le_rfl

theorem marks_parseUnit {text rest : Text} {unit : CodeUnit}
    (read : parseUnit text = some (unit, rest)) : marks [unit] + marks rest ≤ marks text := by
  unfold parseUnit at read
  split at read
  · cases read
  · split at read
    · split at read
      · cases read
      · split at read
        · split at read
          · exact marks_readUnit read
          · cases read
        · split at read
          · exact marks_readUnit read
          · cases read
    · split at read
      · cases read
      · exact marks_readUnit read

/-- A string pays for its units, and its closing quote is left over. -/
theorem marks_parseString {fuel : ℕ} {text units rest : Text}
    (read : parseString fuel text = some (units, rest)) :
    marks units + marks rest + 1 ≤ marks text := by
  induction fuel generalizing text units rest with
  | zero => cases read
  | succ fuel ih =>
    rw [parseString] at read
    split at read
    · rename_i closing
      cases read
      cases text with
      | nil => cases closing
      | cons first others =>
        obtain rfl := Option.some.inj closing
        rw [marks_cons]
        exact le_of_eq (Nat.zero_add _ ▸ rfl)
    · simp only [bind, Option.bind_eq_some_iff] at read
      obtain ⟨⟨unit, later⟩, here, ⟨others, rest'⟩, there, ends⟩ := read
      cases ends
      have first : marks [unit] + marks later ≤ marks text := marks_parseUnit here
      have second : marks others + marks rest' + 1 ≤ marks later := ih there
      change marks ([unit] ++ others) + marks rest' + 1 ≤ marks text
      rw [marks_append]
      omega

theorem parseDigits_suffix {text digits rest : Text}
    (read : parseDigits text = some (digits, rest)) : rest <:+ text := by
  unfold parseDigits at read
  rw [List.span_eq_takeWhile_dropWhile] at read
  dsimp only at read
  split at read
  · cases read
  · cases read
    exact List.dropWhile_suffix _

/-- The digits of an exponent come after its sign. -/
theorem exponentDigits_suffix {afterMark digits rest : Text}
    (read : parseDigits (if afterMark.head? = some CodeUnit.plus ∨
        afterMark.head? = some CodeUnit.minus then
      (afterMark.take 1, afterMark.tail) else ([], afterMark)).2 = some (digits, rest)) :
    rest <:+ afterMark := by
  split at read
  · exact (parseDigits_suffix read).trans (List.tail_suffix afterMark)
  · exact parseDigits_suffix read

theorem parseNumber_suffix {text rest : Text} {number : Number}
    (read : parseNumber text = some (number, rest)) : rest <:+ text := by
  have unsigned : (if text.head? = some CodeUnit.minus then ([CodeUnit.minus], text.tail)
      else ([], text)).2 <:+ text := by
    split
    · exact List.tail_suffix text
    · exact List.suffix_refl text
  unfold parseNumber at read
  simp only [bind, Option.bind_eq_some_iff] at read
  obtain ⟨whole, first, read⟩ := read
  have front := (parseDigits_suffix first).trans unsigned
  by_cases padded : whole.1.head? = some CodeUnit.zero ∧ whole.1.length ≠ 1
  · rw [if_pos padded] at read
    cases read
  rw [if_neg padded] at read
  by_cases point : whole.2.head? = some CodeUnit.point
  · rw [if_pos point] at read
    obtain ⟨fraction, second, read⟩ := Option.bind_eq_some_iff.mp read
    have middle := ((parseDigits_suffix second).trans (List.tail_suffix _)).trans front
    simp only [pure, Option.bind_some] at read
    split at read
    · rename_i mark afterMark here
      have back : mark :: afterMark <:+ text := here ▸ middle
      split at read
      · obtain ⟨digits, third, ends⟩ := Option.bind_eq_some_iff.mp read
        cases ends
        exact (exponentDigits_suffix third).trans ((List.suffix_cons _ _).trans back)
      · cases read
        exact middle
    · cases read
      exact middle
  · rw [if_neg point] at read
    simp only [pure, Option.bind_some] at read
    split at read
    · rename_i mark afterMark here
      have back : mark :: afterMark <:+ text := here ▸ front
      split at read
      · obtain ⟨digits, third, ends⟩ := Option.bind_eq_some_iff.mp read
        cases ends
        exact (exponentDigits_suffix third).trans ((List.suffix_cons _ _).trans back)
      · cases read
        exact front
    · cases read
      exact front

theorem dropPrefix_unit {unit : CodeUnit} {text rest : Text}
    (found : dropPrefix [unit] text = some rest) : text = unit :: rest := by
  unfold dropPrefix at found
  split at found
  · rename_i begins
    obtain ⟨tail, rfl⟩ := List.isPrefixOf_iff_prefix.mp begins
    cases found
    rfl
  · cases found

theorem marks_of_skipBlanks {text rest : Text} {first : CodeUnit}
    (found : skipBlanks text = first :: rest) : marks (first :: rest) ≤ marks text :=
  found ▸ marks_le_of_sublist (skipBlanks_suffix text).sublist

/-- What the parts of the parser leave of the marks of a text, for one amount of fuel. -/
structure Pays (fuel : ℕ) : Prop where
  value : ∀ {text rest : Text} {value : Value}, parseValue fuel text = some (value, rest) →
    value.marked + marks rest ≤ marks text
  elements : ∀ {text rest : Text} {elements : List Value},
    parseElements fuel text = some (elements, rest) →
    Value.markedElements elements + marks rest ≤ marks text
  members : ∀ {text rest : Text} {members result : Members Value},
    parseMembers fuel text members = some (result, rest) →
    marks rest ≤ marks text ∧ Value.markedMembers result ≤
      max (Value.markedMembers members) (marks text - marks rest)

/-- A value without strings pays nothing. -/
theorem pays_literal {text given rest : Text} (start : marks given ≤ marks text)
    (left : rest <:+ given) : 0 + marks rest ≤ marks text := by
  rw [Nat.zero_add]
  exact (marks_le_of_sublist left.sublist).trans start

theorem Pays.succ_value {fuel : ℕ} (pays : Pays fuel) {text rest : Text} {value : Value}
    (read : parseValue (fuel + 1) text = some (value, rest)) :
    value.marked + marks rest ≤ marks text := by
  rw [parseValue] at read
  split at read
  · cases read
  · rename_i first others found
    have start := marks_of_skipBlanks found
    have behind := marks_le_of_sublist (List.sublist_cons_self first others)
    have after := marks_le_of_sublist
      ((List.tail_suffix _).trans (skipBlanks_suffix others)).sublist
    split at read
    · split at read
      · cases read
        rw [Value.marked, Value.markedMembers]
        omega
      · obtain ⟨⟨members, rest'⟩, inside, ends⟩ := Option.map_eq_some_iff.mp read
        cases ends
        obtain ⟨left, most⟩ := pays.members inside
        rw [Value.markedMembers] at most
        change Value.markedMembers members + marks rest' ≤ marks text
        omega
    · split at read
      · split at read
        · cases read
          rw [Value.marked, Value.markedElements]
          omega
        · obtain ⟨⟨elements, rest'⟩, inside, ends⟩ := Option.map_eq_some_iff.mp read
          cases ends
          have left : Value.markedElements elements + marks rest' ≤ marks others :=
            pays.elements inside
          change Value.markedElements elements + marks rest' ≤ marks text
          omega
      · split at read
        · rename_i quote
          obtain ⟨⟨units, rest'⟩, inside, ends⟩ := Option.map_eq_some_iff.mp read
          cases ends
          have left : marks units + marks rest' + 1 ≤ marks others := marks_parseString inside
          have opening : marks (first :: others) = marks others + 1 := by
            rw [quote]
            exact marks_cons _ _
          change marks units + 2 + marks rest' ≤ marks text
          omega
        · simp only [Option.or_eq_some_iff, Option.map_eq_some_iff] at read
          rcases read with ⟨tail, dropped, ends⟩ | ⟨-, ⟨tail, dropped, ends⟩ |
            ⟨-, ⟨tail, dropped, ends⟩ | ⟨-, ⟨number, tail⟩, parsed, ends⟩⟩⟩
          · cases ends
            exact pays_literal start (dropPrefix_suffix dropped)
          · cases ends
            exact pays_literal start (dropPrefix_suffix dropped)
          · cases ends
            exact pays_literal start (dropPrefix_suffix dropped)
          · cases ends
            exact pays_literal start (parseNumber_suffix parsed)

theorem Pays.succ_elements {fuel : ℕ} (pays : Pays fuel) {text rest : Text}
    {elements : List Value}
    (read : parseElements (fuel + 1) text = some (elements, rest)) :
    Value.markedElements elements + marks rest ≤ marks text := by
  simp only [parseElements, bind, Option.bind_eq_some_iff] at read
  obtain ⟨⟨element, later⟩, first, read⟩ := read
  have paid : element.marked + marks later ≤ marks text := pays.value first
  dsimp only at read
  split at read
  · cases read
  · rename_i next others found
    have start := marks_of_skipBlanks found
    have behind := marks_le_of_sublist (List.sublist_cons_self next others)
    split at read
    · cases read
      rw [Value.markedElements, Value.markedElements]
      omega
    · split at read
      · obtain ⟨⟨elements', rest'⟩, tail, ends⟩ := Option.bind_eq_some_iff.mp read
        cases ends
        have left : Value.markedElements elements' + marks rest' ≤ marks others :=
          pays.elements tail
        change element.marked + Value.markedElements elements' + marks rest' ≤ marks text
        omega
      · cases read

theorem Pays.succ_members {fuel : ℕ} (pays : Pays fuel) {text rest : Text}
    {members result : Members Value}
    (read : parseMembers (fuel + 1) text members = some (result, rest)) :
    marks rest ≤ marks text ∧ Value.markedMembers result ≤
      max (Value.markedMembers members) (marks text - marks rest) := by
  simp only [parseMembers, bind, Option.bind_eq_some_iff] at read
  obtain ⟨opened, quote, ⟨key, afterKey⟩, keyed, afterColon, colon, ⟨value, later⟩, valued, read⟩ :=
    read
  have start := marks_of_skipBlanks (dropPrefix_unit quote)
  have key' : marks key + marks afterKey + 1 ≤ marks opened := marks_parseString keyed
  have colon' : marks afterColon ≤ marks (skipBlanks afterKey) :=
    marks_le_of_sublist (dropPrefix_suffix colon).sublist
  have blank := marks_le_of_sublist (skipBlanks_suffix afterKey).sublist
  have value' : value.marked + marks later ≤ marks afterColon := pays.value valued
  have opening : marks (CodeUnit.quote :: opened) = marks opened + 1 := marks_cons _ _
  dsimp only at read
  split at read
  · cases read
  · rename_i next others found
    have close := marks_of_skipBlanks found
    have behind := marks_le_of_sublist (List.sublist_cons_self next others)
    have defined : Value.markedMembers (Members.define members key value) ≤
        max (Value.markedMembers members) (marks text - marks others) :=
      Value.markedMembers_define (le_max_left _ _) (le_max_of_le_right (by omega))
    split at read
    · cases read
      exact ⟨by omega, defined⟩
    · split at read
      · obtain ⟨left, most⟩ := pays.members read
        exact ⟨by omega, by omega⟩
      · cases read

theorem pays (fuel : ℕ) : Pays fuel := by
  induction fuel with
  | zero =>
    refine ⟨?_, ?_, ?_⟩
    · rintro text rest value ⟨⟩
    · rintro text rest elements ⟨⟩
    · rintro text rest members result ⟨⟩
  | succ fuel ih => exact ⟨ih.succ_value, ih.succ_elements, ih.succ_members⟩

end Json

/-- A value that is read from a text has no more marks than the text. -/
theorem marked_parseJson {text : Text} {value : Value} (read : text.parseJson = some value) :
    value.marked ≤ marks text := by
  simp only [Text.parseJson, bind, Option.bind_eq_some_iff] at read
  obtain ⟨⟨parsed, rest⟩, here, ends⟩ := read
  have paid : parsed.marked + marks rest ≤ marks text := (Json.pays _).value here
  dsimp only at ends
  split at ends
  · cases ends
    omega
  · cases ends

end Script
