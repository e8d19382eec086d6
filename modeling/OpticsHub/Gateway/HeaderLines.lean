import OpticsHub.Gateway.HostGrammar
import OpticsHub.Script.Transcoding

/-!
# The lines of a request head

The gateway decodes the head of a request, splits it into lines, and joins and encodes those that it
keeps. The breaks between lines are plain bytes, so the lines of the decoded head are the decoded
lines of the head, and a line is one of the header that is left out by its bytes alone. A line that
is kept stays as it was exactly if it is the encoding of a text.
-/
namespace OpticsHub

open Script

namespace Gateway

/-! ## Splitting at a pair -/

section Pairs

variable {α : Type} (first second : α)

/-- A list split where two given elements follow one another. -/
def splitPair [DecidableEq α] : List α → List (List α)
  | [] => [[]]
  | [element] => [[element]]
  | element :: next :: rest =>
    if element = first ∧ next = second then [] :: splitPair rest
    else
      match splitPair (next :: rest) with
      | [] => [[element]]
      | line :: lines => (element :: line) :: lines

/-- The two elements do not follow one another. -/
def NoPair (list : List α) : Prop := ∀ front back, list ≠ front ++ first :: second :: back

variable {first second}

theorem NoPair.tail {element : α} {list : List α} (free : NoPair first second (element :: list)) :
    NoPair first second list :=
  fun front back split => free (element :: front) back (congrArg (element :: ·) split)

theorem NoPair.not_head {element next : α} {list : List α}
    (free : NoPair first second (element :: next :: list)) :
    ¬ (element = first ∧ next = second) := by
  rintro ⟨rfl, rfl⟩
  exact free [] list rfl

theorem NoPair.cons {element : α} {list : List α} (free : NoPair first second list)
    (other : ∀ rest, ¬ (element = first ∧ list = second :: rest)) :
    NoPair first second (element :: list) := by
  intro front back split
  cases front with
  | nil =>
    obtain ⟨rfl, rfl⟩ := List.cons.inj split
    exact other back ⟨rfl, rfl⟩
  | cons _ front => exact free front back (List.cons.inj split).2

/-- A list has no pair, or a first one. -/
theorem noPair_or_exists (list : List α) :
    NoPair first second list ∨ ∃ front rest, NoPair first second front ∧
      list = front ++ first :: second :: rest := by
  have empty : NoPair first second ([] : List α) := fun front back split => by simp at split
  induction list with
  | nil => exact .inl empty
  | cons element list ih =>
    by_cases pair : ∃ rest, element = first ∧ list = second :: rest
    · obtain ⟨rest, rfl, rfl⟩ := pair
      exact .inr ⟨[], rest, empty, rfl⟩
    · rw [not_exists] at pair
      rcases ih with free | ⟨front, rest, free, rfl⟩
      · exact .inl (free.cons pair)
      · refine .inr ⟨element :: front, rest, free.cons ?_, rfl⟩
        rintro later ⟨same, rfl⟩
        exact pair _ ⟨same, rfl⟩

/-- Whatever holds of lists without a pair, and passes from what is behind the first pair to the
whole, holds of every list. -/
theorem pairs_induction {holds : List α → Prop}
    (free : ∀ list, NoPair first second list → holds list)
    (step : ∀ front rest, NoPair first second front → holds rest →
      holds (front ++ first :: second :: rest)) (list : List α) : holds list := by
  induction size : list.length using Nat.strong_induction_on generalizing list with
  | _ length ih =>
    rcases @noPair_or_exists _ first second list with none | ⟨front, rest, none, rfl⟩
    · exact free list none
    · refine step front rest none (ih rest.length ?_ rest rfl)
      rw [← size, List.length_append, List.length_cons, List.length_cons]
      omega

variable [DecidableEq α]

theorem splitPair_free {list : List α} (free : NoPair first second list) :
    splitPair first second list = [list] := by
  fun_induction splitPair first second list with
  | case1 => rfl
  | case2 element => rfl
  | case3 element next rest pair ih => exact absurd pair free.not_head
  | case4 element next rest other none ih =>
    rw [ih free.tail] at none
    cases none
  | case5 element next rest other line lines some ih =>
    rw [ih free.tail] at some
    obtain ⟨rfl, rfl⟩ := List.cons.inj some
    rfl

/-- A list is split at the first pair. -/
theorem splitPair_append (differ : first ≠ second) {front : List α}
    (free : NoPair first second front) (rest : List α) :
    splitPair first second (front ++ first :: second :: rest) =
      front :: splitPair first second rest := by
  induction front with
  | nil => rw [List.nil_append, splitPair, if_pos ⟨rfl, rfl⟩]
  | cons element front ih =>
    have later := ih free.tail
    cases front with
    | nil =>
      rw [List.nil_append] at later
      rw [List.cons_append, List.nil_append, splitPair, if_neg fun pair => differ pair.2, later]
    | cons next front =>
      rw [List.cons_append] at later ⊢
      rw [List.cons_append, splitPair, if_neg free.not_head, later]

end Pairs

theorem splitLines_eq (text : Text) : splitLines text = splitPair 0x0D 0x0A text := by
  fun_induction splitLines text with
  | case1 => rfl
  | case2 unit => rfl
  | case3 unit next rest pair ih => rw [splitPair, if_pos pair, ih]
  | case4 unit next rest other none ih => rw [splitPair, if_neg other, ← ih, none]
  | case5 unit next rest other line lines some ih => rw [splitPair, if_neg other, ← ih, some]

/-! ## Lines of bytes -/

/-- The lines of a head before it is decoded. -/
def byteLines (head : Bytes) : List Bytes := splitPair 0x0D 0x0A head

def joinByteLines (lines : List Bytes) : Bytes := List.intercalate [0x0D, 0x0A] lines

theorem decodeUtf8_break (front rest : Bytes) :
    decodeUtf8 (front ++ 0x0D :: 0x0A :: rest) =
      decodeUtf8 front ++ 0x0D :: 0x0A :: decodeUtf8 rest := by
  rw [decodeUtf8_append_plain front (by decide), ← List.nil_append (0x0A :: rest),
    decodeUtf8_append_plain [] (by decide)]
  rfl

/-- Decoding gives no break between lines that was not there. -/
theorem noPair_decodeUtf8 {line : Bytes} (free : NoPair 0x0D 0x0A line) :
    NoPair 0x0D 0x0A (decodeUtf8 line) := by
  intro front back decoded
  obtain ⟨before, byte, after, rfl, plain, value, -, later⟩ :=
    exists_of_decodeUtf8 (by decide) decoded
  obtain ⟨between, byte', last, rfl, plain', value', none, -⟩ :=
    @exists_of_decodeUtf8 after [] back 0x0A (by decide) later
  obtain rfl := decodeUtf8_eq_nil_iff.mp none
  obtain rfl : byte = 0x0D := Utf8.eq_of_plainUnit value
  obtain rfl : byte' = 0x0A := Utf8.eq_of_plainUnit value'
  exact free before last rfl

/-- The lines of a decoded head are the decoded lines of the head. -/
theorem splitLines_decodeUtf8 (head : Bytes) :
    splitLines (decodeUtf8 head) = (byteLines head).map decodeUtf8 := by
  simp only [splitLines_eq, byteLines]
  induction head using @pairs_induction UInt8 0x0D 0x0A with
  | free head none =>
    rw [splitPair_free none, splitPair_free (noPair_decodeUtf8 none)]
    rfl
  | step front rest none ih =>
    rw [decodeUtf8_break, splitPair_append (by decide) (noPair_decodeUtf8 none),
      splitPair_append (by decide) none, List.map_cons, ih]

theorem encodeUtf8_break (front rest : Text) :
    encodeUtf8 (front ++ 0x0D :: 0x0A :: rest) =
      encodeUtf8 front ++ 0x0D :: 0x0A :: encodeUtf8 rest := by
  rw [encodeUtf8_append_plain front (by decide), ← List.nil_append (0x0A :: rest),
    encodeUtf8_append_plain [] (by decide)]
  rfl

theorem joinLines_cons (line next : Text) (lines : List Text) :
    joinLines (line :: next :: lines) = line ++ 0x0D :: 0x0A :: joinLines (next :: lines) := by
  rw [joinLines, List.intercalate_cons_cons, List.append_assoc]
  rfl

theorem joinByteLines_cons (line next : Bytes) (lines : List Bytes) :
    joinByteLines (line :: next :: lines) =
      line ++ 0x0D :: 0x0A :: joinByteLines (next :: lines) := by
  rw [joinByteLines, List.intercalate_cons_cons, List.append_assoc]
  rfl

/-- Joined lines are encoded line by line. -/
theorem encodeUtf8_joinLines (lines : List Text) :
    encodeUtf8 (joinLines lines) = joinByteLines (lines.map encodeUtf8) := by
  induction lines with
  | nil => rfl
  | cons line lines ih =>
    cases lines with
    | nil => simp [joinLines, joinByteLines]
    | cons next lines =>
      rw [joinLines_cons, encodeUtf8_break, ih]
      simp only [List.map_cons, joinByteLines_cons]

/-- Joined lines are an encoding exactly if each of them is one. -/
theorem isUtf8_joinByteLines_iff {lines : List Bytes} :
    IsUtf8 (joinByteLines lines) ↔ ∀ line ∈ lines, IsUtf8 line := by
  have empty : IsUtf8 [] := ⟨[], rfl⟩
  induction lines with
  | nil => simpa [joinByteLines] using empty
  | cons line lines ih =>
    cases lines with
    | nil => simp [joinByteLines]
    | cons next lines =>
      have parts : IsUtf8 (joinByteLines (line :: next :: lines)) ↔
          IsUtf8 line ∧ IsUtf8 [] ∧ IsUtf8 (joinByteLines (next :: lines)) := by
        rw [joinByteLines_cons, isUtf8_append_plain_iff (by decide),
          ← List.nil_append (0x0A :: joinByteLines _), isUtf8_append_plain_iff (by decide)]
      rw [parts, List.forall_mem_cons]
      exact and_congr_right fun _ => (and_iff_right empty).trans ih

/-! ## Names -/

/-- A line begins with a name in any case of the letters. -/
def isNamed (name : Text) (line : Bytes) : Bool :=
  (line.take name.length).map (fun byte => (plainUnit byte).lower) == name

/-- A plain beginning of a decoded text is that of the bytes. -/
theorem exists_of_decodeUtf8_append {bytes : Bytes} {front back : Text}
    (plain : ∀ unit ∈ front, unit < 0x80) (decoded : decodeUtf8 bytes = front ++ back) :
    ∃ before after, bytes = before ++ after ∧ before.map plainUnit = front := by
  induction front generalizing bytes with
  | nil => exact ⟨[], bytes, rfl, rfl⟩
  | cons unit front ih =>
    obtain ⟨first, others⟩ := List.forall_mem_cons.mp plain
    obtain ⟨none, byte, rest, rfl, -, value, empty, later⟩ :=
      @exists_of_decodeUtf8 bytes [] (front ++ back) unit first decoded
    obtain rfl := decodeUtf8_eq_nil_iff.mp empty
    obtain ⟨before, after, rfl, same⟩ := ih others later
    exact ⟨byte :: before, after, rfl, by rw [List.map_cons, value, same]⟩

theorem decodeUtf8_append_run {front : Bytes} (plain : ∀ byte ∈ front, byte < 0x80)
    (back : Bytes) : decodeUtf8 (front ++ back) = front.map plainUnit ++ decodeUtf8 back := by
  induction front with
  | nil => rfl
  | cons byte front ih =>
    obtain ⟨first, others⟩ := List.forall_mem_cons.mp plain
    rw [List.cons_append, ← List.nil_append (byte :: _), decodeUtf8_append_plain [] first, ih others]
    rfl

/-- A line is that of a header by its bytes alone. -/
theorem isHeader_decodeUtf8 {label : Text} (units : ∀ unit ∈ label, isAddressUnit unit = true)
    (free : (0x6B : CodeUnit) ∉ label) (line : Bytes) :
    isHeader (label ++ [CodeUnit.colon]) (decodeUtf8 line) =
      isNamed (label ++ [CodeUnit.colon]) line := by
  have small : ∀ unit ∈ label ++ [CodeUnit.colon], unit < 0x80 :=
    List.forall_mem_append.mpr ⟨fun unit inside => plain_of_isAddressUnit (units unit inside),
      List.forall_mem_singleton.mpr (by decide)⟩
  have below {unit : CodeUnit} (inside : unit.lower ∈ label ++ [CodeUnit.colon]) :
      unit < 0x80 := by
    by_cases upper : unit.isUpper = true
    · simp only [CodeUnit.isUpper, Bool.and_eq_true, decide_eq_true_eq, UInt16.le_iff_toNat_le]
        at upper
      simp only [UInt16.lt_iff_toNat_lt, UInt16.reduceToNat] at upper ⊢
      omega
    · rw [CodeUnit.lower, if_neg upper] at inside
      exact small unit inside
  rw [Bool.eq_iff_iff, isHeader_iff units free, isNamed, beq_iff_eq]
  constructor
  · rintro ⟨name, rest, decoded, named⟩
    obtain ⟨before, after, rfl, rfl⟩ := exists_of_decodeUtf8_append
      (fun unit inside => below (named ▸ List.mem_map_of_mem inside)) decoded
    have length : before.length = (label ++ [CodeUnit.colon]).length := by
      rw [← named, List.length_map, List.length_map]
    rw [← length, List.take_left, ← named, List.map_map]
    rfl
  · intro named
    refine ⟨(line.take (label ++ [CodeUnit.colon]).length).map plainUnit,
      decodeUtf8 (line.drop (label ++ [CodeUnit.colon]).length), ?_, ?_⟩
    · rw [← decodeUtf8_append_run, List.take_append_drop]
      intro byte inside
      exact Utf8.plainUnit_lt_iff.mp
        (below (named ▸ List.mem_map_of_mem (f := fun byte => (plainUnit byte).lower) inside))
    · rw [List.map_map]
      exact named

/-! ## The rewritten head -/

/-- The lines of a head that stay: the request line, and the headers but those of the gateway's
own name. -/
def keptLines (head : Bytes) : List Bytes :=
  (byteLines head).headD [] ::
    (byteLines head).tail.filter fun line => !isNamed requestIdName line

/-- The lines that the gateway puts at the end of a head. -/
def addedLines (requestId : Text) : List Bytes :=
  [encodeUtf8 (requestIdName ++ 0x20 :: requestId), [], []]

/-- A request with the identifier of the gateway and otherwise as it came. -/
def withIdentifier (buffer : Bytes) (headerEnd : ℕ) (requestId : Text) : Bytes :=
  joinByteLines (keptLines (buffer.take headerEnd) ++ addedLines requestId) ++
    buffer.drop (headerEnd + emptyLine.length)

/-- What a line becomes when it is decoded and encoded. -/
def recode (line : Bytes) : Bytes := encodeUtf8 (decodeUtf8 line)

theorem isHeader_requestIdName (line : Bytes) :
    isHeader requestIdName (decodeUtf8 line) = isNamed requestIdName line := by
  have colon : requestIdName = Text.ofString "x-request-id" ++ [CodeUnit.colon] := by decide
  rw [colon]
  exact isHeader_decodeUtf8 (List.all_eq_true.mp (by decide)) (by decide) line

/-- The gateway recodes the lines that it keeps. -/
theorem withRequestIdHeader_eq (buffer : Bytes) (headerEnd : ℕ) (requestId : Text) :
    withRequestIdHeader buffer headerEnd requestId =
      joinByteLines ((keptLines (buffer.take headerEnd)).map recode ++ addedLines requestId) ++
        buffer.drop (headerEnd + emptyLine.length) := by
  have named : (fun line => !isHeader requestIdName line) ∘ decodeUtf8 =
      fun line => !isNamed requestIdName line :=
    funext fun line => congrArg not (isHeader_requestIdName line)
  have first (lines : List Bytes) : (lines.map decodeUtf8).headD [] = decodeUtf8 (lines.headD []) := by
    cases lines <;> rfl
  rw [withRequestIdHeader, splitLines_decodeUtf8, encodeUtf8_joinLines, first, ← List.map_tail,
    List.filter_map, named]
  simp only [List.map_cons, List.map_append, List.map_map, List.map_nil, keptLines, addedLines,
    List.cons_append]
  rfl

/-- The head is rewritten with every line that is kept as it was exactly if these lines are
encodings of texts. -/
theorem withRequestIdHeader_iff (buffer : Bytes) (headerEnd : ℕ) (requestId : Text) :
    withRequestIdHeader buffer headerEnd requestId = withIdentifier buffer headerEnd requestId ↔
      ∀ line ∈ keptLines (buffer.take headerEnd), IsUtf8 line := by
  rw [withRequestIdHeader_eq, withIdentifier, List.append_cancel_right_eq]
  constructor
  · intro same
    have encoded : IsUtf8 (joinByteLines
        ((keptLines (buffer.take headerEnd)).map recode ++ addedLines requestId)) := by
      rw [isUtf8_joinByteLines_iff, List.forall_mem_append, List.forall_mem_map]
      refine ⟨fun line _ => ⟨decodeUtf8 line, rfl⟩, ?_⟩
      simp only [addedLines, List.forall_mem_cons]
      exact ⟨⟨_, rfl⟩, ⟨[], rfl⟩, ⟨[], rfl⟩, by simp⟩
    rw [same, isUtf8_joinByteLines_iff, List.forall_mem_append] at encoded
    exact encoded.1
  · intro encoded
    have unchanged : (keptLines (buffer.take headerEnd)).map recode =
        keptLines (buffer.take headerEnd) :=
      (List.map_congr_left fun line inside =>
        encodeUtf8_decodeUtf8_iff.mpr (encoded line inside)).trans (List.map_id _)
    rw [unchanged]

/-- A request with a letter in the older encoding. -/
def latinRequest : Bytes :=
  encodeUtf8 "GET /caf" ++ 0xE9 :: encodeUtf8 " HTTP/1.1\r\nHost: acme.optics.run\r\n\r\n"

/-- The letter is replaced in its request line. -/
theorem not_withRequestIdHeader_latin : indexOf emptyLine latinRequest = some 41 ∧
    withRequestIdHeader latinRequest 41 "opt_1" ≠ withIdentifier latinRequest 41 "opt_1" := by
  decide

end Gateway

end OpticsHub
