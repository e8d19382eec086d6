import OpticsHub.Gateway.Pages
import OpticsHub.Script.Escapes
import OpticsHub.Script.Numerals

/-!
# What an error page is made of

The placeholders of a template are found in the template alone, before anything is filled in. So a
page is its template with every known placeholder replaced, whatever is filled in may look like,
and what comes from outside stands in it in one form: every unit of markup as an entity, and every
other unit as it is. The piece of HTML that is filled in as it stands is made of fixed words around
the escaped host.
-/
namespace OpticsHub

open Script

namespace Gateway

/-! ## Escaping -/

/-- How a unit is written in HTML. -/
def htmlForm (unit : CodeUnit) : Text :=
  if unit = 0x26 then "&amp;"
  else if unit = 0x3C then "&lt;"
  else if unit = 0x3E then "&gt;"
  else if unit = 0x22 then "&quot;"
  else if unit = 0x27 then "&#39;"
  else [unit]

def entities : List Text := ["&amp;", "&lt;", "&gt;", "&quot;", "&#39;"]

/-- A text without markup: there are no angle brackets and no quotes, and every ampersand begins an
entity. -/
structure IsEscaped (text : Text) : Prop where
  plain : ∀ unit ∈ text, unit ≠ 0x3C ∧ unit ≠ 0x3E ∧ unit ≠ 0x22 ∧ unit ≠ 0x27
  entity : ∀ front back, text = front ++ 0x26 :: back →
    ∃ entity ∈ entities, entity <+: 0x26 :: back

/-- The units of markup with their entities, in the order in which they are replaced. -/
def entityForms : Escapes CodeUnit :=
  [(0x26, ("&amp;" : Text)), (0x3C, ("&lt;" : Text)), (0x3E, ("&gt;" : Text)),
    (0x22, ("&quot;" : Text)), (0x27, ("&#39;" : Text))]

theorem form_entityForms (unit : CodeUnit) : entityForms.form unit = htmlForm unit := by
  unfold htmlForm
  split_ifs with amp lt gt quot apos
  · rw [amp]
    rfl
  · rw [lt]
    rfl
  · rw [gt]
    rfl
  · rw [quot]
    rfl
  · rw [apos]
    rfl
  · have plain : ∀ entry ∈ entityForms, entry.1 ≠ unit := by
      simp [entityForms, eq_comm, amp, lt, gt, quot, apos]
    rcases entityForms.form_eq unit with known | ⟨alone, -⟩
    · exact absurd rfl (plain _ known)
    · exact alone

/-- Ampersands are replaced first, so no entity is escaped again. -/
theorem escapeHtml_eq_escape (value : Text) : escapeHtml value = entityForms.escape value := by
  have passes : escapeHtml value = entityForms.foldl Escapes.replaceAll value := rfl
  rw [passes, Escapes.foldl_replaceAll (by decide)]

/-- Replacing one unit of markup after the other writes each in its form. -/
theorem escapeHtml_eq (value : Text) : escapeHtml value = value.flatMap htmlForm := by
  rw [escapeHtml_eq_escape, Escapes.escape]
  exact List.flatMap_congr fun unit _ => form_entityForms unit

theorem htmlForm_cases (unit : CodeUnit) :
    htmlForm unit ∈ entities ∨
      htmlForm unit = [unit] ∧ unit ≠ 0x26 ∧ unit ≠ 0x3C ∧ unit ≠ 0x3E ∧ unit ≠ 0x22 ∧
        unit ≠ 0x27 := by
  unfold htmlForm
  split_ifs with amp lt gt quot apos
  · exact .inl (by decide)
  · exact .inl (by decide)
  · exact .inl (by decide)
  · exact .inl (by decide)
  · exact .inl (by decide)
  · exact .inr ⟨rfl, amp, lt, gt, quot, apos⟩

theorem plain_of_mem_entities : ∀ entity ∈ entities, ∀ unit ∈ entity,
    unit ≠ 0x3C ∧ unit ≠ 0x3E ∧ unit ≠ 0x22 ∧ unit ≠ 0x27 := by
  have plain : (entities.all fun entity => entity.all fun unit =>
      unit != 0x3C && unit != 0x3E && unit != 0x22 && unit != 0x27) = true := by decide
  intro entity known unit inside
  have here := List.all_eq_true.mp (List.all_eq_true.mp plain entity known) unit inside
  simpa [and_assoc] using here

/-- Only the first unit of an entity is an ampersand. -/
theorem not_mem_tail_entities : ∀ entity ∈ entities, (0x26 : CodeUnit) ∉ entity.tail := by decide

/-- An ampersand in the form of a unit begins an entity. -/
theorem entity_of_htmlForm {unit : CodeUnit} {front back : Text}
    (split : htmlForm unit = front ++ 0x26 :: back) :
    ∃ entity ∈ entities, entity = 0x26 :: back := by
  rcases htmlForm_cases unit with entity | ⟨alone, other, -⟩
  · cases front with
    | nil => exact ⟨_, entity, split⟩
    | cons first front =>
      refine absurd ?_ (not_mem_tail_entities _ entity)
      rw [split]
      exact List.mem_append_right front List.mem_cons_self
  · rw [alone] at split
    have inside : (0x26 : CodeUnit) ∈ [unit] := by
      rw [split]
      exact List.mem_append_right front List.mem_cons_self
    exact absurd (List.mem_singleton.mp inside).symm other

/-- What is written unit by unit has no markup. -/
theorem isEscaped_flatMap (value : Text) : IsEscaped (value.flatMap htmlForm) where
  plain unit inside := by
    obtain ⟨written, -, inside⟩ := List.mem_flatMap.mp inside
    rcases htmlForm_cases written with entity | ⟨alone, -, plain⟩
    · exact plain_of_mem_entities _ entity unit inside
    · rw [alone] at inside
      rw [List.mem_singleton.mp inside]
      exact plain
  entity front back split := by
    induction value generalizing front with
    | nil => simp at split
    | cons unit rest ih =>
      rw [List.flatMap_cons] at split
      rcases List.append_eq_append_iff.mp split with ⟨more, later, tail⟩ | ⟨more, here, tail⟩
      · exact ih more tail
      · cases more with
        | nil =>
          refine ih [] ?_
          rw [List.nil_append] at tail ⊢
          exact tail.symm
        | cons first more =>
          obtain ⟨rfl, rfl⟩ := List.cons.inj tail
          obtain ⟨entity, known, begins⟩ := entity_of_htmlForm here
          refine ⟨entity, known, ?_⟩
          rw [begins]
          exact List.prefix_append (0x26 :: more) _

/-! ## Placeholders -/

/-- A placeholder of a key: two braces on either side, and white space within. -/
def IsPlaceholder (source key : Text) : Prop :=
  key ≠ [] ∧ (∀ unit ∈ key, isWordUnit unit = true) ∧
    ∃ before behind, (∀ unit ∈ before, CodeUnit.isSpace unit = true) ∧
      (∀ unit ∈ behind, CodeUnit.isSpace unit = true) ∧
      source = CodeUnit.openBrace :: CodeUnit.openBrace :: (before ++ (key ++ (behind ++
        [CodeUnit.closeBrace, CodeUnit.closeBrace])))

theorem isSpace_of_isWordUnit {unit : CodeUnit} (word : isWordUnit unit = true) :
    CodeUnit.isSpace unit = false := by
  simp only [isWordUnit, CodeUnit.isDigit, CodeUnit.isUpper, CodeUnit.isSpace, Bool.and_eq_true,
    Bool.or_eq_true, decide_eq_true_eq, beq_iff_eq] at *
  simp only [UInt16.le_iff_toNat_le, ← UInt16.toNat_inj, Bool.or_eq_false_iff,
    Bool.and_eq_false_iff, decide_eq_false_iff_not, beq_eq_false_iff_ne, ne_eq] at *
  simp only [UInt16.reduceToNat] at *
  omega

/-- White space and the closing braces do not belong to a key. -/
theorem isWordUnit_of_isSpace {unit : CodeUnit} (space : CodeUnit.isSpace unit = true) :
    isWordUnit unit = false := by
  cases word : isWordUnit unit with
  | false => rfl
  | true => exact space.symm.trans (isSpace_of_isWordUnit word)

theorem dropWhile_run {inClass : CodeUnit → Bool} {run rest : Text}
    (all : ∀ unit ∈ run, inClass unit = true) (ends : Delimited inClass rest) :
    (run ++ rest).dropWhile inClass = rest := by
  have split := span_run all ends
  rw [List.span_eq_takeWhile_dropWhile] at split
  exact (Prod.mk.inj split).2

theorem takeWhile_run {inClass : CodeUnit → Bool} {run rest : Text}
    (all : ∀ unit ∈ run, inClass unit = true) (ends : Delimited inClass rest) :
    (run ++ rest).takeWhile inClass = run := by
  have split := span_run all ends
  rw [List.span_eq_takeWhile_dropWhile] at split
  exact (Prod.mk.inj split).1

/-- A placeholder at the beginning of a text is read with its key. -/
theorem placeholder_iff {text key after : Text} :
    placeholder text = some (key, after) ↔
      ∃ source, text = source ++ after ∧ IsPlaceholder source key := by
  constructor
  · intro found
    unfold placeholder at found
    split at found
    · rename_i first second rest
      split at found
      · rename_i braces
        obtain ⟨rfl, rfl⟩ := braces
        dsimp only at found
        split at found
        · rename_i unit units third fourth after' word behind
          split at found
          · rename_i closing
            obtain ⟨rfl, rfl⟩ := closing
            obtain ⟨rfl, rfl⟩ := Prod.mk.inj (Option.some.inj found)
            have inner := List.takeWhile_append_dropWhile (p := CodeUnit.isSpace) (l := rest)
            have name := List.takeWhile_append_dropWhile (p := isWordUnit)
              (l := rest.dropWhile CodeUnit.isSpace)
            have rear := List.takeWhile_append_dropWhile (p := CodeUnit.isSpace)
              (l := (rest.dropWhile CodeUnit.isSpace).dropWhile isWordUnit)
            rw [behind] at rear
            rw [word] at name
            refine ⟨_, ?_, List.cons_ne_nil unit units, ?_, rest.takeWhile CodeUnit.isSpace,
              ((rest.dropWhile CodeUnit.isSpace).dropWhile isWordUnit).takeWhile CodeUnit.isSpace,
              ?_, ?_, rfl⟩
            · simp only [List.cons_append, List.append_assoc, List.nil_append]
              rw [List.cons_append] at name
              rw [rear, name, inner]
            · rw [← word]
              exact fun unit inside => List.mem_takeWhile_imp inside
            · exact fun unit inside => List.mem_takeWhile_imp inside
            · exact fun unit inside => List.mem_takeWhile_imp inside
          · cases found
        · cases found
      · cases found
    · cases found
  · rintro ⟨source, rfl, some, word, before, behind, spaces, spaces', rfl⟩
    obtain ⟨unit, units, rfl⟩ := List.exists_cons_of_ne_nil some
    have closing : Delimited CodeUnit.isSpace
        ([CodeUnit.closeBrace, CodeUnit.closeBrace] ++ after) := by
      intro unit head
      obtain rfl := Option.some.inj head
      decide
    have begun : Delimited CodeUnit.isSpace ((unit :: units) ++ (behind ++
        ([CodeUnit.closeBrace, CodeUnit.closeBrace] ++ after))) := by
      intro unit' head
      obtain rfl := Option.some.inj head
      exact isSpace_of_isWordUnit (word _ List.mem_cons_self)
    have ended : Delimited isWordUnit (behind ++
        ([CodeUnit.closeBrace, CodeUnit.closeBrace] ++ after)) := by
      intro unit' head
      cases behind with
      | nil =>
        obtain rfl := Option.some.inj head
        decide
      | cons space behind =>
        obtain rfl := Option.some.inj head
        exact isWordUnit_of_isSpace (spaces' _ List.mem_cons_self)
    have inner := dropWhile_run spaces begun
    have name := takeWhile_run word ended
    have rear := dropWhile_run word ended
    have last := dropWhile_run spaces' closing
    simp only [List.cons_append, List.append_assoc, List.nil_append] at inner name rear last ⊢
    rw [placeholder, if_pos ⟨rfl, rfl⟩, inner]
    simp only [name, rear, last, and_self, if_true]

/-! ## Segments -/

/-- A part of a template. -/
inductive Segment where
  | plain (unit : CodeUnit)
  | placeholder (source key : Text)

/-- A template cut into the placeholders that are found in it from left to right, and the units
between them. -/
inductive Segmented : Text → List Segment → Prop
  | nil : Segmented [] []
  | placeholder {source key rest : Text} {segments : List Segment}
      (found : IsPlaceholder source key) (later : Segmented rest segments) :
      Segmented (source ++ rest) (.placeholder source key :: segments)
  | plain {unit : CodeUnit} {rest : Text} {segments : List Segment}
      (none : ∀ source key after, unit :: rest = source ++ after → ¬ IsPlaceholder source key)
      (later : Segmented rest segments) : Segmented (unit :: rest) (.plain unit :: segments)

theorem IsPlaceholder.exists_cons {source key : Text} (isPlaceholder : IsPlaceholder source key) :
    ∃ rest, source = CodeUnit.openBrace :: rest := by
  obtain ⟨-, -, before, behind, -, -, rfl⟩ := isPlaceholder
  exact ⟨_, rfl⟩

/-- Every template can be cut. -/
theorem exists_segmented (template : Text) : ∃ segments, Segmented template segments := by
  induction size : template.length using Nat.strong_induction_on generalizing template with
  | _ length ih =>
    subst size
    cases template with
    | nil => exact ⟨[], .nil⟩
    | cons unit rest =>
      cases found : placeholder (unit :: rest) with
      | none =>
        obtain ⟨segments, later⟩ := ih rest.length (Nat.lt_succ_self _) rest rfl
        refine ⟨.plain unit :: segments, .plain (fun source key after split here => ?_) later⟩
        rw [placeholder_iff.mpr ⟨source, split, here⟩] at found
        cases found
      | some read =>
        obtain ⟨source, split, here⟩ := placeholder_iff.mp found
        obtain ⟨inside, begins⟩ := here.exists_cons
        have shorter : read.2.length < (unit :: rest).length := by
          rw [split, begins, List.length_append, List.length_cons]
          omega
        obtain ⟨segments, later⟩ := ih _ shorter read.2 rfl
        rw [split]
        exact ⟨.placeholder source read.1 :: segments, .placeholder here later⟩

section Filling

variable (vars rawVars : Members Text)

/-- What a part of a template becomes. -/
def Segment.filled : Segment → Text
  | .plain unit => [unit]
  | .placeholder source key => (valueOf vars rawVars key).getD source

theorem renderFrom_skip (skip : ℕ) (text : Text) :
    renderFrom vars rawVars skip text = renderFrom vars rawVars 0 (text.drop skip) := by
  induction skip generalizing text with
  | zero => rfl
  | succ skip ih =>
    cases text with
    | nil => rfl
    | cons unit rest => exact ih rest

/-- Rendering replaces the placeholders of a template, and looks at nothing that was filled in. -/
theorem renderTemplate_eq {template : Text} {segments : List Segment}
    (segmented : Segmented template segments) :
    renderTemplate vars rawVars template = segments.flatMap (Segment.filled vars rawVars) := by
  rw [renderTemplate]
  induction segmented with
  | nil => rfl
  | @placeholder source key rest segments found later ih =>
    have read : placeholder (source ++ rest) = some (key, rest) :=
      placeholder_iff.mpr ⟨source, rfl, found⟩
    have matched : (source ++ rest).take ((source ++ rest).length - rest.length) = source := by
      rw [List.length_append, Nat.add_sub_cancel, List.take_left]
    obtain ⟨inside, rfl⟩ := found.exists_cons
    rw [List.cons_append] at read matched
    rw [List.flatMap_cons, ← ih, List.cons_append, renderFrom]
    simp only [read, matched]
    rw [renderFrom_skip, List.length_append, Nat.add_sub_cancel, List.drop_left]
    rfl
  | @plain unit rest segments none later ih =>
    have missing : placeholder (unit :: rest) = .none := by
      cases found : placeholder (unit :: rest) with
      | none => rfl
      | some read =>
        obtain ⟨source, split, here⟩ := placeholder_iff.mp found
        exact absurd here (none source read.1 read.2 split)
    rw [List.flatMap_cons, ← ih, renderFrom, missing]
    rfl

end Filling

/-! ## Pages -/

/-- What is filled in escaped. -/
inductive Field where
  | requestUrl
  | serviceName
  | requestId
  | rayId
  | outcome
  | timestamp
  deriving DecidableEq

namespace Field

def name : Field → Text
  | requestUrl => "requestUrl"
  | serviceName => "serviceName"
  | requestId => "requestId"
  | rayId => "rayId"
  | outcome => "outcome"
  | timestamp => "timestamp"

def all : List Field := [requestUrl, serviceName, requestId, rayId, outcome, timestamp]

/-- The field that a placeholder names. -/
def ofName (key : Text) : Option Field := all.find? fun field => field.name == key

end Field

/-- A part of a page: words that were there before, or a field. -/
inductive Part where
  | words (text : Text)
  | escaped (field : Field)

def Part.shown (value : Field → Text) : Part → Text
  | .words text => text
  | .escaped field => (value field).flatMap htmlForm

/-- The parts that a part of a template becomes, by those of the piece of HTML that says what
happened. -/
def Segment.parts (details : List Part) : Segment → List Part
  | .plain unit => [.words [unit]]
  | .placeholder source key =>
    if key = "detail" then details
    else
      match Field.ofName key with
      | some field => [.escaped field]
      | none => [.words source]

/-- The value of a field. -/
def fieldValue (timestamp : Text) (outcome : PageOutcome) (context : ErrorContext) : Field → Text
  | .requestUrl => orText context.host "unknown host"
  | .serviceName =>
    orText (context.serviceName.getD []) (orText context.host "unknown host")
  | .requestId => context.requestId
  | .rayId => context.rayId
  | .outcome => outcome.name
  | .timestamp => timestamp

/-- What happened is told in words that do not depend on the request, around the host at most. -/
theorem exists_details (outcome : PageOutcome) :
    ∃ details : List Part, (∀ field, Part.escaped field ∈ details → field = .requestUrl) ∧
      ∀ value : Field → Text,
        (presentationFor outcome).detail ((value .requestUrl).flatMap htmlForm) =
          details.flatMap (Part.shown value) := by
  have around : ∀ before after : String,
      ∃ details : List Part, (∀ field, Part.escaped field ∈ details → field = .requestUrl) ∧
        ∀ value : Field → Text,
          aroundHost before after ((value .requestUrl).flatMap htmlForm) =
            details.flatMap (Part.shown value) := by
    intro before after
    refine ⟨[.words before, .escaped .requestUrl, .words after], fun field inside => ?_,
      fun value => ?_⟩
    · simpa using inside
    · simp [aroundHost, Part.shown]
  have alone : ∀ text : Text,
      ∃ details : List Part, (∀ field, Part.escaped field ∈ details → field = .requestUrl) ∧
        ∀ value : Field → Text, text = details.flatMap (Part.shown value) := by
    intro text
    refine ⟨[.words text], fun field inside => ?_, fun value => ?_⟩
    · simp at inside
    · simp [Part.shown]
  cases outcome with
  | missingHost => exact alone ((presentationFor .missingHost).detail [])
  | hubUnreachable => exact alone ((presentationFor .hubUnreachable).detail [])
  | hubRejected => exact alone ((presentationFor .hubRejected).detail [])
  | _ => exact around _ _

theorem own_fields (value : Field → Text) (key : Text) :
    Members.own (Field.all.map fun field => (field.name, value field)) key =
      (Field.ofName key).map value := by
  simp [Members.own, Field.ofName, List.find?_map, Function.comp_def]

/-- A part of a template is filled in by its parts. -/
theorem filled_eq (timestamp : Text) (outcome : PageOutcome) (context : ErrorContext)
    {details : List Part} (detail : (presentationFor outcome).detail
        ((fieldValue timestamp outcome context .requestUrl).flatMap htmlForm) =
      details.flatMap (Part.shown (fieldValue timestamp outcome context))) (segment : Segment) :
    segment.filled
        [("requestUrl", orText context.host "unknown host"),
          ("serviceName",
            orText (context.serviceName.getD []) (orText context.host "unknown host")),
          ("requestId", context.requestId), ("rayId", context.rayId), ("outcome", outcome.name),
          ("timestamp", timestamp)]
        [("detail",
          (presentationFor outcome).detail (escapeHtml (orText context.host "unknown host")))] =
      (segment.parts details).flatMap (Part.shown (fieldValue timestamp outcome context)) := by
  cases segment with
  | plain unit => simp [Segment.filled, Segment.parts, Part.shown]
  | placeholder source key =>
    rw [Segment.filled, Segment.parts, valueOf]
    by_cases here : key = "detail"
    · subst here
      rw [if_pos rfl, ← detail, ← escapeHtml_eq]
      rfl
    · have raw : Members.own [("detail", (presentationFor outcome).detail
          (escapeHtml (orText context.host "unknown host")))] key = none := by
        simp [Members.own, Ne.symm here]
      have own := own_fields (fieldValue timestamp outcome context) key
      rw [if_neg here, raw]
      dsimp only
      refine (congrArg (fun found : Option Text => (found.map escapeHtml).getD source) own).trans ?_
      cases Field.ofName key with
      | none => simp [Part.shown]
      | some field => simp [Part.shown, escapeHtml_eq]

/-- An error page is its template with every known placeholder replaced, by fields in their
escaped form and by words around them. The parts are found before anything is filled in, so they
are the same whatever the request is, and what stands for a field has no markup. -/
theorem renderErrorResponse_parts (templates : ErrorTemplateName → Text) (outcome : PageOutcome) :
    ∃ segments details, Segmented (templates (presentationFor outcome).template) segments ∧
      (∀ field, Part.escaped field ∈ details → field = .requestUrl) ∧
      ∀ timestamp context,
        renderErrorResponse templates timestamp outcome context =
            makeHtmlResponse (presentationFor outcome).status (presentationFor outcome).reason
              ((segments.flatMap (Segment.parts details)).flatMap
                (Part.shown (fieldValue timestamp outcome context))) ∧
          ∀ field,
            IsEscaped (Part.shown (fieldValue timestamp outcome context) (.escaped field)) := by
  obtain ⟨segments, segmented⟩ := exists_segmented (templates (presentationFor outcome).template)
  obtain ⟨details, host, detail⟩ := exists_details outcome
  refine ⟨segments, details, segmented, host, fun timestamp context => ⟨?_, ?_⟩⟩
  · have filled := filled_eq timestamp outcome context
      (detail (fieldValue timestamp outcome context))
    rw [renderErrorResponse, renderTemplate_eq _ _ segmented, List.flatMap_assoc]
    exact congrArg _ (List.flatMap_congr fun segment _ => filled segment)
  · exact fun field => isEscaped_flatMap _

end Gateway

end OpticsHub
