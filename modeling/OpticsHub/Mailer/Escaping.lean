import OpticsHub.Gateway.Templates

/-!
# Values in a mail

The mailer escapes what it fills into a template in one pass, with a table. The gateway replaces one
unit of markup after the other, ampersands first, so that no pass finds anything to replace in what
an earlier one has written. Both write the same text, and nothing is lost in it: a reader who takes
every entity for its unit, once and from left to right, has the value again.
-/
namespace OpticsHub

open Script

namespace Mailer

/-- `HTML_ESCAPES` -/
def htmlEscapes : Members Text :=
  [([0x26], "&amp;"), ([0x3C], "&lt;"), ([0x3E], "&gt;"), ([0x22], "&quot;"), ([0x27], "&#39;")]

/-- The ampersand, the angle brackets and the quotes. -/
def isMarkup (unit : CodeUnit) : Bool :=
  unit == 0x26 || unit == 0x3C || unit == 0x3E || unit == 0x22 || unit == 0x27

/-- What the table does not have would be written as `undefined`. -/
def escapeHtml (value : Text) : Text :=
  value.flatMap fun char =>
    if isMarkup char then (Members.own htmlEscapes [char]).getD "undefined" else [char]

/-- Every entity is read as its unit, in one pass from left to right. -/
def decodeEntities (text : Text) : Text := Gateway.entityForms.unescape text

/-- The table has a form for every unit of markup. -/
theorem escaped_eq (char : CodeUnit) :
    (if isMarkup char then (Members.own htmlEscapes [char]).getD "undefined" else [char]) =
      Gateway.htmlForm char := by
  cases markup : isMarkup char with
  | true =>
    simp only [isMarkup, Bool.or_eq_true, beq_iff_eq, or_assoc] at markup
    rcases markup with rfl | rfl | rfl | rfl | rfl
    all_goals rfl
  | false =>
    simp only [isMarkup, Bool.or_eq_false_iff, beq_eq_false_iff_ne, and_assoc] at markup
    obtain ⟨amp, lt, gt, quot, apos⟩ := markup
    rw [Gateway.htmlForm, if_neg amp, if_neg lt, if_neg gt, if_neg quot, if_neg apos]
    rfl

theorem escapeHtml_eq (value : Text) : escapeHtml value = Gateway.escapeHtml value := by
  rw [Gateway.escapeHtml_eq, escapeHtml]
  exact List.flatMap_congr fun char _ => escaped_eq char

/-- No entity begins another, and ampersands are never left as they are. -/
theorem readable_entityForms : Gateway.entityForms.Readable where
  apart := by decide
  begins := by decide

/-- The mailer and the gateway escape a value to the same text. It has no angle brackets and no
quotes, and the value is read back from it, whatever the value looks like. -/
theorem escapers_agree (value : Text) :
    Gateway.escapeHtml value = escapeHtml value ∧
      (∀ unit ∈ escapeHtml value, unit ≠ 0x3C ∧ unit ≠ 0x3E ∧ unit ≠ 0x22 ∧ unit ≠ 0x27) ∧
      decodeEntities (escapeHtml value) = value := by
  refine ⟨(escapeHtml_eq value).symm, ?_, ?_⟩
  · rw [escapeHtml_eq, Gateway.escapeHtml_eq]
    exact (Gateway.isEscaped_flatMap value).plain
  · rw [escapeHtml_eq, Gateway.escapeHtml_eq_escape]
    exact readable_entityForms.unescape_escape value

example : escapeHtml "&lt;" = "&amp;lt;" := by decide

end Mailer

end OpticsHub
