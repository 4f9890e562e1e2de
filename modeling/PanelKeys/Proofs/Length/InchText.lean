import PanelKeys.Length.Display
import PanelKeys.Proofs.Text.Trim

/-!
# Inch texts

An inch text begins with a sign or a digit and ends with the inch mark, so trimming does not change
it.
-/

namespace PanelKeys.Length

open PanelKeys.Number
open PanelKeys.Text

namespace InchParts

lemma noLeadingBlank_signText (negative : Bool) : NoLeadingBlank (Double.signText negative) := by
  cases negative
  case false => exact noLeadingBlank_nil
  case true => exact noLeadingBlank_cons (by decide) []

lemma noLeadingBlank_feetChars (p : InchParts) : NoLeadingBlank p.feetChars := by
  simp only [feetChars]
  split
  · exact noLeadingBlank_nil
  · exact noLeadingBlank_toDigits_append p.feet _

lemma noLeadingBlank_lengthChars (p : InchParts) : NoLeadingBlank p.lengthChars := by
  simp only [lengthChars]
  split
  · have hdigits := noLeadingBlank_toDigits_append p.inches []
    rwa [List.append_nil] at hdigits
  · split
    · exact noLeadingBlank_toDigits_append p.numerator _
    · exact noLeadingBlank_toDigits_append p.inches _

lemma noLeadingBlank_chars (p : InchParts) : NoLeadingBlank p.chars :=
  (((noLeadingBlank_signText p.negative).append (noLeadingBlank_feetChars p)).append
    (noLeadingBlank_lengthChars p)).append (noLeadingBlank_cons (by decide) [])

@[simp] lemma trim_text (p : InchParts) : trim p.text = p.text := by
  have hlast : NoLeadingBlank p.chars.reverse := by
    rw [chars, List.reverse_append]
    exact noLeadingBlank_cons (by decide) _
  rw [trim, text, String.toList_ofList, trimChars_eq_self (noLeadingBlank_chars p) hlast]

end InchParts

/-- A length in inches has nothing to trim. -/
lemma Policy.trim_render {p : Policy} (h : p.unit = .inch) (mm : Double) :
    trim (p.render mm) = p.render mm := by
  simp [render, h]

end PanelKeys.Length
