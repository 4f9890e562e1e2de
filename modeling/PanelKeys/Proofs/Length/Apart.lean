import PanelKeys.Proofs.Length.InchText
import PanelKeys.Proofs.Length.MillimeterText

/-!
# Inches are not taken for millimeters

A converted cell may lose its entry, and then nothing but its text tells what it shows.  If a text
in inches could be read as millimeters, the next pass would convert it a second time.  It cannot:
every text in inches ends with the inch mark, and no text with an inch mark is read as a length.

* `IsPart` — the characters that a length in millimeters is written with;
* **`isPart_of_mem`** — whatever is read as a length is written with these alone;
* `parse?_text`, `parse?_render_of_inch` — so no text in inches is read.
-/

namespace PanelKeys.Length

open PanelKeys.Number
open PanelKeys.Text

namespace Millimeter

/-- Digits, blanks, signs, the point, and the letter of the unit. -/
def IsPart (c : Char) : Prop :=
  c.isDigit = true ∨ isBlank c = true ∨ c ∈ ['-', '+', '\u2212', '.', 'm']

lemma not_isPart_inchMark : ¬ IsPart '"' := by
  simp only [IsPart]
  decide

lemma isPart_of_sign {c : Char} (hc : c ∈ ['-', '+', '\u2212', '.', 'm']) : IsPart c :=
  Or.inr (Or.inr hc)

/-! ## Part by part -/

/-- What is dropped at the front, and is of parts alone, leaves the other characters where they
are. -/
lemma isPart_or_mem_dropWhile {p : Char → Bool} (hp : ∀ c, p c = true → IsPart c) {c : Char}
    {cs : List Char} (hc : c ∈ cs) : IsPart c ∨ c ∈ cs.dropWhile p := by
  rw [← List.takeWhile_append_dropWhile (p := p) (l := cs), List.mem_append] at hc
  rcases hc with htaken | hleft
  · exact Or.inl (hp c (List.mem_takeWhile_imp htaken))
  · exact Or.inr hleft

lemma isPart_or_mem_dropBlanks {c : Char} {cs : List Char} (hc : c ∈ cs) :
    IsPart c ∨ c ∈ dropBlanks cs :=
  isPart_or_mem_dropWhile (fun _ hblank => Or.inr (Or.inl hblank)) hc

lemma isPart_or_mem_dropDigits {c : Char} {cs : List Char} (hc : c ∈ cs) :
    IsPart c ∨ c ∈ cs.dropWhile Char.isDigit :=
  isPart_or_mem_dropWhile (fun _ hdigit => Or.inl hdigit) hc

lemma isPart_or_mem_splitSign {c : Char} {cs : List Char} (hc : c ∈ cs) :
    IsPart c ∨ c ∈ (splitSign cs).2 := by
  simp only [splitSign]
  split
  · rcases List.mem_cons.1 hc with rfl | hrest
    · exact Or.inl (isPart_of_sign (by decide))
    · exact Or.inr hrest
  · rcases List.mem_cons.1 hc with rfl | hrest
    · exact Or.inl (isPart_of_sign (by decide))
    · exact Or.inr hrest
  · exact Or.inr hc

/-- A character of a text that begins with a number belongs to the number or to what follows. -/
lemma isPart_or_mem_rest {cs rest : List Char} {d : Decimal} (h : number? cs = some (d, rest))
    {c : Char} (hc : c ∈ cs) : IsPart c ∨ c ∈ rest := by
  rcases isPart_or_mem_splitSign hc with hsign | hbody
  · exact Or.inl hsign
  rcases isPart_or_mem_dropDigits hbody with hwhole | hafter
  · exact Or.inl hwhole
  simp only [number?] at h
  split at h
  · next fraction hpoint =>
      obtain ⟨d', -, hrest⟩ := Option.map_eq_some_iff.1 h
      rw [hpoint] at hafter
      rcases List.mem_cons.1 hafter with rfl | hfraction
      · exact Or.inl (isPart_of_sign (by decide))
      · rw [← (Prod.mk.inj hrest).2]
        exact isPart_or_mem_dropDigits hfraction
  · obtain ⟨d', -, hrest⟩ := Option.map_eq_some_iff.1 h
    rw [← (Prod.mk.inj hrest).2]
    exact Or.inr hafter

lemma isPart_of_isUnitTail {cs : List Char} (h : isUnitTail cs = true) {c : Char} (hc : c ∈ cs) :
    IsPart c := by
  rcases isPart_or_mem_dropBlanks hc with hblank | htail
  · exact hblank
  simp only [isUnitTail] at h
  split at h
  · next rest hunit =>
      rw [hunit] at htail
      rcases List.mem_cons.1 htail with rfl | htail
      · exact isPart_of_sign (by decide)
      rcases List.mem_cons.1 htail with rfl | htail
      · exact isPart_of_sign (by decide)
      rcases isPart_or_mem_dropBlanks htail with hblank | hleft
      · exact hblank
      · rw [List.isEmpty_iff.1 h] at hleft
        exact absurd hleft List.not_mem_nil
  · rw [List.isEmpty_iff.1 h] at htail
    exact absurd htail List.not_mem_nil

/-- **What is read as a length is written with parts of lengths alone.** -/
theorem isPart_of_mem {cs : List Char} {d : Decimal} (h : decimalOf? cs = some d) {c : Char}
    (hc : c ∈ cs) :
    IsPart c := by
  by_cases hminus : c = '\u2212'
  · exact isPart_of_sign (by rw [hminus]; decide)
  have hplain : c ∈ cs.map plainMinus := List.mem_map.2 ⟨c, hc, if_neg hminus⟩
  simp only [decimalOf?] at h
  split at h
  · next d' rest hnumber =>
      split at h
      · next htail =>
          rcases isPart_or_mem_dropBlanks hplain with hblank | hbody
          · exact hblank
          rcases isPart_or_mem_rest hnumber hbody with hpart | hrest
          · exact hpart
          · exact isPart_of_isUnitTail htail hrest
      · simp at h
  · simp at h

end Millimeter

/-! ## Texts in inches -/

/-- No text in inches is read as millimeters. -/
lemma InchParts.parse?_text (p : InchParts) : Millimeter.parse? p.text = none := by
  have hmark : '"' ∈ p.text.toList := by simp [text, chars]
  rw [Millimeter.parse?, Option.map_eq_none_iff]
  cases hread : Millimeter.decimalOf? p.text.toList with
  | none => rfl
  | some d => exact absurd (Millimeter.isPart_of_mem hread hmark) Millimeter.not_isPart_inchMark

lemma Policy.parse?_render_of_inch {p : Policy} (h : p.unit = .inch) (mm : Double) :
    Millimeter.parse? (p.render mm) = none := by
  simp [render, h, InchParts.parse?_text]

lemma Policy.render_of_millimeter {p : Policy} (h : p.unit = .millimeter) (mm : Double) :
    p.render mm = Millimeter.text mm := by
  simp [render, h]

/-- A text that a length shows and that can be read is one in millimeters. -/
lemma Policy.unit_of_parse?_render {p : Policy} {mm read : Double}
    (h : Millimeter.parse? (p.render mm) = some read) : p.unit = .millimeter := by
  cases hunit : p.unit with
  | millimeter => rfl
  | inch =>
      rw [parse?_render_of_inch hunit] at h
      simp at h

end PanelKeys.Length
