import Mathlib.Data.List.TakeWhile
import PanelKeys.Length.Millimeter
import PanelKeys.Proofs.Number.FixedPlaces
import PanelKeys.Proofs.Text.Trim

/-!
# Millimeter texts read back

What is written in millimeters is read again as soon as the panel is converted, so the text is the
only thing that is left of a length then.  The text loses the places behind the third, once; after
that it holds what it holds, with one exception.  A length that is less than half a thousandth below
zero is written with its sign, but without any digit that is not zero, and what is read from that is
a zero that shows no sign.

* `decimalOf?_fixedPoint` — **a text with fixed places is read as the digits that were written**;
* `text_eq_negativeZero_iff` — when a sign stands before nothing but zeros;
* `normal` — what becomes of a text that is read as a length and written out again;
* **`normal_normal`** — doing so once more changes the text `-0.000` and no other;
* **`text_of_read_back`** — a length that is read from the text of a finite one has that text.
-/

namespace PanelKeys

open PanelKeys.Number
open PanelKeys.Text

-- Powers are those of natural numbers, also where monoids are known.
attribute [local instance (high)] instPowNat

namespace Number

/-- The digits behind the point. -/
def fractionChars (places n : Nat) : List Char :=
  (Nat.toDigits 10 (n % 10 ^ places)).leftpad places '0'

lemma fixedPoint_eq (places n : Nat) :
    fixedPoint places n = Nat.toDigits 10 (n / 10 ^ places) ++ '.' :: fractionChars places n := rfl

lemma isDigit_of_mem_toDigits {n : Nat} {c : Char} (h : c ∈ Nat.toDigits 10 n) : c.isDigit = true :=
  Nat.isDigit_of_mem_toDigits (by decide) (by decide) h

lemma isDigit_of_mem_fractionChars {places n : Nat} {c : Char} (h : c ∈ fractionChars places n) :
    c.isDigit = true := by
  rcases List.mem_append.1 h with hzero | hdigit
  · rw [(List.mem_replicate.1 hzero).2]
    decide
  · exact isDigit_of_mem_toDigits hdigit

lemma length_fractionChars {places : Nat} (h : 0 < places) (n : Nat) :
    (fractionChars places n).length = places := by
  have hlength : (Nat.toDigits 10 (n % 10 ^ places)).length ≤ places :=
    (Nat.length_toDigits_le_iff (by decide) h).2 (Nat.mod_lt n (Nat.pow_pos (by decide)))
  rw [fractionChars, List.length_leftpad, Nat.max_eq_left hlength]

/-- All digits together spell the number. -/
lemma ofDigitChars_fixedPoint {places : Nat} (h : 0 < places) (n : Nat) :
    Nat.ofDigitChars 10 (Nat.toDigits 10 (n / 10 ^ places) ++ fractionChars places n) 0 = n := by
  have hfraction : Nat.ofDigitChars 10 (fractionChars places n) 0 = n % 10 ^ places := by
    rw [fractionChars, List.leftpad, Nat.ofDigitChars_append, Nat.ofDigitChars_replicate_zero,
      Nat.mul_zero, Nat.ofDigitChars_ten_toDigits]
  rw [Nat.ofDigitChars_append, Nat.ofDigitChars_ten_toDigits, Nat.ofDigitChars_eq_ofDigitChars_zero,
    length_fractionChars h, hfraction]
  exact Nat.div_add_mod n (10 ^ places)

end Number

namespace Length.Millimeter

/-! ## Reading what was written -/

lemma splitSign_of_isDigit {c : Char} (h : c.isDigit = true) (rest : List Char) :
    splitSign (c :: rest) = (false, c :: rest) := by
  simp only [splitSign]
  split
  · next heq =>
      rw [List.cons.injEq] at heq
      simp [heq.1] at h
  · next heq =>
      rw [List.cons.injEq] at heq
      simp [heq.1] at h
  · rfl

/-- A number stands at the front once the sign is taken off. -/
lemma splitSign_signText (negative : Bool) (n : Nat) (rest : List Char) :
    splitSign (Double.signText negative ++ (Nat.toDigits 10 n ++ rest))
      = (negative, Nat.toDigits 10 n ++ rest) := by
  cases negative with
  | true => rfl
  | false =>
      cases hdigits : Nat.toDigits 10 n with
      | nil => exact absurd hdigits Nat.toDigits_ne_nil
      | cons c cs =>
          have hc : c.isDigit = true := isDigit_of_mem_toDigits (n := n) (by simp [hdigits])
          exact splitSign_of_isDigit hc _

lemma splitSign_fixedPoint (negative : Bool) (places n : Nat) :
    splitSign (Double.signText negative ++ fixedPoint places n)
      = (negative, fixedPoint places n) := by
  rw [fixedPoint_eq]
  exact splitSign_signText negative _ _

lemma number?_fixedPoint (negative : Bool) {places : Nat} (h : 0 < places) (n : Nat) :
    number? (Double.signText negative ++ fixedPoint places n)
      = some (⟨negative, n, places⟩, []) := by
  have hwhole : ∀ c ∈ Nat.toDigits 10 (n / 10 ^ places), c.isDigit = true := fun c =>
    isDigit_of_mem_toDigits
  have hfraction : ∀ c ∈ fractionChars places n, c.isDigit = true :=
    fun c => isDigit_of_mem_fractionChars
  have hpoint : Char.isDigit '.' = false := by decide
  have htake : (fixedPoint places n).takeWhile Char.isDigit
      = Nat.toDigits 10 (n / 10 ^ places) := by
    rw [fixedPoint_eq, List.takeWhile_append_of_pos hwhole,
      List.takeWhile_cons_of_neg (by simp [hpoint]), List.append_nil]
  have hdrop : (fixedPoint places n).dropWhile Char.isDigit = '.' :: fractionChars places n := by
    rw [fixedPoint_eq, List.dropWhile_append_of_pos hwhole,
      List.dropWhile_cons_of_neg (by simp [hpoint])]
  simp only [number?, splitSign_fixedPoint, htake, hdrop, List.takeWhile_eq_self_iff.2 hfraction,
    List.dropWhile_eq_nil_iff.2 hfraction, decimal?]
  rw [if_neg (by simp [Nat.toDigits_ne_nil]), ofDigitChars_fixedPoint h, length_fractionChars h]
  rfl

/-- A text with fixed places is made of digits, a point and a hyphen. -/
lemma plainMinus_of_mem {negative : Bool} {places n : Nat} {c : Char}
    (h : c ∈ Double.signText negative ++ fixedPoint places n) : plainMinus c = c := by
  have hdigit : c.isDigit = true → plainMinus c = c := by
    intro hc
    have hne : c ≠ '\u2212' := by
      rintro rfl
      revert hc
      decide
    rw [plainMinus, if_neg hne]
  rw [fixedPoint_eq] at h
  rcases List.mem_append.1 h with hsign | hbody
  · cases negative with
    | true =>
        rw [List.mem_singleton.1 hsign]
        decide
    | false => simp [Double.signText] at hsign
  · rcases List.mem_append.1 hbody with hwhole | hrest
    · exact hdigit (isDigit_of_mem_toDigits hwhole)
    · rcases List.mem_cons.1 hrest with rfl | hfraction
      · decide
      · exact hdigit (isDigit_of_mem_fractionChars hfraction)

/-- **A text with fixed places is read as the digits that were written.** -/
theorem decimalOf?_fixedPoint (negative : Bool) {places : Nat} (h : 0 < places) (n : Nat) :
    decimalOf? (Double.signText negative ++ fixedPoint places n) = some ⟨negative, n, places⟩ := by
  have hplain : (Double.signText negative ++ fixedPoint places n).map plainMinus
      = Double.signText negative ++ fixedPoint places n := by
    rw [List.map_congr_left fun c => plainMinus_of_mem, List.map_id']
  have hleading : NoLeadingBlank (Double.signText negative ++ fixedPoint places n) := by
    have hbody : NoLeadingBlank (fixedPoint places n) := noLeadingBlank_toDigits_append _ _
    cases negative with
    | true => exact noLeadingBlank_cons (by decide) _
    | false => exact hbody
  rw [decimalOf?, hplain, dropBlanks_eq_self hleading, number?_fixedPoint negative h]
  rfl

/-! ## Lengths -/

lemma text_finite (negative : Bool) (m : Magnitude) :
    text (.finite negative m)
      = String.ofList (Double.signText (negative && m.units != 0)
        ++ fixedPoint places (m.fixedDigits places)) :=
  rfl

lemma decimalOf?_text_finite (negative : Bool) (m : Magnitude) :
    decimalOf? (text (.finite negative m)).toList
      = some ⟨negative && m.units != 0, m.fixedDigits places, places⟩ := by
  rw [text_finite, String.toList_ofList]
  exact decimalOf?_fixedPoint _ (by decide) _

lemma decimalOf?_negativeZero : decimalOf? "-0.000".toList = some ⟨true, 0, 3⟩ := by decide

/-- **A sign stands before nothing but zeros** where a length below zero has no digits. -/
theorem text_eq_negativeZero_iff (negative : Bool) (m : Magnitude) :
    text (.finite negative m) = "-0.000"
      ↔ (negative && m.units != 0) = true ∧ m.fixedDigits places = 0 := by
  constructor
  · intro htext
    have hread := decimalOf?_text_finite negative m
    rw [htext, decimalOf?_negativeZero, Option.some.injEq, Decimal.mk.injEq] at hread
    exact ⟨hread.1.symm, hread.2.1.symm⟩
  · rintro ⟨hsign, hdigits⟩
    rw [text_finite, hsign, hdigits]
    decide

/-- A text that shows a length is one of a finite length, or of one beyond the range. -/
lemma parse?_text_eq_none {mm : Double} (h : ∀ negative m, mm ≠ .finite negative m) :
    parse? (text mm) = none := by
  have hnone : decimalOf? (text mm).toList = none := by
    cases mm with
    | nan => decide
    | infinite negative => cases negative <;> decide
    | finite negative m => exact (h negative m rfl).elim
  rw [parse?, hnone]
  rfl

/-- A finite length is read back as one that is written with the same digits, and as zero only if
they are zeros. -/
lemma exists_parse?_text (negative : Bool) (m : Magnitude) :
    ∃ m', parse? (text (.finite negative m)) = some (.finite (negative && m.units != 0) m')
      ∧ m'.fixedDigits places = m.fixedDigits places
      ∧ (m'.units = 0 ↔ m.fixedDigits places = 0) := by
  obtain ⟨m', hread, hdigits⟩ := m.exists_ofRatio?_fixedDigits places
  refine ⟨m', ?_, hdigits, fun hunits => ?_, fun hzero => ?_⟩
  · rw [parse?, decimalOf?_text_finite, Option.map_some, Decimal.nearest,
      Double.ofRatio_of_some hread]
  · rw [← hdigits]
    exact Magnitude.fixedDigits_of_units_eq_zero places hunits
  · rw [hzero] at hread
    exact Magnitude.units_of_ofRatio?_zero hread

/-! ## Again and again -/

/-- What becomes of a text that is read as a length and written out again. -/
def normal (s : String) : String := ((parse? s).map text).getD s

lemma normal_of_parse? {s : String} {mm : Double} (h : parse? s = some mm) :
    normal s = text mm := by
  simp [normal, h]

lemma normal_of_parse?_eq_none {s : String} (h : parse? s = none) : normal s = s := by
  simp [normal, h]

/-- A zero with a sign is a length. -/
lemma ne_negativeZero_of_parse?_eq_none {s : String} (h : parse? s = none) : s ≠ "-0.000" := by
  rintro rfl
  rw [parse?, decimalOf?_negativeZero] at h
  simp at h

lemma normal_text_finite (negative : Bool) (m : Magnitude) :
    normal (text (.finite negative m))
      = if text (.finite negative m) = "-0.000" then "0.000" else text (.finite negative m) := by
  obtain ⟨m', hread, hdigits, hzero⟩ := exists_parse?_text negative m
  have hnormal : normal (text (.finite negative m)) = String.ofList
      (Double.signText (negative && m.units != 0 && m'.units != 0)
        ++ fixedPoint places (m.fixedDigits places)) := by
    rw [normal_of_parse? hread, text_finite, hdigits]
  rw [hnormal]
  split
  · next htext =>
      obtain ⟨-, hdigits0⟩ := (text_eq_negativeZero_iff negative m).1 htext
      simp only [hzero.2 hdigits0, hdigits0, bne_self_eq_false, Bool.and_false]
      decide
  · next htext =>
      have hsign : (negative && m.units != 0 && m'.units != 0) = (negative && m.units != 0) := by
        cases hneg : negative && m.units != 0 with
        | false => rfl
        | true =>
            have hdigits0 : m.fixedDigits places ≠ 0 := fun h =>
              htext ((text_eq_negativeZero_iff negative m).2 ⟨hneg, h⟩)
            have hunits : m'.units ≠ 0 := fun h => hdigits0 (hzero.1 h)
            simp [hunits]
      rw [hsign, text_finite]

/-- **Reading and writing once more changes nothing**, except that a zero loses its sign. -/
theorem normal_normal (s : String) :
    normal (normal s) = if normal s = "-0.000" then "0.000" else normal s := by
  cases hs : parse? s with
  | none =>
      have hsame : normal s = s := normal_of_parse?_eq_none hs
      rw [hsame, hsame, if_neg (ne_negativeZero_of_parse?_eq_none hs)]
  | some mm =>
      rw [normal_of_parse? hs]
      by_cases hfinite : ∃ negative m, mm = .finite negative m
      · obtain ⟨negative, m, rfl⟩ := hfinite
        exact normal_text_finite negative m
      · have hnone : parse? (text mm) = none :=
          parse?_text_eq_none fun negative m h => hfinite ⟨negative, m, h⟩
        rw [normal_of_parse?_eq_none hnone, if_neg (ne_negativeZero_of_parse?_eq_none hnone)]

/-- **The text of every finite length is read as a finite length that has the same text**, except
that a zero loses its sign: also where three places say less than the length, and where neighbouring
lengths are farther apart than three places tell. -/
theorem text_of_read_back {mm : Double} (h : mm.IsFinite) :
    ∃ read, parse? (text mm) = some read ∧ read.IsFinite
      ∧ text read = if text mm = "-0.000" then "0.000" else text mm := by
  cases mm with
  | nan => exact h.elim
  | infinite negative => exact h.elim
  | finite negative m =>
      obtain ⟨m', hread, -, -⟩ := exists_parse?_text negative m
      refine ⟨_, hread, trivial, ?_⟩
      rw [← normal_of_parse? hread]
      exact normal_text_finite negative m

/-- Beyond `2 ^ 43` millimeters the next length is two thousandths away. -/
theorem text_of_read_back_beyond_places :
    ∃ mm read, parse? "8796093022208.001" = some mm ∧ mm.IsFinite ∧ parse? (text mm) = some read
      ∧ read.IsFinite
      ∧ text read = "8796093022208.002" := by
  have hcoarse : ∃ mm, parse? "8796093022208.001" = some mm ∧ mm.IsFinite
      ∧ text mm = "8796093022208.002" :=
    ⟨(parse? "8796093022208.001").getD .nan, by decide +kernel⟩
  obtain ⟨mm, hmm, hfinite, hshown⟩ := hcoarse
  obtain ⟨read, hread, hreadFinite, htext⟩ := text_of_read_back hfinite
  refine ⟨mm, read, hmm, hfinite, hread, hreadFinite, ?_⟩
  rw [htext, hshown]
  decide

end Length.Millimeter

end PanelKeys
