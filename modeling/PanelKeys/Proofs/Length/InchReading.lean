import PanelKeys.Proofs.Length.Decomposition
import PanelKeys.Proofs.Length.MillimeterText

/-!
# Inch texts read back

A text in inches leaves out the parts that are zero: the sign, the feet, the whole inches or the
fraction.  What is left still tells which parts it shows, since each part ends with a character of
its own: feet with the foot mark, a numerator with the slash, whole inches with a blank or the inch
mark.  So **the parts can be read off the text**, whatever the precision and whether or not feet are
wanted.

Parts that show no fraction do not show its denominator either; it can be told only because a
fraction of nothing is always `0 / 1`.

* `InchParts.read?` — the parts that a text shows: sign, feet, and then one of three forms of a
  length;
* `InchParts.readNat_toDigits` — where a number ends;
* **`InchParts.read?_text`** — parts in lowest terms are read from their text;
* **`InchParts.text_inj`** — so different parts have different texts;
* `InchParts.denominator_ofMillimeters` — and the parts of every length are of this kind.
-/

namespace PanelKeys.Length

open PanelKeys.Number

namespace InchParts

/-! ## Reading -/

/-- A number at the front of a text, and what follows it. -/
def readNat (cs : List Char) : Nat × List Char :=
  (Nat.ofDigitChars 10 (cs.takeWhile Char.isDigit) 0, cs.dropWhile Char.isDigit)

/-- Feet at the front of a text, if there are any, and what follows them. -/
def readFeet (cs : List Char) : Nat × List Char :=
  match readNat cs with
  | (feet, '\x27' :: ' ' :: rest) => (feet, rest)
  | _ => (0, cs)

/-- Numerator and denominator, with the inch mark at the end. -/
def readFraction? (cs : List Char) : Option (Nat × Nat) :=
  match readNat cs with
  | (numerator, '/' :: rest) =>
      match readNat rest with
      | (denominator, ['"']) => some (numerator, denominator)
      | _ => none
  | _ => none

/-- Whole inches, numerator and denominator: a number alone, a number and a fraction, or a fraction
alone. -/
def readLength? (cs : List Char) : Option (Nat × Nat × Nat) :=
  match readNat cs with
  | (inches, ['"']) => some (inches, 0, 1)
  | (inches, ' ' :: rest) => (readFraction? rest).map (inches, ·)
  | _ => (readFraction? cs).map (0, ·)

/-- The parts that a text shows. -/
def read? (s : String) : Option InchParts :=
  let (negative, body) := Millimeter.splitSign s.toList
  let (feet, rest) := readFeet body
  (readLength? rest).map fun (inches, numerator, denominator) =>
    { negative, feet, inches, numerator, denominator }

/-! ## Part by part -/

/-- A number ends where the digits end. -/
lemma readNat_toDigits (n : Nat) {c : Char} (hc : c.isDigit = false) (rest : List Char) :
    readNat (Nat.toDigits 10 n ++ c :: rest) = (n, c :: rest) := by
  have hdigits : ∀ d ∈ Nat.toDigits 10 n, d.isDigit = true := fun d => isDigit_of_mem_toDigits
  rw [readNat, List.takeWhile_append_of_pos hdigits, List.dropWhile_append_of_pos hdigits,
    List.takeWhile_cons_of_neg (by simp [hc]), List.dropWhile_cons_of_neg (by simp [hc]),
    List.append_nil, Nat.ofDigitChars_ten_toDigits]

lemma readFraction?_fractionChars (p : InchParts) :
    readFraction? (p.fractionChars ++ ['"']) = some (p.numerator, p.denominator) := by
  rw [fractionChars, List.append_assoc, List.cons_append, readFraction?,
    readNat_toDigits p.numerator (by decide)]
  simp only [readNat_toDigits p.denominator (c := '"') (by decide)]

/-- A length begins with a number, and what follows the number is not the foot mark. -/
lemma exists_toDigits_lengthChars (p : InchParts) :
    ∃ n c rest, p.lengthChars ++ ['"'] = Nat.toDigits 10 n ++ c :: rest ∧ c.isDigit = false
      ∧ c ≠ '\x27' := by
  simp only [lengthChars, fractionChars]
  split
  · exact ⟨p.inches, '"', [], rfl, by decide⟩
  · split
    · exact ⟨p.numerator, '/', _, List.append_assoc _ _ _, by decide⟩
    · exact ⟨p.inches, ' ', _, List.append_assoc _ _ _, by decide⟩

lemma readFeet_of_ne_footMark {cs rest : List Char} {n : Nat} {c : Char}
    (hread : readNat cs = (n, c :: rest)) (hc : c ≠ '\x27') : readFeet cs = (0, cs) := by
  rw [readFeet, hread]
  split
  · next heq => exact absurd (List.cons.inj (Prod.mk.inj heq).2).1 hc
  · rfl

lemma readFeet_feetChars (p : InchParts) :
    readFeet (p.feetChars ++ (p.lengthChars ++ ['"'])) = (p.feet, p.lengthChars ++ ['"']) := by
  rw [feetChars]
  split
  · next hzero =>
      obtain ⟨n, c, rest, hbody, hdigit, hmark⟩ := p.exists_toDigits_lengthChars
      rw [List.nil_append, hzero, hbody]
      exact readFeet_of_ne_footMark (readNat_toDigits n hdigit rest) hmark
  · rw [List.append_assoc, List.cons_append, readFeet, readNat_toDigits p.feet (by decide)]
    rfl

lemma readLength?_lengthChars {p : InchParts} (h : p.numerator = 0 → p.denominator = 1) :
    readLength? (p.lengthChars ++ ['"']) = some (p.inches, p.numerator, p.denominator) := by
  rw [lengthChars]
  split
  · next hnone =>
      simp only [readLength?, readNat_toDigits p.inches (c := '"') (by decide), hnone, h hnone]
  · split
    · next hzero =>
        have hnumber : readNat (p.fractionChars ++ ['"'])
            = (p.numerator, '/' :: (Nat.toDigits 10 p.denominator ++ ['"'])) := by
          rw [fractionChars, List.append_assoc]
          exact readNat_toDigits p.numerator (by decide) _
        rw [readLength?, hnumber, readFraction?_fractionChars, hzero]
        rfl
    · simp only [readLength?, List.append_assoc, List.cons_append,
        readNat_toDigits p.inches (c := ' ') (by decide),
        readFraction?_fractionChars, Option.map_some]

/-- Behind the sign there is always a number. -/
lemma exists_toDigits (p : InchParts) :
    ∃ n rest, p.feetChars ++ (p.lengthChars ++ ['"']) = Nat.toDigits 10 n ++ rest := by
  rw [feetChars]
  split
  · obtain ⟨n, c, rest, hbody, -⟩ := p.exists_toDigits_lengthChars
    exact ⟨n, c :: rest, hbody⟩
  · exact ⟨p.feet, _, List.append_assoc _ _ _⟩

/-! ## The whole text -/

/-- **Parts are read from their text**, if a fraction of nothing is `0 / 1` among them. -/
theorem read?_text {p : InchParts} (h : p.numerator = 0 → p.denominator = 1) :
    read? p.text = some p := by
  have hsign : Millimeter.splitSign p.text.toList
      = (p.negative, p.feetChars ++ (p.lengthChars ++ ['"'])) := by
    obtain ⟨n, rest, hbody⟩ := p.exists_toDigits
    rw [text, String.toList_ofList, chars, List.append_assoc, List.append_assoc, hbody]
    exact Millimeter.splitSign_signText p.negative n rest
  simp only [read?, hsign, readFeet_feetChars, readLength?_lengthChars h, Option.map_some]

/-- **Different parts have different texts**, with the same proviso. -/
lemma text_inj {p q : InchParts} (hp : p.numerator = 0 → p.denominator = 1)
    (hq : q.numerator = 0 → q.denominator = 1) (h : p.text = q.text) : p = q := by
  have hread : some p = some q := by rw [← read?_text hp, ← read?_text hq, h]
  exact Option.some.inj hread

/-- The fraction of a length is in lowest terms. -/
lemma denominator_ofMillimeters {mm : Double} {precision : Precision} {feet : Bool}
    (h : (ofMillimeters mm precision feet).numerator = 0) :
    (ofMillimeters mm precision feet).denominator = 1 :=
  (takesApart_ofMillimeters mm precision feet).denominator_eq_one h

example : read? "-2\x27 7/8\"" = some ⟨true, 2, 0, 7, 8⟩ := by decide

end InchParts

end PanelKeys.Length
