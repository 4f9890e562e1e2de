import Mathlib.Tactic.Common
import PanelKeys.Text.Blank

/-!
# Texts that need no trimming

Trimming leaves a text alone if it neither begins nor ends with a blank.

* `NoLeadingBlank` — a text does not begin with a blank; it passes to texts put together of such
  texts;
* `trimChars_eq_self` — with nothing to take away at either end, nothing is taken away;
* `noLeadingBlank_trimChars`, `noLeadingBlank_reverse_trimChars` — what has been trimmed neither
  begins nor ends with a blank.
-/

namespace PanelKeys.Text

/-- The first character, if there is one, is not blank. -/
def NoLeadingBlank (cs : List Char) : Prop := ∀ c, cs.head? = some c → isBlank c = false

lemma noLeadingBlank_nil : NoLeadingBlank [] := by simp [NoLeadingBlank]

lemma noLeadingBlank_cons {c : Char} (h : isBlank c = false) (cs : List Char) :
    NoLeadingBlank (c :: cs) := by
  intro d hd
  rw [List.head?_cons, Option.some.injEq] at hd
  rw [← hd, h]

lemma NoLeadingBlank.append {cs ds : List Char} (hc : NoLeadingBlank cs) (hd : NoLeadingBlank ds) :
    NoLeadingBlank (cs ++ ds) := by
  cases cs with
  | nil => exact hd
  | cons c rest => exact noLeadingBlank_cons (hc c rfl) (rest ++ ds)

lemma NoLeadingBlank.append_of_ne_nil {cs : List Char} (h : NoLeadingBlank cs) (hne : cs ≠ [])
    (ds : List Char) :
    NoLeadingBlank (cs ++ ds) := by
  obtain ⟨c, rest, rfl⟩ := List.exists_cons_of_ne_nil hne
  exact noLeadingBlank_cons (h c rfl) (rest ++ ds)

lemma NoLeadingBlank.of_append {cs ds : List Char} (h : NoLeadingBlank (cs ++ ds)) :
    NoLeadingBlank cs := by
  cases cs with
  | nil => exact noLeadingBlank_nil
  | cons c rest => exact noLeadingBlank_cons (h c rfl) rest

lemma isBlank_of_isDigit {c : Char} (h : c.isDigit = true) : isBlank c = false := by
  simp only [Char.isDigit, Bool.and_eq_true, decide_eq_true_eq, ge_iff_le,
    UInt32.le_iff_toNat_le] at h
  obtain ⟨hlow, hhigh⟩ := h
  have h48 : 48 ≤ c.toNat := hlow
  have h57 : c.toNat ≤ 57 := hhigh
  simp only [isBlank, Bool.or_eq_false_iff, Bool.and_eq_false_iff, decide_eq_false_iff_not,
    beq_eq_false_iff_ne]
  omega

/-- A number begins with a digit, whatever follows it. -/
lemma noLeadingBlank_toDigits_append (n : Nat) (cs : List Char) :
    NoLeadingBlank (Nat.toDigits 10 n ++ cs) := by
  cases hn : Nat.toDigits 10 n with
  | nil => exact absurd hn Nat.toDigits_ne_nil
  | cons c rest =>
      have hmem : c ∈ Nat.toDigits 10 n := by simp [hn]
      have hdigit : c.isDigit = true := Nat.isDigit_of_mem_toDigits (by decide) (by decide) hmem
      exact noLeadingBlank_cons (isBlank_of_isDigit hdigit) (rest ++ cs)

lemma dropBlanks_eq_self {cs : List Char} (h : NoLeadingBlank cs) : dropBlanks cs = cs := by
  cases cs with
  | nil => rfl
  | cons c rest => simp [dropBlanks, h c rfl]

lemma trimChars_eq_self {cs : List Char} (hhead : NoLeadingBlank cs)
    (hlast : NoLeadingBlank cs.reverse) : trimChars cs = cs := by
  rw [trimChars, dropBlanks_eq_self hhead, dropBlanks_eq_self hlast, List.reverse_reverse]

lemma noLeadingBlank_dropBlanks (cs : List Char) : NoLeadingBlank (dropBlanks cs) := by
  intro c hc
  have hhead := List.head?_dropWhile_not isBlank cs
  rw [← dropBlanks, hc] at hhead
  exact hhead

lemma mem_of_mem_trimChars {cs : List Char} {c : Char} (h : c ∈ trimChars cs) : c ∈ cs := by
  rw [trimChars, List.mem_reverse] at h
  have hleft := (List.dropWhile_sublist _).subset h
  rw [List.mem_reverse] at hleft
  exact (List.dropWhile_sublist _).subset hleft

/-- What has been trimmed begins with what was trimmed but for the blanks at its end. -/
lemma noLeadingBlank_trimChars (cs : List Char) : NoLeadingBlank (trimChars cs) := by
  obtain ⟨tail, htail⟩ : trimChars cs <+: dropBlanks cs := by
    have hsuffix := List.dropWhile_suffix (l := (dropBlanks cs).reverse) isBlank
    have hprefix := List.reverse_prefix.2 hsuffix
    rwa [List.reverse_reverse] at hprefix
  have hdropped := noLeadingBlank_dropBlanks cs
  rw [← htail] at hdropped
  exact hdropped.of_append

lemma noLeadingBlank_reverse_trimChars (cs : List Char) :
    NoLeadingBlank (trimChars cs).reverse := by
  rw [trimChars, List.reverse_reverse]
  exact noLeadingBlank_dropBlanks _

/-- What has been trimmed does not end with a blank. -/
lemma isBlank_of_trimChars_eq_concat {cs before : List Char} {c : Char}
    (h : trimChars cs = before ++ [c]) : isBlank c = false := by
  have hlast := noLeadingBlank_reverse_trimChars cs
  rw [h, List.reverse_append] at hlast
  exact hlast c rfl

end PanelKeys.Text
