import Mathlib.Data.List.Induction
import Mathlib.Data.Nat.Digits.Defs
import PanelKeys.Number.Count

/-!
# Counts and the numbers they spell

A count is read digit by digit, and each step stops at the largest count twice, when it multiplies
and when it adds.  That makes no difference: the digits spell a number, and the count is that number
or the largest count.

* `decimalValue` — the number that digits spell, of any size;
* `pushDigit_min` — a step of the count is a step of the number;
* `countOfDigits_eq_min` — **the count is the number, held at the largest count**;
* `decimalValue_eq_zero_iff`, `decimalValue_le_concat` — only zeros spell nothing, and one more
  digit spells no less.
-/

namespace PanelKeys.Number

/-- The number that decimal digits spell, the first digit counting most. -/
def decimalValue (cs : List Char) : Nat := Nat.ofDigits 10 (cs.map digitValue).reverse

lemma decimalValue_concat (cs : List Char) (c : Char) :
    decimalValue (cs ++ [c]) = 10 * decimalValue cs + digitValue c := by
  simp [decimalValue, Nat.ofDigits_cons]
  omega

/-- A count that has stopped stays at the largest count, and one that is about to stop in either
operation stops there. -/
lemma pushDigit_min (n : Nat) (c : Char) :
    pushDigit (min n maxCount) c = min (10 * n + digitValue c) maxCount := by
  simp only [pushDigit, saturatingAdd, saturatingMul, maxCount]
  omega

lemma foldl_pushDigit (cs : List Char) : cs.foldl pushDigit 0 = min (decimalValue cs) maxCount := by
  induction cs using List.reverseRecOn with
  | nil => rfl
  | append_singleton cs c ih =>
      rw [List.foldl_append, ih, decimalValue_concat]
      exact pushDigit_min (decimalValue cs) c

theorem countOfDigits_eq_min {cs : List Char} (h : ∀ c ∈ cs, c.isDigit = true) :
    countOfDigits cs = min (decimalValue cs) maxCount := by
  rw [countOfDigits, List.filter_eq_self.2 h, foldl_pushDigit]

/-! ## Zeros, and one more digit -/

lemma digitValue_eq_zero_iff {c : Char} (h : c.isDigit = true) : digitValue c = 0 ↔ c = '0' := by
  have hzero : '0'.toNat ≤ c.toNat := (Char.isDigit_iff_toNat.1 h).1
  rw [digitValue, Nat.sub_eq_zero_iff_le]
  constructor
  · intro hle
    exact Char.toNat_inj.1 (Nat.le_antisymm hle hzero)
  · rintro rfl
    exact Nat.le_refl _

lemma decimalValue_eq_zero_iff {cs : List Char} (h : ∀ c ∈ cs, c.isDigit = true) :
    decimalValue cs = 0 ↔ ∀ c ∈ cs, c = '0' := by
  induction cs using List.reverseRecOn with
  | nil => simp [decimalValue]
  | append_singleton cs d ih =>
      have hd : d.isDigit = true := h d (by simp)
      have hcs : ∀ c ∈ cs, c.isDigit = true := fun c hc => h c (List.mem_append_left [d] hc)
      rw [decimalValue_concat, Nat.add_eq_zero_iff, Nat.mul_eq_zero, ih hcs,
        digitValue_eq_zero_iff hd]
      simp [or_imp, forall_and]

lemma decimalValue_le_concat (cs : List Char) (d : Char) :
    decimalValue cs ≤ decimalValue (cs ++ [d]) := by
  rw [decimalValue_concat]
  omega

end PanelKeys.Number
