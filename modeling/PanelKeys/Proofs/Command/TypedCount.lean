import PanelKeys.Command.Basic
import PanelKeys.Proofs.Number.Count

/-!
# Typed counts

A count may be typed as long as one likes, and it is 64 bits wide.  A count that started over at
zero would be the worst of answers: zero stands for all rows or all nodes, so that a slip on the
keyboard would copy the whole table or hide the whole scene.

The count is the number that is typed, held at the largest count (`countOfDigits_eq_min`).  Hence it
is zero only if nothing but zeros have been typed, and **`typed_count_is_capped`** puts together
what this means for the commands that are picked by a count.
-/

namespace PanelKeys

open PanelKeys.Number

namespace Command

lemma yankRowOrTable_eq_yankTable_iff {index : Nat} :
    yankRowOrTable index = .yankTable ↔ index = 0 := by
  by_cases h : index = 0 <;> simp [yankRowOrTable, h]

lemma toggleNodeOrAll_eq_all_iff {index : Nat} :
    toggleNodeOrAll index = .toggleVisibility .all ↔ index = 0 := by
  by_cases h : index = 0 <;> simp [toggleNodeOrAll, h]

/-- A count is zero only if the number is: the largest count is not zero. -/
lemma countOfDigits_eq_zero_iff {cs : List Char} (h : ∀ c ∈ cs, c.isDigit = true) :
    countOfDigits cs = 0 ↔ ∀ c ∈ cs, c = '0' := by
  have hmax : maxCount ≠ 0 := by decide
  rw [countOfDigits_eq_min h, Nat.min_eq_zero_iff, or_iff_left hmax, decimalValue_eq_zero_iff h]

/-- **A typed count is the number that its digits spell, or the largest number of 64 bits** if they
spell a larger one, however many digits there are.  So it stands for the whole table, or for all
nodes, exactly if every digit is a zero; and it does not become smaller when another digit is
typed. -/
theorem typed_count_is_capped {cs : List Char} (h : ∀ c ∈ cs, c.isDigit = true) :
    countOfDigits cs = min (decimalValue cs) (UInt64.size - 1)
      ∧ (countOfDigits cs = 0 ↔ ∀ c ∈ cs, c = '0')
      ∧ (yankRowOrTable (countOfDigits cs) = .yankTable ↔ ∀ c ∈ cs, c = '0')
      ∧ (toggleNodeOrAll (countOfDigits cs) = .toggleVisibility .all ↔ ∀ c ∈ cs, c = '0')
      ∧ ∀ d : Char, d.isDigit = true → countOfDigits cs ≤ countOfDigits (cs ++ [d]) := by
  have hzero := countOfDigits_eq_zero_iff h
  refine ⟨countOfDigits_eq_min h, hzero, yankRowOrTable_eq_yankTable_iff.trans hzero,
    toggleNodeOrAll_eq_all_iff.trans hzero, fun d hd => ?_⟩
  have hmore : ∀ c ∈ cs ++ [d], c.isDigit = true := by
    intro c hc
    rcases List.mem_append.1 hc with hold | hnew
    · exact h c hold
    · rwa [List.mem_singleton.1 hnew]
  rw [countOfDigits_eq_min h, countOfDigits_eq_min hmore]
  exact min_le_min_right maxCount (decimalValue_le_concat cs d)

/-- Two zeros before the first number that is too large by one, and another digit after it. -/
theorem typed_count_is_capped_at_first_overflow :
    let cs := "0018446744073709551616".toList
    (∀ c ∈ cs, c.isDigit = true)
      ∧ countOfDigits cs = UInt64.size - 1
      ∧ yankRowOrTable (countOfDigits cs) ≠ .yankTable
      ∧ toggleNodeOrAll (countOfDigits cs) ≠ .toggleVisibility .all
      ∧ countOfDigits cs ≤ countOfDigits (cs ++ ['0']) := by
  intro cs
  have hdigits : ∀ c ∈ cs, c.isDigit = true := List.all_eq_true.1 (by decide +kernel)
  have hnotZero : ¬ ∀ c ∈ cs, c = '0' :=
    fun hzeros => absurd (hzeros '1' (by decide +kernel)) (by decide)
  obtain ⟨hvalue, -, htable, hall, hmore⟩ := typed_count_is_capped hdigits
  refine ⟨hdigits, ?_, mt htable.1 hnotZero, mt hall.1 hnotZero, hmore '0' rfl⟩
  rw [hvalue]
  decide +kernel

end Command

end PanelKeys
