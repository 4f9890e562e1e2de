/-!
# Rounding a quotient to a whole number

Lengths are rounded three times on their way to the screen: a decimal to the nearest double, a
double to three places, a count of inch fractions to a whole one.  Each is a quotient of natural
numbers rounded to nearest, and they differ only in where a half goes.

* `halfEven` — a half goes to the even neighbour;
* `halfUp` — a half goes to the larger neighbour.

`halfEven_near` and `halfUp_near` say that the result is within half a unit of the quotient.
-/

namespace PanelKeys.Number

/-- Rounds `num / den` to nearest, a half to the even neighbour. -/
def halfEven (num den : Nat) : Nat :=
  let whole := num / den
  let twice := 2 * (num % den)
  if twice < den then whole
  else if den < twice then whole + 1
  else if whole % 2 = 0 then whole
  else whole + 1

/-- Rounds `num / den` to nearest, a half to the larger neighbour. -/
def halfUp (num den : Nat) : Nat := (2 * num + den) / (2 * den)

theorem halfEven_le (num den : Nat) : halfEven num den ≤ num / den + 1 := by
  simp only [halfEven]
  repeat' split
  all_goals omega

theorem le_halfEven (num den : Nat) : num / den ≤ halfEven num den := by
  simp only [halfEven]
  repeat' split
  all_goals omega

/-- The rounded value is within half a unit of the quotient. -/
theorem halfEven_near {num den : Nat} (h : 0 < den) :
    2 * (den * halfEven num den) ≤ 2 * num + den
      ∧ 2 * num ≤ 2 * (den * halfEven num den) + den := by
  have hdiv := Nat.div_add_mod num den
  have hmod := Nat.mod_lt num h
  have hsucc : den * (num / den + 1) = den * (num / den) + den := Nat.mul_succ _ _
  simp only [halfEven]
  repeat' split
  all_goals (try rw [hsucc]); omega

/-- A quotient without remainder is its own rounding. -/
theorem halfEven_mul {m den : Nat} (h : 0 < den) : halfEven (m * den) den = m := by
  simp [halfEven, Nat.mul_div_cancel _ h, h]

theorem halfUp_near {num den : Nat} (h : 0 < den) :
    2 * (den * halfUp num den) ≤ 2 * num + den
      ∧ 2 * num < 2 * (den * halfUp num den) + den := by
  have hpos : 0 < 2 * den := by omega
  have hdiv := Nat.div_add_mod (2 * num + den) (2 * den)
  have hmod := Nat.mod_lt (2 * num + den) hpos
  have hassoc : 2 * den * ((2 * num + den) / (2 * den)) = 2 * (den * halfUp num den) := by
    rw [halfUp, Nat.mul_assoc]
  omega

example : halfEven 5 2 = 2 ∧ halfEven 7 2 = 4 ∧ halfUp 5 2 = 3 ∧ halfUp 7 2 = 4 := by decide

end PanelKeys.Number
