import Mathlib.Tactic.Common
import PanelKeys.Number.Decimal

/-!
# Fixed places, written and read back

A double that is written with a fixed number of places is rounded, and the text is rounded again
when it is read as the nearest double.  The double that is read is written with the same places in
turn, and what is written then are the digits of the text, whatever the number of places.  There are
two reasons for it, and which of them applies depends on whether doubles are closer together there
than the digits can tell apart.

* `halfEven_eq_of_near` — a whole number less than half a unit away is the rounding;
* `Magnitude.fixedDigits` — the digits that are written;
* `fixedDigits_of_fine` — where doubles are closer together, the double that is read is less than
  half a digit away from the digits;
* `pow_scaleOf_dvd_units`, `significandOf_fixedDigits` — where they are farther apart, no other
  double is as close to the digits of a double as it is itself, so it is read back;
* **`exists_ofRatio?_fixedDigits`** — the digits that are read are written again.
-/

namespace PanelKeys.Number

-- Powers are those of natural numbers, also where monoids are known.
attribute [local instance (high)] instPowNat

/-- **A whole number less than half a unit away from a quotient is its rounding.** -/
theorem halfEven_eq_of_near {num den m : Nat} (hlow : 2 * (den * m) < 2 * num + den)
    (hhigh : 2 * num < 2 * (den * m) + den) : halfEven num den = m := by
  have hden : 0 < den := by
    by_contra hzero
    obtain rfl : den = 0 := by omega
    omega
  obtain ⟨hlow', hhigh'⟩ := @halfEven_near num den hden
  -- two roundings of one quotient are less than a unit apart
  have hle : halfEven num den ≤ m := by
    have hlt : den * halfEven num den < den * (m + 1) := by rw [Nat.mul_succ]; omega
    exact Nat.le_of_lt_succ (Nat.lt_of_mul_lt_mul_left hlt)
  have hge : m ≤ halfEven num den := by
    have hlt : den * m < den * (halfEven num den + 1) := by rw [Nat.mul_succ]; omega
    exact Nat.le_of_lt_succ (Nat.lt_of_mul_lt_mul_left hlt)
  exact Nat.le_antisymm hle hge

@[simp] lemma halfEven_zero (den : Nat) : halfEven 0 den = 0 := by simp [halfEven]

namespace Magnitude

/-- The digits of a magnitude that is written with this number of places. -/
def fixedDigits (places : Nat) (m : Magnitude) : Nat :=
  halfEven (m.units * 10 ^ places) (2 ^ unitPlaces)

lemma fixedDigits_of_units_eq_zero (places : Nat) {m : Magnitude} (h : m.units = 0) :
    m.fixedDigits places = 0 := by
  rw [fixedDigits, h, Nat.zero_mul, halfEven_zero]

/-- The quotient that is read, if it is in range. -/
lemma exists_ofRatio? {num den : Nat}
    (h : significandOf num den * 2 ^ scaleOf num den < overflowUnits) :
    ∃ m, ofRatio? num den = some m ∧ m.units = significandOf num den * 2 ^ scaleOf num den := by
  rw [ofRatio?, dif_pos h]
  exact ⟨_, rfl, rfl⟩

lemma units_of_ofRatio?_zero {den : Nat} {m : Magnitude} (h : ofRatio? 0 den = some m) :
    m.units = 0 := by
  have hsignificand : significandOf 0 den = 0 := by rw [significandOf, Nat.zero_mul, halfEven_zero]
  have hrange : significandOf 0 den * 2 ^ scaleOf 0 den < overflowUnits := by
    rw [hsignificand, Nat.zero_mul]
    exact overflowUnits_pos
  obtain ⟨m', hread, hunits⟩ := exists_ofRatio? hrange
  rw [hread, Option.some.injEq] at h
  rw [← h, hunits, hsignificand, Nat.zero_mul]

/-! ## Where doubles are closer together than digits -/

/-- A quotient that is rounded at a place not above one is in range. -/
lemma significandOf_mul_lt {num den : Nat} (h : scaleOf num den ≤ unitPlaces) :
    significandOf num den * 2 ^ scaleOf num den < overflowUnits := by
  have hscale : 2 ^ scaleOf num den ≤ 2 ^ unitPlaces := Nat.pow_le_pow_right (by decide) h
  have hprod := Nat.mul_le_mul (significandOf_le num den) hscale
  rw [← Nat.pow_add] at hprod
  exact Nat.lt_of_le_of_lt hprod (Nat.pow_lt_pow_right (by decide) (by decide))

/-- The double that is read from digits is written with the same digits, if a unit of its last place
is not more than one of theirs. -/
lemma fixedDigits_of_fine {digits places : Nat} {m : Magnitude}
    (hm : m.units = significandOf digits (10 ^ places) * 2 ^ scaleOf digits (10 ^ places))
    (hfine : 10 ^ places * 2 ^ scaleOf digits (10 ^ places) ≤ 2 ^ unitPlaces) :
    m.fixedDigits places = digits := by
  have hunits : m.units * 10 ^ places
      = 10 ^ places * 2 ^ scaleOf digits (10 ^ places) * significandOf digits (10 ^ places) := by
    rw [hm, Nat.mul_comm, Nat.mul_assoc, Nat.mul_comm (significandOf digits (10 ^ places))]
  have hgap : 0 < 10 ^ places * 2 ^ scaleOf digits (10 ^ places) :=
    Nat.mul_pos (Nat.pow_pos (by decide)) (Nat.pow_pos (by decide))
  have hunit : 0 < 2 ^ unitPlaces := Nat.two_pow_pos unitPlaces
  rw [fixedDigits, hunits, significandOf]
  generalize 10 ^ places * 2 ^ scaleOf digits (10 ^ places) = gap at hfine hgap ⊢
  generalize 2 ^ unitPlaces = unit at hfine hunit ⊢
  rcases Nat.lt_or_eq_of_le hfine with hlt | rfl
  · obtain ⟨hlow, hhigh⟩ := @halfEven_near (digits * unit) gap hgap
    rw [Nat.mul_comm digits] at hlow hhigh ⊢
    exact halfEven_eq_of_near (by omega) (by omega)
  · rw [halfEven_mul hgap, Nat.mul_comm, halfEven_mul hgap]

/-! ## Where doubles are farther apart than digits -/

/-- A double from the 53rd place on is a whole multiple of its last place. -/
lemma pow_dvd_units {m : Magnitude} {k : Nat} (h : 2 ^ (k + 52) ≤ m.units) : 2 ^ k ∣ m.units := by
  have hpos : m.units ≠ 0 := Nat.ne_of_gt (Nat.lt_of_lt_of_le (Nat.two_pow_pos _) h)
  have hlog : k + 52 ≤ m.units.log2 := (Nat.le_log2 hpos).2 h
  refine Nat.dvd_trans (Nat.pow_dvd_pow 2 ?_) m.isDouble.2
  simp only [significantBits]
  omega

/-- Digits whose double is rounded at a place above one come from a magnitude that is not much less
than the power of two at which such doubles begin. -/
lemma pow_lt_units_add {m : Magnitude} {places r : Nat}
    (hscale : scaleOf (m.fixedDigits places) (10 ^ places) = r + 1)
    (hcoarse : 2 ^ unitPlaces < 10 ^ places * 2 ^ (r + 1)) : 2 ^ (r + 53) < m.units + 2 ^ r := by
  have hpos : 0 < 10 ^ places := Nat.pow_pos (by decide)
  have hlog : (m.fixedDigits places * 2 ^ unitPlaces / 10 ^ places).log2 = r + 53 := by
    simp only [scaleOf, significantBits] at hscale
    omega
  have hquotient : 2 ^ (r + 53) ≤ m.fixedDigits places * 2 ^ unitPlaces / 10 ^ places := by
    rw [← hlog]
    refine Nat.log2_self_le fun hzero => ?_
    rw [hzero] at hlog
    simp at hlog
  rw [Nat.le_div_iff_mul_le hpos] at hquotient
  have hnear : 2 * (2 ^ unitPlaces * m.fixedDigits places)
      ≤ 2 * (m.units * 10 ^ places) + 2 ^ unitPlaces :=
    (halfEven_near (Nat.two_pow_pos unitPlaces)).1
  -- the digits lie beyond the power of two, and rounding to them has added less than half a place
  have hprod : 2 * 2 ^ (r + 53) * 10 ^ places < (2 * m.units + 2 ^ (r + 1)) * 10 ^ places := by
    rw [Nat.add_mul, Nat.mul_assoc, Nat.mul_assoc 2 m.units, Nat.mul_comm (2 ^ (r + 1))]
    rw [Nat.mul_comm (m.fixedDigits places)] at hquotient
    generalize 2 ^ unitPlaces = unit at *
    omega
  have hdouble : 2 ^ (r + 1) = 2 * 2 ^ r := Nat.pow_succ'
  have hsum := Nat.lt_of_mul_lt_mul_right hprod
  omega

/-- **Where doubles are farther apart than digits, a magnitude is a whole multiple of the last place
of the double that is read from its digits**: rounding to digits cannot have crossed the power of
two at which doubles become rarer, since the last double below it is a whole place away. -/
lemma pow_scaleOf_dvd_units {m : Magnitude} {places : Nat}
    (hcoarse : 2 ^ unitPlaces < 10 ^ places * 2 ^ scaleOf (m.fixedDigits places) (10 ^ places)) :
    2 ^ scaleOf (m.fixedDigits places) (10 ^ places) ∣ m.units := by
  cases hscale : scaleOf (m.fixedDigits places) (10 ^ places) with
  | zero => exact Nat.one_dvd _
  | succ r =>
      rw [hscale] at hcoarse
      have hnear := pow_lt_units_add hscale hcoarse
      have hlarge : 2 ^ (r + 52) ≤ m.units := by
        have hstep : 2 ^ (r + 53) = 2 * 2 ^ (r + 52) := Nat.pow_succ'
        have hle : 2 ^ r ≤ 2 ^ (r + 52) := Nat.pow_le_pow_right (by decide) (Nat.le_add_right r 52)
        omega
      obtain ⟨k, hk⟩ := pow_dvd_units hlarge
      have hmany : 2 ^ 53 ≤ k := by
        rw [hk, Nat.pow_add, ← Nat.mul_succ] at hnear
        exact Nat.le_of_lt_succ (Nat.lt_of_mul_lt_mul_left hnear)
      refine pow_dvd_units ?_
      rw [hk, Nat.add_assoc, Nat.pow_add]
      exact Nat.mul_le_mul_left _ hmany

/-- A magnitude that is such a multiple is read back itself. -/
lemma significandOf_fixedDigits {m : Magnitude} {places : Nat}
    (hcoarse : 2 ^ unitPlaces < 10 ^ places * 2 ^ scaleOf (m.fixedDigits places) (10 ^ places)) :
    significandOf (m.fixedDigits places) (10 ^ places)
      * 2 ^ scaleOf (m.fixedDigits places) (10 ^ places)
      = m.units := by
  obtain ⟨k, hk⟩ := pow_scaleOf_dvd_units hcoarse
  obtain ⟨hlow, hhigh⟩ := @halfEven_near (m.units * 10 ^ places) _ (Nat.two_pow_pos unitPlaces)
  have hunits : m.units * 10 ^ places
      = 10 ^ places * 2 ^ scaleOf (m.fixedDigits places) (10 ^ places) * k := by
    rw [Nat.mul_comm, Nat.mul_assoc, ← hk]
  have hsignificand : significandOf (m.fixedDigits places) (10 ^ places) = k := by
    rw [← fixedDigits, hunits] at hlow hhigh
    rw [significandOf, Nat.mul_comm (m.fixedDigits places)]
    generalize 2 ^ unitPlaces = unit at *
    exact halfEven_eq_of_near (by omega) (by omega)
  rw [hsignificand, Nat.mul_comm, ← hk]

/-! ## Written, read and written -/

/-- **The digits that are read are written again.** -/
theorem exists_ofRatio?_fixedDigits (m : Magnitude) (places : Nat) :
    ∃ m', ofRatio? (m.fixedDigits places) (10 ^ places) = some m'
      ∧ m'.fixedDigits places = m.fixedDigits places := by
  rcases Nat.lt_or_ge (2 ^ unitPlaces)
      (10 ^ places * 2 ^ scaleOf (m.fixedDigits places) (10 ^ places))
    with hcoarse | hfine
  · have hsame := significandOf_fixedDigits hcoarse
    obtain ⟨m', hread, hunits⟩ := exists_ofRatio? (by rw [hsame]; exact m.isDouble.1)
    refine ⟨m', hread, ?_⟩
    rw [ext_units (hunits.trans hsame)]
  · have hscale : scaleOf (m.fixedDigits places) (10 ^ places) ≤ unitPlaces := by
      have hpow : 2 ^ scaleOf (m.fixedDigits places) (10 ^ places) ≤ 2 ^ unitPlaces :=
        Nat.le_trans (Nat.le_mul_of_pos_left _ (Nat.pow_pos (by decide))) hfine
      exact (Nat.pow_le_pow_iff_right (by decide)).1 hpow
    obtain ⟨m', hread, hunits⟩ := exists_ofRatio? (significandOf_mul_lt hscale)
    exact ⟨m', hread, fixedDigits_of_fine hunits hfine⟩

end Magnitude

lemma Double.ofRatio_of_some {negative : Bool} {num den : Nat} {m : Magnitude}
    (h : Magnitude.ofRatio? num den = some m) :
    Double.ofRatio negative num den = .finite negative m := by
  -- unfolded before it is applied: a check of the applied form would evaluate the range
  conv_lhs => fun; fun; fun; delta Double.ofRatio
  rw [h]

end PanelKeys.Number
