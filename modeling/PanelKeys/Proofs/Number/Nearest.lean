import Mathlib.Data.Nat.Dist
import PanelKeys.Proofs.Number.FixedPlaces

/-!
# The nearest double

A decimal is read as the double nearest to it.  This module says what that means without saying how
it is found, and then that it is what is found.

Doubles are whole multiples of a power of two that grows with them.  Near a quotient the power is
the one at which the quotient is rounded, and rounding to a whole number of it finds the nearest
multiple; the doubles that are no such multiples are all smaller than the power of two at which
doubles of this kind begin, and so is none of them as near.  Beyond the range the first power of two
that is no double counts as one, so that the last half place before it is already lost to infinity.

* `Magnitude.IsNearest` — no double is nearer, and where another is as near, this one ends with an
  even bit;
* `Overflows` — as near as any double is the first power of two beyond them;
* `Magnitude.isNearest_of_ofRatio?`, `Magnitude.ofRatio?_eq_none_iff` — what is found, and when;
* `Magnitude.IsNearest.unique` — there is only one nearest double;
* **`Double.ofRatio_eq_iff`** — a quotient becomes the double that is nearest to it, and no other.
-/

namespace PanelKeys.Number

-- Powers are those of natural numbers, also where monoids are known.
attribute [local instance (high)] instPowNat

/-! ## Whole numbers -/

/-- Two whole numbers can not both be less than half a unit away from a quotient. -/
lemma le_dist_add_dist {j k : Nat} (h : j ≠ k) (num den : Nat) :
    den ≤ Nat.dist (den * j) num + Nat.dist (den * k) num := by
  have hapart : den * j + den ≤ den * k ∨ den * k + den ≤ den * j := by
    rcases Nat.lt_or_gt_of_ne h with hlt | hgt
    · exact Or.inl (Nat.mul_le_mul_left den hlt)
    · exact Or.inr (Nat.mul_le_mul_left den hgt)
  simp only [Nat.dist]
  omega

/-- Of two numbers the larger is not farther away from what lies behind the middle. -/
lemma dist_le_dist_iff {a b : Nat} (h : a < b) (n : Nat) :
    Nat.dist b n ≤ Nat.dist a n ↔ a + b ≤ 2 * n := by
  simp only [Nat.dist]
  omega

lemma two_mul_dist_halfEven_le {num den : Nat} (h : 0 < den) :
    2 * Nat.dist (den * halfEven num den) num ≤ den := by
  obtain ⟨hlow, hhigh⟩ := @halfEven_near num den h
  simp only [Nat.dist]
  omega

/-- Only an even number is half a unit away from what is rounded to it. -/
lemma halfEven_even_or_dist_lt {num den : Nat} (h : 0 < den) :
    halfEven num den % 2 = 0 ∨ 2 * Nat.dist (den * halfEven num den) num < den := by
  have hdiv := Nat.div_add_mod num den
  have hmod := Nat.mod_lt num h
  have hsucc : den * (num / den + 1) = den * (num / den) + den := Nat.mul_succ _ _
  simp only [halfEven, Nat.dist]
  repeat' split
  all_goals omega

/-- **No whole number is nearer** to a quotient than its rounding. -/
lemma dist_halfEven_le {num den : Nat} (h : 0 < den) (k : Nat) :
    Nat.dist (den * halfEven num den) num ≤ Nat.dist (den * k) num := by
  by_cases hk : k = halfEven num den
  · rw [hk]
  · have hfar := le_dist_add_dist hk num den
    have hnear := @two_mul_dist_halfEven_le num den h
    omega

/-- **Where another whole number is as near, the rounding is even.** -/
lemma halfEven_even_of_dist_eq {num den k : Nat} (h : 0 < den) (hk : k ≠ halfEven num den)
    (hdist : Nat.dist (den * k) num = Nat.dist (den * halfEven num den) num) :
    halfEven num den % 2 = 0 := by
  have hfar := le_dist_add_dist hk num den
  rcases @halfEven_even_or_dist_lt num den h with heven | hnear
  · exact heven
  · omega

/-- An even number is reached from half a unit before it on. -/
lemma le_halfEven_iff_of_even {num den k : Nat} (h : 0 < den) (hk : k % 2 = 0) :
    k ≤ halfEven num den ↔ 2 * (den * k) ≤ 2 * num + den := by
  obtain ⟨hlow, hhigh⟩ := @halfEven_near num den h
  constructor
  · intro hle
    have hmul := Nat.mul_le_mul_left den hle
    omega
  · intro hreach
    by_contra hlt
    have hstep : den * (halfEven num den + 1) ≤ den * k :=
      Nat.mul_le_mul_left den (Nat.lt_of_not_le hlt)
    rw [Nat.mul_succ] at hstep
    -- the number before would be half a unit away, and it is odd
    have hbefore : halfEven num den + 1 = k := by
      refine Nat.eq_of_mul_eq_mul_left h ?_
      rw [Nat.mul_succ]
      omega
    rcases @halfEven_even_or_dist_lt num den h with heven | hnear
    · omega
    · simp only [Nat.dist] at hnear
      omega

/-! ## Magnitudes -/

namespace Magnitude

/-- How far a magnitude is from a quotient, in units of which the denominator makes one. -/
def distance (m : Magnitude) (num den : Nat) : Nat :=
  Nat.dist (den * m.units) (num * 2 ^ unitPlaces)

/-- The place of the last significant bit. -/
def lastPlace (m : Magnitude) : Nat := m.units.log2 + 1 - significantBits

/-- The last significant bit is not set. -/
def EndsEven (m : Magnitude) : Prop := 2 ^ (m.lastPlace + 1) ∣ m.units

/-- No double is nearer to the quotient, and where another is as near, this one ends with an even
bit. -/
structure IsNearest (m : Magnitude) (num den : Nat) : Prop where
  le : ∀ other : Magnitude, m.distance num den ≤ other.distance num den
  even : ∀ other : Magnitude, other ≠ m → other.distance num den = m.distance num den → m.EndsEven

/-! ### The doubles around a quotient -/

/-- A double is a multiple of a power of two, or less than all doubles that have to be. -/
lemma pow_dvd_units_or_lt (m : Magnitude) (place : Nat) :
    2 ^ place ∣ m.units ∨ m.units < 2 ^ (place + 52) := by
  rcases Nat.lt_or_ge m.units (2 ^ (place + 52)) with hlt | hge
  · exact Or.inr hlt
  · exact Or.inl (pow_dvd_units hge)

/-- A quotient is rounded at a place above the units only if it has 53 bits from there on. -/
lemma pow_le_of_scaleOf_pos {num den : Nat} (hden : 0 < den) (h : 0 < scaleOf num den) :
    den * 2 ^ (scaleOf num den + 52) ≤ num * 2 ^ unitPlaces := by
  have hlog : (num * 2 ^ unitPlaces / den).log2 = scaleOf num den + 52 := by
    simp only [scaleOf, significantBits] at h ⊢
    omega
  have hquotient : 2 ^ (scaleOf num den + 52) ≤ num * 2 ^ unitPlaces / den := by
    rw [← hlog]
    refine Nat.log2_self_le fun hzero => ?_
    rw [hzero] at hlog
    simp at hlog
  rwa [Nat.le_div_iff_mul_le hden, Nat.mul_comm] at hquotient

/-- Distances are counted in whole places of the rounding. -/
lemma mul_units_eq {num den : Nat} {m : Magnitude}
    (hm : m.units = significandOf num den * 2 ^ scaleOf num den) :
    den * m.units = den * 2 ^ scaleOf num den * significandOf num den := by
  rw [hm, Nat.mul_comm (significandOf num den), Nat.mul_assoc]

/-- A double that is no multiple of the place at which a quotient is rounded is farther away than
the rounding. -/
lemma distance_lt_of_lt {num den : Nat} (hden : 0 < den) (h : 0 < scaleOf num den)
    {m other : Magnitude} (hm : m.units = significandOf num den * 2 ^ scaleOf num den)
    (hother : other.units < 2 ^ (scaleOf num den + 52)) :
    m.distance num den < other.distance num den := by
  have hbig := pow_le_of_scaleOf_pos hden h
  have hsmall : den * other.units < den * 2 ^ (scaleOf num den + 52) :=
    Nat.mul_lt_mul_of_pos_left hother hden
  have hgap : 0 < den * 2 ^ scaleOf num den := Nat.mul_pos hden (Nat.two_pow_pos _)
  -- the power of two between them is a multiple of the place itself
  have hnear := @dist_halfEven_le (num * 2 ^ unitPlaces) _ hgap (2 ^ 52)
  rw [← significandOf, ← mul_units_eq hm, Nat.mul_assoc, ← Nat.pow_add] at hnear
  simp only [distance, Nat.dist] at hnear ⊢
  omega

/-- An even significand leaves an even last bit, also where it is the power of two after the last
one. -/
lemma endsEven_of_significandOf {num den : Nat} {m : Magnitude}
    (hm : m.units = significandOf num den * 2 ^ scaleOf num den)
    (heven : significandOf num den % 2 = 0) :
    m.EndsEven := by
  rw [EndsEven, lastPlace]
  rcases Nat.lt_or_eq_of_le (significandOf_le num den) with hlt | heq
  · -- below that power the last place is the one at which the quotient was rounded
    obtain ⟨half, hhalf⟩ := Nat.dvd_of_mod_eq_zero heven
    have hdvd : 2 ^ (scaleOf num den + 1) ∣ m.units := by
      rw [hm, hhalf, Nat.pow_succ', Nat.mul_comm 2 half, Nat.mul_assoc]
      exact Nat.dvd_mul_left _ _
    have hlog : m.units.log2 < significantBits + scaleOf num den := by
      by_cases hzero : m.units = 0
      · rw [hzero]
        exact Nat.lt_of_lt_of_le (by decide) (Nat.le_add_right _ _)
      · rw [Nat.log2_lt hzero, hm, Nat.pow_add]
        exact Nat.mul_lt_mul_of_pos_right hlt (Nat.two_pow_pos _)
    exact Nat.dvd_trans (Nat.pow_dvd_pow 2 (by omega)) hdvd
  · rw [hm, heq, ← Nat.pow_add, Nat.log2_two_pow]
    refine Nat.pow_dvd_pow 2 ?_
    simp only [significantBits]
    omega

/-! ### Found -/

lemma units_of_ofRatio? {num den : Nat} {m : Magnitude} (h : ofRatio? num den = some m) :
    m.units = significandOf num den * 2 ^ scaleOf num den := by
  rw [ofRatio?] at h
  split at h
  · rw [← Option.some.inj h]
    rfl
  · simp at h

/-- **What is found is the nearest double.** -/
theorem isNearest_of_ofRatio? {num den : Nat} (hden : 0 < den) {m : Magnitude}
    (h : ofRatio? num den = some m) : m.IsNearest num den := by
  have hm := units_of_ofRatio? h
  have hgap : 0 < den * 2 ^ scaleOf num den := Nat.mul_pos hden (Nat.two_pow_pos _)
  have hunits := mul_units_eq hm
  -- a double is a multiple of the place of the rounding, or too small to be near
  have hcases (other : Magnitude) :
      (∃ k, den * other.units = den * 2 ^ scaleOf num den * k)
        ∨ m.distance num den < other.distance num den := by
    rcases other.pow_dvd_units_or_lt (scaleOf num den) with ⟨k, hk⟩ | hlt
    · exact Or.inl ⟨k, by rw [hk, Nat.mul_assoc]⟩
    · rcases Nat.eq_zero_or_pos (scaleOf num den) with hzero | hpos
      · exact Or.inl ⟨other.units, by rw [hzero, Nat.pow_zero, Nat.mul_one]⟩
      · exact Or.inr (distance_lt_of_lt hden hpos hm hlt)
  refine ⟨fun other => ?_, fun other hne hdist => ?_⟩
  · rcases hcases other with ⟨k, hk⟩ | hlt
    · rw [distance, distance, hunits, hk]
      exact dist_halfEven_le hgap k
    · exact Nat.le_of_lt hlt
  · rcases hcases other with ⟨k, hk⟩ | hlt
    · refine endsEven_of_significandOf hm (halfEven_even_of_dist_eq (k := k) hgap ?_ ?_)
      · rintro rfl
        have hsame : den * other.units = den * m.units := by rw [hk, hunits, significandOf]
        exact hne (ext_units (Nat.eq_of_mul_eq_mul_left hden hsame))
      · rw [← significandOf, ← hunits, ← hk]
        exact hdist
    · omega

/-! ### Only one -/

lemma lastPlace_mono {m m' : Magnitude} (h : m.units ≤ m'.units) : m.lastPlace ≤ m'.lastPlace := by
  have hlog : m.units.log2 ≤ m'.units.log2 := by
    by_cases hzero : m.units = 0
    · rw [hzero]
      exact Nat.zero_le _
    · have hpow : 2 ^ m.units.log2 ≤ m'.units := Nat.le_trans (Nat.log2_self_le hzero) h
      exact (Nat.le_log2 (by omega)).2 hpow
  simp only [lastPlace]
  omega

/-- The next larger double, if there is one. -/
lemma exists_next (m : Magnitude) (h : m.units + 2 ^ m.lastPlace < overflowUnits) :
    ∃ next : Magnitude, next.units = m.units + 2 ^ m.lastPlace := by
  obtain ⟨significand, hsignificand⟩ : 2 ^ m.lastPlace ∣ m.units := m.isDouble.2
  have hlt : significand < 2 ^ significantBits := by
    have hbound : m.units < 2 ^ (m.lastPlace + significantBits) := by
      refine Nat.lt_of_lt_of_le Nat.lt_log2_self (Nat.pow_le_pow_right (by decide) ?_)
      simp only [lastPlace]
      omega
    rw [hsignificand, Nat.pow_add] at hbound
    exact Nat.lt_of_mul_lt_mul_left hbound
  have hunits : (significand + 1) * 2 ^ m.lastPlace = m.units + 2 ^ m.lastPlace := by
    rw [Nat.succ_mul, Nat.mul_comm significand, ← hsignificand]
  exact ⟨ofScaled (significand + 1) m.lastPlace hlt (by rwa [hunits]), hunits⟩

/-- Between two doubles that end with an even bit there is another. -/
lemma exists_between {m m' : Magnitude} (hlt : m.units < m'.units) (hm : m.EndsEven)
    (hm' : m'.EndsEven) :
    ∃ between : Magnitude, m.units < between.units ∧ between.units < m'.units := by
  have hm'' : 2 ^ (m.lastPlace + 1) ∣ m'.units :=
    Nat.dvd_trans (Nat.pow_dvd_pow 2 (Nat.succ_le_succ (lastPlace_mono (Nat.le_of_lt hlt)))) hm'
  have hstep : 2 ^ (m.lastPlace + 1) ≤ m'.units - m.units :=
    Nat.le_of_dvd (Nat.sub_pos_of_lt hlt) (Nat.dvd_sub hm'' hm)
  have hpos : 0 < 2 ^ m.lastPlace := Nat.two_pow_pos _
  rw [Nat.pow_succ'] at hstep
  obtain ⟨next, hnext⟩ := m.exists_next (by have := m'.isDouble.1; omega)
  exact ⟨next, by omega, by omega⟩

/-- **There is only one nearest double.** -/
theorem IsNearest.unique {num den : Nat} (hden : 0 < den) {m m' : Magnitude}
    (h : m.IsNearest num den) (h' : m'.IsNearest num den) : m = m' := by
  -- of two that are equally near both end with an even bit, and what stands between them is nearer
  have hnot : ∀ {a b : Magnitude}, a.IsNearest num den → b.IsNearest num den
      → ¬ a.units < b.units := by
    intro a b ha hb hlt
    have hdist : a.distance num den = b.distance num den := Nat.le_antisymm (ha.le b) (hb.le a)
    have hne : b ≠ a := fun heq => Nat.lt_irrefl _ (heq ▸ hlt)
    obtain ⟨c, hac, hcb⟩ := exists_between hlt (ha.even b hne hdist.symm) (hb.even a hne.symm hdist)
    have hnear := ha.le c
    have hac' : den * a.units < den * c.units := Nat.mul_lt_mul_of_pos_left hac hden
    have hcb' : den * c.units < den * b.units := Nat.mul_lt_mul_of_pos_left hcb hden
    simp only [distance, Nat.dist] at hdist hnear
    omega
  rcases Nat.lt_trichotomy m.units m'.units with hlt | heq | hgt
  · exact absurd hlt (hnot h h')
  · exact ext_units heq
  · exact absurd hgt (hnot h' h)

/-! ### The end of the range -/

/-- The place of the last bit of the largest double. -/
def topPlace : Nat := overflowPlaces + unitPlaces - significantBits

lemma overflowUnits_eq : overflowUnits = 2 ^ significantBits * 2 ^ topPlace := by
  have hplaces : overflowPlaces + unitPlaces = significantBits + topPlace := rfl
  rw [overflowUnits, hplaces, Nat.pow_add]

/-- The largest double. -/
def largest : Magnitude :=
  ofScaled (2 ^ significantBits - 1) topPlace (Nat.sub_le _ _) (by
    rw [overflowUnits_eq]
    exact Nat.mul_lt_mul_of_pos_right (by decide) (Nat.two_pow_pos _))

lemma largest_units_add : largest.units + 2 ^ topPlace = overflowUnits := by
  have hunits : largest.units = (2 ^ significantBits - 1) * 2 ^ topPlace := rfl
  rw [hunits, overflowUnits_eq, ← Nat.succ_mul, Nat.succ_eq_add_one,
    Nat.sub_add_cancel (Nat.two_pow_pos _)]

lemma pow_le_largest : 2 ^ (topPlace + 52) ≤ largest.units := by
  have hbits : 2 ^ 52 ≤ 2 ^ significantBits - 1 := by decide
  rw [Nat.pow_add, Nat.mul_comm]
  exact Nat.mul_le_mul_right _ hbits

/-- No double is larger than the largest. -/
lemma units_le_largest (m : Magnitude) : m.units ≤ largest.units := by
  rcases m.pow_dvd_units_or_lt topPlace with ⟨k, hk⟩ | hlt
  · have hrange : 2 ^ topPlace * k < 2 ^ topPlace * 2 ^ significantBits := by
      rw [← hk, Nat.mul_comm _ (2 ^ significantBits), ← overflowUnits_eq]
      exact m.isDouble.1
    have hk' : k ≤ 2 ^ significantBits - 1 :=
      Nat.le_sub_one_of_lt (Nat.lt_of_mul_lt_mul_left hrange)
    rw [hk, Nat.mul_comm]
    exact Nat.mul_le_mul_right _ hk'
  · exact Nat.le_trans (Nat.le_of_lt hlt) pow_le_largest

end Magnitude

/-- As near as any double is the first power of two beyond them. -/
def Overflows (num den : Nat) : Prop :=
  ∀ m : Magnitude, Nat.dist (den * overflowUnits) (num * 2 ^ unitPlaces) ≤ m.distance num den

namespace Magnitude

/-- This is so from half the last place behind the largest double on. -/
lemma overflows_iff {num den : Nat} (hden : 0 < den) :
    Overflows num den ↔ den * largest.units + den * overflowUnits ≤ 2 * (num * 2 ^ unitPlaces) := by
  have hbelow (m : Magnitude) : den * m.units < den * overflowUnits :=
    Nat.mul_lt_mul_of_pos_left m.isDouble.1 hden
  constructor
  · intro h
    exact (dist_le_dist_iff (hbelow largest) _).1 (h largest)
  · intro h m
    have hle : den * m.units ≤ den * largest.units := Nat.mul_le_mul_left den m.units_le_largest
    exact (dist_le_dist_iff (hbelow m) _).2 (Nat.le_trans (Nat.add_le_add_right hle _) h)

/-- What is not less than the largest double is rounded at its place, or at a larger one. -/
lemma topPlace_le_scaleOf {num den : Nat} (hden : 0 < den)
    (h : den * largest.units ≤ num * 2 ^ unitPlaces) :
    topPlace ≤ scaleOf num den := by
  have hquotient : 2 ^ (topPlace + 52) ≤ num * 2 ^ unitPlaces / den := by
    rw [Nat.le_div_iff_mul_le hden, Nat.mul_comm]
    exact Nat.le_trans (Nat.mul_le_mul_left den pow_le_largest) h
  have hne : num * 2 ^ unitPlaces / den ≠ 0 :=
    Nat.ne_of_gt (Nat.lt_of_lt_of_le (Nat.two_pow_pos _) hquotient)
  have hlog := (Nat.le_log2 hne).2 hquotient
  simp only [scaleOf, significantBits]
  omega

/-- What is rounded at a place above that of the largest double lies beyond the range. -/
lemma beyond_of_topPlace_lt {num den : Nat} (hden : 0 < den) (h : topPlace < scaleOf num den) :
    overflowUnits ≤ significandOf num den * 2 ^ scaleOf num den ∧ Overflows num den := by
  have hbig := pow_le_of_scaleOf_pos hden (Nat.zero_lt_of_lt h)
  have hgap : 0 < den * 2 ^ scaleOf num den := Nat.mul_pos hden (Nat.two_pow_pos _)
  have hpow : overflowUnits ≤ 2 ^ (52 + scaleOf num den) := by
    rw [overflowUnits_eq, ← Nat.pow_add]
    refine Nat.pow_le_pow_right (by decide) ?_
    simp only [significantBits]
    omega
  constructor
  · have hbits : 2 ^ 52 ≤ significandOf num den := by
      refine Nat.le_trans ?_ (le_halfEven _ _)
      rw [Nat.le_div_iff_mul_le hgap, Nat.mul_comm, Nat.mul_assoc, ← Nat.pow_add]
      exact hbig
    rw [Nat.pow_add] at hpow
    exact Nat.le_trans hpow (Nat.mul_le_mul_right _ hbits)
  · rw [overflows_iff hden]
    rw [Nat.add_comm] at hpow
    have hquotient := Nat.le_trans (Nat.mul_le_mul_left den hpow) hbig
    have hlargest : den * largest.units ≤ den * overflowUnits :=
      Nat.mul_le_mul_left den (Nat.le_of_lt largest.isDouble.1)
    omega

/-- At the place of the largest double the power of two behind it is an even number, so it is
reached from half a place before it on. -/
lemma beyond_iff_of_topPlace_eq {num den : Nat} (hden : 0 < den) (h : topPlace = scaleOf num den) :
    overflowUnits ≤ significandOf num den * 2 ^ scaleOf num den ↔ Overflows num den := by
  have hgap : 0 < den * 2 ^ topPlace := Nat.mul_pos hden (Nat.two_pow_pos _)
  have hlast : den * largest.units + den * 2 ^ topPlace = den * overflowUnits := by
    rw [← Nat.mul_add, largest_units_add]
  have hend : den * 2 ^ topPlace * 2 ^ significantBits = den * overflowUnits := by
    rw [overflowUnits_eq, Nat.mul_assoc, Nat.mul_comm (2 ^ topPlace)]
  calc overflowUnits ≤ significandOf num den * 2 ^ scaleOf num den
      ↔ 2 ^ significantBits ≤ significandOf num den := by
        rw [overflowUnits_eq, h]
        exact Nat.mul_le_mul_right_iff (Nat.two_pow_pos _)
    _ ↔ 2 * (den * overflowUnits) ≤ 2 * (num * 2 ^ unitPlaces) + den * 2 ^ topPlace := by
        rw [significandOf, ← h, le_halfEven_iff_of_even hgap (by decide), hend]
    _ ↔ Overflows num den := by
        rw [overflows_iff hden]
        omega

/-- **A rounding leaves the range where the quotient does.** -/
lemma beyond_iff {num den : Nat} (hden : 0 < den) :
    overflowUnits ≤ significandOf num den * 2 ^ scaleOf num den ↔ Overflows num den := by
  rcases Nat.lt_trichotomy topPlace (scaleOf num den) with hlt | heq | hgt
  · have hbeyond := beyond_of_topPlace_lt hden hlt
    exact iff_of_true hbeyond.1 hbeyond.2
  · exact beyond_iff_of_topPlace_eq hden heq
  · refine iff_of_false (fun hle => ?_) fun hoverflow => ?_
    · have hpow := Nat.le_trans hle (Nat.mul_le_mul_right _ (significandOf_le num den))
      rw [overflowUnits_eq] at hpow
      have hplace := Nat.le_of_mul_le_mul_left hpow (Nat.two_pow_pos _)
      exact Nat.not_le.2 hgt ((Nat.pow_le_pow_iff_right (by decide)).1 hplace)
    · rw [overflows_iff hden] at hoverflow
      have hlargest : den * largest.units ≤ den * overflowUnits :=
        Nat.mul_le_mul_left den (Nat.le_of_lt largest.isDouble.1)
      have hquotient : den * largest.units ≤ num * 2 ^ unitPlaces := by omega
      exact Nat.not_le.2 hgt (topPlace_le_scaleOf hden hquotient)

/-- **Nothing is found exactly beyond the range.** -/
theorem ofRatio?_eq_none_iff {num den : Nat} (hden : 0 < den) :
    ofRatio? num den = none ↔ Overflows num den := by
  rw [← beyond_iff hden, ofRatio?]
  split
  · next hrange => simp [hrange]
  · next hbeyond => simp [Nat.le_of_not_lt hbeyond]

end Magnitude

/-! ## Doubles -/

namespace Double

/-- The double nearest to a quotient with a sign, an infinity beyond the range. -/
def IsNearest (negative : Bool) (num den : Nat) : Double → Prop
  | .nan => False
  | .infinite sign => sign = negative ∧ Overflows num den
  | .finite sign m => sign = negative ∧ ¬ Overflows num den ∧ m.IsNearest num den

lemma ofRatio_of_none {negative : Bool} {num den : Nat} (h : Magnitude.ofRatio? num den = none) :
    ofRatio negative num den = .infinite negative := by
  conv_lhs => fun; fun; fun; delta Double.ofRatio
  rw [h]

/-- **A quotient becomes the double that is nearest to it**, and no other. -/
theorem ofRatio_eq_iff {negative : Bool} {num den : Nat} (hden : 0 < den) {v : Double} :
    ofRatio negative num den = v ↔ v.IsNearest negative num den := by
  cases hfound : Magnitude.ofRatio? num den with
  | none =>
      have hoverflow := (Magnitude.ofRatio?_eq_none_iff hden).1 hfound
      rw [ofRatio_of_none hfound]
      cases v with
      | nan => simp [IsNearest]
      | infinite sign => simp [IsNearest, hoverflow, eq_comm]
      | finite sign m => simp [IsNearest, hoverflow]
  | some found =>
      have hrange : ¬ Overflows num den := fun hoverflow => by
        rw [(Magnitude.ofRatio?_eq_none_iff hden).2 hoverflow] at hfound
        simp at hfound
      have hnearest := Magnitude.isNearest_of_ofRatio? hden hfound
      rw [ofRatio_of_some hfound]
      cases v with
      | nan => simp [IsNearest]
      | infinite sign => simp [IsNearest, hrange]
      | finite sign m =>
          rw [finite.injEq, IsNearest]
          constructor
          · rintro ⟨rfl, rfl⟩
            exact ⟨rfl, hrange, hnearest⟩
          · rintro ⟨rfl, -, hm⟩
            exact ⟨rfl, hnearest.unique hden hm⟩

lemma exists_isNearest (negative : Bool) (num : Nat) {den : Nat} (hden : 0 < den) :
    ∃ v : Double, v.IsNearest negative num den := by
  -- The double is named before it is compared; else it would be worked out.
  obtain ⟨v, hv⟩ : ∃ v, ofRatio negative num den = v := ⟨_, rfl⟩
  exact ⟨v, (ofRatio_eq_iff hden).1 hv⟩

end Double

end PanelKeys.Number
