import Mathlib.Data.Nat.GCD.Basic
import PanelKeys.Length.Inch
import PanelKeys.Length.Millimeter

/-!
# Inches taken apart and put together

A length in inches is rounded once, to a count of steps, and what is shown is that count taken
apart.  Nothing is lost on the way: **the parts put together again are the count**.  So a length
that is rounded up to a full inch or a full foot is shown as such, and wanting feet or not wanting
them changes neither the fraction nor the length as a whole.

* `IsStepCount` — the count of steps that a length is rounded to;
* `isStepCount_iff` — there is one for every length, and it is `stepCount`;
* `InchParts.TakesApart` — parts that are a count taken apart, with a fraction in lowest terms;
* `InchParts.takesApart_ofSteps` — every count is taken apart;
* `InchParts.TakesApart.of_fullInches` — a count of full inches leaves no fraction;
* **`InchParts.put_together`** — the parts of a length.
-/

namespace PanelKeys

open PanelKeys.Number

/-! ## Rounded to steps -/

namespace Number.Magnitude

-- Powers are those of natural numbers, also where monoids are known.
attribute [local instance (high)] instPowNat

/-- The whole number is the nearest one, a half going up. -/
def RoundsTo (q : Magnitude) (n : Nat) : Prop :=
  2 * (2 ^ unitPlaces * n) ≤ 2 * q.units + 2 ^ unitPlaces
    ∧ 2 * q.units < 2 * (2 ^ unitPlaces * n) + 2 ^ unitPlaces

lemma roundsTo_round (q : Magnitude) : q.RoundsTo q.round :=
  halfUp_near (Nat.two_pow_pos unitPlaces)

lemma RoundsTo.le {q : Magnitude} {n m : Nat} (hn : q.RoundsTo n) (hm : q.RoundsTo m) : n ≤ m := by
  have hlt : 2 ^ unitPlaces * n < 2 ^ unitPlaces * (m + 1) := by
    have hlow := hn.1
    have hhigh := hm.2
    rw [Nat.mul_succ]
    generalize 2 ^ unitPlaces * n = low at *
    generalize 2 ^ unitPlaces * m = high at *
    omega
  exact Nat.le_of_lt_succ (Nat.lt_of_mul_lt_mul_left hlt)

lemma roundsTo_iff {q : Magnitude} {n : Nat} : q.RoundsTo n ↔ n = q.round := by
  constructor
  · exact fun h => Nat.le_antisymm (h.le q.roundsTo_round) (q.roundsTo_round.le h)
  · rintro rfl
    exact q.roundsTo_round

end Number.Magnitude

namespace Length

/-- The count of steps that a length is rounded to: the length is divided by the millimeters of an
inch, multiplied with the denominator, and rounded to a whole number, at most the largest count.
What is not a number has no steps. -/
inductive IsStepCount (precision : Precision) : Double → Nat → Prop where
  | nan : IsStepCount precision .nan 0
  | infinite (negative : Bool) : IsStepCount precision (.infinite negative) maxCount
  | beyond (negative : Bool) {m : Magnitude}
      (outside : ∀ inches, m.div? millimetersPerInch = some inches →
        inches.scale? precision.denominator = none) :
      IsStepCount precision (.finite negative m) maxCount
  | rounded (negative : Bool) {m inches steps : Magnitude} {n : Nat}
      (quotient : m.div? millimetersPerInch = some inches)
      (product : inches.scale? precision.denominator = some steps) (nearest : steps.RoundsTo n) :
      IsStepCount precision (.finite negative m) (min n maxCount)

lemma stepCount_finite (negative : Bool) (m : Magnitude) (precision : Precision) :
    stepCount (.finite negative m) precision = saturatedCount (unroundedSteps? precision m) := rfl

lemma saturatedCount_some (q : Magnitude) : saturatedCount (some q) = min q.round maxCount := rfl

lemma unroundedSteps?_eq_none {precision : Precision} {m : Magnitude} :
    unroundedSteps? precision m = none
      ↔ ∀ inches, m.div? millimetersPerInch = some inches →
        inches.scale? precision.denominator = none :=
  Option.bind_eq_none_iff

lemma unroundedSteps?_eq_some {precision : Precision} {m steps : Magnitude} :
    unroundedSteps? precision m = some steps
      ↔ ∃ inches, m.div? millimetersPerInch = some inches
        ∧ inches.scale? precision.denominator = some steps :=
  Option.bind_eq_some_iff

/-- Every length has one count of steps. -/
lemma isStepCount_iff {precision : Precision} {mm : Double} {n : Nat} :
    IsStepCount precision mm n ↔ n = stepCount mm precision := by
  constructor
  · intro h
    cases h with
    | nan | infinite negative => rfl
    | beyond negative outside =>
        rw [stepCount_finite, unroundedSteps?_eq_none.2 outside]
        rfl
    | rounded negative quotient product nearest =>
        rw [stepCount_finite, unroundedSteps?_eq_some.2 ⟨_, quotient, product⟩, saturatedCount_some,
          Magnitude.roundsTo_iff.1 nearest]
  · rintro rfl
    cases mm with
    | nan => exact .nan
    | infinite negative => exact .infinite negative
    | finite negative m =>
        -- Unfolding would leave a case split on the quotient that the kernel evaluates; the
        -- equation does not.
        rw [stepCount_finite]
        cases h : unroundedSteps? precision m with
        | none => exact .beyond negative (unroundedSteps?_eq_none.1 h)
        | some q =>
            obtain ⟨inches, quotient, product⟩ := unroundedSteps?_eq_some.1 h
            rw [saturatedCount_some]
            exact .rounded negative quotient product q.roundsTo_round

lemma IsStepCount.le_maxCount {precision : Precision} {mm : Double} {n : Nat}
    (h : IsStepCount precision mm n) : n ≤ maxCount := by
  cases h with
  | nan => exact Nat.zero_le maxCount
  | infinite negative | beyond negative outside => exact Nat.le_refl maxCount
  | rounded negative quotient product nearest => exact Nat.min_le_right _ _

/-! ## Taken apart -/

namespace InchParts

/-- The whole inches, those in feet among them. -/
def wholeInches (p : InchParts) : Nat := inchesPerFoot * p.feet + p.inches

/-- The steps that the fraction stands for. -/
def fractionSteps (p : InchParts) (precision : Precision) : Nat :=
  p.numerator * (precision.denominator / p.denominator)

/-- The parts are a count of steps taken apart: put together they are the count, and the fraction is
less than an inch, in lowest terms and of the precision. -/
structure TakesApart (precision : Precision) (steps : Nat) (p : InchParts) : Prop where
  together : p.wholeInches * precision.denominator + p.fractionSteps precision = steps
  proper : p.numerator < p.denominator
  lowest : Nat.gcd p.numerator p.denominator = 1
  ofPrecision : p.denominator ∣ precision.denominator

section

variable (negative : Bool) (steps : Nat) (precision : Precision)

@[simp] lemma ofSteps_negative (feet : Bool) :
    (ofSteps negative steps precision feet).negative = negative := rfl

@[simp] lemma ofSteps_numerator (feet : Bool) :
    (ofSteps negative steps precision feet).numerator
      = steps % precision.denominator
        / Nat.gcd (steps % precision.denominator) precision.denominator := rfl

@[simp] lemma ofSteps_denominator (feet : Bool) :
    (ofSteps negative steps precision feet).denominator
      = precision.denominator / Nat.gcd (steps % precision.denominator) precision.denominator := rfl

@[simp] lemma ofSteps_feet_of_false : (ofSteps negative steps precision false).feet = 0 := rfl

lemma ofSteps_inches_lt : (ofSteps negative steps precision true).inches < inchesPerFoot :=
  Nat.mod_lt _ (by decide)

@[simp] lemma ofSteps_wholeInches (feet : Bool) :
    (ofSteps negative steps precision feet).wholeInches = steps / precision.denominator := by
  cases feet with
  | false => exact Nat.zero_add _
  | true => exact Nat.div_add_mod (steps / precision.denominator) inchesPerFoot

/-- Reducing the fraction does not change what it stands for. -/
lemma ofSteps_fractionSteps (feet : Bool) :
    (ofSteps negative steps precision feet).fractionSteps precision
      = steps % precision.denominator := by
  have hcommon := Nat.gcd_dvd_right (steps % precision.denominator) precision.denominator
  rw [fractionSteps, ofSteps_numerator, ofSteps_denominator,
    Nat.div_div_self hcommon (Nat.ne_of_gt precision.denominator_pos)]
  exact Nat.div_mul_cancel (Nat.gcd_dvd_left _ _)

lemma takesApart_ofSteps (feet : Bool) :
    TakesApart precision steps (ofSteps negative steps precision feet) where
  together := by
    rw [ofSteps_wholeInches, ofSteps_fractionSteps, Nat.mul_comm]
    exact Nat.div_add_mod steps precision.denominator
  proper := Nat.div_lt_div_of_lt_of_dvd (Nat.gcd_dvd_right _ _)
    (Nat.mod_lt steps precision.denominator_pos)
  lowest := Nat.coprime_div_gcd_div_gcd (Nat.gcd_pos_of_pos_right _ precision.denominator_pos)
  ofPrecision := Nat.div_dvd_of_dvd (Nat.gcd_dvd_right _ _)

end

lemma takesApart_ofMillimeters (mm : Double) (precision : Precision) (feet : Bool) :
    TakesApart precision (stepCount mm precision) (ofMillimeters mm precision feet) :=
  takesApart_ofSteps mm.isNegative (stepCount mm precision) precision feet

section

variable {precision : Precision} {steps : Nat} {p : InchParts}

/-- A step of the fraction is one of the count or several. -/
lemma TakesApart.ratio_pos (h : TakesApart precision steps p) :
    0 < precision.denominator / p.denominator :=
  Nat.div_pos (Nat.le_of_dvd precision.denominator_pos h.ofPrecision) (Nat.zero_lt_of_lt h.proper)

lemma TakesApart.fractionSteps_lt (h : TakesApart precision steps p) :
    p.fractionSteps precision < precision.denominator :=
  calc p.numerator * (precision.denominator / p.denominator)
      < p.denominator * (precision.denominator / p.denominator) :=
        Nat.mul_lt_mul_of_pos_right h.proper h.ratio_pos
    _ = precision.denominator := Nat.mul_div_cancel' h.ofPrecision

/-- A fraction of nothing is `0 / 1`. -/
lemma TakesApart.denominator_eq_one (h : TakesApart precision steps p) (hzero : p.numerator = 0) :
    p.denominator = 1 := by
  have hlowest := h.lowest
  rwa [hzero, Nat.gcd_zero_left] at hlowest

/-- **A count of full inches leaves no fraction.** -/
lemma TakesApart.of_fullInches {inches : Nat}
    (h : TakesApart precision (inches * precision.denominator) p) :
    p.wholeInches = inches ∧ p.numerator = 0 ∧ p.denominator = 1 := by
  have hmod : p.fractionSteps precision = 0 := by
    have htogether := congrArg (· % precision.denominator) h.together
    simpa only [Nat.mul_add_mod_self_right, Nat.mul_mod_left,
      Nat.mod_eq_of_lt h.fractionSteps_lt] using htogether
  have hnumerator : p.numerator = 0 :=
    (Nat.mul_eq_zero.1 hmod).resolve_right (Nat.ne_of_gt h.ratio_pos)
  have htogether := h.together
  rw [hmod, Nat.add_zero] at htogether
  exact ⟨Nat.mul_right_cancel precision.denominator_pos htogether, hnumerator,
    h.denominator_eq_one hnumerator⟩

/-- Inches that are less than a foot, with feet in front, are those left over. -/
lemma feet_inches_of_wholeInches {feet : Nat} (hinches : p.inches < inchesPerFoot)
    (hwhole : p.wholeInches = inchesPerFoot * feet) : p.feet = feet ∧ p.inches = 0 := by
  simp only [wholeInches, inchesPerFoot] at *
  omega

end

/-- **The parts of a length.**  Put together they are the count that the length is rounded to, and
no product or sum on the way exceeds the largest count.  The fraction is proper, in lowest terms and
of the precision.  With feet there are less than twelve inches, and without there are no feet; sign,
fraction and length do not depend on them.  A count of full inches or full feet is shown as such. -/
theorem put_together (mm : Double) (precision : Precision) (feet : Bool) :
    ∃ steps p, (∀ n, IsStepCount precision mm n ↔ n = steps) ∧ ofMillimeters mm precision feet = p
      ∧ TakesApart precision steps p
      ∧ (inchesPerFoot * p.feet ≤ maxCount ∧ p.wholeInches ≤ maxCount
        ∧ p.wholeInches * precision.denominator ≤ maxCount ∧ p.fractionSteps precision ≤ maxCount
        ∧ steps ≤ maxCount)
      ∧ (feet = true → p.inches < inchesPerFoot)
      ∧ (feet = false → p.feet = 0)
      ∧ (∀ other, (ofMillimeters mm precision other).negative = p.negative
        ∧ (ofMillimeters mm precision other).wholeInches = p.wholeInches
        ∧ (ofMillimeters mm precision other).numerator = p.numerator
        ∧ (ofMillimeters mm precision other).denominator = p.denominator)
      ∧ (∀ inches, steps = inches * precision.denominator →
        p.wholeInches = inches ∧ p.numerator = 0 ∧ p.denominator = 1)
      ∧ (feet = true → ∀ n, steps = inchesPerFoot * n * precision.denominator →
        p.feet = n ∧ p.inches = 0 ∧ p.numerator = 0) := by
  have hsteps : IsStepCount precision mm (stepCount mm precision) := isStepCount_iff.2 rfl
  have happart := takesApart_ofMillimeters mm precision feet
  have hinches : feet = true → (ofMillimeters mm precision feet).inches < inchesPerFoot := by
    rintro rfl
    exact ofSteps_inches_lt mm.isNegative (stepCount mm precision) precision
  refine ⟨stepCount mm precision, _, fun n => isStepCount_iff, rfl, happart, ?bounds, hinches,
    ?noFeet, ?other, fun inches hfull => (hfull ▸ happart).of_fullInches, ?fullFeet⟩
  case bounds =>
    have hmax := hsteps.le_maxCount
    have htogether := happart.together
    have hscaled :=
      Nat.le_mul_of_pos_right (ofMillimeters mm precision feet).wholeInches
        precision.denominator_pos
    have hfeet : inchesPerFoot * (ofMillimeters mm precision feet).feet
        ≤ (ofMillimeters mm precision feet).wholeInches := Nat.le_add_right _ _
    omega
  case noFeet =>
    rintro rfl
    exact ofSteps_feet_of_false mm.isNegative (stepCount mm precision) precision
  case other =>
    intro other
    simp only [ofMillimeters, ofSteps_negative, ofSteps_wholeInches, ofSteps_numerator,
      ofSteps_denominator, and_self]
  case fullFeet =>
    intro hfeet n hfull
    obtain ⟨hwhole, hnumerator, -⟩ := (hfull ▸ happart).of_fullInches
    obtain ⟨hn, hzero⟩ := feet_inches_of_wholeInches (hinches hfeet) hwhole
    exact ⟨hn, hzero, hnumerator⟩

/-- A length of less than a foot that is rounded up to one. -/
example :
    (Millimeter.parse? "304.5").map (ofMillimeters · .eighth true) = some ⟨false, 1, 0, 0, 1⟩ := by
  decide +kernel

end InchParts

end Length

end PanelKeys
