import PanelKeys.Number.Rounding

/-!
# Double-precision numbers, exactly

A measured length is a 64-bit binary number.  Every finite one is a whole multiple of the smallest
positive one, `2 ^ -1074`, so its magnitude is kept as that natural number and all arithmetic on
lengths is arithmetic of natural numbers: nothing below rests on the machine's own floating point.

* `IsDouble n` — `n · 2 ^ -1074` is the magnitude of a finite double: it is in range and has at most
  53 significant bits;
* `Magnitude`, `Double` — the values: not a number, two infinities, finite with a sign;
* `Magnitude.ofRatio?`, `Double.ofRatio` — the double nearest to a quotient, a half going to the
  even significand, an infinity beyond the range;
* `Double.ofBits`, `Double.toBits` — the interchange format.

**`Magnitude.ofRatio?`** is the only place where a double is rounded; decimals, quotients and
products all go through it.
-/

namespace PanelKeys.Number

-- Powers are those of natural numbers, also where monoids are known.
attribute [local instance (high)] instPowNat

/-- Binary places of the smallest positive double. -/
def unitPlaces : Nat := 1074

/-- Significant bits of a double. -/
def significantBits : Nat := 53

/-- The first power of two beyond the range. -/
def overflowPlaces : Nat := 1024

/-- The first magnitude beyond the range, in units of the smallest positive double. -/
def overflowUnits : Nat := 2 ^ (overflowPlaces + unitPlaces)

theorem overflowUnits_pos : 0 < overflowUnits :=
  Nat.two_pow_pos (overflowPlaces + unitPlaces)

/-- In range, and no more than 53 significant bits. -/
def IsDouble (n : Nat) : Prop := n < overflowUnits ∧ 2 ^ (n.log2 + 1 - significantBits) ∣ n

instance (n : Nat) : Decidable (IsDouble n) :=
  inferInstanceAs (Decidable (_ ∧ _))

/-- The magnitude of a finite double, in units of the smallest positive one. -/
structure Magnitude where
  units : Nat
  isDouble : IsDouble units

namespace Magnitude

theorem ext_units {a b : Magnitude} (h : a.units = b.units) : a = b := by
  cases a; cases b; cases h; rfl

instance : DecidableEq Magnitude := fun a b =>
  if h : a.units = b.units then isTrue (ext_units h) else isFalse fun e => h (e ▸ rfl)

/-- A significand of at most 53 bits, or the power of two after the last one, at any scale has no
more than 53 significant bits. -/
theorem pow_dvd_mul_pow {m s : Nat} (h : m ≤ 2 ^ significantBits) :
    2 ^ ((m * 2 ^ s).log2 + 1 - significantBits) ∣ m * 2 ^ s := by
  by_cases hm : m = 0
  · subst hm; simp
  have hpos : m * 2 ^ s ≠ 0 := Nat.mul_ne_zero hm (Nat.ne_of_gt (Nat.two_pow_pos s))
  rcases Nat.lt_or_eq_of_le h with hlt | heq
  · have hlog : (m * 2 ^ s).log2 < significantBits + s := by
      rw [Nat.log2_lt hpos, Nat.pow_add]
      exact Nat.mul_lt_mul_of_pos_right hlt (Nat.two_pow_pos s)
    have hle : (m * 2 ^ s).log2 + 1 - significantBits ≤ s := by omega
    exact Nat.dvd_trans (Nat.pow_dvd_pow 2 hle) (Nat.dvd_mul_left _ _)
  · subst heq
    rw [← Nat.pow_add]
    have hle : (2 ^ (significantBits + s)).log2 + 1 - significantBits ≤ significantBits + s := by
      rw [Nat.log2_two_pow]
      simp only [significantBits]
      omega
    exact Nat.pow_dvd_pow 2 hle

/-- A significand of at most 53 bits and a scale, in range. -/
def ofScaled (m s : Nat) (hm : m ≤ 2 ^ significantBits) (hr : m * 2 ^ s < overflowUnits) :
    Magnitude :=
  ⟨m * 2 ^ s, hr, pow_dvd_mul_pow hm⟩

def zero : Magnitude := ⟨0, overflowUnits_pos, Nat.dvd_zero _⟩

/-- The binary place, in units, to which the quotient `num / den` is rounded: its 53rd significant
bit, and no place below the unit. -/
def scaleOf (num den : Nat) : Nat := (num * 2 ^ unitPlaces / den).log2 + 1 - significantBits

/-- The quotient in units of that place, rounded with a half to the even neighbour. -/
def significandOf (num den : Nat) : Nat :=
  halfEven (num * 2 ^ unitPlaces) (den * 2 ^ scaleOf num den)

theorem significandOf_le (num den : Nat) : significandOf num den ≤ 2 ^ significantBits := by
  have hle := halfEven_le (num * 2 ^ unitPlaces) (den * 2 ^ scaleOf num den)
  have hdiv : num * 2 ^ unitPlaces / (den * 2 ^ scaleOf num den) < 2 ^ significantBits := by
    rw [← Nat.div_div_eq_div_mul, Nat.div_lt_iff_lt_mul (Nat.two_pow_pos _), ← Nat.pow_add]
    refine Nat.lt_of_lt_of_le Nat.lt_log2_self (Nat.pow_le_pow_right (by decide) ?_)
    simp only [scaleOf]
    omega
  exact Nat.le_trans hle hdiv

/-- The double nearest to `num / den`, a half to the even significand; `none` beyond the range. -/
def ofRatio? (num den : Nat) : Option Magnitude :=
  if h : significandOf num den * 2 ^ scaleOf num den < overflowUnits then
    some (ofScaled _ _ (significandOf_le num den) h)
  else
    none

/-- The nearest double to a product with a natural number; `none` beyond the range. -/
def scale? (a : Magnitude) (n : Nat) : Option Magnitude :=
  ofRatio? (a.units * n) (2 ^ unitPlaces)

/-- The nearest double to a quotient of doubles; `none` beyond the range. -/
def div? (a b : Magnitude) : Option Magnitude := ofRatio? a.units b.units

/-- The nearest whole number, a half going up. -/
def round (a : Magnitude) : Nat := halfUp a.units (2 ^ unitPlaces)

end Magnitude

/-- A double-precision number; the payload of a not-a-number carries no meaning here. -/
inductive Double where
  | nan
  | infinite (negative : Bool)
  | finite (negative : Bool) (magnitude : Magnitude)
  deriving DecidableEq

namespace Double

def zero : Double := .finite false .zero

instance : Inhabited Double := ⟨zero⟩

/-- The double nearest to the quotient with the given sign, an infinity beyond the range. -/
def ofRatio (negative : Bool) (num den : Nat) : Double :=
  match Magnitude.ofRatio? num den with
  | some m => .finite negative m
  | none => .infinite negative

/-- Less than zero; neither zero is. -/
def isNegative : Double → Bool
  | .nan => false
  | .infinite negative => negative
  | .finite negative m => negative && m.units != 0

/-- Turns negative zero into zero and leaves every other number as it is. -/
def dropZeroSign : Double → Double
  | .finite negative m => .finite (negative && m.units != 0) m
  | x => x

def IsFinite : Double → Prop
  | .finite _ _ => True
  | _ => False

instance : DecidablePred IsFinite
  | .finite _ _ => isTrue trivial
  | .nan => isFalse id
  | .infinite _ => isFalse id

/-! ## The interchange format

One sign bit, eleven bits of exponent, 52 of fraction.  Exponent 0 has no hidden bit, and exponent
2047 holds the infinities and the values that are not numbers. -/

/-- Bits of the fraction field. -/
def fractionBits : Nat := 52

/-- Bits of the exponent field. -/
def exponentBits : Nat := 11

/-- The exponent field of infinities and of values that are not numbers. -/
def topExponent : Nat := 2047

/-- The place of the sign bit. -/
def signPlace : Nat := 63

/-- Reads the 64 bits. -/
def ofBits (bits : UInt64) : Double :=
  let n := bits.toNat
  let negative := n / 2 ^ signPlace == 1
  let exponent := n / 2 ^ fractionBits % 2 ^ exponentBits
  let fraction := n % 2 ^ fractionBits
  if exponent = topExponent then
    if fraction = 0 then .infinite negative else .nan
  else
    let m := if exponent = 0 then fraction else 2 ^ fractionBits + fraction
    let s := exponent - 1
    if h : m ≤ 2 ^ significantBits ∧ m * 2 ^ s < overflowUnits then
      .finite negative (Magnitude.ofScaled m s h.1 h.2)
    else
      .nan

/-- The exponent and fraction fields of a finite magnitude. -/
def magnitudeBits (units : Nat) : Nat :=
  if units < 2 ^ fractionBits then units
  else
    let s := units.log2 - fractionBits
    (s + 1) * 2 ^ fractionBits + (units / 2 ^ s - 2 ^ fractionBits)

def signBit (negative : Bool) : Nat := if negative then 2 ^ signPlace else 0

/-- Writes the 64 bits; the quiet pattern stands for every value that is not a number. -/
def toBits : Double → UInt64
  | .nan => UInt64.ofNat (topExponent * 2 ^ fractionBits + 2 ^ (fractionBits - 1))
  | .infinite negative => UInt64.ofNat (signBit negative + topExponent * 2 ^ fractionBits)
  | .finite negative m => UInt64.ofNat (signBit negative + magnitudeBits m.units)

end Double

end PanelKeys.Number
