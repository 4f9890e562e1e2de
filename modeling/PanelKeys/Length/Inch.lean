import PanelKeys.Length.Policy
import PanelKeys.Number.Count
import PanelKeys.Number.Decimal

/-!
# Lengths in inches

A length is shown as a whole number of inches and a reduced fraction, with feet in front if they are
wanted: `-2' 7/8"`.  The length is first rounded to a count of the smallest fraction; everything
shown is that count taken apart, so nothing is rounded twice.

* `stepCount` — how many eighths, sixteenths or thirty-seconds of an inch a length has, a half going
  up and the count stopping at the largest 64-bit number;
* `InchParts.ofSteps` — the count taken apart into feet, inches and a reduced fraction;
* `InchParts.text` — the parts as they are shown; parts that are zero are left out, except that a
  length of nothing is `0"`.
-/

namespace PanelKeys.Length

open PanelKeys.Number

/-- The double nearest to 25.4, the millimeters of one inch. -/
def millimetersPerInch : Magnitude :=
  (Magnitude.ofRatio? 254 10).getD .zero

def inchesPerFoot : Nat := 12

/-- A length in steps of `1 / precision` inch, before it is rounded to a whole number: the quotient
by 25.4 and the product with the denominator are each rounded to a double; `none` beyond the
range. -/
def unroundedSteps? (precision : Precision) (m : Magnitude) : Option Magnitude :=
  (m.div? millimetersPerInch).bind (·.scale? precision.denominator)

/-- The nearest whole number as a count, a half going up; what exceeds the largest count becomes
it. -/
def saturatedCount : Option Magnitude → Nat
  | some q => min q.round maxCount
  | none => maxCount

/-- The number of steps of `1 / precision` inch; what is not a number has no steps. -/
def stepCount (mm : Double) (precision : Precision) : Nat :=
  match mm with
  | .nan => 0
  | .infinite _ => maxCount
  | .finite _ m => saturatedCount (unroundedSteps? precision m)

/-- A length taken apart.  The magnitudes are those of the absolute value; the sign stands apart
and is shown once, in front. -/
structure InchParts where
  negative : Bool
  feet : Nat
  inches : Nat
  numerator : Nat
  denominator : Nat
  deriving DecidableEq

namespace InchParts

/-- Takes a count of steps apart; a fraction of nothing is `0 / 1`. -/
def ofSteps (negative : Bool) (steps : Nat) (precision : Precision) (feet : Bool) : InchParts :=
  let step := precision.denominator
  let whole := steps / step
  let common := Nat.gcd (steps % step) step
  { negative
    feet := if feet then whole / inchesPerFoot else 0
    inches := if feet then whole % inchesPerFoot else whole
    numerator := steps % step / common
    denominator := step / common }

def ofMillimeters (mm : Double) (precision : Precision) (feet : Bool) : InchParts :=
  ofSteps mm.isNegative (stepCount mm precision) precision feet

def fractionChars (p : InchParts) : List Char :=
  Nat.toDigits 10 p.numerator ++ '/' :: Nat.toDigits 10 p.denominator

def lengthChars (p : InchParts) : List Char :=
  if p.numerator = 0 then Nat.toDigits 10 p.inches
  else if p.inches = 0 then p.fractionChars
  else Nat.toDigits 10 p.inches ++ ' ' :: p.fractionChars

def feetChars (p : InchParts) : List Char :=
  if p.feet = 0 then [] else Nat.toDigits 10 p.feet ++ ['\x27', ' ']

def chars (p : InchParts) : List Char :=
  Double.signText p.negative ++ p.feetChars ++ p.lengthChars ++ ['"']

/-- Sign, feet, inches and fraction, the zero parts left out: `-2' 7/8"`. -/
def text (p : InchParts) : String := String.ofList p.chars

end InchParts

end PanelKeys.Length
