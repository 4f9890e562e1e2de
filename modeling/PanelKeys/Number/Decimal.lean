import PanelKeys.Number.Double

/-!
# Decimals with a fixed number of places

Lengths meet decimals in both directions: the panel shows millimeters with three places, and what it
shows is read back.

* `Decimal` — a sign, the digits as one number, and how many of them stand behind the point;
* `Decimal.nearest` — the double nearest to a decimal;
* `fixedPoint` — a natural number of `10 ^ -places` written with a point;
* `Double.toFixed` — a double rounded to a number of places, the exact value deciding and a half
  going to the even digit.
-/

namespace PanelKeys.Number

-- Powers are those of natural numbers, also where monoids are known.
attribute [local instance (high)] instPowNat

/-- The decimal `± digits / 10 ^ places`. -/
structure Decimal where
  negative : Bool
  digits : Nat
  places : Nat
  deriving DecidableEq

namespace Decimal

/-- The double nearest to the decimal; a sign is kept on zero. -/
def nearest (d : Decimal) : Double := Double.ofRatio d.negative d.digits (10 ^ d.places)

end Decimal

/-- Writes `n / 10 ^ places` with exactly `places` digits behind the point. -/
def fixedPoint (places n : Nat) : List Char :=
  Nat.toDigits 10 (n / 10 ^ places) ++
    '.' :: (Nat.toDigits 10 (n % 10 ^ places)).leftpad places '0'

namespace Double

def signText (negative : Bool) : List Char := if negative then ['-'] else []

/-- Writes the exact value rounded to `places` places, a half to the even digit. -/
def toFixed (places : Nat) : Double → List Char
  | .nan => ['N', 'a', 'N']
  | .infinite negative => signText negative ++ ['i', 'n', 'f']
  | .finite negative m =>
      signText negative ++ fixedPoint places (halfEven (m.units * 10 ^ places) (2 ^ unitPlaces))

end Double

example : fixedPoint 3 1005 = ['1', '.', '0', '0', '5'] := by decide

end PanelKeys.Number
