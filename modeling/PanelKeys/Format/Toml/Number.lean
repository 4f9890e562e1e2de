import PanelKeys.Number.Double
import PanelKeys.Text.Numeral

/-!
# Numbers in TOML

* `integer?` — whole numbers: decimal with a sign, or hexadecimal, octal and binary without one;
  they must fit 64 bits with sign;
* `float?` — numbers with a fraction or an exponent, infinity and not-a-number.  Only whether there
  is such a number is told: **a positive one beyond the largest double is refused**.

Single underscores may stand between two digits.
-/

namespace PanelKeys.Toml

open PanelKeys.Number
open PanelKeys.Text

-- Powers are those of natural numbers, also where monoids are known.
attribute [local instance (high)] instPowNat

/-! ## Digits -/

/-- The digits that go on from a digit, without their underscores. -/
def moreDigits? (radix : Nat) : List Char → Option (List Char × List Char)
  | [] => some ([], [])
  | ['_'] => none
  | '_' :: c :: rest =>
      if isDigitOf radix c then (moreDigits? radix rest).map fun (ds, after) => (c :: ds, after)
      else none
  | c :: rest =>
      if isDigitOf radix c then (moreDigits? radix rest).map fun (ds, after) => (c :: ds, after)
      else some ([], c :: rest)

/-- One digit or more. -/
def digits? (radix : Nat) : List Char → Option (List Char × List Char)
  | [] => none
  | c :: rest =>
      if isDigitOf radix c then (moreDigits? radix rest).map fun (ds, after) => (c :: ds, after)
      else none

/-- The digits of a decimal number: a zero alone, or digits that begin with none. -/
def decimal? : List Char → Option (List Char × List Char)
  | '0' :: rest => some (['0'], rest)
  | cs => digits? 10 cs

/-- Takes a sign off; tells whether it was a minus. -/
def dropSign : List Char → Bool × List Char
  | '-' :: rest => (true, rest)
  | '+' :: rest => (false, rest)
  | cs => (false, cs)

/-! ## Whole numbers -/

/-- The first number that 64 bits with sign do not hold. -/
def integerLimit : Int := 9223372036854775808

/-- The number, if 64 bits with sign hold it. -/
def fitting? (n : Int) : Option Int :=
  if -integerLimit ≤ n && n < integerLimit then some n else none

/-- A number in another radix, behind its mark. -/
def radixInteger? (radix : Nat) (cs : List Char) : Option (Int × List Char) := do
  let (ds, rest) ← digits? radix cs
  some (← fitting? (← radixNumber? radix ds), rest)

def integer? : List Char → Option (Int × List Char)
  | '0' :: 'x' :: rest => radixInteger? 16 rest
  | '0' :: 'o' :: rest => radixInteger? 8 rest
  | '0' :: 'b' :: rest => radixInteger? 2 rest
  | cs => do
      let (negative, cs) := dropSign cs
      let (ds, rest) ← decimal? cs
      let n := Nat.ofDigitChars 10 ds 0
      some (← fitting? (if negative then -n else n), rest)

/-! ## Numbers with a fraction or an exponent -/

/-- The digits behind a point, if there is a point. -/
def fraction? : List Char → Option (List Char × List Char)
  | '.' :: rest => digits? 10 rest
  | _ => none

/-- An exponent, if there is one. -/
def exponent? : List Char → Option (Int × List Char)
  | 'e' :: rest | 'E' :: rest => do
      let (negative, rest) := dropSign rest
      let (ds, rest) ← digits? 10 rest
      let n := Nat.ofDigitChars 10 ds 0
      some (if negative then -n else n, rest)
  | _ => none

/-- The least number that rounds to infinity: half a step above the largest double. -/
def overflowPoint : Nat := 2 ^ overflowPlaces - 2 ^ (overflowPlaces - significantBits - 1)

/-- The decimal `ds · 10^e` rounds to infinity.  Its length and exponent decide far from the
limit. -/
def overflows (ds : List Char) (e : Int) : Bool :=
  let n := Nat.ofDigitChars 10 ds 0
  let length := (ds.dropWhile (· = '0')).length
  if n = 0 || length + e < 309 then false
  else if length + e > 309 then true
  else if e < 0 then overflowPoint * 10 ^ (-e).toNat ≤ n
  else overflowPoint ≤ n * 10 ^ e.toNat

/-- What follows a number with a fraction, an exponent, or both. -/
def decimalFloat? (cs : List Char) : Option (List Char) := do
  let (negative, cs) := dropSign cs
  let (whole, rest) ← decimal? cs
  let bounded (ds : List Char) (e : Int) (rest : List Char) : Option (List Char) :=
    if !negative && overflows ds e then none else some rest
  match fraction? rest with
  | some (fraction, rest) =>
      let (e, rest) := (exponent? rest).getD (0, rest)
      bounded (whole ++ fraction) (e - fraction.length) rest
  | none =>
      let (e, rest) ← exponent? rest
      bounded whole e rest

/-- What follows a number that is not whole. -/
def float? (cs : List Char) : Option (List Char) :=
  match decimalFloat? cs with
  | some rest => some rest
  | none =>
      match (dropSign cs).2 with
      | 'i' :: 'n' :: 'f' :: rest => some rest
      | 'n' :: 'a' :: 'n' :: rest => some rest
      | _ => none

example : integer? "1_000".toList = some (1000, []) := by decide

example : integer? "-0x1".toList = some (0, ['x', '1']) := by decide

end PanelKeys.Toml
