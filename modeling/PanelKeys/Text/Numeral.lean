/-!
# Digits

* `hexValue?` — the value of a digit, up to `f`;
* `radixNumber?` — the number that digits spell in a radix up to sixteen;
* `scalar?` — the character with a number, if there is one.
-/

namespace PanelKeys.Text

/-- The value of a digit; letters may be capitals. -/
def hexValue? (c : Char) : Option Nat :=
  if '0' ≤ c && c ≤ '9' then some (c.toNat - '0'.toNat)
  else if 'a' ≤ c && c ≤ 'f' then some (c.toNat - 'a'.toNat + 10)
  else if 'A' ≤ c && c ≤ 'F' then some (c.toNat - 'A'.toNat + 10)
  else none

/-- Whether a character is a digit of the radix. -/
def isDigitOf (radix : Nat) (c : Char) : Bool := (hexValue? c).any (· < radix)

/-- The number that digits spell in a radix. -/
def radixNumber? (radix : Nat) (cs : List Char) : Option Nat :=
  cs.foldlM (fun n c => (hexValue? c).bind fun d =>
    if d < radix then some (n * radix + d) else none) 0

/-- The character with this number; surrogates and numbers beyond the last are none. -/
def scalar? (n : Nat) : Option Char :=
  if n < 0xD800 || (0xDFFF < n && n < 0x110000) then some (Char.ofNat n) else none

end PanelKeys.Text
