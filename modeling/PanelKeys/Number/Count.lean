/-!
# Counts

Rows, nodes and views are picked by a typed count, and a count of inch fractions decides how a
length looks.  Both are 64-bit numbers that stop at the largest one instead of starting over: a
count of a hundred digits picks a row that does not exist, never row 3.

* `maxCount` — the largest count;
* `saturatingAdd`, `saturatingMul` — sum and product, held at the largest count;
* `countOfDigits` — the count that a string of digits spells.
-/

namespace PanelKeys.Number

/-- The largest count of 64 bits; whatever exceeds it becomes it. -/
def maxCount : Nat := 18446744073709551615

def saturatingAdd (a b : Nat) : Nat := min (a + b) maxCount

def saturatingMul (a b : Nat) : Nat := min (a * b) maxCount

/-- The value of one digit. -/
def digitValue (c : Char) : Nat := c.toNat - '0'.toNat

/-- One more digit at the end of a count. -/
def pushDigit (n : Nat) (c : Char) : Nat := saturatingAdd (saturatingMul n 10) (digitValue c)

/-- The count that the digits among these characters spell; none at all spell zero. -/
def countOfDigits (cs : List Char) : Nat := (cs.filter Char.isDigit).foldl pushDigit 0

example : countOfDigits ['0', '1', '2'] = 12 := by decide

end PanelKeys.Number
