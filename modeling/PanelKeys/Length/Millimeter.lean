import PanelKeys.Number.Decimal
import PanelKeys.Text.Blank

/-!
# Lengths in millimeters

The panel's own form of a length is a decimal with three places.  It is also what is read back
before a cell is converted, and there more is allowed: any number of places, a sign of either kind,
blanks around the number, and `mm` behind it.

* `Millimeter.text` — a length with three places, zero without a sign;
* `Millimeter.number?` — a signed decimal at the front of a text;
* `Millimeter.parse?` — the length that a text shows, if it shows one and nothing else.

Fractions, inch marks, degree signs, exponents and digits outside ASCII are no lengths, so a cell
that has been converted, or that holds an angle, is not taken for millimeters.
-/

namespace PanelKeys.Length.Millimeter

open PanelKeys.Number
open PanelKeys.Text (dropBlanks)

def places : Nat := 3

/-- Three places; neither zero shows a sign. -/
def text (mm : Double) : String := String.ofList (mm.dropZeroSign.toFixed places)

/-- The typographic minus sign is read as a hyphen. -/
def plainMinus (c : Char) : Char := if c = '\u2212' then '-' else c

/-- A sign at the front, if there is one, and what follows. -/
def splitSign : List Char → Bool × List Char
  | '-' :: rest => (true, rest)
  | '+' :: rest => (false, rest)
  | rest => (false, rest)

/-- The decimal with these digits before and behind the point; a lone point is none. -/
def decimal? (negative : Bool) (whole fraction : List Char) : Option Decimal :=
  if whole.isEmpty && fraction.isEmpty then none
  else some ⟨negative, Nat.ofDigitChars 10 (whole ++ fraction) 0, fraction.length⟩

/-- A signed decimal at the front of a text, and what follows it.  Digits may be missing on one side
of the point, and the point may be missing. -/
def number? (cs : List Char) : Option (Decimal × List Char) :=
  let (negative, body) := splitSign cs
  let whole := body.takeWhile Char.isDigit
  match body.dropWhile Char.isDigit with
  | '.' :: rest =>
      (decimal? negative whole (rest.takeWhile Char.isDigit)).map (·, rest.dropWhile Char.isDigit)
  | rest => (decimal? negative whole []).map (·, rest)

/-- Blanks, with the unit among them at most once. -/
def isUnitTail (cs : List Char) : Bool :=
  match dropBlanks cs with
  | 'm' :: 'm' :: rest => (dropBlanks rest).isEmpty
  | rest => rest.isEmpty

/-- The decimal that a text shows, if it shows one and nothing else. -/
def decimalOf? (cs : List Char) : Option Decimal :=
  match number? (dropBlanks (cs.map plainMinus)) with
  | some (d, rest) => if isUnitTail rest then some d else none
  | none => none

/-- The length that a text shows: the double nearest to its decimal. -/
def parse? (s : String) : Option Double := (decimalOf? s.toList).map Decimal.nearest

end PanelKeys.Length.Millimeter
