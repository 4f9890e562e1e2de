/-!
# The three components of a vector

A vector row shows three cells, and the keys `x`, `y` and `z` pick one of them.
-/

namespace PanelKeys.Panel

/-- A component of a vector. -/
inductive Axis where
  | x
  | y
  | z
  deriving DecidableEq

namespace Axis

def all : List Axis := [x, y, z]

def ofChar? : Char → Option Axis
  | 'x' => some x
  | 'y' => some y
  | 'z' => some z
  | _ => none

def toChar : Axis → Char
  | x => 'x'
  | y => 'y'
  | z => 'z'

def text (a : Axis) : String := a.toChar.toString

/-- The capital letter, as it stands in labels. -/
def capital : Axis → Char
  | x => 'X'
  | y => 'Y'
  | z => 'Z'

@[simp] theorem ofChar?_toChar (a : Axis) : ofChar? a.toChar = some a := by
  cases a <;> rfl

theorem eq_toChar_of_ofChar? {c : Char} {a : Axis} (h : ofChar? c = some a) : c = a.toChar := by
  simp only [ofChar?] at h
  split at h <;> cases h <;> rfl

end Axis

end PanelKeys.Panel
