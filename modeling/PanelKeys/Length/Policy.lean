/-!
# How lengths are presented

One policy holds for the whole session: the unit, the smallest fraction of an inch, and whether
whole inches are split into feet.  The last two are kept while millimeters are shown, so that
switching back to inches finds them as they were.

* `Unit`, `Precision` — the two choices, each with its cycle;
* `Policy` — both and the feet flag, with the three commands on it;
* `Policy.text` — the policy as it is reported to the user.
-/

namespace PanelKeys.Length

/-- The unit in which lengths are shown. -/
inductive Unit where
  | millimeter
  | inch
  deriving DecidableEq

namespace Unit

def toggled : Unit → Unit
  | millimeter => inch
  | inch => millimeter

@[simp] theorem toggled_toggled (u : Unit) : u.toggled.toggled = u := by cases u <;> rfl

@[simp] theorem toggled_ne (u : Unit) : u.toggled ≠ u := by cases u <;> decide

end Unit

/-- The smallest fraction of an inch that is shown. -/
inductive Precision where
  | eighth
  | sixteenth
  | thirtySecond
  deriving DecidableEq

/-- A denominator that no precision has. -/
structure UnsupportedPrecision where
  denominator : Nat
  deriving DecidableEq

def UnsupportedPrecision.message (e : UnsupportedPrecision) : String :=
  s!"precision must be 8, 16 or 32, got {e.denominator}"

namespace Precision

def denominator : Precision → Nat
  | eighth => 8
  | sixteenth => 16
  | thirtySecond => 32

theorem denominator_pos (p : Precision) : 0 < p.denominator := by
  cases p <;> decide

/-- Eighths, sixteenths, thirty-seconds, and round again. -/
def next : Precision → Precision
  | eighth => sixteenth
  | sixteenth => thirtySecond
  | thirtySecond => eighth

def ofDenominator (denominator : Nat) : Except UnsupportedPrecision Precision :=
  match denominator with
  | 8 => .ok eighth
  | 16 => .ok sixteenth
  | 32 => .ok thirtySecond
  | other => .error ⟨other⟩

@[simp] theorem next_ne (p : Precision) : p.next ≠ p := by cases p <;> decide

@[simp] theorem next_next_next (p : Precision) : p.next.next.next = p := by cases p <;> rfl

@[simp] theorem ofDenominator_denominator (p : Precision) :
    ofDenominator p.denominator = .ok p := by
  cases p <;> rfl

def text (p : Precision) : String := s!"1/{p.denominator}\""

end Precision

/-- The presentation of lengths for the whole session. -/
structure Policy where
  unit : Unit := .millimeter
  precision : Precision := .sixteenth
  feet : Bool := false
  deriving DecidableEq

namespace Policy

def isInch (p : Policy) : Bool := p.unit = .inch

def toggleUnit (p : Policy) : Policy := { p with unit := p.unit.toggled }

def cyclePrecision (p : Policy) : Policy := { p with precision := p.precision.next }

def toggleFeet (p : Policy) : Policy := { p with feet := !p.feet }

/-- The precision and the feet are named only where they show. -/
def text (p : Policy) : String :=
  match p.unit, p.feet with
  | .millimeter, _ => "mm"
  | .inch, true => s!"inch ({p.precision.text}, feet)"
  | .inch, false => s!"inch ({p.precision.text})"

end Policy

end PanelKeys.Length
