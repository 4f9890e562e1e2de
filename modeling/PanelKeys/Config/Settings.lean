import PanelKeys.Length.Policy
import PanelKeys.Table

/-!
# Settings

What the user can choose: how long a half-typed sequence waits, how often the panel is looked at,
the units of a new session, the application's names for actions and views, and other keys.

* `Settings` — the choices; every one has a default;
* `Settings.sequenceTimeout`, `Settings.reconcileInterval` — the two times, held in sensible ranges;
* `Settings.sanitized` — **entries with a text longer than 256 bytes are dropped**, the others stay.
-/

namespace PanelKeys

open PanelKeys.Length

/-- Another command for a chord. -/
structure KeybindingEntry where
  keys : String
  action : String
  label : Option String := none
  deriving DecidableEq

/-- Another command for a key of the view menu. -/
structure ViewOptionEntry where
  key : Char
  action : String
  label : Option String := none
  deriving DecidableEq

/-- Holds a number in a range. -/
def clampNat (low high n : Nat) : Nat := max low (min n high)

theorem le_clampNat (low high n : Nat) : low ≤ clampNat low high n := Nat.le_max_left _ _

theorem clampNat_le {low high : Nat} (h : low ≤ high) (n : Nat) : clampNat low high n ≤ high :=
  Nat.max_le.2 ⟨h, Nat.min_le_right _ _⟩

theorem clampNat_of_mem {low high n : Nat} (hl : low ≤ n) (hh : n ≤ high) :
    clampNat low high n = n := by
  rw [clampNat, Nat.min_eq_left hh, Nat.max_eq_right hl]

/-- The views of a new session. -/
def defaultCameraViews : List String :=
  ["view-front", "view-back", "view-top", "view-bottom", "view-left", "view-right", "view-iso"]

/-- The choices of the user; times are in milliseconds. -/
structure Settings where
  sequenceTimeoutMs : Nat := 1000
  reconcileIntervalMs : Nat := 250
  defaultUnit : Length.Unit := .millimeter
  defaultPrecision : Precision := .sixteenth
  feet : Bool := false
  actions : Table String String := .empty
  cameraViews : List String := defaultCameraViews
  keybindings : List KeybindingEntry := []
  viewOptions : List ViewOptionEntry := []
  deriving DecidableEq

namespace Settings

/-- At least a tenth of a second and at most ten. -/
def sequenceTimeout (s : Settings) : Nat := clampNat 100 10000 s.sequenceTimeoutMs

/-- At least a twentieth of a second and at most five. -/
def reconcileInterval (s : Settings) : Nat := clampNat 50 5000 s.reconcileIntervalMs

theorem reconcileInterval_pos (s : Settings) : 0 < s.reconcileInterval :=
  Nat.lt_of_lt_of_le (by decide) (le_clampNat 50 5000 s.reconcileIntervalMs)

theorem sequenceTimeout_pos (s : Settings) : 0 < s.sequenceTimeout :=
  Nat.lt_of_lt_of_le (by decide) (le_clampNat 100 10000 s.sequenceTimeoutMs)

/-- The policy of a new session. -/
def policy (s : Settings) : Policy := ⟨s.defaultUnit, s.defaultPrecision, s.feet⟩

/-- The longest text of an entry, in bytes. -/
def maxTextBytes : Nat := 256

def fits (text : String) : Bool := text.utf8ByteSize ≤ maxTextBytes

def labelFits (label : Option String) : Bool := label.all fits

/-- Drops the entries whose texts are too long. -/
def sanitized (s : Settings) : Settings :=
  { s with
    actions := s.actions.filter fun (name, id) => fits name && fits id
    cameraViews := s.cameraViews.filter fits
    keybindings := s.keybindings.filter fun e => fits e.keys && fits e.action && labelFits e.label
    viewOptions := s.viewOptions.filter fun e => fits e.action && labelFits e.label }

end Settings

end PanelKeys
