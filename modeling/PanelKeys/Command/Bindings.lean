import PanelKeys.Command.Basic
import PanelKeys.Command.Chord
import PanelKeys.Table

/-!
# Bindings and the view menu

Two tables turn keys into commands.  `BindingTable` is asked when no sequence has been begun,
`ViewMenu` after `v`.  Both are listed in prompts, so both keep the order in which their keys first
arrived; an entry that is replaced keeps its place.

* `Labelled` — a command and the label under which prompts list it;
* `BindingTable.bind` — adds or replaces a binding; **reserved chords are refused**;
* `BindingTable.standard`, `ViewMenu.standard` — the tables without any settings.
-/

namespace PanelKeys

open PanelKeys.Panel

/-- A command with the label under which it is listed. -/
structure Labelled where
  command : Command
  label : String
  deriving DecidableEq

/-- The commands of single chords, outside any sequence. -/
abbrev BindingTable := Table Chord Labelled

/-- The commands of single keys after `v`. -/
abbrev ViewMenu := Table Char Labelled

/-- A chord that begins a sequence cannot be bound. -/
inductive BindingError where
  | reserved (chord : Chord)
  deriving DecidableEq

def BindingError.message : BindingError → String
  | reserved chord => s!"`{chord.text}` is reserved for key sequences"

namespace BindingTable

/-- Adds a binding, or replaces the one of the same chord in its place. -/
def bind (t : BindingTable) (chord : Chord) (entry : Labelled) :
    Except BindingError BindingTable :=
  if chord.isReserved then .error (.reserved chord) else .ok (t.insert chord entry)

def tool (action label : String) : Labelled := ⟨.toggleTool action label, label⟩

/-- The bindings without any settings. -/
def standard : BindingTable := Table.ofList [
  (.plain 'u', ⟨.toggleUnit, "Toggle mm / inch"⟩),
  (.shifted 'u', ⟨.cyclePrecision, "Cycle inch precision"⟩),
  (.shifted 'f', ⟨.toggleFeet, "Toggle feet"⟩),
  (.plain 'm', tool "measure" "Measure"),
  (.plain 's', tool "section" "Section"),
  (.plain 'i', tool "inspector" "Inspector"),
  (.shifted 'i', tool "isolate" "Isolate"),
  (.plain 'e', tool "explode" "Explode"),
  (.plain 'f', tool "fit" "Fit to view")]

end BindingTable

namespace ViewMenu

def viewOption (action label : String) : Labelled := ⟨.toggleViewOption action label, label⟩

def gridPlane (axis : Axis) : Labelled :=
  ⟨.toggleGridPlane axis, s!"Grid plane {axis.capital}"⟩

/-- The menu without any settings: five view options and the three grid planes. -/
def standard : ViewMenu := Table.ofList ([
  ('g', viewOption "grid" "Grid"),
  ('e', viewOption "edges" "Edges"),
  ('w', viewOption "wireframe" "Wireframe"),
  ('p', viewOption "perspective" "Perspective"),
  ('t', viewOption "transparency" "Transparency")]
    ++ Axis.all.map fun axis => (axis.toChar, gridPlane axis))

end ViewMenu

end PanelKeys
