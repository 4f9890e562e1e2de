import PanelKeys.Panel.Axis
import PanelKeys.Panel.Cells
import PanelKeys.Text.Letter
import PanelKeys.Text.Split

/-!
# The rows of the panel

Every row has a label and shows one value, the three components of a vector, or nothing.  Which of
these is known only by asking: `RowReport` is what the panel answers about one row, and `Row` what
is made of the answer.

* `RowReport.value` — a row that says it is a vector is read as one, others as a single value, and a
  row without the cells it should have is empty;
* `Row.isAngle` — **a row whose label contains `angle`, in any case, shows angles**, and its cells
  are never converted;
* `panelCells` — all cells of the rows in order, each marked if it shows an angle.
-/

namespace PanelKeys

open PanelKeys.Panel
open PanelKeys.Text

/-- The identity of a row. -/
abbrev RowId := Nat

/-- The cells of a vector. -/
structure VectorCells where
  x : CellId
  y : CellId
  z : CellId
  deriving DecidableEq

namespace VectorCells

def get (v : VectorCells) : Axis → CellId
  | .x => v.x
  | .y => v.y
  | .z => v.z

def toList (v : VectorCells) : List CellId := [v.x, v.y, v.z]

end VectorCells

/-- The value cells of a row. -/
inductive RowValue where
  | empty
  | scalar (cell : CellId)
  | vector (cells : VectorCells)
  deriving DecidableEq

def RowValue.cells : RowValue → List CellId
  | empty => []
  | scalar cell => [cell]
  | vector cells => cells.toList

/-- What the panel answers about one row. -/
structure RowReport where
  label : String := ""
  hasVector : Bool := false
  scalar : Option CellId := none
  vector : Option VectorCells := none
  deriving DecidableEq

def RowReport.value (r : RowReport) : RowValue :=
  if r.hasVector then
    match r.vector with
    | some cells => .vector cells
    | none => .empty
  else
    match r.scalar with
    | some cell => .scalar cell
    | none => .empty

/-- A row as one pass over the panel sees it. -/
structure Row where
  id : RowId
  label : String
  value : RowValue
  deriving DecidableEq

def angleWord : List Char := ['a', 'n', 'g', 'l', 'e']

/-- Whether a label contains the word, in any case.  No character outside ASCII folds to one of its
letters. -/
def namesAngle (label : String) : Bool := isInfixOf angleWord (label.toList.map lowerAscii)

namespace Row

def ofReport (id : RowId) (r : RowReport) : Row := ⟨id, r.label, r.value⟩

def isAngle (r : Row) : Bool := namesAngle r.label

def cells (r : Row) : List CellId := r.value.cells

end Row

/-- A cell of the panel, marked if it shows an angle. -/
structure PanelCell where
  cell : CellId
  angle : Bool
  deriving DecidableEq

/-- All cells of the rows, in order. -/
def panelCells (rows : List Row) : List PanelCell :=
  rows.flatMap fun row => row.cells.map fun cell => ⟨cell, row.isAngle⟩

end PanelKeys
