import PanelKeys.Session.Ledger

/-!
# Copied texts

Four commands copy from the panel: one row, one component of a vector row, the first row that has a
value, and the whole table.  They share one way of reading a cell: a converted cell gives its length
under the policy, any other its text without the blanks around it.

* `Screen` — what is read: the ledger, the cells and the policy;
* `Screen.rowText`, `Screen.axisText` — a row by its number, counted from one;
* `Screen.primaryText` — **rows that show nothing, or whose cells have gone, are passed over**;
* `Screen.tableText` — a line for each row: the label, and after tabs the values.
-/

namespace PanelKeys

open PanelKeys.Length
open PanelKeys.Panel
open PanelKeys.Text

/-- The things that commands count from one. -/
inductive Counted where
  | row
  | node
  | cameraView
  deriving DecidableEq

def Counted.text : Counted → String
  | row => "Row"
  | node => "Node"
  | cameraView => "Camera view"

/-- Why a command could not be carried out. -/
inductive CommandError where
  | actionMissing (label : String)
  | sceneEmpty
  | cellMissing
  | outOfRange (what : Counted) (index available : Nat)
  | notVector (index : Nat)
  | nothingToCopy
  | noValue (index : Nat)
  deriving DecidableEq

def CommandError.message : CommandError → String
  | actionMissing label => s!"{label} is not ready"
  | sceneEmpty => "Scene tree is not ready"
  | cellMissing => "Panel cell is not ready"
  | outOfRange what index available =>
      s!"{what.text} {index} is out of range ({available} available)"
  | notVector index => s!"Row {index} has no x/y/z value"
  | nothingToCopy => "Nothing to copy"
  | noValue index => s!"Row {index} has no value to copy"

/-- The element with this number, counted from one. -/
def nth? {α : Type} (items : List α) (index : Nat) : Option α :=
  if index = 0 then none else items[index - 1]?

/-- The element with this number, or the complaint that there is none. -/
def nthOf {α : Type} (what : Counted) (items : List α) (index : Nat) : Except CommandError α :=
  match nth? items index with
  | some item => .ok item
  | none => .error (.outOfRange what index items.length)

/-- What copied texts are read from. -/
structure Screen where
  ledger : Ledger
  store : CellStore
  policy : Policy

namespace Screen

def cellText (s : Screen) (cell : CellId) : Except CommandError String :=
  match s.ledger.reading? s.store cell with
  | some (.length mm) => .ok (s.policy.render mm)
  | some (.text displayed) => .ok displayed
  | none => .error .cellMissing

/-- The values of a row, the components of a vector with tabs between them; `none` if it shows
none. -/
def valueText (s : Screen) (row : Row) : Except CommandError (Option String) :=
  match row.value with
  | .empty => .ok none
  | .scalar cell => (s.cellText cell).map some
  | .vector cells => (cells.toList.mapM s.cellText).map fun parts => some (joinWith "\t" parts)

def rowText (s : Screen) (rows : List Row) (index : Nat) : Except CommandError String := do
  let row ← nthOf .row rows index
  match ← s.valueText row with
  | some text => .ok text
  | none => .error (.noValue index)

def axisText (s : Screen) (rows : List Row) (index : Nat) (axis : Axis) :
    Except CommandError String := do
  let row ← nthOf .row rows index
  match row.value with
  | .vector cells => s.cellText (cells.get axis)
  | _ => .error (.notVector index)

/-- The values of a row, if it shows any and they can be read. -/
def readable? (s : Screen) (row : Row) : Option String :=
  match s.valueText row with
  | .ok text => text
  | .error _ => none

/-- The first row that shows values which can be read. -/
def primaryText (s : Screen) (rows : List Row) : Except CommandError String :=
  match rows.findSome? s.readable? with
  | some text => .ok text
  | none => .error .nothingToCopy

def tableLine (s : Screen) (row : Row) : Except CommandError String :=
  (s.valueText row).map fun
    | some values => row.label ++ "\t" ++ values
    | none => row.label

/-- One line for each row; a single cell that has gone spoils the table. -/
def tableText (s : Screen) (rows : List Row) : Except CommandError String :=
  if rows.isEmpty then .error .nothingToCopy
  else (rows.mapM s.tableLine).map (joinWith "\n")

end Screen

end PanelKeys
