import PanelKeys.Table

/-!
# The cells of the panel

A cell shows one text.  The application owns the cells: it creates them, changes them, locks them
and takes them away whenever it likes.  This side may only read a cell and ask for its text to be
replaced, and such a request can fail.

* `CellStore.read?` — the text of a cell that exists;
* `CellStore.write?` — a text replaced at our request; `none` if the cell is gone or locked.  **Only
  these replacements are counted**;
* `CellStore.put`, `CellStore.overwrite`, `CellStore.remove` — what the application does by itself.
-/

namespace PanelKeys

/-- The identity of a cell, as long as the application keeps it. -/
abbrev CellId := Nat

/-- The text that a cell shows; a locked cell refuses to be written. -/
structure Cell where
  text : String
  locked : Bool := false
  deriving DecidableEq

/-- The cells that exist, and how many writes have succeeded. -/
structure CellStore where
  cells : Table CellId Cell := .empty
  writes : Nat := 0
  deriving DecidableEq

namespace CellStore

def empty : CellStore := {}

def contains (s : CellStore) (id : CellId) : Bool := s.cells.contains id

/-- The text of a cell that exists. -/
def read? (s : CellStore) (id : CellId) : Option String := (s.cells.get? id).map (·.text)

/-- Replaces the text at our request; fails for cells that are gone or locked. -/
def write? (s : CellStore) (id : CellId) (text : String) : Option CellStore :=
  match s.cells.get? id with
  | some cell =>
      if cell.locked then none
      else some ⟨s.cells.insert id { cell with text }, s.writes + 1⟩
  | none => none

/-- The application creates a cell, or changes all of it. -/
def put (s : CellStore) (id : CellId) (cell : Cell) : CellStore :=
  { s with cells := s.cells.insert id cell }

/-- The application changes the text of a cell, if it exists. -/
def overwrite (s : CellStore) (id : CellId) (text : String) : CellStore :=
  match s.cells.get? id with
  | some cell => s.put id { cell with text }
  | none => s

def remove (s : CellStore) (id : CellId) : CellStore := { s with cells := s.cells.erase id }

def removeAll (s : CellStore) (ids : List CellId) : CellStore := ids.foldl remove s

end CellStore

end PanelKeys
