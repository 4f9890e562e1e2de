import PanelKeys.Length.Display
import PanelKeys.Panel.Row

/-!
# The ledger of converted cells

While inches are shown, the panel's own texts are replaced.  A text rounded to a fraction of an inch
no longer tells the length it came from, so the ledger keeps, for every converted cell, the length
and the text that was last written.  The application may change a cell at any moment: **a cell that
no longer shows the text last written was changed by the application**, its entry is worthless, and
the cell is read afresh.

* `Ledger.reconcile` — one pass over the panel: every length is brought to its text under the
  policy;
* `Ledger.restore` — back to millimeters; the ledger is empty afterwards;
* `Ledger.sweep`, `Ledger.forget` — entries of cells that have gone;
* `Ledger.reading?` — the best that is known of a cell: its length if the cell still shows what was
  written, else its text.

A cell is written only if its text changes.  Writing always would wake the application's own
observers, which change the cell in turn, and the two sides would never come to rest.
-/

namespace PanelKeys

open PanelKeys.Length
open PanelKeys.Number

/-- The length behind a converted cell and the text that was last written into it. -/
structure Captured where
  length : Double
  shown : String
  deriving DecidableEq

/-- The converted cells. -/
structure Ledger where
  entries : Table CellId Captured := .empty
  deriving DecidableEq

/-- What one pass did.  Skipped are angles, cells that are gone or locked, and texts that show no
length; visited are all cells but the angles. -/
structure Report where
  visited : Nat := 0
  captured : Nat := 0
  foreign : Nat := 0
  written : Nat := 0
  skipped : Nat := 0
  deriving DecidableEq

/-- The best that is known of a cell. -/
inductive Reading where
  | length (mm : Double)
  | text (displayed : String)
  deriving DecidableEq

namespace Ledger

def empty : Ledger := {}

def size (l : Ledger) : Nat := l.entries.size

def isEmpty (l : Ledger) : Bool := l.entries.isEmpty

def get? (l : Ledger) (cell : CellId) : Option Captured := l.entries.get? cell

def record (l : Ledger) (cell : CellId) (entry : Captured) : Ledger :=
  ⟨l.entries.insert cell entry⟩

/-- Drops the entry of a cell. -/
def forget (l : Ledger) (cell : CellId) : Ledger := ⟨l.entries.erase cell⟩

/-- Whether the cell shows something else than what was last written into it. -/
def isForeign (l : Ledger) (cell : CellId) (displayed : String) : Bool :=
  match l.get? cell with
  | some entry => entry.shown ≠ displayed
  | none => false

/-- Keeps the entries of the cells that are listed. -/
def sweep (l : Ledger) (live : List PanelCell) : Ledger :=
  ⟨l.entries.filter fun (cell, _) => live.any fun c => c.cell = cell⟩

/-- The length of a cell that shows what was last written, else its trimmed text; `none` if the cell
is gone. -/
def reading? (l : Ledger) (store : CellStore) (cell : CellId) : Option Reading :=
  (store.read? cell).map fun displayed =>
    match l.get? cell with
    | some entry =>
        if entry.shown = displayed then .length entry.length else .text (Text.trim displayed)
    | none => .text (Text.trim displayed)

end Ledger

/-! ## One pass over the panel -/

/-- A pass under way: the ledger, the cells, and what has been done so far. -/
structure Pass where
  ledger : Ledger
  store : CellStore
  report : Report := {}
  deriving DecidableEq

namespace Pass

def skip (p : Pass) : Pass := { p with report.skipped := p.report.skipped + 1 }

def forget (cell : CellId) (p : Pass) : Pass := { p with ledger := p.ledger.forget cell }

def countVisited (p : Pass) : Pass := { p with report.visited := p.report.visited + 1 }

def countCaptured (p : Pass) : Pass := { p with report.captured := p.report.captured + 1 }

/-- The entry of a cell that the application has changed is dropped. -/
def dropForeign (cell : CellId) (displayed : String) (p : Pass) : Pass :=
  if p.ledger.isForeign cell displayed then
    { p.forget cell with report.foreign := p.report.foreign + 1 }
  else p

/-- The length behind a cell: from the ledger, else read from the text and counted as captured. -/
def lengthOf? (cell : CellId) (displayed : String) (p : Pass) : Option (Double × Pass) :=
  match p.ledger.get? cell with
  | some entry => some (entry.length, p)
  | none => (Millimeter.parse? displayed).map fun mm => (mm, p.countCaptured)

def record (cell : CellId) (entry : Captured) (p : Pass) : Pass :=
  { p with ledger := p.ledger.record cell entry }

/-- Brings a cell to the text of its length.  A cell that cannot be written is forgotten. -/
def present (policy : Policy) (cell : CellId) (displayed : String) (mm : Double) (p : Pass) :
    Pass :=
  let rendered := policy.render mm
  if rendered = displayed then p.record cell ⟨mm, rendered⟩
  else
    match p.store.write? cell rendered with
    | some store =>
        { p with store, report.written := p.report.written + 1 }.record cell ⟨mm, rendered⟩
    | none => (p.forget cell).skip

/-- A length cell of the panel. -/
def visitLength (policy : Policy) (cell : CellId) (p : Pass) : Pass :=
  match p.store.read? cell with
  | none => (p.forget cell).skip
  | some displayed =>
      let p := p.dropForeign cell displayed
      match p.lengthOf? cell displayed with
      | none => p.skip
      | some (mm, p) => p.present policy cell displayed mm

/-- A cell of the panel; angles are left alone. -/
def visit (policy : Policy) (p : Pass) (c : PanelCell) : Pass :=
  if c.angle then p.skip else p.countVisited.visitLength policy c.cell

end Pass

namespace Ledger

/-- Brings every length among the cells to its text under the policy. -/
def reconcile (l : Ledger) (store : CellStore) (policy : Policy) (cells : List PanelCell) : Pass :=
  cells.foldl (Pass.visit policy) { ledger := l, store }

/-- Writes one converted cell back; a cell that the application has changed keeps its text. -/
def restoreCell (s : CellStore × Nat) (e : CellId × Captured) : CellStore × Nat :=
  match s.1.read? e.1 with
  | none => s
  | some displayed =>
      let native := Millimeter.text e.2.length
      if displayed ≠ e.2.shown || native = displayed then s
      else
        match s.1.write? e.1 native with
        | some store => (store, s.2 + 1)
        | none => s

/-- Writes the converted cells back as plain millimeters and tells how many were written.  Nothing
is left to keep in a ledger afterwards. -/
def restore (l : Ledger) (store : CellStore) : CellStore × Nat :=
  l.entries.entries.foldl restoreCell (store, 0)

end Ledger

end PanelKeys
