import PanelKeys.Proofs.Panel.Stock
import PanelKeys.Proofs.Session.Coherence

/-!
# What a session does to one cell

A session changes cells in two ways only: a pass brings them to their texts, and the way back to
millimeters writes them out.  Both treat every cell by itself, so what becomes of a cell can be told
from its own entry, text and lock.

* `CellView.restored` — the way back, seen from one cell; `get?_restore` — and it is this for every
  cell, since a ledger has one entry for each;
* `locked_brought`, `locked_restored`, `locked_effect` — neither way makes, removes or locks a cell,
  and so no command does;
* `Workbench.view`, `view_reconcile` — a cell of a session at work, and what a pass makes of it;
* **`Reachable.stocked`** — so the cells are those of the rows, and none is locked, in every state.
-/

namespace PanelKeys

open PanelKeys.Length
open PanelKeys.Number

namespace CellView

/-- What the way back makes of a cell: its length in millimeters, unless the application has changed
it since or does not let it be written. -/
def restored (v : CellView) : Option Cell :=
  match v.entry with
  | none => v.cell
  | some e => v.cell.map fun cell =>
      if e.shown = cell.text ∧ cell.locked = false then
        { cell with text := Millimeter.text e.length }
      else cell

/-! ## Locks -/

lemma locked_presenting (policy : Policy) (cell : Cell) (mm : Double) :
    (presenting policy cell mm).cell.map (·.locked) = some cell.locked := by
  simp only [presenting]
  split
  · rfl
  · split <;> rfl

lemma locked_brought (policy : Policy) (v : CellView) :
    (v.brought policy).cell.map (·.locked) = v.cell.map (·.locked) := by
  simp only [brought]
  split
  · next hcell => rw [hcell]
  · next cell hcell =>
      rw [hcell]
      split
      · rfl
      · next mm _ => exact locked_presenting policy cell mm

lemma locked_iterate_brought (policy : Policy) (n : Nat) (v : CellView) :
    ((brought policy)^[n] v).cell.map (·.locked) = v.cell.map (·.locked) := by
  induction n generalizing v with
  | zero => rfl
  | succ n ih => rw [Function.iterate_succ_apply, ih, locked_brought]

lemma locked_restored (v : CellView) : v.restored.map (·.locked) = v.cell.map (·.locked) := by
  simp only [restored]
  split
  · rfl
  · cases v.cell with
    | none => rfl
    | some cell =>
        simp only [Option.map_some]
        split <;> rfl

end CellView

/-! ## The way back -/

namespace Ledger

lemma get?_restoreCell_self (s : CellStore × Nat) (cell : CellId) (e : Captured) :
    (restoreCell s (cell, e)).1.cells.get? cell
      = (⟨some e, s.1.cells.get? cell⟩ : CellView).restored := by
  simp only [restoreCell, CellStore.read?, CellView.restored]
  cases hcell : s.1.cells.get? cell with
  | none => simp [hcell]
  | some c =>
      by_cases hshown : e.shown = c.text
      · by_cases hnative : Millimeter.text e.length = c.text
        · simp [hshown, hnative, hcell]
        · cases hlocked : c.locked with
          | true => simp [CellStore.write?, hcell, hshown, hlocked]
          | false => simp [CellStore.write?, hcell, hshown, hnative, hlocked]
      · simp [hshown, Ne.symm hshown, hcell]

lemma get?_restoreCell_of_ne (s : CellStore × Nat) {e : CellId × Captured} {id : CellId}
    (h : e.1 ≠ id) : (restoreCell s e).1.cells.get? id = s.1.cells.get? id := by
  simp only [restoreCell]
  split
  · rfl
  · split
    · rfl
    · split
      · next store hwrite =>
          obtain ⟨c, -, -, rfl⟩ := CellStore.write?_eq_some hwrite
          exact Table.get?_insert_of_ne _ _ h
      · rfl

lemma get?_foldl_restoreCell {entries : List (CellId × Captured)}
    (hnodup : (entries.map Prod.fst).Nodup) (s : CellStore × Nat) (id : CellId) :
    (entries.foldl restoreCell s).1.cells.get? id
      = (⟨Table.lookupIn id entries, s.1.cells.get? id⟩ : CellView).restored := by
  induction entries generalizing s with
  | nil => rfl
  | cons e rest ih =>
      obtain ⟨cell, entry⟩ := e
      obtain ⟨hcell, hrest⟩ := List.nodup_cons.1 hnodup
      rw [List.foldl_cons, ih hrest]
      by_cases hid : cell = id
      · subst hid
        have hnone : Table.lookupIn cell rest = none := Table.lookupIn_eq_none hcell
        rw [hnone, get?_restoreCell_self]
        simp [Table.lookupIn, CellView.restored]
      · rw [get?_restoreCell_of_ne s hid]
        simp [Table.lookupIn, hid]

/-- **The way back treats every cell by itself**, in whatever order the entries come. -/
theorem get?_restore (l : Ledger) (store : CellStore) (id : CellId) :
    (l.restore store).1.cells.get? id = (⟨l.get? id, store.cells.get? id⟩ : CellView).restored :=
  get?_foldl_restoreCell l.entries.nodupKeys (store, 0) id

end Ledger

/-! ## A session at work -/

namespace Workbench

/-- A cell of the application and its entry in the session's ledger. -/
def view (w : Workbench) (id : CellId) : CellView :=
  ⟨w.session.ledger.get? id, w.host.store.cells.get? id⟩

/-- A pass in inches, seen from one cell; the sweep takes the entries of cells that are not
listed. -/
lemma view_reconcile {w : Workbench} (hunit : w.session.policy.unit = .inch) (id : CellId) :
    w.reconcile.view id
      = (CellView.brought w.session.policy)^[w.host.panelCells.count ⟨id, false⟩]
          ⟨(w.session.ledger.sweep w.host.panelCells).get? id, w.host.store.cells.get? id⟩ := by
  rw [← Ledger.view_reconcile]
  simp [view, Pass.view, reconcile, Session.reconcile, Policy.isInch, hunit]

lemma view_reconcile_of_listed {w : Workbench} (hunit : w.session.policy.unit = .inch) {id : CellId}
    {angle : Bool} (h : ⟨id, angle⟩ ∈ w.host.panelCells) :
    w.reconcile.view id
      = (CellView.brought w.session.policy)^[w.host.panelCells.count ⟨id, false⟩] (w.view id) := by
  have hlive : (w.host.panelCells.any fun c => c.cell = id) = true :=
    List.any_eq_true.2 ⟨⟨id, angle⟩, h, by simp⟩
  rw [view_reconcile hunit, Ledger.get?_sweep, if_pos hlive, view]

/-- A pass makes, removes and locks no cell, and neither does a command. -/
lemma locked_reconcile (w : Workbench) (id : CellId) :
    (w.reconcile.host.store.cells.get? id).map (·.locked)
      = (w.host.store.cells.get? id).map (·.locked) := by
  cases hunit : w.session.policy.unit with
  | millimeter => rw [reconcile_of_millimeter hunit]
  | inch =>
      have hcell : w.reconcile.host.store.cells.get? id = (w.reconcile.view id).cell := rfl
      rw [hcell, view_reconcile hunit, CellView.locked_iterate_brought]

lemma locked_effect {w w' : Workbench} (he : Effect w w') (id : CellId) :
    (w'.host.store.cells.get? id).map (·.locked) = (w.host.store.cells.get? id).map (·.locked) := by
  cases he with
  | kept same => rw [same.store]
  | presented policy unit eq =>
      rw [eq]
      exact locked_reconcile (w.withPolicy policy) id
  | restored unit session host =>
      rw [host]
      show ((w.session.ledger.restore w.host.store).1.cells.get? id).map _ = _
      rw [Ledger.get?_restore, CellView.locked_restored]

lemma rows_effect {w w' : Workbench} (he : Effect w w') : w'.host.rows = w.host.rows := by
  cases he with
  | kept same => exact same.rows
  | presented policy unit eq =>
      rw [eq]
      exact rows_reconcile (w.withPolicy policy)
  | restored unit session host => rw [host]

lemma stocked_reconcile {w : Workbench} (hs : w.host.Stocked) : w.reconcile.host.Stocked :=
  hs.of_eq (rows_reconcile w) (locked_reconcile w)

lemma stocked_effect {w w' : Workbench} (hs : w.host.Stocked) (he : Effect w w') :
    w'.host.Stocked :=
  hs.of_eq (rows_effect he) (locked_effect he)

/-- **The cells are those of the rows, and none is locked**, in every state that can be reached. -/
theorem Reachable.stocked {w : Workbench} (h : w.Reachable) : w.host.Stocked := by
  induction h with
  | new policy actionIds cameraViews => exact Host.stocked_empty
  | step event hreach ih =>
      cases event with
      | execute command => exact stocked_effect ih (execute_effect _ command)
      | reconcile => exact stocked_reconcile ih
      | reconfigure actionIds cameraViews => exact ih
      | edit edit => exact ih.perform hreach.coherent.numbered edit

end Workbench

end PanelKeys
