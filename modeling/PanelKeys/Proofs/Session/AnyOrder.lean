import PanelKeys.Proofs.Session.Tally

/-!
# The order of the cells does not matter

Rows come in the order in which the panel shows them, and entries in whatever order they are kept.
Neither may have a say in what becomes of a text: all visits share one ledger, one store and one
report, but each of them concerns a single cell, and **how often a cell is listed is all that a list
has to say about it**.

* `view_reconcile_of_perm`, `report_of_perm` — a list of cells in another order;
* `restore_in_order` — the entries in another order;
* **`order_does_not_show`** — both.
-/

namespace PanelKeys

open PanelKeys.Length
open PanelKeys.Number

namespace Ledger

variable (l : Ledger) (store : CellStore) (policy : Policy) {cells cells' : List PanelCell}

lemma view_reconcile_of_perm (h : cells.Perm cells') (id : CellId) :
    (l.reconcile store policy cells).view id = (l.reconcile store policy cells').view id := by
  rw [view_reconcile, view_reconcile, h.count_eq]

lemma report_of_perm (h : cells.Perm cells') :
    (l.reconcile store policy cells).report = (l.reconcile store policy cells').report := by
  have hcells : ∀ c ∈ cells, c.cell ∈ (cells.map PanelCell.cell).toFinset :=
    fun c => cell_mem_listed
  have hcells' : ∀ c ∈ cells', c.cell ∈ (cells.map PanelCell.cell).toFinset := fun c hc =>
    hcells c (h.mem_iff.2 hc)
  rw [report_reconcile l store policy hcells, report_reconcile l store policy hcells', h.countP_eq]
  simp only [h.count_eq]

/-- Entries that are written back in another order. -/
lemma restore_in_order {order : List (CellId × Captured)} (h : order.Perm l.entries.entries) :
    (∀ id, (order.foldl restoreCell (store, 0)).1.cells.get? id = (l.restore store).1.cells.get? id)
      ∧ (order.foldl restoreCell (store, 0)).2 = (l.restore store).2 := by
  have hnodup : (order.map Prod.fst).Nodup := (h.map Prod.fst).nodup_iff.2 l.entries.nodupKeys
  constructor
  · intro id
    rw [get?_foldl_restoreCell hnodup, get?_restore, Table.lookupIn_eq_of_perm hnodup h]
    rfl
  · rw [written_foldl_restoreCell hnodup, written_restore, h.countP_eq, Nat.zero_add]

/-- **The order of the cells does not matter.**  A pass over the same cells in another order leaves
the same texts and the same entries and makes the same report, also where a cell is listed many
times, as a length and as an angle.  The way back leaves the same texts and writes as many cells, in
whatever order it comes upon the entries. -/
theorem order_does_not_show :
    (∀ policy cells cells', List.Perm cells cells' →
        (∀ cell, (l.reconcile store policy cells).store.cells.get? cell
            = (l.reconcile store policy cells').store.cells.get? cell)
          ∧ (∀ cell, (l.reconcile store policy cells).ledger.get? cell
            = (l.reconcile store policy cells').ledger.get? cell)
          ∧ (l.reconcile store policy cells).report = (l.reconcile store policy cells').report)
      ∧ ∀ order : List (CellId × Captured), order.Perm l.entries.entries →
          (∀ cell, (order.foldl restoreCell (store, 0)).1.cells.get? cell
              = (l.restore store).1.cells.get? cell)
            ∧ (order.foldl restoreCell (store, 0)).2 = (l.restore store).2 := by
  refine ⟨fun policy cells cells' h => ?_, fun order h => l.restore_in_order store h⟩
  have hview := l.view_reconcile_of_perm store policy h
  exact ⟨fun cell => congrArg CellView.cell (hview cell),
    fun cell => congrArg CellView.entry (hview cell), l.report_of_perm store policy h⟩

/-- An inch that is now 30 mm, half an inch as it was written, and a locked cell: listed twice, or
as an angle besides, from the back as from the front. -/
theorem order_does_not_show_from_the_back :
    let length (text : String) : Double := (Millimeter.parse? text).getD .nan
    let l := (empty.record 1 ⟨length "12.7", "1/2\""⟩).record 2 ⟨length "25.4", "1\""⟩
    let store := ((CellStore.empty.put 1 ⟨"1/2\"", false⟩).put 2 ⟨"30", false⟩).put 3 ⟨"25.4", true⟩
    let policy : Policy := { unit := .inch }
    let cells : List PanelCell :=
      [⟨1, false⟩, ⟨2, true⟩, ⟨3, false⟩, ⟨2, false⟩, ⟨1, false⟩, ⟨2, false⟩]
    cells.Perm cells.reverse ∧ l.entries.entries.reverse.Perm l.entries.entries
      ∧ (l.reconcile store policy cells.reverse).store.cells.get? 2 = some ⟨"1 3/16\"", false⟩
      ∧ (l.reconcile store policy cells.reverse).ledger.get? 2 = some ⟨length "30", "1 3/16\""⟩
      ∧ (l.reconcile store policy cells.reverse).report
          = { visited := 5, captured := 2, foreign := 1, written := 1, skipped := 2 }
      ∧ (l.entries.entries.reverse.foldl restoreCell (store, 0)).1.cells.get? 1
        = some ⟨"12.700", false⟩
      ∧ (l.entries.entries.reverse.foldl restoreCell (store, 0)).2 = 1 := by
  intro length l store policy cells
  have hcells : cells.Perm cells.reverse := cells.reverse_perm.symm
  have hentries : l.entries.entries.reverse.Perm l.entries.entries := l.entries.entries.reverse_perm
  obtain ⟨hpass, hback⟩ := order_does_not_show l store
  obtain ⟨hshown, hentry, hreport⟩ := hpass policy cells cells.reverse hcells
  obtain ⟨htext, hwritten⟩ := hback l.entries.entries.reverse hentries
  refine ⟨hcells, hentries, ?_, ?_, ?_, ?_, ?_⟩
  · rw [← hshown]
    decide +kernel
  · rw [← hentry]
    decide +kernel
  · rw [← hreport]
    decide +kernel
  · rw [htext]
    decide +kernel
  · rw [hwritten]
    decide +kernel

end Ledger

end PanelKeys
