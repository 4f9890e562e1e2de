import Mathlib.Data.List.Flatten
import Mathlib.Data.List.Nodup
import Mathlib.Tactic.Common
import PanelKeys.Panel.Host

/-!
# Row and cell numbers

Rows and cells are numbered by one counter that only grows.  So a number stands for one row or one
cell as long as it is in use, and a number that has gone out of use does not come back.

* `Host.numbers` — the numbers on the panel, those of a row before those of its cells;
* `Host.WellNumbered` — they are distinct, and the counter has reached them;
* `PanelChange` — **all that can happen to the rows**: one is added under fresh numbers, or some go;
* `perform_panelChange` — every edit of the application is of this kind;
* `snapshot_eq_rows` — with distinct numbers, asking for each row by its identity gives the rows as
  they are;
* `old_or_fresh` — a cell on the changed panel was there before or has a number beyond the old
  counter.
-/

namespace PanelKeys

/-- The number of the row, then those of its cells. -/
def Row.numbers (r : Row) : List Nat := r.id :: r.cells

namespace Host

/-- All numbers on the panel. -/
def numbers (h : Host) : List Nat := h.rows.flatMap Row.numbers

/-- No number stands for two things, and none is ahead of the counter. -/
structure WellNumbered (h : Host) : Prop where
  nodup : h.numbers.Nodup
  le_lastId : ∀ n ∈ h.numbers, n ≤ h.lastId

/-- What can happen to the rows and to the counter. -/
inductive PanelChange (h h' : Host) : Prop where
  | shrunk (rows : h'.rows.Sublist h.rows) (lastId : h'.lastId = h.lastId)
  | added (row : Row) (rows : h'.rows = h.rows ++ [row]) (nodup : row.numbers.Nodup)
      (fresh : ∀ n ∈ row.numbers, h.lastId < n ∧ n ≤ h'.lastId) (grown : h.lastId ≤ h'.lastId)

lemma PanelChange.of_eq {h h' : Host} (rows : h'.rows = h.rows) (lastId : h'.lastId = h.lastId) :
    PanelChange h h' :=
  .shrunk (by rw [rows]) lastId

lemma wellNumbered_empty : empty.WellNumbered := ⟨List.nodup_nil, by simp [numbers, empty]⟩

lemma PanelChange.lastId_le {h h' : Host} (hc : PanelChange h h') : h.lastId ≤ h'.lastId := by
  cases hc with
  | shrunk _ lastId => exact Nat.le_of_eq lastId.symm
  | added _ _ _ _ grown => exact grown

/-- **Fresh numbers stay distinct from all others.** -/
theorem WellNumbered.change {h h' : Host} (hn : h.WellNumbered) (hc : PanelChange h h') :
    h'.WellNumbered := by
  cases hc with
  | shrunk rows lastId =>
      have hsub : h'.numbers.Sublist h.numbers := rows.flatMap Row.numbers
      refine ⟨hsub.nodup hn.nodup, fun n hmem => ?_⟩
      rw [lastId]
      exact hn.le_lastId n (hsub.subset hmem)
  | added row rows nodup fresh grown =>
      have hnum : h'.numbers = h.numbers ++ row.numbers := by simp [numbers, rows]
      refine ⟨?_, fun n hmem => ?_⟩
      · rw [hnum]
        refine List.nodup_append.2 ⟨hn.nodup, nodup, ?_⟩
        intro a ha b hb hab
        have hle := hn.le_lastId a ha
        have hlt := (fresh b hb).1
        omega
      · rw [hnum] at hmem
        rcases List.mem_append.1 hmem with hold | hnew
        · exact Nat.le_trans (hn.le_lastId n hold) grown
        · exact (fresh n hnew).2

/-! ## Edits -/

lemma panel_invoke (id : String) (h : Host) :
    (h.invoke id).2.rows = h.rows ∧ (h.invoke id).2.lastId = h.lastId
      ∧ (h.invoke id).2.store = h.store := by
  simp only [invoke]
  split <;> exact ⟨rfl, rfl, rfl⟩

lemma panel_toggleNode (index : Nat) (h : Host) :
    (h.toggleNode index).2.rows = h.rows ∧ (h.toggleNode index).2.lastId = h.lastId
      ∧ (h.toggleNode index).2.store = h.store := by
  simp only [toggleNode]
  split <;> exact ⟨rfl, rfl, rfl⟩

lemma panel_toggleAll (h : Host) :
    h.toggleAll.2.rows = h.rows ∧ h.toggleAll.2.lastId = h.lastId
      ∧ h.toggleAll.2.store = h.store := by
  simp only [toggleAll]
  split <;> exact ⟨rfl, rfl, rfl⟩

lemma rows_writeText (cell : CellId) (text : String) (h : Host) :
    (h.writeText cell text).2.rows = h.rows ∧ (h.writeText cell text).2.lastId = h.lastId := by
  simp only [writeText]
  split <;> exact ⟨rfl, rfl⟩

lemma panelChange_removeRow (index : Nat) (h : Host) : PanelChange h (h.removeRow index) := by
  simp only [removeRow]
  split
  · exact .shrunk (List.eraseIdx_sublist ..) rfl
  · exact .of_eq rfl rfl

/-- Every edit adds one row under fresh numbers, takes rows away, or leaves them alone. -/
theorem perform_panelChange (edit : HostEdit) (h : Host) : PanelChange h (h.perform edit).2 := by
  cases edit with
  | pushScalar label text =>
      refine .added ⟨h.lastId + 1, label, .scalar (h.lastId + 2)⟩ rfl ?_ ?_ ?_
      · simp [Row.numbers, Row.cells, RowValue.cells]
      · simp [Row.numbers, Row.cells, RowValue.cells, perform, pushScalar, newRowId, newCell,
          appendRow]
      · show h.lastId ≤ h.lastId + 1 + 1
        omega
  | pushVector label x y z =>
      refine .added ⟨h.lastId + 1, label,
        .vector ⟨h.lastId + 2, h.lastId + 3, h.lastId + 4⟩⟩ rfl ?_ ?_ ?_
      · simp [Row.numbers, Row.cells, RowValue.cells, VectorCells.toList]
      · simp [Row.numbers, Row.cells, RowValue.cells, VectorCells.toList, perform, pushVector,
          newRowId, newCell, appendRow]
      · show h.lastId ≤ h.lastId + 1 + 1 + 1 + 1
        omega
  | pushHeader label =>
      refine .added ⟨h.lastId + 1, label, .empty⟩ rfl ?_ ?_ ?_
      · simp [Row.numbers, Row.cells, RowValue.cells]
      · simp [Row.numbers, Row.cells, RowValue.cells, perform, pushHeader, newRowId, appendRow]
      · show h.lastId ≤ h.lastId + 1
        omega
  | removeRow index => exact panelChange_removeRow index h
  | clearRows => exact .shrunk (List.nil_sublist _) rfl
  | addToggle id active => exact .of_eq rfl rfl
  | addCommand id => exact .of_eq rfl rfl
  | setNodes count => exact .of_eq rfl rfl
  | overwrite cell text => exact .of_eq rfl rfl
  | writeText cell text =>
      exact .of_eq (rows_writeText cell text h).1 (rows_writeText cell text h).2
  | invoke id => exact .of_eq (panel_invoke id h).1 (panel_invoke id h).2.1
  | toggleNode index => exact .of_eq (panel_toggleNode index h).1 (panel_toggleNode index h).2.1
  | toggleAll => exact .of_eq (panel_toggleAll h).1 (panel_toggleAll h).2.1
  | notify message positive => exact .of_eq rfl rfl

/-! ## The panel as it is seen -/

lemma ids_sublist_numbers (rows : List Row) :
    (rows.map (·.id)).Sublist (rows.flatMap Row.numbers) := by
  rw [List.map_eq_flatMap]
  exact List.Sublist.flatMap_right rows fun row _ => by simp [Row.numbers]

lemma cells_sublist_numbers (rows : List Row) :
    (rows.flatMap Row.cells).Sublist (rows.flatMap Row.numbers) :=
  List.Sublist.flatMap_right rows fun row _ => List.sublist_cons_self row.id row.cells

lemma WellNumbered.row?_eq {h : Host} (hn : h.WellNumbered) {row : Row} (hrow : row ∈ h.rows) :
    h.row? row.id = some row := by
  have hids : (h.rows.map (·.id)).Nodup := (ids_sublist_numbers h.rows).nodup hn.nodup
  have hfound : (h.row? row.id).isSome := by
    rw [row?, List.find?_isSome]
    exact ⟨row, hrow, by simp⟩
  obtain ⟨other, hother⟩ := Option.isSome_iff_exists.1 hfound
  have hid : other.id = row.id := by simpa using List.find?_some hother
  have hsame : other = row :=
    List.inj_on_of_nodup_map hids (List.mem_of_find?_eq_some hother) hrow hid
  rw [hother, hsame]

/-- A row that is asked for by its identity is put together as it was. -/
lemma ofReport_report {h : Host} {row : Row} (hrow : h.row? row.id = some row) :
    Row.ofReport row.id (h.report row.id) = row := by
  obtain ⟨id, label, value⟩ := row
  cases value <;> simp [report, hrow, Row.ofReport, RowReport.value]

/-- **The panel is seen as it is**: every row once, in order, under its own label, with its own
cells. -/
theorem WellNumbered.snapshot_eq_rows {h : Host} (hn : h.WellNumbered) : h.snapshot = h.rows := by
  rw [snapshot, visibleRows, List.map_map]
  calc h.rows.map ((fun id => Row.ofReport id (h.report id)) ∘ (·.id))
      = h.rows.map id := List.map_congr_left fun row hrow => ofReport_report (hn.row?_eq hrow)
    _ = h.rows := List.map_id _

lemma map_cell_panelCells (rows : List Row) :
    (PanelKeys.panelCells rows).map (·.cell) = rows.flatMap Row.cells := by
  simp [PanelKeys.panelCells, List.map_flatMap, Function.comp_def]

lemma WellNumbered.panelCells_eq {h : Host} (hn : h.WellNumbered) :
    h.panelCells = PanelKeys.panelCells h.rows := by
  rw [Host.panelCells, hn.snapshot_eq_rows]

/-- A cell is listed once, so it does not show a length in one place and an angle in another. -/
lemma WellNumbered.panelCell_unique {h : Host} (hn : h.WellNumbered) {a b : PanelCell}
    (ha : a ∈ h.panelCells) (hb : b ∈ h.panelCells) (hab : a.cell = b.cell) : a = b := by
  rw [hn.panelCells_eq] at ha hb
  have hcells : ((PanelKeys.panelCells h.rows).map (·.cell)).Nodup := by
    rw [map_cell_panelCells]
    exact (cells_sublist_numbers h.rows).nodup hn.nodup
  exact List.inj_on_of_nodup_map hcells ha hb hab

lemma WellNumbered.cell_le_lastId {h : Host} (hn : h.WellNumbered) {c : PanelCell}
    (hc : c ∈ h.panelCells) : c.cell ≤ h.lastId := by
  rw [hn.panelCells_eq] at hc
  have hmem : c.cell ∈ (PanelKeys.panelCells h.rows).map (·.cell) := List.mem_map_of_mem hc
  rw [map_cell_panelCells] at hmem
  exact hn.le_lastId _ ((cells_sublist_numbers h.rows).subset hmem)

/-- **Numbers are not used again**: what is on the panel after a change was there before, or is
new. -/
theorem WellNumbered.old_or_fresh {h h' : Host} (hn : h.WellNumbered) (hc : PanelChange h h')
    {c : PanelCell} (hmem : c ∈ h'.panelCells) : c ∈ h.panelCells ∨ h.lastId < c.cell := by
  rw [(hn.change hc).panelCells_eq] at hmem
  rw [hn.panelCells_eq]
  simp only [PanelKeys.panelCells, List.mem_flatMap] at hmem ⊢
  obtain ⟨row, hrow, hcell⟩ := hmem
  cases hc with
  | shrunk rows _ => exact Or.inl ⟨row, rows.subset hrow, hcell⟩
  | added new rows _ fresh _ =>
      rw [rows] at hrow
      rcases List.mem_append.1 hrow with hold | hnew
      · exact Or.inl ⟨row, hold, hcell⟩
      · rw [List.mem_singleton.1 hnew] at hcell
        obtain ⟨cell, hin, rfl⟩ := List.mem_map.1 hcell
        exact Or.inr (fresh cell (List.mem_cons_of_mem _ hin)).1

end Host

end PanelKeys
