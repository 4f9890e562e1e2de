import Mathlib.Data.List.Perm.Basic
import PanelKeys.Proofs.Panel.Numbering

/-!
# The cells behind the rows

The application keeps its rows in one place and its cells in another, and an edit has to keep the
two in step.  A cell that outlived its row, or a row whose cell has gone, would be seen by nobody
until a pass came upon it.

* `get?_removeAll` and its companions — what becomes of one cell when the cells are changed;
* `Host.Stocked` — **a cell exists exactly if it belongs to a row**, and then it can be written;
* `Stocked.mem_rowCells_iff`, `Stocked.listed` — so the cells of the rows are those that can be
  read, and a pass sees them;
* `Stocked.perform` — every edit keeps it so.
-/

namespace PanelKeys

namespace CellStore

lemma get?_put (s : CellStore) (cell id : CellId) (c : Cell) :
    (s.put cell c).cells.get? id = if id = cell then some c else s.cells.get? id := by
  simp only [put, Table.get?_insert, eq_comm]

lemma get?_removeAll (s : CellStore) (ids : List CellId) (id : CellId) :
    (s.removeAll ids).cells.get? id = if id ∈ ids then none else s.cells.get? id := by
  induction ids generalizing s with
  | nil => simp [removeAll]
  | cons first rest ih =>
      have hrest : (s.removeAll (first :: rest)).cells.get? id
          = if id ∈ rest then none else (s.remove first).cells.get? id := ih (s.remove first)
      rw [hrest, remove, Table.get?_erase]
      by_cases hfirst : first = id
      · simp [hfirst]
      · simp [hfirst, Ne.symm hfirst]

/-- Changing the text of a cell does not lock it. -/
lemma locked_overwrite (s : CellStore) (cell id : CellId) (text : String) :
    ((s.overwrite cell text).cells.get? id).map (·.locked) = (s.cells.get? id).map (·.locked) := by
  simp only [overwrite]
  split
  · next c hcell =>
      rw [get?_put]
      by_cases hid : id = cell
      · simp [hid, hcell]
      · rw [if_neg hid]
  · rfl

lemma write?_eq_some {s s' : CellStore} {cell : CellId} {text : String}
    (h : s.write? cell text = some s') :
    ∃ c, s.cells.get? cell = some c ∧ c.locked = false
      ∧ s' = ⟨s.cells.insert cell { c with text }, s.writes + 1⟩ := by
  simp only [write?] at h
  split at h
  · next c hcell =>
      split at h
      · simp at h
      · next hlocked => exact ⟨c, hcell, by simpa using hlocked, (Option.some.inj h).symm⟩
  · simp at h

lemma locked_write? {s s' : CellStore} {cell : CellId} {text : String}
    (h : s.write? cell text = some s') (id : CellId) :
    (s'.cells.get? id).map (·.locked) = (s.cells.get? id).map (·.locked) := by
  obtain ⟨c, hcell, hlocked, rfl⟩ := write?_eq_some h
  rw [Table.get?_insert]
  by_cases hid : cell = id
  · subst hid
    simp [hcell]
  · rw [if_neg hid]

end CellStore

namespace Host

/-- The cells of all rows. -/
def rowCells (h : Host) : List CellId := h.rows.flatMap Row.cells

lemma WellNumbered.nodup_rowCells {h : Host} (hn : h.WellNumbered) : h.rowCells.Nodup :=
  (cells_sublist_numbers h.rows).nodup hn.nodup

/-- The cells that exist are those of the rows, and none is locked. -/
def Stocked (h : Host) : Prop :=
  ∀ id, (h.store.cells.get? id).map (·.locked) = if id ∈ h.rowCells then some false else none

lemma stocked_empty : empty.Stocked := fun _ => rfl

lemma Stocked.locked_eq_false {h : Host} (hs : h.Stocked) {id : CellId} {cell : Cell}
    (hcell : h.store.cells.get? id = some cell) : cell.locked = false := by
  have hid := hs id
  rw [hcell] at hid
  split at hid
  · simpa using hid
  · simp at hid

lemma mem_panelCells {h : Host} (hn : h.WellNumbered) {row : Row} (hrow : row ∈ h.rows)
    {cell : CellId} (hcell : cell ∈ row.cells) : ⟨cell, row.isAngle⟩ ∈ h.panelCells := by
  rw [hn.panelCells_eq, PanelKeys.panelCells]
  exact List.mem_flatMap.2 ⟨row, hrow, List.mem_map.2 ⟨cell, hcell, rfl⟩⟩

/-- The cells of the rows are those that exist. -/
lemma Stocked.mem_rowCells_iff {h : Host} (hs : h.Stocked) {cell : CellId} :
    cell ∈ h.rowCells ↔ (h.store.cells.get? cell).isSome = true := by
  have hcell := congrArg Option.isSome (hs cell)
  rw [Option.isSome_map] at hcell
  rw [hcell]
  split <;> simp [*]

/-- A cell that exists is listed. -/
lemma Stocked.listed {h : Host} (hs : h.Stocked) (hn : h.WellNumbered) {id : CellId} {cell : Cell}
    (hcell : h.store.cells.get? id = some cell) : ∃ angle, ⟨id, angle⟩ ∈ h.panelCells := by
  have hmem : id ∈ h.rowCells := hs.mem_rowCells_iff.2 (Option.isSome_of_eq_some hcell)
  obtain ⟨row, hrow, hin⟩ := List.mem_flatMap.1 hmem
  exact ⟨row.isAngle, mem_panelCells hn hrow hin⟩

/-- A cell of a row exists. -/
lemma Stocked.exists_read? {h : Host} (hs : h.Stocked) {row : Row} (hrow : row ∈ h.rows)
    {id : CellId} (hcell : id ∈ row.cells) : ∃ displayed, h.store.read? id = some displayed := by
  have hmem : id ∈ h.rowCells := List.mem_flatMap.2 ⟨row, hrow, hcell⟩
  obtain ⟨cell, hget⟩ := Option.isSome_iff_exists.1 (hs.mem_rowCells_iff.1 hmem)
  exact ⟨cell.text, by rw [CellStore.read?, hget]; rfl⟩

/-- Whatever leaves the rows alone and locks, makes or removes no cell. -/
lemma Stocked.of_eq {h h' : Host} (hs : h.Stocked) (rows : h'.rows = h.rows)
    (locked : ∀ id, (h'.store.cells.get? id).map (·.locked)
      = (h.store.cells.get? id).map (·.locked)) :
    h'.Stocked := by
  intro id
  rw [locked, hs id, rowCells, rowCells, rows]

lemma Stocked.of_panel_eq {h h' : Host} (hs : h.Stocked) (rows : h'.rows = h.rows)
    (store : h'.store = h.store) : h'.Stocked :=
  hs.of_eq rows fun id => by rw [store]

/-- A row comes with its cells. -/
lemma Stocked.added {h h' : Host} (hs : h.Stocked) (row : Row) (rows : h'.rows = h.rows ++ [row])
    (cells : ∀ id, (h'.store.cells.get? id).map (·.locked)
      = if id ∈ row.cells then some false else (h.store.cells.get? id).map (·.locked)) :
    h'.Stocked := by
  intro id
  have hcells : h'.rowCells = h.rowCells ++ row.cells := by simp [rowCells, rows]
  rw [cells, hs id, hcells]
  by_cases hnew : id ∈ row.cells <;> simp [hnew]

/-- A row takes its cells with it: they belong to no other row. -/
lemma Stocked.removeRow {h : Host} (hs : h.Stocked) (hn : h.WellNumbered) (index : Nat) :
    (h.removeRow index).Stocked := by
  simp only [Host.removeRow]
  split
  · next row hrow =>
      obtain ⟨hlt, rfl⟩ := List.getElem?_eq_some_iff.1 hrow
      have hperm :
          (h.rows[index].cells ++ (h.rows.eraseIdx index).flatMap Row.cells).Perm h.rowCells :=
        (List.getElem_cons_eraseIdx_perm hlt).flatMap_right Row.cells
      intro id
      show ((h.store.removeAll h.rows[index].cells).cells.get? id).map (·.locked)
        = if id ∈ (h.rows.eraseIdx index).flatMap Row.cells then some false else none
      rw [CellStore.get?_removeAll]
      by_cases hgone : id ∈ h.rows[index].cells
      · have hdisjoint := (List.nodup_append.1 (hperm.nodup_iff.2 hn.nodup_rowCells)).2.2
        have hrest : id ∉ (h.rows.eraseIdx index).flatMap Row.cells :=
          fun hmem => hdisjoint id hgone id hmem rfl
        simp [hgone, hrest]
      · have hmem : id ∈ h.rowCells ↔ id ∈ (h.rows.eraseIdx index).flatMap Row.cells := by
          rw [← hperm.mem_iff, List.mem_append, or_iff_right hgone]
        rw [if_neg hgone, hs id, if_congr hmem rfl rfl]
  · exact hs

/-- **Every edit keeps the cells and the rows in step.** -/
theorem Stocked.perform {h : Host} (hs : h.Stocked) (hn : h.WellNumbered) (edit : HostEdit) :
    (h.perform edit).2.Stocked := by
  cases edit with
  | pushScalar label text =>
      refine hs.added ⟨h.lastId + 1, label, .scalar (h.lastId + 2)⟩ rfl fun id => ?_
      show ((h.store.put (h.lastId + 2) ⟨text, false⟩).cells.get? id).map (·.locked) = _
      simp only [CellStore.get?_put, Row.cells, RowValue.cells, List.mem_singleton]
      split <;> rfl
  | pushVector label x y z =>
      refine hs.added ⟨h.lastId + 1, label, .vector ⟨h.lastId + 2, h.lastId + 3, h.lastId + 4⟩⟩ rfl
        fun id => ?_
      show ((((h.store.put (h.lastId + 2) ⟨x, false⟩).put (h.lastId + 3) ⟨y, false⟩).put
        (h.lastId + 4) ⟨z, false⟩).cells.get? id).map (·.locked) = _
      simp only [CellStore.get?_put, Row.cells, RowValue.cells, VectorCells.toList, List.mem_cons,
        List.not_mem_nil, or_false]
      by_cases hz : id = h.lastId + 4
      · simp [hz]
      · by_cases hy : id = h.lastId + 3
        · simp [hy]
        · by_cases hx : id = h.lastId + 2
          · simp [hx]
          · simp [hx, hy, hz]
  | pushHeader label =>
      refine hs.added ⟨h.lastId + 1, label, .empty⟩ rfl fun id => ?_
      simp [Row.cells, RowValue.cells]
      rfl
  | removeRow index => exact hs.removeRow hn index
  | clearRows => exact fun _ => rfl
  | overwrite cell text =>
      exact hs.of_eq rfl fun id => CellStore.locked_overwrite h.store cell id text
  | writeText cell text =>
      simp only [Host.perform, writeText]
      split
      · next store hwrite => exact hs.of_eq rfl (CellStore.locked_write? hwrite)
      · exact hs
  | invoke id => exact hs.of_panel_eq (panel_invoke id h).1 (panel_invoke id h).2.2
  | toggleNode index =>
      exact hs.of_panel_eq (panel_toggleNode index h).1 (panel_toggleNode index h).2.2
  | toggleAll => exact hs.of_panel_eq (panel_toggleAll h).1 (panel_toggleAll h).2.2
  | addToggle | addCommand | setNodes | notify => exact hs.of_panel_eq rfl rfl

end Host

end PanelKeys
