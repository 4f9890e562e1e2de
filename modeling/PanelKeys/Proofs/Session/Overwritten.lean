import PanelKeys.Proofs.Session.SecondPass

/-!
# A text of the application's own

The application may write over a text that this side has put into a cell.  The entry that is left
behind tells a length which the cell no longer shows, and nothing of it may come to light: not on
the screen, not in the next entry, not in a copy, not in a count.  The test of this is to take such
entries away beforehand: **an entry that has been written over is as good as none**.

* `staleCells`, `forgetAll` — the cells whose entries have been written over, and a ledger without
  them;
* `CellView.forgotten` — the same for one cell, with what a visit, the way back and a copy make of
  it;
* `report_forgetAll` — a pass counts the stale entries that it comes upon, once each, and differs in
  nothing else from a pass that does not find them;
* **`stale_entry_is_no_entry`** — all three: the pass, the way back, and the reading of a cell.
-/

namespace PanelKeys

open PanelKeys.Length
open PanelKeys.Number

/-! ## One cell -/

namespace CellView

/-- The cell without its entry. -/
def forgotten (v : CellView) : CellView := ⟨none, v.cell⟩

variable {v : CellView}

lemma isForeign_iff :
    v.isForeign = true ↔ ∃ c e, v.cell = some c ∧ v.entry = some e ∧ e.shown ≠ c.text := by
  obtain ⟨entry, cell⟩ := v
  cases entry <;> cases cell <;> simp [isForeign]

/-- An entry that did not write the text is passed over. -/
lemma own_of_isForeign (h : v.isForeign = true) {c : Cell} (hcell : v.cell = some c) :
    (v.entry.filter fun e => e.shown = c.text) = none := by
  obtain ⟨c', e, hcell', hentry, hshown⟩ := isForeign_iff.1 h
  obtain rfl : c = c' := Option.some.inj (hcell.symm.trans hcell')
  simp [hentry, hshown]

lemma brought_of_isForeign (h : v.isForeign = true) (policy : Policy) :
    v.brought policy = v.forgotten.brought policy := by
  obtain ⟨c, e, hcell, -, -⟩ := isForeign_iff.1 h
  simp only [brought, forgotten, hcell, length?, own_of_isForeign h hcell, Option.filter_none]

/-- A visit counts what it finds changed, and nothing else on account of it. -/
lemma tally_of_isForeign (h : v.isForeign = true) (policy : Policy) :
    v.tally policy = v.forgotten.tally policy + { foreign := 1 } := by
  obtain ⟨c, e, hcell, -, -⟩ := isForeign_iff.1 h
  have hrewrite : v.rewrite? policy = v.forgotten.rewrite? policy := by
    simp only [rewrite?, forgotten, hcell, Option.bind_some, length?, own_of_isForeign h hcell,
      Option.filter_none]
  have hread : v.isRead = v.forgotten.isRead := by
    simp only [isRead, forgotten, hcell, Option.any_some, own_of_isForeign h hcell,
      Option.filter_none]
  have hnone : v.forgotten.isForeign = false := by simp [isForeign, forgotten, hcell]
  ext
  · rfl
  · simp [tally, hread]
  · simp [tally, h, hnone]
  · simp [tally, hrewrite]
  · simp [tally, brought_of_isForeign h]

/-- Only the first visit finds the cell changed. -/
lemma tallies_of_isForeign (h : v.isForeign = true) (policy : Policy) {n : Nat} (hn : n ≠ 0) :
    v.tallies policy n = v.forgotten.tallies policy n + { foreign := 1 } := by
  obtain ⟨k, rfl⟩ := Nat.exists_eq_succ_of_ne_zero hn
  rw [tallies_succ, tallies_succ, brought_of_isForeign h, tally_of_isForeign h, add_assoc]

lemma iterate_brought_of_isForeign (h : v.isForeign = true) (policy : Policy) {n : Nat}
    (hn : n ≠ 0) : (brought policy)^[n] v = (brought policy)^[n] v.forgotten := by
  obtain ⟨k, rfl⟩ := Nat.exists_eq_succ_of_ne_zero hn
  rw [Function.iterate_succ_apply, Function.iterate_succ_apply, brought_of_isForeign h]

lemma restored_of_isForeign (h : v.isForeign = true) : v.restored = v.forgotten.restored := by
  obtain ⟨c, e, hcell, hentry, hshown⟩ := isForeign_iff.1 h
  simp [restored, forgotten, hcell, hentry, hshown]

lemma isWrittenBack_of_isForeign (h : v.isForeign = true) : v.isWrittenBack = false := by
  obtain ⟨c, e, hcell, hentry, hshown⟩ := isForeign_iff.1 h
  simp [isWrittenBack, hcell, hentry, hshown]

/-- Visits to a cell that shows what its entry has written, or has none, find nothing changed. -/
lemma foreign_tallies (h : v.isForeign = false) (policy : Policy) (n : Nat) :
    (v.tallies policy n).foreign = 0 := by
  cases n with
  | zero => rfl
  | succ n =>
      rw [foreign_tallies_of_ne policy v n.succ_ne_zero, h]
      rfl

end CellView

/-! ## A ledger without some entries -/

namespace Ledger

/-- The cells that exist and show something else than what was last written into them. -/
def staleCells (l : Ledger) (store : CellStore) : List CellId :=
  l.entries.keys.filter fun cell => (store.read? cell).any (l.isForeign cell)

/-- The entries of some cells dropped, one after the other. -/
def forgetAll (l : Ledger) (cells : List CellId) : Ledger := cells.foldl forget l

variable (l : Ledger) (store : CellStore)

lemma entries_forgetAll (cells : List CellId) :
    (l.forgetAll cells).entries.entries
      = l.entries.entries.filter fun e => !decide (e.1 ∈ cells) := by
  induction cells generalizing l with
  | nil => simp [forgetAll]
  | cons first rest ih =>
      have hrest : (l.forgetAll (first :: rest)).entries.entries
          = (l.entries.entries.filter fun e => !decide (e.1 = first)).filter
            fun e => !decide (e.1 ∈ rest) :=
        ih (l.forget first)
      rw [hrest, List.filter_filter]
      refine List.filter_congr fun e _ => ?_
      simp [Bool.and_comm]

lemma get?_forgetAll (cells : List CellId) (id : CellId) :
    (l.forgetAll cells).get? id = if id ∈ cells then none else l.get? id := by
  have hlookup : (l.forgetAll cells).get? id
      = if !decide (id ∈ cells) then l.get? id else none := by
    rw [get?, Table.get?, entries_forgetAll]
    exact Table.lookupIn_filter_key (fun cell => !decide (cell ∈ cells)) id l.entries.entries
  rw [hlookup]
  by_cases hmem : id ∈ cells <;> simp [hmem]

/-- A cell of a ledger without some entries. -/
lemma view_forgetAll (cells : List CellId) (id : CellId) :
    (⟨(l.forgetAll cells).get? id, store.cells.get? id⟩ : CellView)
      = if id ∈ cells then (⟨l.get? id, store.cells.get? id⟩ : CellView).forgotten
        else ⟨l.get? id, store.cells.get? id⟩ := by
  rw [get?_forgetAll]
  split <;> rfl

/-- An entry is stale if the cell shows something else than what was last written into it. -/
lemma mem_staleCells {id : CellId} :
    id ∈ l.staleCells store ↔ (⟨l.get? id, store.cells.get? id⟩ : CellView).isForeign = true := by
  have hforeign : (store.read? id).any (l.isForeign id)
      = (⟨l.get? id, store.cells.get? id⟩ : CellView).isForeign := by
    cases hcell : store.cells.get? id with
    | none => simp [CellStore.read?, CellView.isForeign, hcell]
    | some c =>
        have hseen : (({ ledger := l, store } : Pass).view id).cell = some c := hcell
        have hview := Pass.isForeign_eq _ hseen
        simp only [CellStore.read?, hcell, Option.map_some, Option.any_some]
        rw [hview, Pass.view, hcell]
  rw [staleCells, List.mem_filter, hforeign]
  refine ⟨And.right, fun h => ⟨?_, h⟩⟩
  obtain ⟨c, e, -, hentry, -⟩ := CellView.isForeign_iff.1 h
  exact Table.mem_keys_of_get? hentry

lemma nodup_staleCells : (l.staleCells store).Nodup := l.entries.nodupKeys.filter _

/-! ## The pass -/

section Pass

variable (policy : Policy) {cells : List PanelCell} {gone : List CellId}

/-- A pass leaves a cell as it is left without the stale entry. -/
lemma view_reconcile_forgetAll
    (h : ∀ id ∈ gone, id ∈ l.staleCells store ∧ ⟨id, false⟩ ∈ cells) (id : CellId) :
    (l.reconcile store policy cells).view id
      = ((l.forgetAll gone).reconcile store policy cells).view id := by
  rw [view_reconcile, view_reconcile, view_forgetAll]
  by_cases hmem : id ∈ gone
  · obtain ⟨hstale, hlisted⟩ := h id hmem
    have hcount : cells.count ⟨id, false⟩ ≠ 0 := Nat.ne_of_gt (List.count_pos_iff.2 hlisted)
    rw [if_pos hmem]
    exact CellView.iterate_brought_of_isForeign ((l.mem_staleCells store).1 hstale) policy hcount
  · rw [if_neg hmem]

lemma tallies_forgetAll (h : ∀ id ∈ gone, id ∈ l.staleCells store ∧ ⟨id, false⟩ ∈ cells)
    (id : CellId) :
    (⟨l.get? id, store.cells.get? id⟩ : CellView).tallies policy (cells.count ⟨id, false⟩)
      = (⟨(l.forgetAll gone).get? id, store.cells.get? id⟩ : CellView).tallies policy
          (cells.count ⟨id, false⟩)
        + { foreign := if id ∈ gone then 1 else 0 } := by
  rw [view_forgetAll]
  by_cases hmem : id ∈ gone
  · obtain ⟨hstale, hlisted⟩ := h id hmem
    have hcount : cells.count ⟨id, false⟩ ≠ 0 := Nat.ne_of_gt (List.count_pos_iff.2 hlisted)
    rw [if_pos hmem, if_pos hmem]
    exact CellView.tallies_of_isForeign ((l.mem_staleCells store).1 hstale) policy hcount
  · rw [if_neg hmem, if_neg hmem]
    exact (add_zero _).symm

/-- **A pass counts the stale entries that it comes upon, once each**, and they are all that it
counts more than a pass that does not find them. -/
theorem report_forgetAll (hnodup : gone.Nodup)
    (h : ∀ id ∈ gone, id ∈ l.staleCells store ∧ ⟨id, false⟩ ∈ cells) :
    (l.reconcile store policy cells).report
      = ((l.forgetAll gone).reconcile store policy cells).report + { foreign := gone.length } := by
  set ids := (cells.map PanelCell.cell).toFinset with hids
  have hcells : ∀ c ∈ cells, c.cell ∈ ids := fun c => cell_mem_listed
  have hgone : (∑ id ∈ ids, if id ∈ gone then 1 else 0) = gone.length := by
    rw [← Finset.card_filter, ← List.toFinset_card_of_nodup hnodup]
    congr 1
    ext id
    simp only [Finset.mem_filter, List.mem_toFinset, and_iff_right_iff_imp]
    exact fun hmem => hcells _ (h id hmem).2
  rw [report_reconcile l store policy hcells, report_reconcile _ store policy hcells, add_assoc]
  simp only [l.tallies_forgetAll store policy h, Finset.sum_add_distrib, Report.sum_foreign, hgone]

/-- A pass over cells without stale entries finds nothing changed. -/
lemma foreign_reconcile (h : ∀ id, ⟨id, false⟩ ∈ cells → id ∉ l.staleCells store) :
    (l.reconcile store policy cells).report.foreign = 0 := by
  rw [report_reconcile l store policy fun c => cell_mem_listed]
  simp only [Report.foreign_add, Report.foreign_sum, Nat.zero_add]
  refine Finset.sum_eq_zero fun id _ => ?_
  by_cases hlisted : ⟨id, false⟩ ∈ cells
  · refine CellView.foreign_tallies ?_ policy _
    exact Bool.eq_false_iff.2 fun hforeign => h id hlisted ((l.mem_staleCells store).2 hforeign)
  · rw [List.count_eq_zero.2 hlisted]
    rfl

lemma not_mem_staleCells_forgetAll {id : CellId} (h : id ∈ l.staleCells store → id ∈ gone) :
    id ∉ (l.forgetAll gone).staleCells store := by
  rw [mem_staleCells, view_forgetAll]
  by_cases hmem : id ∈ gone
  · rw [if_pos hmem]
    simp [CellView.isForeign, CellView.forgotten]
  · rw [if_neg hmem, ← mem_staleCells]
    exact fun hstale => hmem (h hstale)

end Pass

/-! ## The way back, and the reading of a cell -/

lemma get?_restore_forgetAll (id : CellId) :
    (l.restore store).1.cells.get? id
      = ((l.forgetAll (l.staleCells store)).restore store).1.cells.get? id := by
  rw [get?_restore, get?_restore, view_forgetAll]
  by_cases hmem : id ∈ l.staleCells store
  · rw [if_pos hmem]
    exact CellView.restored_of_isForeign ((l.mem_staleCells store).1 hmem)
  · rw [if_neg hmem]

lemma written_restore_forgetAll :
    (l.restore store).2 = ((l.forgetAll (l.staleCells store)).restore store).2 := by
  rw [written_restore, written_restore, entries_forgetAll, List.countP_filter]
  refine List.countP_congr fun e he => ?_
  have hentry : l.get? e.1 = some e.2 := Table.get?_of_mem_entries he
  by_cases hmem : e.1 ∈ l.staleCells store
  · have hforeign := (l.mem_staleCells store).1 hmem
    rw [hentry] at hforeign
    simp [CellView.isWrittenBack_of_isForeign hforeign]
  · simp [hmem]

lemma reading?_forgetAll (cell : CellId) :
    l.reading? store cell = (l.forgetAll (l.staleCells store)).reading? store cell := by
  by_cases hmem : cell ∈ l.staleCells store
  · obtain ⟨c, e, hcell, hentry, hshown⟩ :=
      CellView.isForeign_iff.1 ((l.mem_staleCells store).1 hmem)
    have hc : store.cells.get? cell = some c := hcell
    have he : l.get? cell = some e := hentry
    simp [reading?, get?_forgetAll, hmem, CellStore.read?, hc, he, hshown]
  · simp only [reading?, get?_forgetAll, if_neg hmem]

/-- **An entry that the application has written over is as good as none.**  A pass leaves the same
texts and the same entries as if the stale entries of listed lengths had been dropped before, and
its report is the same, but that it counts them as changed.  The way back leaves the same texts and
writes as many cells as if all stale entries had been dropped, and every cell reads the same. -/
theorem stale_entry_is_no_entry (policy : Policy) (cells : List PanelCell) :
    (let listed := (l.staleCells store).filter fun cell => ⟨cell, false⟩ ∈ cells
      let found := l.reconcile store policy cells
      let anew := (l.forgetAll listed).reconcile store policy cells
      (∀ cell, found.store.cells.get? cell = anew.store.cells.get? cell)
        ∧ (∀ cell, found.ledger.get? cell = anew.ledger.get? cell)
        ∧ found.report = { anew.report with foreign := listed.length }
        ∧ anew.report.foreign = 0)
      ∧ (∀ cell, (l.restore store).1.cells.get? cell
          = ((l.forgetAll (l.staleCells store)).restore store).1.cells.get? cell)
      ∧ (l.restore store).2 = ((l.forgetAll (l.staleCells store)).restore store).2
      ∧ ∀ cell, l.reading? store cell = (l.forgetAll (l.staleCells store)).reading? store cell := by
  refine ⟨?_, l.get?_restore_forgetAll store, l.written_restore_forgetAll store,
    l.reading?_forgetAll store⟩
  intro listed found anew
  have hlisted : ∀ id ∈ listed, id ∈ l.staleCells store ∧ ⟨id, false⟩ ∈ cells := by
    intro id hid
    obtain ⟨hstale, hmem⟩ := List.mem_filter.1 hid
    exact ⟨hstale, of_decide_eq_true hmem⟩
  have hview := l.view_reconcile_forgetAll store policy hlisted
  have hreport := l.report_forgetAll store policy ((l.nodup_staleCells store).filter _) hlisted
  have hnone : anew.report.foreign = 0 := by
    refine foreign_reconcile _ store policy fun id hid =>
      l.not_mem_staleCells_forgetAll store fun hstale => ?_
    exact List.mem_filter.2 ⟨hstale, decide_eq_true hid⟩
  refine ⟨fun cell => congrArg CellView.cell (hview cell),
    fun cell => congrArg CellView.entry (hview cell), ?_, hnone⟩
  rw [hreport]
  ext <;> simp [hnone, anew, listed]

end Ledger

end PanelKeys
