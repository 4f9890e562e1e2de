import PanelKeys.Proofs.Session.SecondPass

/-!
# A report tells the truth

A pass counts while it works, and one and the same item may be counted in several ways: as visited
and as changed, as captured and then as skipped.  A cell may be listed many times besides.  The
report is of use only if its numbers can be told **from what the pass has found and from what it has
left**, without following it.

* `RewrittenFor.exists_changed` — replacements that change their texts are as many as the cells that
  show something else afterwards;
* `visited_tallies`, `foreign_tallies_of_ne`, `skipped_tallies` — what a number of visits to one
  cell count: each is a visit, only the first can find the cell changed, and all of them skip the
  cell or none does;
* `sum_count_lengths` — counted cell by cell or item by item, it comes to the same;
* **`report_tells_truth`** — the numbers of a report.
-/

namespace PanelKeys

open PanelKeys.Length
open PanelKeys.Number

/-! ## Cells that show something else -/

/-- If every replacement changes its text, the successful writes are as many as the cells that show
something else afterwards. -/
lemma RewrittenFor.exists_changed {s s' : CellStore} {reason : Rewrite → Prop}
    (h : RewrittenFor s reason s')
    (hchange : ∀ r, s.read? r.cell = some r.before → reason r → r.before ≠ r.after) :
    ∃ changed : Finset CellId, (∀ cell, cell ∈ changed ↔ s'.read? cell ≠ s.read? cell)
      ∧ s'.writes = s.writes + changed.card := by
  obtain ⟨rewrites, hrewritten, hnodup, hreason⟩ := h
  refine ⟨(rewrites.map Rewrite.cell).toFinset, fun cell => ?_, ?_⟩
  · rw [List.mem_toFinset]
    constructor
    · intro hmem
      obtain ⟨r, hr, rfl⟩ := List.mem_map.1 hmem
      obtain ⟨hread, hown⟩ := hreason r hr
      rw [hrewritten.read?_of_mem hnodup hr, hread, ne_eq, Option.some.injEq]
      exact (hchange r hread hown).symm
    · intro hdiffers
      by_contra hkept
      exact hdiffers (hrewritten.read?_of_not_mem hkept)
  · rw [List.toFinset_card_of_nodup hnodup, List.length_map]
    exact hrewritten.writes_eq

/-! ## Visits to one cell -/

namespace CellView

@[simp] lemma visited_tallies (policy : Policy) (n : Nat) (v : CellView) :
    (v.tallies policy n).visited = n := by
  simp [tallies, tally]

/-- The cell exists and does not show what its entry has written. -/
lemma isForeign_iff_read? {l : Ledger} {store : CellStore} {id : CellId} :
    (⟨l.get? id, store.cells.get? id⟩ : CellView).isForeign = true
      ↔ ∃ displayed e, store.read? id = some displayed ∧ l.get? id = some e
        ∧ e.shown ≠ displayed := by
  rw [CellStore.read?]
  cases hcell : store.cells.get? id <;> cases hentry : l.get? id <;> simp [isForeign]

/-- What a visit has left without an entry stays without one, and what has an entry keeps it. -/
lemma skipped_tallies {v : CellView} (hv : v.Rendered) (policy : Policy) (n : Nat) :
    (v.tallies policy n).skipped = n * ((brought policy)^[n] v).entry.isNone.toNat := by
  have hvisit : ∀ k, (((brought policy)^[k] v).tally policy).skipped
      = (v.brought policy).entry.isNone.toNat := by
    intro k
    show (((brought policy)^[k] v).brought policy).entry.isNone.toNat = _
    rw [← Function.iterate_succ_apply' (brought policy), iterate_brought hv policy k.succ_ne_zero]
  simp only [tallies, Report.skipped_sum, hvisit, Finset.sum_const, Finset.card_range,
    Nat.nsmul_eq_mul]
  cases n with
  | zero => simp
  | succ k => rw [iterate_brought hv policy k.succ_ne_zero]

end CellView

/-! ## The numbers of a report -/

/-- What is counted for each cell as often as it is listed as a length is counted for each such
item. -/
lemma sum_count_lengths (cells : List PanelCell) {ids : Finset CellId}
    (h : ∀ c ∈ cells, c.cell ∈ ids) (p : CellId → Bool) :
    ∑ id ∈ ids, cells.count ⟨id, false⟩ * (p id).toNat
      = cells.countP fun c => !c.angle && p c.cell := by
  induction cells with
  | nil => simp
  | cons c rest ih =>
      obtain ⟨cell, angle⟩ := c
      have hmem : cell ∈ ids := h ⟨cell, angle⟩ List.mem_cons_self
      rw [List.countP_cons, ← ih fun d hd => h d (List.mem_cons_of_mem _ hd)]
      cases angle with
      | true => simp
      | false =>
          have hcount : ∀ id,
              (⟨cell, false⟩ :: rest : List PanelCell).count ⟨id, false⟩ * (p id).toNat
              = rest.count ⟨id, false⟩ * (p id).toNat + if cell = id then (p id).toNat else 0 := by
            intro id
            by_cases hid : cell = id <;> simp [hid, Nat.succ_mul]
          simp only [hcount, Finset.sum_add_distrib, Finset.sum_ite_eq, if_pos hmem, Bool.not_false,
            Bool.true_and]
          cases p cell <;> rfl

namespace Ledger

variable (l : Ledger) (store : CellStore) (policy : Policy) (cells : List PanelCell)

/-- Every item that is listed as a length is visited. -/
lemma visited_reconcile :
    (l.reconcile store policy cells).report.visited = cells.countP fun c => !c.angle := by
  rw [report_reconcile l store policy fun c => cell_mem_listed]
  simp only [Report.visited_add, Report.visited_sum, CellView.visited_tallies, Nat.zero_add]
  simpa using sum_count_lengths cells (fun c => cell_mem_listed) fun _ => true

/-- Written are the cells that show something else afterwards. -/
lemma written_reconcile :
    ∃ changed : Finset CellId,
      (∀ cell, cell ∈ changed
        ↔ (l.reconcile store policy cells).store.read? cell ≠ store.read? cell)
      ∧ (l.reconcile store policy cells).report.written = changed.card := by
  obtain ⟨changed, hmem, hwrites⟩ :=
    (l.rewritten_reconcile store policy cells).exists_changed fun r hread hown => by
      obtain ⟨c, mm, hcell, -, hdiffers, -, hafter⟩ := CellView.rewrite?_eq_some hown.2
      have hshown : store.read? r.cell = some c.text := congrArg (Option.map Cell.text) hcell
      rw [hread, Option.some.injEq] at hshown
      rw [hshown, ← hafter]
      exact hdiffers.symm
  refine ⟨changed, hmem, ?_⟩
  have hcounted := l.writes_reconcile store policy cells
  omega

/-- Skipped are the angles, and the items whose cells are left without an entry. -/
lemma skipped_reconcile {l : Ledger} (hl : l.Rendered) :
    (l.reconcile store policy cells).report.skipped
      = cells.countP (·.angle)
        + cells.countP fun c =>
          !c.angle && ((l.reconcile store policy cells).ledger.get? c.cell).isNone := by
  have hview : ∀ id, ((CellView.brought policy)^[cells.count ⟨id, false⟩]
      ⟨l.get? id, store.cells.get? id⟩).entry = (l.reconcile store policy cells).ledger.get? id :=
    fun id => congrArg CellView.entry (l.view_reconcile store policy cells id).symm
  have hitems := sum_count_lengths cells (fun c => cell_mem_listed) fun id =>
    ((l.reconcile store policy cells).ledger.get? id).isNone
  rw [← hitems, report_reconcile l store policy fun c => cell_mem_listed]
  simp only [Report.skipped_add, Report.skipped_sum]
  congr 1
  refine Finset.sum_congr rfl fun id _ => ?_
  rw [CellView.skipped_tallies (hl.view id _), hview]

/-- Found changed are the listed lengths whose entries have not written what the cells show. -/
lemma exists_found_changed :
    ∃ found : Finset CellId,
      (∀ cell, cell ∈ found ↔ ⟨cell, false⟩ ∈ cells
        ∧ ∃ displayed e, store.read? cell = some displayed ∧ l.get? cell = some e
          ∧ e.shown ≠ displayed)
      ∧ (l.reconcile store policy cells).report.foreign = found.card := by
  set ids := (cells.map PanelCell.cell).toFinset
  have hcells : ∀ c ∈ cells, c.cell ∈ ids := fun c => cell_mem_listed
  refine ⟨ids.filter fun id => ⟨id, false⟩ ∈ cells
    ∧ (⟨l.get? id, store.cells.get? id⟩ : CellView).isForeign = true, fun id => ?_, ?_⟩
  · have hmem : ⟨id, false⟩ ∈ cells → id ∈ ids := fun hlisted => hcells _ hlisted
    rw [Finset.mem_filter, and_iff_right_of_imp fun h => hmem h.1, CellView.isForeign_iff_read?]
  · rw [report_reconcile l store policy hcells, Finset.card_filter]
    simp only [Report.foreign_add, Report.foreign_sum, Nat.zero_add]
    refine Finset.sum_congr rfl fun id _ => ?_
    by_cases hlisted : ⟨id, false⟩ ∈ cells
    · have hcount : cells.count ⟨id, false⟩ ≠ 0 := Nat.ne_of_gt (List.count_pos_iff.2 hlisted)
      rw [CellView.foreign_tallies_of_ne policy _ hcount]
      cases (⟨l.get? id, store.cells.get? id⟩ : CellView).isForeign <;> simp [hlisted]
    · rw [List.count_eq_zero.2 hlisted, if_neg fun h => hlisted h.1]
      rfl

/-- **A report tells the truth**, whatever the ledger has been asked for since it was empty, and
however often the list names one cell, as a length or as an angle.  Visited are the items that are
lengths; written are the cells that show something else afterwards, one successful write for each;
skipped are the angles, and the lengths whose cells are left without an entry; and foreign are the
cells, listed as lengths, that did not show what the ledger had last written into them. -/
theorem report_tells_truth (start : CellStore) (events : List DeskEvent) (store : CellStore)
    (policy : Policy) (cells : List PanelCell) :
    let ledger := ((Desk.new start).run events).ledger
    let pass := ledger.reconcile store policy cells
    pass.report.visited = cells.countP (fun c => !c.angle)
      ∧ pass.store.writes = store.writes + pass.report.written
      ∧ (∃ changed : Finset CellId,
          (∀ cell, cell ∈ changed ↔ pass.store.read? cell ≠ store.read? cell)
          ∧ pass.report.written = changed.card)
      ∧ pass.report.skipped = cells.countP (·.angle)
          + cells.countP (fun c => !c.angle && (pass.ledger.get? c.cell).isNone)
      ∧ ∃ found : Finset CellId,
          (∀ cell, cell ∈ found ↔ ⟨cell, false⟩ ∈ cells
            ∧ ∃ displayed e, store.read? cell = some displayed ∧ ledger.get? cell = some e
              ∧ e.shown ≠ displayed)
          ∧ pass.report.foreign = found.card := by
  intro ledger pass
  have hrendered : ledger.Rendered := Desk.rendered_run start events
  exact ⟨ledger.visited_reconcile store policy cells, ledger.writes_reconcile store policy cells,
    ledger.written_reconcile store policy cells, skipped_reconcile store policy cells hrendered,
    ledger.exists_found_changed store policy cells⟩

/-- A locked cell that is listed twice: its text is read both times, and cannot be replaced either
time. -/
example :
    (empty.reconcile (CellStore.empty.put 1 ⟨"25.4", true⟩) { unit := .inch }
        [⟨1, false⟩, ⟨1, false⟩]).report
      = { visited := 2, captured := 2, skipped := 2 } := by
  decide +kernel

end Ledger

end PanelKeys
