import Mathlib.Algebra.BigOperators.Group.Finset.Piecewise
import PanelKeys.Proofs.Session.CellFate
import PanelKeys.Proofs.Session.Rewrites

/-!
# What is counted

A pass counts as it goes: what it has read, what it found changed, what it has written and what it
has left alone.  What one visit adds depends on the cell that is visited and on nothing else, and a
cell is changed by its own visits alone.  So a report is a sum over the cells, and for each cell a
sum over its visits.

* reports add up, counter by counter;
* `CellView.tally` — **what one visit counts**: each counter as a property of the cell and its
  entry;
* `report_visit` — and this is what a visit adds;
* **`report_reconcile`** — the report of a whole pass, in which the order of the visits is not to be
  seen;
* `writes_reconcile` — what a pass counts as written has been written;
* `CellView.isWrittenBack`, `written_restore` — the same for the way back.
-/

namespace PanelKeys

open PanelKeys.Length
open PanelKeys.Number

/-! ## Reports add up -/

attribute [ext] Report

namespace Report

instance : Zero Report := ⟨{}⟩

instance : Add Report where
  add a b :=
    { visited := a.visited + b.visited
      captured := a.captured + b.captured
      foreign := a.foreign + b.foreign
      written := a.written + b.written
      skipped := a.skipped + b.skipped }

@[simp] lemma visited_add (a b : Report) : (a + b).visited = a.visited + b.visited := rfl

@[simp] lemma captured_add (a b : Report) : (a + b).captured = a.captured + b.captured := rfl

@[simp] lemma foreign_add (a b : Report) : (a + b).foreign = a.foreign + b.foreign := rfl

@[simp] lemma written_add (a b : Report) : (a + b).written = a.written + b.written := rfl

@[simp] lemma skipped_add (a b : Report) : (a + b).skipped = a.skipped + b.skipped := rfl

instance : AddCommMonoid Report where
  add_assoc a b c := by ext <;> exact Nat.add_assoc _ _ _
  zero_add a := by ext <;> exact Nat.zero_add _
  add_zero a := rfl
  add_comm a b := by ext <;> exact Nat.add_comm _ _
  nsmul := nsmulRec

@[simp] lemma visited_sum {ι : Type} (s : Finset ι) (r : ι → Report) :
    (∑ i ∈ s, r i).visited = ∑ i ∈ s, (r i).visited :=
  map_sum (⟨⟨visited, rfl⟩, fun _ _ => rfl⟩ : Report →+ Nat) r s

@[simp] lemma captured_sum {ι : Type} (s : Finset ι) (r : ι → Report) :
    (∑ i ∈ s, r i).captured = ∑ i ∈ s, (r i).captured :=
  map_sum (⟨⟨captured, rfl⟩, fun _ _ => rfl⟩ : Report →+ Nat) r s

@[simp] lemma foreign_sum {ι : Type} (s : Finset ι) (r : ι → Report) :
    (∑ i ∈ s, r i).foreign = ∑ i ∈ s, (r i).foreign :=
  map_sum (⟨⟨foreign, rfl⟩, fun _ _ => rfl⟩ : Report →+ Nat) r s

lemma sum_foreign {ι : Type} (s : Finset ι) (n : ι → Nat) :
    ∑ i ∈ s, ({ foreign := n i } : Report) = { foreign := ∑ i ∈ s, n i } :=
  (map_sum (⟨⟨fun k => { foreign := k }, rfl⟩, fun _ _ => rfl⟩ : Nat →+ Report) n s).symm

@[simp] lemma written_sum {ι : Type} (s : Finset ι) (r : ι → Report) :
    (∑ i ∈ s, r i).written = ∑ i ∈ s, (r i).written :=
  map_sum (⟨⟨written, rfl⟩, fun _ _ => rfl⟩ : Report →+ Nat) r s

@[simp] lemma skipped_sum {ι : Type} (s : Finset ι) (r : ι → Report) :
    (∑ i ∈ s, r i).skipped = ∑ i ∈ s, (r i).skipped :=
  map_sum (⟨⟨skipped, rfl⟩, fun _ _ => rfl⟩ : Report →+ Nat) r s

end Report

/-! ## One visit -/

namespace CellView

/-- Whether the cell shows something else than what was last written into it. -/
def isForeign (v : CellView) : Bool :=
  v.cell.any fun cell => v.entry.any fun e => e.shown ≠ cell.text

/-- Whether a visit reads a length off the text of the cell. -/
def isRead (v : CellView) : Bool :=
  v.cell.any fun cell =>
    (v.entry.filter fun e => e.shown = cell.text).isNone && (Millimeter.parse? cell.text).isSome

/-- What a visit counts.  Skipped is a cell that has no entry afterwards. -/
def tally (policy : Policy) (v : CellView) : Report where
  visited := 1
  captured := v.isRead.toNat
  foreign := v.isForeign.toNat
  written := (v.rewrite? policy).isSome.toNat
  skipped := (v.brought policy).entry.isNone.toNat

/-- What a number of visits count. -/
def tallies (policy : Policy) (n : Nat) (v : CellView) : Report :=
  ∑ k ∈ Finset.range n, ((brought policy)^[k] v).tally policy

/-- The first visit, and those after it. -/
lemma tallies_succ (policy : Policy) (n : Nat) (v : CellView) :
    v.tallies policy (n + 1) = (v.brought policy).tallies policy n + v.tally policy :=
  Finset.sum_range_succ' _ n

end CellView

namespace Pass

lemma isForeign_eq (p : Pass) {cell : CellId} {c : Cell} (hcell : (p.view cell).cell = some c) :
    p.ledger.isForeign cell c.text = (p.view cell).isForeign := by
  have hentry : p.ledger.get? cell = (p.view cell).entry := rfl
  simp only [Ledger.isForeign, CellView.isForeign, hcell, hentry, Option.any_some]
  cases (p.view cell).entry <;> rfl

lemma report_dropForeign (p : Pass) {cell : CellId} {c : Cell}
    (hcell : (p.view cell).cell = some c) :
    (p.dropForeign cell c.text).report
      = p.report + { foreign := (p.view cell).isForeign.toNat } := by
  rw [dropForeign, p.isForeign_eq hcell]
  cases (p.view cell).isForeign <;> rfl

lemma report_present (policy : Policy) {cell : CellId} {c : Cell} (mm : Double) {p : Pass}
    (hget : p.store.cells.get? cell = some c) :
    (p.present policy cell c.text mm).report = p.report
      + { written := (c.replacement? policy mm).isSome.toNat
          skipped := (CellView.presenting policy c mm).entry.isNone.toNat } := by
  simp only [present, Cell.replacement?, CellView.presenting]
  by_cases hsame : policy.render mm = c.text
  · simp only [hsame, true_or, if_true]
    rfl
  · cases hlocked : c.locked with
    | true =>
        simp only [CellStore.write?, hget, hsame, hlocked, or_true, if_true, if_false]
        rfl
    | false =>
        simp only [CellStore.write?, hget, hsame, hlocked, Bool.false_eq_true, or_false, if_false]
        rfl

/-- **A visit adds what its view says.** -/
lemma report_visitLength (policy : Policy) (cell : CellId) (p : Pass) :
    (p.countVisited.visitLength policy cell).report = p.report + (p.view cell).tally policy := by
  have hread : p.countVisited.store.read? cell = (p.view cell).cell.map (·.text) := rfl
  simp only [visitLength, hread]
  cases hcell : (p.view cell).cell with
  | none =>
      simp only [Option.map_none, CellView.tally, CellView.isRead, CellView.isForeign,
        CellView.rewrite?, CellView.brought, hcell, Option.any_none, Option.bind_none]
      rfl
  | some c =>
      simp only [Option.map_some]
      have hdrop := view_dropForeign_self p.countVisited cell c.text
      have hreport := p.countVisited.report_dropForeign (c := c) hcell
      set q := p.countVisited.dropForeign cell c.text with hq
      have hqcell : q.store.cells.get? cell = some c := (congrArg CellView.cell hdrop).trans hcell
      have hqentry : q.ledger.get? cell = (p.view cell).entry.filter fun e => e.shown = c.text :=
        congrArg CellView.entry hdrop
      simp only [lengthOf?, hqentry, CellView.tally, CellView.isRead, CellView.rewrite?,
        CellView.brought, CellView.length?, hcell, Option.any_some, Option.bind_some]
      cases (p.view cell).entry.filter fun e => e.shown = c.text with
      | some e =>
          simp only [report_present policy e.length hqcell, hreport, Option.bind_some]
          rfl
      | none =>
          cases Millimeter.parse? c.text with
          | none =>
              simp only [Option.map_none, skip, hreport]
              rfl
          | some mm =>
              have hpresent := report_present policy (p := q.countCaptured) mm hqcell
              simp only [Option.map_some, hpresent]
              simp only [countCaptured, hreport]
              rfl

/-- What is counted for a cell of the panel. -/
lemma report_visit (policy : Policy) (p : Pass) (c : PanelCell) :
    (p.visit policy c).report
      = p.report + if c.angle then { skipped := 1 } else (p.view c.cell).tally policy := by
  obtain ⟨cell, angle⟩ := c
  cases angle with
  | true => rfl
  | false => exact report_visitLength policy cell p

/-- What is counted as written has been written. -/
lemma writes_visit (policy : Policy) (p : Pass) (c : PanelCell) :
    (p.visit policy c).store.writes + p.report.written
      = p.store.writes + (p.visit policy c).report.written := by
  obtain ⟨cell, angle⟩ := c
  cases angle with
  | true => rfl
  | false =>
      have hleaves : Leaves p.store cell ((p.view cell).rewrite? policy)
          (p.visit policy ⟨cell, false⟩).store := leaves_visitLength policy cell p.countVisited
      rw [report_visit]
      simp only [Bool.false_eq_true, if_false, Report.written_add, CellView.tally]
      cases hrewrite : (p.view cell).rewrite? policy with
      | none =>
          rw [hrewrite] at hleaves
          have hstore : (p.visit policy ⟨cell, false⟩).store = p.store := hleaves
          simp [hstore]
      | some text =>
          rw [hrewrite] at hleaves
          obtain ⟨c, -, -, hstore⟩ := CellStore.write?_eq_some hleaves
          simp only [hstore, Option.isSome_some, Bool.toNat_true]
          omega

end Pass

/-! ## The whole pass -/

/-- A visit is the first one of its own cell, and none of any other cell. -/
lemma Pass.tallies_visit (policy : Policy) (p : Pass) (cell id : CellId) (rest : List PanelCell) :
    (p.view id).tallies policy ((⟨cell, false⟩ :: rest : List PanelCell).count ⟨id, false⟩)
      = ((p.visit policy ⟨cell, false⟩).view id).tallies policy (rest.count ⟨id, false⟩)
        + if cell = id then (p.view id).tally policy else 0 := by
  by_cases hid : cell = id
  · simp [hid, view_visit, CellView.tallies_succ]
  · simp [hid, view_visit]

/-- What the visits count: the angles, and for every cell as many visits as it is listed as a
length. -/
theorem report_foldl_visit (policy : Policy) {cells : List PanelCell} {ids : Finset CellId}
    (h : ∀ c ∈ cells, c.cell ∈ ids) (p : Pass) :
    (cells.foldl (Pass.visit policy) p).report
      = p.report + ({ skipped := cells.countP (·.angle) }
          + ∑ id ∈ ids, (p.view id).tallies policy (cells.count ⟨id, false⟩)) := by
  induction cells generalizing p with
  | nil =>
      simp only [List.count_nil, CellView.tallies, Finset.range_zero, Finset.sum_empty,
        Finset.sum_const_zero]
      rfl
  | cons c rest ih =>
      rw [List.foldl_cons, ih (fun d hd => h d (List.mem_cons_of_mem c hd)), Pass.report_visit,
        add_assoc]
      obtain ⟨cell, angle⟩ := c
      cases angle with
      | true =>
          have hskipped :
              ({ skipped := (⟨cell, true⟩ :: rest : List PanelCell).countP (·.angle) } : Report)
              = { skipped := 1 } + { skipped := rest.countP (·.angle) } := by
            rw [List.countP_cons, Nat.add_comm]
            rfl
          have hcount : ∀ id, (⟨cell, true⟩ :: rest : List PanelCell).count ⟨id, false⟩
              = rest.count ⟨id, false⟩ := fun id => List.count_cons_of_ne (by simp)
          simp only [hskipped, hcount, if_true, add_assoc]
          rfl
      | false =>
          have hmem : cell ∈ ids := h ⟨cell, false⟩ List.mem_cons_self
          simp only [p.tallies_visit, Finset.sum_add_distrib, Finset.sum_ite_eq, if_pos hmem,
            Bool.false_eq_true, if_false]
          rw [add_comm (CellView.tally _ _), add_assoc]
          rfl

namespace Ledger

variable (l : Ledger) (store : CellStore) (policy : Policy)

/-- The cells that a list names. -/
lemma cell_mem_listed {cells : List PanelCell} {c : PanelCell} (hc : c ∈ cells) :
    c.cell ∈ (cells.map PanelCell.cell).toFinset :=
  List.mem_toFinset.2 (List.mem_map_of_mem hc)

/-- **The report of a pass** is a sum over the cells, in which the order of the list is not to be
seen. -/
theorem report_reconcile {cells : List PanelCell} {ids : Finset CellId}
    (h : ∀ c ∈ cells, c.cell ∈ ids) : (l.reconcile store policy cells).report
      = { skipped := cells.countP (·.angle) }
        + ∑ id ∈ ids, (⟨l.get? id, store.cells.get? id⟩ : CellView).tallies policy
            (cells.count ⟨id, false⟩) := by
  rw [reconcile, report_foldl_visit policy h]
  exact zero_add _

/-- The successful writes of a pass are those that it counts. -/
theorem writes_reconcile (cells : List PanelCell) :
    (l.reconcile store policy cells).store.writes
      = store.writes + (l.reconcile store policy cells).report.written := by
  induction cells using List.reverseRecOn with
  | nil => rfl
  | append_singleton cells c ih =>
      have hvisit := Pass.writes_visit policy (l.reconcile store policy cells) c
      rw [reconcile_concat]
      omega

end Ledger

/-! ## The way back -/

namespace CellView

/-- Whether the way back writes the cell. -/
def isWrittenBack (v : CellView) : Bool :=
  v.cell.any fun cell =>
    v.entry.any fun e => e.shown = cell.text && !cell.locked && Millimeter.text e.length ≠ cell.text

end CellView

namespace Ledger

lemma written_restoreCell (s : CellStore × Nat) (cell : CellId) (e : Captured) :
    (restoreCell s (cell, e)).2
      = s.2 + (⟨some e, s.1.cells.get? cell⟩ : CellView).isWrittenBack.toNat := by
  simp only [restoreCell, CellStore.read?, CellView.isWrittenBack]
  cases hcell : s.1.cells.get? cell with
  | none => rfl
  | some c =>
      by_cases hshown : e.shown = c.text
      · by_cases hnative : Millimeter.text e.length = c.text
        · simp [hshown, hnative]
        · cases hlocked : c.locked with
          | true => simp [CellStore.write?, hcell, hshown, hlocked]
          | false => simp [CellStore.write?, hcell, hshown, hnative, hlocked]
      · simp [hshown, Ne.symm hshown]

lemma written_foldl_restoreCell {entries : List (CellId × Captured)}
    (hnodup : (entries.map Prod.fst).Nodup) (s : CellStore × Nat) :
    (entries.foldl restoreCell s).2
      = s.2
        + entries.countP fun e => (⟨some e.2, s.1.cells.get? e.1⟩ : CellView).isWrittenBack := by
  induction entries generalizing s with
  | nil => rfl
  | cons e rest ih =>
      obtain ⟨hcell, hrest⟩ := List.nodup_cons.1 hnodup
      have hothers : rest.countP (fun d =>
            (⟨some d.2, (restoreCell s e).1.cells.get? d.1⟩ : CellView).isWrittenBack)
          = rest.countP fun d => (⟨some d.2, s.1.cells.get? d.1⟩ : CellView).isWrittenBack := by
        refine List.countP_congr fun d hd => ?_
        have hne : e.1 ≠ d.1 := fun hsame => hcell (hsame ▸ List.mem_map_of_mem hd)
        rw [get?_restoreCell_of_ne s hne]
      rw [List.foldl_cons, ih hrest, hothers, written_restoreCell, List.countP_cons, Nat.add_assoc,
        Nat.add_comm (Bool.toNat _)]
      cases (⟨some e.2, s.1.cells.get? e.1⟩ : CellView).isWrittenBack <;> rfl

/-- The way back writes, of all entries, those whose cells are to be written. -/
theorem written_restore (l : Ledger) (store : CellStore) :
    (l.restore store).2
      = l.entries.entries.countP
        fun e => (⟨some e.2, store.cells.get? e.1⟩ : CellView).isWrittenBack := by
  rw [restore, written_foldl_restoreCell l.entries.nodupKeys, Nat.zero_add]

end Ledger

end PanelKeys
