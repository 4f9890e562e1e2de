import Mathlib.Logic.Function.Iterate
import PanelKeys.Proofs.Table
import PanelKeys.Session.Ledger

/-!
# A pass, seen from one cell

A pass over the panel visits one cell after another, and what it does to a cell depends on that cell
alone: on its entry in the ledger, its text, and whether it is locked.  So a pass is described
completely by one function on the view of a cell, applied as often as the pass visits that cell.

* `CellView` — a cell and its entry;
* `CellView.brought` — what one visit makes of them;
* `view_visit` — a visit does this to its own cell and nothing to any other;
* **`view_reconcile`** — the whole pass, by induction on the cells;
* `shown_of_mem` — hence every entry of a visited cell shows its length under the policy of the
  pass.
-/

namespace PanelKeys

open PanelKeys.Length
open PanelKeys.Number

/-- A cell, if it exists, and its entry in the ledger. -/
structure CellView where
  entry : Option Captured
  cell : Option Cell
  deriving DecidableEq

namespace CellView

/-- The length behind a cell that shows this text: that of its entry if the entry wrote the text,
else the one that the text spells. -/
def length? (v : CellView) (displayed : String) : Option Double :=
  match v.entry.filter fun e => e.shown = displayed with
  | some e => some e.length
  | none => Millimeter.parse? displayed

/-- A cell brought to the text of a length.  One that cannot be written loses its entry. -/
def presenting (policy : Policy) (cell : Cell) (mm : Double) : CellView :=
  if policy.render mm = cell.text then ⟨some ⟨mm, policy.render mm⟩, some cell⟩
  else if cell.locked then ⟨none, some cell⟩
  else ⟨some ⟨mm, policy.render mm⟩, some { cell with text := policy.render mm }⟩

/-- What a visit makes of a cell. -/
def brought (policy : Policy) (v : CellView) : CellView :=
  match v.cell with
  | none => ⟨none, none⟩
  | some cell =>
      match v.length? cell.text with
      | none => ⟨none, some cell⟩
      | some mm => presenting policy cell mm

lemma shown_of_presenting {policy : Policy} {cell : Cell} {mm : Double} {e : Captured}
    (h : (presenting policy cell mm).entry = some e) : e.shown = policy.render e.length := by
  simp only [presenting] at h
  split at h
  · rw [← Option.some.inj h]
  · split at h
    · simp at h
    · rw [← Option.some.inj h]

/-- **A visit leaves no entry behind that does not show its length under the policy.** -/
lemma shown_of_brought {policy : Policy} {v : CellView} {e : Captured}
    (h : (v.brought policy).entry = some e) : e.shown = policy.render e.length := by
  simp only [brought] at h
  split at h
  · simp at h
  · split at h
    · simp at h
    · exact shown_of_presenting h

end CellView

/-! ## One visit -/

namespace Pass

/-- A cell as a pass under way finds it. -/
def view (p : Pass) (id : CellId) : CellView := ⟨p.ledger.get? id, p.store.cells.get? id⟩

@[simp] lemma view_skip (p : Pass) (id : CellId) : p.skip.view id = p.view id := rfl

@[simp] lemma view_countVisited (p : Pass) (id : CellId) : p.countVisited.view id = p.view id := rfl

@[simp] lemma view_countCaptured (p : Pass) (id : CellId) : p.countCaptured.view id = p.view id :=
  rfl

lemma view_forget (p : Pass) (cell id : CellId) :
    (p.forget cell).view id = if cell = id then ⟨none, (p.view id).cell⟩ else p.view id := by
  simp only [view, forget, Ledger.forget, Ledger.get?, Table.get?_erase]
  split <;> rfl

lemma view_record (p : Pass) (cell id : CellId) (e : Captured) :
    (p.record cell e).view id = if cell = id then ⟨some e, (p.view id).cell⟩ else p.view id := by
  simp only [view, record, Ledger.record, Ledger.get?, Table.get?_insert]
  split <;> rfl

lemma isForeign_iff {l : Ledger} {cell : CellId} {displayed : String} :
    l.isForeign cell displayed = true ↔ ∃ e, l.get? cell = some e ∧ e.shown ≠ displayed := by
  simp only [Ledger.isForeign]
  split
  · next e hentry => simp [hentry]
  · next hentry => simp [hentry]

lemma view_dropForeign_self (p : Pass) (cell : CellId) (displayed : String) :
    (p.dropForeign cell displayed).view cell
      = ⟨(p.view cell).entry.filter fun e => e.shown = displayed, (p.view cell).cell⟩ := by
  simp only [dropForeign]
  by_cases hforeign : p.ledger.isForeign cell displayed = true
  · rw [if_pos hforeign]
    obtain ⟨e, hentry, hshown⟩ := isForeign_iff.1 hforeign
    have hown : (p.view cell).entry.filter (fun e => e.shown = displayed) = none := by
      simp [view, hentry, hshown]
    have hdrop := view_forget p cell cell
    rw [if_pos rfl] at hdrop
    rw [hown]
    exact hdrop
  · rw [if_neg hforeign]
    have hown : (p.view cell).entry.filter (fun e => e.shown = displayed)
        = (p.view cell).entry := by
      cases hentry : p.ledger.get? cell with
      | none => simp [view, hentry]
      | some e =>
          have hshown : e.shown = displayed := by
            by_contra hne
            exact hforeign (isForeign_iff.2 ⟨e, hentry, hne⟩)
          simp [view, hentry, hshown]
    rw [hown]

lemma view_dropForeign_of_ne (p : Pass) {cell id : CellId} (displayed : String) (h : cell ≠ id) :
    (p.dropForeign cell displayed).view id = p.view id := by
  simp only [dropForeign]
  split
  · have hdrop := view_forget p cell id
    rwa [if_neg h] at hdrop
  · rfl

lemma view_present_self (policy : Policy) {cell : CellId} {c : Cell} {p : Pass} (mm : Double)
    (hc : (p.view cell).cell = some c) :
    (p.present policy cell c.text mm).view cell = CellView.presenting policy c mm := by
  have hget : p.store.cells.get? cell = some c := hc
  simp only [present, CellView.presenting]
  split
  · rw [view_record, if_pos rfl, hc]
  · cases hlocked : c.locked with
    | true =>
        simp only [CellStore.write?, hget, hlocked, if_true, view_skip]
        rw [view_forget, if_pos rfl, hc]
    | false =>
        simp only [CellStore.write?, hget, hlocked, Bool.false_eq_true, if_false]
        rw [view_record, if_pos rfl]
        simp [view]

lemma view_present_of_ne (policy : Policy) {cell id : CellId} (displayed : String) (mm : Double)
    (p : Pass) (h : cell ≠ id) : (p.present policy cell displayed mm).view id = p.view id := by
  simp only [present]
  split
  · rw [view_record, if_neg h]
  · split
    · next store hwrite =>
        rw [view_record, if_neg h]
        simp only [CellStore.write?] at hwrite
        split at hwrite
        · split at hwrite
          · simp at hwrite
          · rw [← Option.some.inj hwrite]
            simp [view, Table.get?_insert_of_ne _ _ h]
        · simp at hwrite
    · rw [view_skip, view_forget, if_neg h]

/-- A visited length cell is brought to the text of its length. -/
lemma view_visitLength_self (policy : Policy) (cell : CellId) (p : Pass) :
    (p.visitLength policy cell).view cell = (p.view cell).brought policy := by
  have hread : p.store.read? cell = (p.view cell).cell.map (·.text) := rfl
  simp only [visitLength, hread, CellView.brought]
  cases hcell : (p.view cell).cell with
  | none =>
      simp only [Option.map_none, view_skip]
      rw [view_forget, if_pos rfl, hcell]
  | some c =>
      simp only [Option.map_some]
      have hdrop := view_dropForeign_self p cell c.text
      set q := p.dropForeign cell c.text with hq
      have hqcell : (q.view cell).cell = some c := by rw [hdrop]; exact hcell
      have hqentry : q.ledger.get? cell = (p.view cell).entry.filter fun e => e.shown = c.text :=
        congrArg CellView.entry hdrop
      simp only [lengthOf?, hqentry, CellView.length?]
      cases hown : (p.view cell).entry.filter fun e => e.shown = c.text with
      | some e => exact view_present_self policy e.length hqcell
      | none =>
          cases Millimeter.parse? c.text with
          | none =>
              rw [hown] at hdrop
              simp only [Option.map_none, view_skip, hdrop, hcell]
          | some mm =>
              exact view_present_self (p := q.countCaptured) policy mm hqcell

lemma view_visitLength_of_ne (policy : Policy) {cell id : CellId} (p : Pass) (h : cell ≠ id) :
    (p.visitLength policy cell).view id = p.view id := by
  simp only [visitLength]
  split
  · rw [view_skip, view_forget, if_neg h]
  · next displayed _ =>
      have hdrop := view_dropForeign_of_ne p displayed h
      simp only [lengthOf?]
      cases (p.dropForeign cell displayed).ledger.get? cell with
      | some e => exact (view_present_of_ne policy displayed e.length _ h).trans hdrop
      | none =>
          cases Millimeter.parse? displayed with
          | none => exact hdrop
          | some mm => exact (view_present_of_ne policy displayed mm _ h).trans hdrop

/-- An angle is passed over, and so is every cell but the visited one. -/
lemma view_visit (policy : Policy) (p : Pass) (c : PanelCell) (id : CellId) :
    (p.visit policy c).view id
      = if c = ⟨id, false⟩ then (p.view id).brought policy else p.view id := by
  obtain ⟨cell, angle⟩ := c
  cases angle with
  | true => simp [visit]
  | false =>
      by_cases hcell : cell = id
      · subst hcell
        simp [visit, view_visitLength_self]
      · simp [visit, hcell, view_visitLength_of_ne policy p.countVisited hcell]

end Pass

/-! ## The whole pass -/

/-- **A cell is brought to its text once for every time that it is listed as a length**, and left
alone otherwise. -/
theorem view_foldl_visit (policy : Policy) (cells : List PanelCell) (p : Pass) (id : CellId) :
    (cells.foldl (Pass.visit policy) p).view id
      = (CellView.brought policy)^[cells.count ⟨id, false⟩] (p.view id) := by
  induction cells generalizing p with
  | nil => rfl
  | cons c rest ih =>
      rw [List.foldl_cons, ih, Pass.view_visit, List.count_cons]
      by_cases hc : c = ⟨id, false⟩
      · simp [hc, Function.iterate_succ_apply]
      · simp [hc]

namespace Ledger

theorem view_reconcile (l : Ledger) (store : CellStore) (policy : Policy) (cells : List PanelCell)
    (id : CellId) :
    (l.reconcile store policy cells).view id
      = (CellView.brought policy)^[cells.count ⟨id, false⟩] ⟨l.get? id, store.cells.get? id⟩ :=
  view_foldl_visit policy cells _ id

lemma view_reconcile_of_not_mem (l : Ledger) (store : CellStore) (policy : Policy)
    {cells : List PanelCell} {id : CellId} (h : ⟨id, false⟩ ∉ cells) :
    (l.reconcile store policy cells).view id = ⟨l.get? id, store.cells.get? id⟩ := by
  rw [view_reconcile, List.count_eq_zero.2 h]
  rfl

lemma get?_reconcile_of_not_mem (l : Ledger) (store : CellStore) (policy : Policy)
    {cells : List PanelCell} {id : CellId} (h : ⟨id, false⟩ ∉ cells) :
    (l.reconcile store policy cells).ledger.get? id = l.get? id :=
  congrArg CellView.entry (view_reconcile_of_not_mem l store policy h)

/-- After a pass, an entry of a cell that was listed as a length shows that length under the
policy. -/
lemma shown_of_mem {l : Ledger} {store : CellStore} {policy : Policy} {cells : List PanelCell}
    {id : CellId} {e : Captured} (h : ⟨id, false⟩ ∈ cells)
    (he : (l.reconcile store policy cells).ledger.get? id = some e) :
    e.shown = policy.render e.length := by
  have hcount : cells.count ⟨id, false⟩ ≠ 0 := Nat.ne_of_gt (List.count_pos_iff.2 h)
  obtain ⟨n, hn⟩ := Nat.exists_eq_succ_of_ne_zero hcount
  have hview := view_reconcile l store policy cells id
  rw [hn, Function.iterate_succ_apply'] at hview
  have hentry : (l.reconcile store policy cells).ledger.get? id = _ := congrArg CellView.entry hview
  rw [hentry] at he
  exact CellView.shown_of_brought he

/-- A sweep keeps the entries of listed cells as they are, and no others. -/
lemma get?_sweep (l : Ledger) (live : List PanelCell) (id : CellId) :
    (l.sweep live).get? id = if live.any (fun c => c.cell = id) then l.get? id else none :=
  Table.get?_filter_key (fun cell => live.any fun c => c.cell = cell) l.entries id

end Ledger

end PanelKeys
