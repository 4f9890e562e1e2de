import PanelKeys.Proofs.Length.Apart
import PanelKeys.Proofs.Session.Tally

/-!
# A second pass finds nothing to do

Every text that is written wakes the application.  If a pass could not leave alone what the pass
before it has left, the two sides would go on writing for ever.

That nothing is written twice is plain: a visit leaves a cell with an entry that shows what it
should, or without an entry.  That the entries stay as they are is not.  A cell that cannot be
written loses its entry, and the next visit reads its text afresh; if the text were then taken for a
length that needs no writing, the cell would have an entry again.  It is not, because **an entry
shows its length under some policy**: what it shows is in millimeters, and then the length it spells
needs writing whenever the length behind it does, or it is in inches, and then it spells no length
at all.

* `CellView.Rendered`, `Ledger.Rendered` — entries that show their lengths under some policy;
* `CellView.brought_brought` — then a second visit changes nothing;
* `Desk.rendered_run` — and the entries of a ledger in use are always of this kind;
* **`second_pass_rests`** — so a second pass does nothing.
-/

namespace PanelKeys

open PanelKeys.Length
open PanelKeys.Number

/-! ## A second visit -/

namespace CellView

/-- The entry shows its length under some policy. -/
def Rendered (v : CellView) : Prop :=
  ∀ e, v.entry = some e → ∃ policy : Policy, e.shown = policy.render e.length

/-- A text behind which there is no length spells none. -/
lemma parse?_of_length?_eq_none {v : CellView} {text : String} (h : v.length? text = none) :
    Millimeter.parse? text = none := by
  simp only [length?] at h
  split at h
  · simp at h
  · exact h

/-- A text that a policy writes for the length it spells is the one that it writes for the length
behind it. -/
lemma Rendered.render_length? {v : CellView} (hv : v.Rendered) {policy : Policy} {text : String}
    {mm read : Double} (hlength : v.length? text = some mm)
    (hread : Millimeter.parse? text = some read)
    (hshown : policy.render read = text) : policy.render mm = text := by
  rcases length?_eq_some hlength with ⟨e, hentry, rfl, rfl⟩ | hparse
  · obtain ⟨before, hbefore⟩ := hv e hentry
    have hold : before.unit = .millimeter := by
      rw [hbefore] at hread
      exact Policy.unit_of_parse?_render hread
    have hnew : policy.unit = .millimeter := by
      rw [← hshown] at hread
      exact Policy.unit_of_parse?_render hread
    rw [hbefore, Policy.render_of_millimeter hnew, Policy.render_of_millimeter hold]
  · rw [hread] at hparse
    rw [← Option.some.inj hparse, hshown]

/-- A cell that is left without an entry stays without one, if its text would have to be changed. -/
lemma brought_locked {policy : Policy} {cell : Cell} (hlocked : cell.locked = true)
    (hchange : ∀ read, Millimeter.parse? cell.text = some read → policy.render read ≠ cell.text) :
    (⟨none, some cell⟩ : CellView).brought policy = ⟨none, some cell⟩ := by
  simp only [brought, length?, Option.filter_none]
  cases hread : Millimeter.parse? cell.text with
  | none => rfl
  | some read => simp [presenting, hchange read hread, hlocked]

/-- A cell that shows what it should, with an entry that says so. -/
lemma brought_shown (policy : Policy) (mm : Double) (locked : Bool) :
    (⟨some ⟨mm, policy.render mm⟩, some ⟨policy.render mm, locked⟩⟩ : CellView).brought policy
      = ⟨some ⟨mm, policy.render mm⟩, some ⟨policy.render mm, locked⟩⟩ := by
  simp [brought, length?, presenting, Option.filter]

/-- **A second visit changes nothing.** -/
theorem brought_brought {v : CellView} (hv : v.Rendered) (policy : Policy) :
    (v.brought policy).brought policy = v.brought policy := by
  cases hcell : v.cell with
  | none => simp [brought, hcell]
  | some cell =>
      obtain ⟨text, locked⟩ := cell
      cases hlength : v.length? text with
      | none =>
          have hfirst : v.brought policy = ⟨none, some ⟨text, locked⟩⟩ := by
            simp only [brought, hcell, hlength]
          rw [hfirst]
          simp [brought, length?, parse?_of_length?_eq_none hlength]
      | some mm =>
          have hfirst : v.brought policy = presenting policy ⟨text, locked⟩ mm := by
            simp only [brought, hcell, hlength]
          rw [hfirst, presenting]
          by_cases hsame : policy.render mm = text
          · rw [if_pos hsame, ← hsame]
            exact brought_shown policy mm locked
          · rw [if_neg hsame]
            cases locked with
            | true =>
                rw [if_pos rfl]
                exact brought_locked rfl fun read hread hshown =>
                  hsame (hv.render_length? hlength hread hshown)
            | false => exact brought_shown policy mm false

lemma iterate_brought {v : CellView} (hv : v.Rendered) (policy : Policy) {n : Nat} (hn : n ≠ 0) :
    (brought policy)^[n] v = v.brought policy := by
  obtain ⟨k, rfl⟩ := Nat.exists_eq_succ_of_ne_zero hn
  rw [Function.iterate_succ_apply]
  exact Function.iterate_fixed (brought_brought hv policy) k

/-! ## What a second visit counts -/

/-- A visit leaves no entry that does not show what the cell shows. -/
lemma isForeign_brought (policy : Policy) (v : CellView) :
    (v.brought policy).isForeign = false := by
  simp only [brought]
  split
  · rfl
  · next cell _ =>
      split
      · rfl
      · next mm _ =>
          simp only [presenting]
          split
          · next hsame => simp [isForeign, hsame]
          · split
            · rfl
            · simp [isForeign]

/-- Later visits write nothing, and find nothing changed. -/
lemma quiet_tallies_brought (policy : Policy) (n : Nat) (v : CellView) :
    ((v.brought policy).tallies policy n).written = 0
      ∧ ((v.brought policy).tallies policy n).foreign = 0 := by
  have hlater : ∀ k, (brought policy)^[k] (v.brought policy)
      = ((brought policy)^[k] v).brought policy := by
    intro k
    rw [← Function.iterate_succ_apply, Function.iterate_succ_apply']
  constructor
  · simp only [tallies, Report.written_sum]
    refine Finset.sum_eq_zero fun k _ => ?_
    simp [hlater, tally, rewrite?_brought]
  · simp only [tallies, Report.foreign_sum]
    refine Finset.sum_eq_zero fun k _ => ?_
    simp [hlater, tally, isForeign_brought]

/-- Only the first visit can find the cell changed. -/
lemma foreign_tallies_of_ne (policy : Policy) (v : CellView) {n : Nat} (hn : n ≠ 0) :
    (v.tallies policy n).foreign = v.isForeign.toNat := by
  obtain ⟨k, rfl⟩ := Nat.exists_eq_succ_of_ne_zero hn
  rw [tallies_succ, Report.foreign_add, (quiet_tallies_brought policy k v).2]
  exact Nat.zero_add _

end CellView

/-! ## The entries of a ledger in use -/

/-- Every entry shows its length under some policy. -/
def Ledger.Rendered (l : Ledger) : Prop :=
  ∀ cell e, l.get? cell = some e → ∃ policy : Policy, e.shown = policy.render e.length

lemma Ledger.Rendered.view {l : Ledger} (h : l.Rendered) (id : CellId) (cell : Option Cell) :
    (⟨l.get? id, cell⟩ : CellView).Rendered := h id

namespace Desk

lemma rendered_call {d : Desk} (h : d.ledger.Rendered) (call : LedgerCall) :
    (d.call call).ledger.Rendered := by
  intro cell e he
  cases call with
  | reconcile policy cells =>
      by_cases hlisted : ⟨cell, false⟩ ∈ cells
      · exact ⟨policy, Ledger.shown_of_mem hlisted he⟩
      · refine h cell e ?_
        rw [← Ledger.get?_reconcile_of_not_mem d.ledger d.store policy hlisted]
        exact he
  | restore => exact absurd he Ledger.not_get?_empty
  | sweep live =>
      have hsweep := d.ledger.get?_sweep live cell
      have hkept : (d.ledger.sweep live).get? cell = some e := he
      rw [hkept] at hsweep
      split at hsweep
      · exact h cell e hsweep.symm
      · simp at hsweep
  | forget gone =>
      have hkept : (d.ledger.entries.erase gone).get? cell = some e := he
      rw [Table.get?_erase] at hkept
      split at hkept
      · simp at hkept
      · exact h cell e hkept

/-- **Whatever a ledger has been asked for, its entries show their lengths**, each under the policy
of the pass that wrote it. -/
theorem rendered_run (store : CellStore) (events : List DeskEvent) :
    ((new store).run events).ledger.Rendered := by
  induction events using List.reverseRecOn with
  | nil => exact fun cell e he => absurd he Ledger.not_get?_empty
  | append_singleton events event ih =>
      rw [run, List.foldl_append]
      cases event with
      | call call => exact rendered_call ih call
      | edit cells => exact ih

end Desk

/-! ## The second pass -/

namespace Ledger

/-- A pass over cells that the same pass has been over writes nothing and finds nothing changed. -/
lemma quiet_second_pass (l : Ledger) (store : CellStore) (policy : Policy)
    (cells : List PanelCell) :
    ((l.reconcile store policy cells).ledger.reconcile (l.reconcile store policy cells).store
        policy cells).report.written = 0
      ∧ ((l.reconcile store policy cells).ledger.reconcile (l.reconcile store policy cells).store
        policy cells).report.foreign = 0 := by
  have hquiet : ∀ id, (((l.reconcile store policy cells).view id).tallies policy
        (cells.count ⟨id, false⟩)).written = 0
      ∧ (((l.reconcile store policy cells).view id).tallies policy
        (cells.count ⟨id, false⟩)).foreign = 0 := by
    intro id
    rw [view_reconcile]
    cases hcount : cells.count ⟨id, false⟩ with
    | zero => exact ⟨rfl, rfl⟩
    | succ n =>
        rw [Function.iterate_succ_apply']
        exact CellView.quiet_tallies_brought policy _ _
  rw [report_reconcile _ _ policy fun c => cell_mem_listed]
  simp only [Report.written_add, Report.foreign_add, Report.written_sum, Report.foreign_sum,
    Nat.zero_add]
  exact ⟨Finset.sum_eq_zero fun id _ => (hquiet id).1, Finset.sum_eq_zero fun id _ => (hquiet id).2⟩

/-- A second visit finds every cell as it should be. -/
lemma view_second_pass {l : Ledger} (hl : l.Rendered) (store : CellStore) (policy : Policy)
    (cells : List PanelCell) (id : CellId) :
    ((l.reconcile store policy cells).ledger.reconcile (l.reconcile store policy cells).store policy
        cells).view id = (l.reconcile store policy cells).view id := by
  have hsecond :=
    view_reconcile (l.reconcile store policy cells).ledger (l.reconcile store policy cells).store
    policy cells id
  have hfirst := view_reconcile l store policy cells id
  rw [hsecond]
  show (CellView.brought policy)^[_] ((l.reconcile store policy cells).view id) = _
  rw [hfirst]
  by_cases hcount : cells.count ⟨id, false⟩ = 0
  · rw [hcount]
    rfl
  · have hv := hl.view id (store.cells.get? id)
    rw [CellView.iterate_brought hv policy hcount]
    exact Function.iterate_fixed (CellView.brought_brought hv policy) _

/-- **A second pass over the same cells does nothing.**  Whatever the ledger has been asked for
since it was empty, and whatever has been done to its cells: it writes nothing, finds nothing
changed, and leaves texts and entries as they are. -/
theorem second_pass_rests (start : CellStore) (events : List DeskEvent) (store : CellStore)
    (policy : Policy) (cells : List PanelCell) :
    let first := ((Desk.new start).run events).ledger.reconcile store policy cells
    let second := first.ledger.reconcile first.store policy cells
    second.report.written = 0
      ∧ second.report.foreign = 0
      ∧ second.store.writes = first.store.writes
      ∧ (∀ cell, second.store.cells.get? cell = first.store.cells.get? cell)
      ∧ ∀ cell, second.ledger.get? cell = first.ledger.get? cell := by
  intro first second
  obtain ⟨hwritten, hforeign⟩ :=
    ((Desk.new start).run events).ledger.quiet_second_pass store policy cells
  have hview := view_second_pass (Desk.rendered_run start events) store policy cells
  refine ⟨hwritten, hforeign, ?_, fun cell => congrArg CellView.cell (hview cell),
    fun cell => congrArg CellView.entry (hview cell)⟩
  have hwrites := first.ledger.writes_reconcile first.store policy cells
  rwa [hwritten] at hwrites

end Ledger

end PanelKeys
