import PanelKeys.Proofs.Length.InchReading
import PanelKeys.Proofs.Session.SecondPass

/-!
# What a text in inches stands for

The ledger is needed because a text in inches is coarse, but coarse is all that it is.  The text
still tells the parts that it shows, so two texts differ wherever the parts do.  And it is not
mistaken for a length in millimeters: a pass that finds one without its entry has nothing to read,
**so no length is ever captured from a converted cell**.

* `CellView.Unread` — a cell whose text is not to be read: it spells no length, or it is the text of
  its entry;
* `CellView.Unread.brought` — visits keep a cell so, whether they write it, leave it, or find it
  locked;
* `Ledger.captured_reconcile` — so a pass captures nothing from a cell with such a text, and its
  entry keeps the length it has had;
* **`Ledger.inch_texts_tell_apart`** — both about the texts of all lengths.
-/

namespace PanelKeys

open PanelKeys.Length
open PanelKeys.Number

/-! ## One cell -/

namespace CellView

/-- The text of the cell is not read in any visit, and an entry has the known length.  A locked cell
loses its entry as soon as it should change, so its text must spell no length at all. -/
structure Unread (known : Option Double) (v : CellView) : Prop where
  entry : ∀ e, v.entry = some e → known = some e.length
  text : ∀ cell, v.cell = some cell →
    Millimeter.parse? cell.text = none ∨ (cell.locked = false ∧ ∃ e,
      v.entry = some e ∧ e.shown = cell.text)

/-- A cell that spells no length begins unread. -/
lemma unread_of_parse?_eq_none {v : CellView}
    (h : ∀ cell, v.cell = some cell → Millimeter.parse? cell.text = none) :
    Unread (v.entry.map (·.length)) v where
  entry _ he := congrArg (Option.map (·.length)) he
  text cell hcell := Or.inl (h cell hcell)

/-- A cell that has been brought to the text of a length is unread: either its entry shows that
text, or the cell is locked and spells none. -/
lemma unread_presenting (policy : Policy) {cell : Cell} (mm : Double)
    (h : cell.locked = true → Millimeter.parse? cell.text = none) :
    Unread (some mm) (presenting policy cell mm) := by
  simp only [presenting]
  split
  · next hsame =>
      refine ⟨fun e he => by rw [← Option.some.inj he], fun kept hkept => ?_⟩
      rw [← Option.some.inj hkept]
      cases hlocked : cell.locked with
      | true => exact Or.inl (h hlocked)
      | false => exact Or.inr ⟨rfl, _, rfl, hsame⟩
  · split
    · next hlocked =>
        refine ⟨by simp, fun kept hkept => Or.inl ?_⟩
        rw [← Option.some.inj hkept]
        exact h hlocked
    · next hlocked =>
        refine ⟨fun e he => by rw [← Option.some.inj he], fun written hwritten => Or.inr ?_⟩
        rw [← Option.some.inj hwritten]
        exact ⟨Bool.eq_false_of_not_eq_true hlocked, _, rfl, rfl⟩

namespace Unread

variable {known : Option Double} {v : CellView}

lemma isRead_eq_false (h : v.Unread known) : v.isRead = false := by
  cases hcell : v.cell with
  | none => simp [isRead, hcell]
  | some cell =>
      rcases h.text cell hcell with hnone | ⟨-, e, hentry, hshown⟩
      · simp [isRead, hcell, hnone]
      · simp [isRead, hcell, hentry, hshown, Option.filter]

/-- The length behind the cell is that of its entry. -/
lemma length?_eq_known (h : v.Unread known) {cell : Cell} (hcell : v.cell = some cell) {mm : Double}
    (hlength : v.length? cell.text = some mm) : known = some mm := by
  rcases h.text cell hcell with hnone | ⟨-, e, hentry, hshown⟩
  · rcases length?_eq_some hlength with ⟨e, hentry, -, rfl⟩ | hparse
    · exact h.entry e hentry
    · rw [hnone] at hparse
      simp at hparse
  · have hown : v.length? cell.text = some e.length := by
      simp [length?, hentry, hshown, Option.filter]
    rw [← hlength, hown]
    exact h.entry e hentry

/-- **A visit keeps a cell unread.** -/
lemma brought (h : v.Unread known) (policy : Policy) : (v.brought policy).Unread known := by
  cases hcell : v.cell with
  | none =>
      have hgone : v.brought policy = ⟨none, none⟩ := by simp only [CellView.brought, hcell]
      rw [hgone]
      exact ⟨by simp, by simp⟩
  | some cell =>
      cases hlength : v.length? cell.text with
      | none =>
          have hleft : v.brought policy = ⟨none, some cell⟩ := by
            simp only [CellView.brought, hcell, hlength]
          rw [hleft]
          refine ⟨by simp, fun kept hkept => Or.inl ?_⟩
          rw [← Option.some.inj hkept]
          exact parse?_of_length?_eq_none hlength
      | some mm =>
          have hpresented : v.brought policy = presenting policy cell mm := by
            simp only [CellView.brought, hcell, hlength]
          rw [hpresented, h.length?_eq_known hcell hlength]
          refine unread_presenting policy mm fun hlocked => (h.text cell hcell).resolve_right ?_
          rintro ⟨hfree, -⟩
          rw [hlocked] at hfree
          cases hfree

/-- So do any number of visits. -/
lemma iterate_brought (h : v.Unread known) (policy : Policy) (n : Nat) :
    ((CellView.brought policy)^[n] v).Unread known := by
  induction n with
  | zero => exact h
  | succ n ih =>
      rw [Function.iterate_succ_apply']
      exact ih.brought policy

/-- And none of them counts a length as captured. -/
lemma captured_tallies (h : v.Unread known) (policy : Policy) (n : Nat) :
    (v.tallies policy n).captured = 0 := by
  simp only [tallies, Report.captured_sum]
  refine Finset.sum_eq_zero fun k _ => ?_
  simp only [tally, (h.iterate_brought policy k).isRead_eq_false, Bool.toNat_false]

end Unread

end CellView

/-! ## A pass -/

namespace Ledger

/-- Nothing is captured from a cell whose text spells no length: a pass captures what it captures
from the other cells. -/
lemma captured_reconcile (l : Ledger) {store : CellStore} {id : CellId} {displayed : String}
    (hread : store.read? id = some displayed) (hnone : Millimeter.parse? displayed = none)
    (policy : Policy) (cells : List PanelCell) :
    (l.reconcile store policy cells).report.captured
        = (l.reconcile store policy (cells.filter (·.cell ≠ id))).report.captured
      ∧ ∀ e, (l.reconcile store policy cells).ledger.get? id = some e →
        ∃ known, l.get? id = some known ∧ known.length = e.length := by
  have hunread :
      (⟨l.get? id, store.cells.get? id⟩ : CellView).Unread ((l.get? id).map (·.length)) := by
    refine CellView.unread_of_parse?_eq_none (v := ⟨l.get? id, store.cells.get? id⟩)
      fun cell hcell => ?_
    have hget : store.cells.get? id = some cell := hcell
    have htext : cell.text = displayed := by simpa [CellStore.read?, hget] using hread
    rw [htext, hnone]
  constructor
  · have hlisted : ∀ c ∈ cells.filter (·.cell ≠ id), c.cell ∈ (cells.map PanelCell.cell).toFinset :=
      fun c hc =>
      cell_mem_listed (List.mem_of_mem_filter hc)
    rw [report_reconcile l store policy fun c => cell_mem_listed,
      report_reconcile l store policy hlisted]
    simp only [Report.captured_add, Report.captured_sum]
    refine congrArg (0 + ·) (Finset.sum_congr rfl fun other _ => ?_)
    -- The cell counts nothing however often it is listed, and the other cells are listed as often
    -- as before.
    by_cases hother : other = id
    · subst hother
      rw [hunread.captured_tallies, hunread.captured_tallies]
    · rw [List.count_filter (by simpa using hother)]
  · intro e he
    have hview := congrArg CellView.entry (view_reconcile l store policy cells id)
    have hentry :=
      (hunread.iterate_brought policy (cells.count ⟨id, false⟩)).entry e (hview.symm.trans he)
    obtain ⟨known, hknown, hlength⟩ := Option.map_eq_some_iff.1 hentry
    exact ⟨known, hknown, hlength⟩

/-- **Texts in inches tell their parts and nothing else.**  The parts of a length can be read off
its text, so two lengths with the same text have the same parts, whatever the precisions and with
feet or without.  The text is not one in millimeters: a pass that finds it in a cell captures
nothing from there, and an entry that the cell has afterwards is for the length that it had been
for. -/
theorem inch_texts_tell_apart (mm : Double) (precision : Precision) (feet : Bool) :
    let parts := InchParts.ofMillimeters mm precision feet
    InchParts.read? parts.text = some parts
      ∧ (∀ mm' precision' feet', (InchParts.ofMillimeters mm' precision' feet').text = parts.text →
        InchParts.ofMillimeters mm' precision' feet' = parts)
      ∧ Millimeter.parse? parts.text = none
      ∧ ∀ (l : Ledger) (store : CellStore) (policy : Policy) (cells : List PanelCell) (id : CellId),
        store.read? id = some parts.text →
          (l.reconcile store policy cells).report.captured
              = (l.reconcile store policy (cells.filter (·.cell ≠ id))).report.captured
            ∧ ∀ e, (l.reconcile store policy cells).ledger.get? id = some e →
              ∃ known, l.get? id = some known ∧ known.length = e.length := by
  intro parts
  refine ⟨InchParts.read?_text InchParts.denominator_ofMillimeters,
    fun mm' precision' feet' htext => ?_,
    parts.parse?_text, fun l store policy cells id hread => ?_⟩
  · exact InchParts.text_inj InchParts.denominator_ofMillimeters InchParts.denominator_ofMillimeters
      htext
  · exact l.captured_reconcile hread parts.parse?_text policy cells

/-- 33 mm in sixteenths, in a cell that has lost its entry: back in millimeters it stays as it
is. -/
theorem inch_texts_tell_apart_without_entry :
    let parts := InchParts.ofMillimeters ((Millimeter.parse? "33").getD .nan) .sixteenth true
    let store := CellStore.put {} 1 ⟨"1 5/16\"", false⟩
    parts.text = "1 5/16\"" ∧ InchParts.read? "1 5/16\"" = some ⟨false, 0, 1, 5, 16⟩
      ∧ (empty.reconcile store {} [⟨1, false⟩]).report.captured = 0 := by
  intro parts store
  have htext : parts.text = "1 5/16\"" := by decide +kernel
  obtain ⟨hread, -, -, hpass⟩ :=
    inch_texts_tell_apart ((Millimeter.parse? "33").getD .nan) .sixteenth true
  obtain ⟨hcaptured, -⟩ := hpass empty store {} [⟨1, false⟩] 1 (by rw [htext]; decide)
  refine ⟨htext, ?_, hcaptured.trans (by decide)⟩
  rw [htext] at hread
  exact hread.trans (by decide +kernel)

end Ledger

end PanelKeys
