import PanelKeys.Proofs.Length.MillimeterText
import PanelKeys.Proofs.Session.InchStay

/-!
# Turning the unit over and back

Whoever turns the unit over and back, with nothing done in between, finds the lengths of the panel
in the form that this side writes them in.  Doing so again should change nothing, and it does change
nothing but a zero with a sign: it is read as zero, and zero is written without one.

* `afterToggles` — the unit turned over a number of times;
* `roundTripText`, `readText?_afterToggles` — **the text of a cell after any number of round trips
  is a matter of its text alone**;
* `toggles_settle` — the second round trip changes the text `-0.000` of a length and no other;
* `toggles_settled` — and no later one changes anything;
* `toggles_drop_sign` — a length of `-0.0001` does come to show that text.
-/

namespace PanelKeys

open PanelKeys.Length

namespace Workbench

variable {w : Workbench} {cell : CellId} {angle : Bool} {text : String}

/-- The unit turned over a number of times, with nothing else done. -/
def afterToggles (n : Nat) (w : Workbench) : Workbench := (fun w => w.execute .toggleUnit)^[n] w

lemma afterToggles_add (m n : Nat) (w : Workbench) :
    w.afterToggles (m + n) = (w.afterToggles n).afterToggles m :=
  Function.iterate_add_apply _ m n w

/-! ## What stays -/

lemma Reachable.afterToggles (h : w.Reachable) (n : Nat) : (w.afterToggles n).Reachable := by
  induction n generalizing w with
  | zero => exact h
  | succ n ih => exact ih (.step (.execute .toggleUnit) h)

lemma rows_execute_toggleUnit (w : Workbench) :
    (w.execute .toggleUnit).host.rows = w.host.rows := by
  cases hunit : w.session.policy.unit with
  | millimeter =>
      rw [execute_toggleUnit_of_millimeter hunit]
      exact rows_reconcile _
  | inch =>
      simp [execute, Session.execute, Session.toggleUnit, Policy.isInch, Policy.toggleUnit, hunit,
        Unit.toggled]

lemma rows_afterToggles (n : Nat) (w : Workbench) : (w.afterToggles n).host.rows = w.host.rows := by
  induction n generalizing w with
  | zero => rfl
  | succ n ih => exact (ih _).trans (rows_execute_toggleUnit w)

lemma unit_execute_toggleUnit (w : Workbench) :
    (w.execute .toggleUnit).session.policy.unit = w.session.policy.unit.toggled := by
  cases hunit : w.session.policy.unit with
  | millimeter =>
      rw [execute_toggleUnit_of_millimeter hunit, policy_reconcile]
      simp [withPolicy, Policy.toggleUnit, hunit]
  | inch =>
      simp [execute, Session.execute, Session.toggleUnit, Policy.isInch, Policy.toggleUnit, hunit,
        Unit.toggled]

/-- Where there is no cell none appears. -/
lemma readText?_afterToggles_eq_none (h : w.Reachable) (hnone : w.host.readText? cell = none)
    (n : Nat) : (w.afterToggles n).host.readText? cell = none := by
  have hrows : (w.afterToggles n).host.rowCells = w.host.rowCells := by
    rw [Host.rowCells, Host.rowCells, rows_afterToggles]
  have hbefore := h.stocked cell
  have hafter := (h.afterToggles n).stocked cell
  rw [hrows, ← hbefore] at hafter
  have hgone : w.host.store.cells.get? cell = none := Option.map_eq_none_iff.1 hnone
  rw [hgone, Option.map_none, Option.map_eq_none_iff] at hafter
  exact Option.map_eq_none_iff.2 hafter

/-! ## Round trips -/

/-- The text of a cell after a round trip. -/
def roundTripText (angle : Bool) (text : String) : String :=
  if angle then text else Millimeter.normal text

lemma readText?_roundTrip (h : w.Reachable) (hunit : w.session.policy.unit = .millimeter)
    (hlisted : ⟨cell, angle⟩ ∈ w.host.panelCells) (htext : w.host.readText? cell = some text) :
    (w.afterToggles 2).host.readText? cell = some (roundTripText angle text) := by
  have hstay : Stay cell w (w.execute .toggleUnit) := .begun
  have huntouched (hcourse : CellView.Course angle (.untouched text) fun _ => .untouched text) :
      (w.afterToggles 2).host.readText? cell = some text :=
    (hstay.shows h hunit hlisted htext hcourse (by simp [CellView.untouched])).2
  cases angle with
  | true => exact huntouched (CellView.course_angle text)
  | false =>
      cases hread : Millimeter.parse? text with
      | none =>
          rw [huntouched (CellView.course_text hread false), roundTripText,
            if_neg Bool.false_ne_true, Millimeter.normal_of_parse?_eq_none hread]
      | some mm =>
          have hback : (w.afterToggles 2).host.readText? cell = _ :=
            (hstay.shows h hunit hlisted htext (CellView.course_length hread)
              (by simp [CellView.converted])).2
          rw [roundTripText, if_neg Bool.false_ne_true, Millimeter.normal_of_parse? hread, hback]
          simp [CellView.restored, CellView.converted]

/-- **After any number of round trips a cell shows what became of its own text.** -/
theorem readText?_afterToggles (h : w.Reachable) (hunit : w.session.policy.unit = .millimeter)
    (hlisted : ⟨cell, angle⟩ ∈ w.host.panelCells) (htext : w.host.readText? cell = some text)
    (n : Nat) :
    (w.afterToggles (2 * n)).host.readText? cell = some ((roundTripText angle)^[n] text) := by
  induction n generalizing w text with
  | zero => exact htext
  | succ n ih =>
      have hunit' : (w.afterToggles 2).session.policy.unit = .millimeter := by
        show ((w.execute .toggleUnit).execute .toggleUnit).session.policy.unit = _
        rw [unit_execute_toggleUnit, unit_execute_toggleUnit, hunit]
        rfl
      have hlisted' : ⟨cell, angle⟩ ∈ (w.afterToggles 2).host.panelCells := by
        rwa [panelCells_of_rows_eq (rows_afterToggles 2 w)]
      rw [Nat.mul_succ, afterToggles_add, Function.iterate_succ_apply]
      exact ih (h.afterToggles 2) hunit' hlisted' (readText?_roundTrip h hunit hlisted htext)

/-- A cell is listed, or it is not there. -/
lemma Reachable.listed (h : w.Reachable) (htext : w.host.readText? cell = some text) :
    ∃ angle, ⟨cell, angle⟩ ∈ w.host.panelCells := by
  obtain ⟨c, hcell, -⟩ := Option.map_eq_some_iff.1 htext
  exact h.stocked.listed h.coherent.numbered hcell

lemma roundTripText_roundTripText (angle : Bool) (text : String) :
    roundTripText angle (roundTripText angle text)
      = if angle = false ∧ roundTripText angle text = "-0.000" then "0.000"
        else roundTripText angle text := by
  cases angle with
  | true => simp [roundTripText]
  | false => simpa [roundTripText] using Millimeter.normal_normal text

/-- Two round trips leave nothing for a third to do. -/
lemma roundTripText_settled (angle : Bool) (text : String) :
    roundTripText angle ((roundTripText angle)^[2] text) = (roundTripText angle)^[2] text := by
  show roundTripText angle (roundTripText angle (roundTripText angle text))
    = roundTripText angle (roundTripText angle text)
  rw [roundTripText_roundTripText angle text]
  split
  · next hzero =>
      rw [hzero.1]
      decide +kernel
  · next hother => rw [roundTripText_roundTripText, if_neg hother]

/-- **The second round trip changes nothing but a zero with a sign.**  The texts of the panel after
the unit has been turned over four times are those after two times, cell by cell, except that a
length that showed `-0.000` then shows `0.000`. -/
theorem toggles_settle (h : w.Reachable) (hunit : w.session.policy.unit = .millimeter)
    (cell : CellId) : (w.afterToggles 4).host.readText? cell
      = if ⟨cell, false⟩ ∈ w.host.panelCells
        ∧ (w.afterToggles 2).host.readText? cell = some "-0.000"
        then some "0.000" else (w.afterToggles 2).host.readText? cell := by
  cases htext : w.host.readText? cell with
  | none => simp [readText?_afterToggles_eq_none h htext]
  | some text =>
      obtain ⟨angle, hlisted⟩ := h.listed htext
      have hlength : ⟨cell, false⟩ ∈ w.host.panelCells ↔ angle = false := by
        refine ⟨fun hmem => ?_, fun hangle => hangle ▸ hlisted⟩
        have hsame := h.coherent.numbered.panelCell_unique hlisted hmem rfl
        simpa using hsame
      have hone : (w.afterToggles 2).host.readText? cell = some (roundTripText angle text) :=
        readText?_afterToggles h hunit hlisted htext 1
      have htwo : (w.afterToggles 4).host.readText? cell
          = some (roundTripText angle (roundTripText angle text)) :=
        readText?_afterToggles h hunit hlisted htext 2
      rw [htwo, hone, roundTripText_roundTripText]
      simp only [hlength, Option.some.injEq]
      split <;> rfl

/-- 33 mm and 0.4 micrometers below zero: the first shows three places from the first round trip on,
the second loses its sign on the second. -/
theorem toggles_settle_below_zero :
    let w := ((new {} .empty []).step (.edit (.pushScalar "Gap" "33"))).step
      (.edit (.pushScalar "Offset" "-0.0004"))
    w.Reachable ∧ w.session.policy.unit = .millimeter ∧ ⟨4, false⟩ ∈ w.host.panelCells
      ∧ (w.afterToggles 2).host.readText? 2 = some "33.000"
      ∧ (w.afterToggles 4).host.readText? 2 = some "33.000"
      ∧ (w.afterToggles 2).host.readText? 4 = some "-0.000"
      ∧ (w.afterToggles 4).host.readText? 4 = some "0.000" := by
  intro w
  have hreach : w.Reachable := .step _ (.step _ (.new _ _ _))
  have hunit : w.session.policy.unit = .millimeter := rfl
  have hlisted : ⟨4, false⟩ ∈ w.host.panelCells := by decide +kernel
  have hgap : (w.afterToggles 2).host.readText? 2 = some "33.000" := by decide +kernel
  have hoffset : (w.afterToggles 2).host.readText? 4 = some "-0.000" := by decide +kernel
  refine ⟨hreach, hunit, hlisted, hgap, ?_, hoffset, ?_⟩
  · rw [toggles_settle hreach hunit 2, hgap]
    simp
  · rw [toggles_settle hreach hunit 4, hoffset]
    simp [hlisted]

/-- **So two round trips need not show what one does**: a length of `-0.0001` shows `-0.000` and
then `0.000`. -/
theorem toggles_drop_sign :
    ¬ ∀ (w : Workbench) (cell : CellId), w.Reachable → w.session.policy.unit = .millimeter →
        (w.afterToggles 4).host.readText? cell = (w.afterToggles 2).host.readText? cell := by
  intro hsame
  have hreach : ((new {} .empty []).step (.edit (.pushScalar "Gap" "-0.0001"))).Reachable :=
    .step _ (.new _ _ _)
  have hsettled := hsame _ 2 hreach rfl
  revert hsettled
  decide +kernel

/-- **From the second round trip on nothing changes.** -/
theorem toggles_settled (h : w.Reachable) (hunit : w.session.policy.unit = .millimeter)
    (cell : CellId) (n : Nat) :
    (w.afterToggles (2 * (n + 2))).host.readText? cell
      = (w.afterToggles 4).host.readText? cell := by
  cases htext : w.host.readText? cell with
  | none => rw [readText?_afterToggles_eq_none h htext, readText?_afterToggles_eq_none h htext]
  | some text =>
      obtain ⟨angle, hlisted⟩ := h.listed htext
      have htwo : (w.afterToggles 4).host.readText? cell = some ((roundTripText angle)^[2] text) :=
        readText?_afterToggles h hunit hlisted htext 2
      rw [readText?_afterToggles h hunit hlisted htext, htwo, Function.iterate_add_apply,
        Function.iterate_fixed (roundTripText_settled angle text)]

end Workbench

end PanelKeys
