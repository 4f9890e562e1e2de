import PanelKeys.Proofs.Session.CellFate

/-!
# A stay in inches

Somebody looks at the panel in inches for a while, turns precision and feet over, and goes back to
millimeters.  In between every length has been rounded many times, each time for the screen only:
what is rounded is always the length that was read at the beginning.

* `Course` — how a cell goes through a stay: **its view is a function of the policy alone**,
  whatever the policies were before;
* `course_length`, `course_angle`, `course_text` — the courses of a length, of an angle, and of a
  text that shows no length;
* `Stay` — a session from the switch to inches on, as long as the cell is left alone;
* `Stay.onCourse` — no step leaves the course;
* **`stay_keeps_length`** — so the screen shows the length under the current policy all the time,
  and the way back shows it in millimeters.
-/

namespace PanelKeys

open PanelKeys.Length
open PanelKeys.Number

/-! ## Courses -/

namespace CellView

/-- A cell that shows a length under a policy, with its entry. -/
def converted (mm : Double) (policy : Policy) : CellView :=
  ⟨some ⟨mm, policy.render mm⟩, some ⟨policy.render mm, false⟩⟩

/-- A cell of the application's own. -/
def untouched (text : String) : CellView := ⟨none, some ⟨text, false⟩⟩

/-- What passes make of a cell depends on the last policy only, both at the beginning and later on.
A pass visits a length at least once and an angle never. -/
structure Course (angle : Bool) (start : CellView) (course : Policy → CellView) : Prop where
  begins : ∀ policy n, (n = 0 ↔ angle = true) → (brought policy)^[n] start = course policy
  goes_on : ∀ before policy n, (n = 0 ↔ angle = true) →
    (brought policy)^[n] (course before) = course policy

lemma brought_converted (mm : Double) (before policy : Policy) :
    (converted mm before).brought policy = converted mm policy := by
  simp only [converted, brought, length?, Option.filter_some, decide_true, if_true, presenting]
  split
  · next hsame => rw [hsame]
  · rfl

lemma brought_untouched {text : String} {mm : Double} (hmm : Millimeter.parse? text = some mm)
    (policy : Policy) : (untouched text).brought policy = converted mm policy := by
  simp only [untouched, converted, brought, length?, Option.filter_none, hmm, presenting]
  split
  · next hsame => rw [hsame]
  · rfl

lemma brought_untouched_text {text : String} (hnone : Millimeter.parse? text = none)
    (policy : Policy) : (untouched text).brought policy = untouched text := by
  simp [untouched, brought, length?, hnone]

lemma iterate_brought_converted (mm : Double) (policy : Policy) (n : Nat) :
    (brought policy)^[n] (converted mm policy) = converted mm policy :=
  Function.iterate_fixed (brought_converted mm policy policy) n

/-- A length is read once, and rounded anew from what was read. -/
lemma course_length {text : String} {mm : Double} (hmm : Millimeter.parse? text = some mm) :
    Course false (untouched text) (converted mm) where
  begins policy n hn := by
    obtain ⟨k, rfl⟩ := Nat.exists_eq_succ_of_ne_zero (n := n) (by simpa using hn)
    rw [Function.iterate_succ_apply, brought_untouched hmm, iterate_brought_converted]
  goes_on before policy n hn := by
    obtain ⟨k, rfl⟩ := Nat.exists_eq_succ_of_ne_zero (n := n) (by simpa using hn)
    rw [Function.iterate_succ_apply, brought_converted, iterate_brought_converted]

lemma course_angle (text : String) : Course true (untouched text) fun _ => untouched text where
  begins _ n hn := by rw [hn.2 rfl]; rfl
  goes_on _ _ n hn := by rw [hn.2 rfl]; rfl

lemma course_text {text : String} (hnone : Millimeter.parse? text = none) (angle : Bool) :
    Course angle (untouched text) fun _ => untouched text where
  begins policy n _ := Function.iterate_fixed (brought_untouched_text hnone policy) n
  goes_on _ policy n _ := Function.iterate_fixed (brought_untouched_text hnone policy) n

end CellView

/-! ## Steps that stay in inches -/

/-- Whether something happens that leaves the unit as it is. -/
def WorkEvent.KeepsUnit : WorkEvent → Prop
  | .execute command => command ≠ .toggleUnit
  | _ => True

/-- Whether the application leaves the text of a cell as it is. -/
def WorkEvent.Spares (cell : CellId) (h : Host) : WorkEvent → Prop
  | .edit change => (h.perform change).2.readText? cell = h.readText? cell
  | _ => True

namespace Workbench

lemma panelCells_of_rows_eq {h h' : Host} (rows : h'.rows = h.rows) :
    h'.panelCells = h.panelCells := by
  simp only [Host.panelCells, Host.snapshot, Host.visibleRows, Host.report, Host.row?, rows]

/-- No command but the change of the unit changes the unit. -/
lemma unit_execute (w : Workbench) {command : Command} (h : command ≠ .toggleUnit) :
    (w.execute command).session.policy.unit = w.session.policy.unit := by
  cases command with
  | toggleUnit => exact absurd rfl h
  | toggleTool action label | toggleViewOption action label =>
      exact congrArg _ (samePanel_invoke w action label).policy
  | toggleGridPlane axis => exact congrArg _ (samePanel_invoke w _ _).policy
  | setCameraView index =>
      simp only [execute, Session.execute]
      split
      · exact congrArg _ (samePanel_invoke w _ _).policy
      · rfl
  | cyclePrecision =>
      exact congrArg (·.unit) (policy_reconcile (w.withPolicy w.session.policy.cyclePrecision))
  | toggleFeet =>
      exact congrArg (·.unit) (policy_reconcile (w.withPolicy w.session.policy.toggleFeet))
  | yankPrimary | yankRow index | yankRowAxis index axis | yankTable => rfl
  | toggleVisibility target => exact congrArg _ (samePanel_toggleVisibility w target).policy

/-- Into inches: a pass. -/
lemma execute_toggleUnit_of_millimeter {w : Workbench}
    (hunit : w.session.policy.unit = .millimeter) :
    w.execute .toggleUnit = (w.withPolicy w.session.policy.toggleUnit).reconcile := by
  simp only [execute, Session.execute, Session.toggleUnit, Policy.isInch, Policy.toggleUnit, hunit,
    Unit.toggled, decide_true, if_true]
  rfl

/-- Out of inches: the cells are written back. -/
lemma cell_execute_toggleUnit {w : Workbench} (hunit : w.session.policy.unit = .inch)
    (id : CellId) : (w.execute .toggleUnit).host.store.cells.get? id = (w.view id).restored := by
  rw [view, ← Ledger.get?_restore]
  simp [execute, Session.execute, Session.toggleUnit, Policy.isInch, Policy.toggleUnit, hunit,
    Unit.toggled]

/-! ## The stay -/

/-- A session from the switch to inches on, while a cell is left alone by the application: it may
change all else. -/
inductive Stay (cell : CellId) (w : Workbench) : Workbench → Prop
  | begun : Stay cell w (w.execute .toggleUnit)
  | step {w' : Workbench} {event : WorkEvent} (before : Stay cell w w') (unit : event.KeepsUnit)
      (spared : event.Spares cell w'.host) : Stay cell w (w'.step event)

lemma Stay.unit {cell : CellId} {w w' : Workbench} (hstay : Stay cell w w')
    (hunit : w.session.policy.unit = .millimeter) : w'.session.policy.unit = .inch := by
  induction hstay with
  | begun =>
      rw [execute_toggleUnit_of_millimeter hunit, policy_reconcile]
      simp [withPolicy, Policy.toggleUnit, hunit, Unit.toggled]
  | @step w' event _ unit _ ih =>
      cases event with
      | execute command => exact (unit_execute _ unit).trans ih
      | reconcile => exact (congrArg (·.unit) (policy_reconcile _)).trans ih
      | reconfigure actionIds cameraViews => exact ih
      | edit edit => exact ih

/-- A cell of the panel that follows a course in inches. -/
structure OnCourse (cell : CellId) (angle : Bool) (course : Policy → CellView) (w : Workbench) :
    Prop where
  coherent : w.Coherent
  stocked : w.host.Stocked
  unit : w.session.policy.unit = .inch
  listed : ⟨cell, angle⟩ ∈ w.host.panelCells
  view : w.view cell = course w.session.policy

section OnCourse

variable {w : Workbench} {cell : CellId} {angle : Bool} {start : CellView}
  {course : Policy → CellView}

/-- A pass visits a cell as a length exactly if it is none of an angle. -/
lemma count_eq_zero_iff (hn : w.host.WellNumbered) (hlisted : ⟨cell, angle⟩ ∈ w.host.panelCells) :
    w.host.panelCells.count ⟨cell, false⟩ = 0 ↔ angle = true := by
  rw [List.count_eq_zero]
  cases angle with
  | false => simp [hlisted]
  | true =>
      refine ⟨fun _ => rfl, fun _ hlength => ?_⟩
      have hsame := hn.panelCell_unique hlisted hlength rfl
      simp at hsame

lemma view_presented {policy : Policy} (hunit : policy.unit = .inch) (hn : w.host.WellNumbered)
    (hlisted : ⟨cell, angle⟩ ∈ w.host.panelCells) :
    ∃ n, (n = 0 ↔ angle = true)
      ∧ (w.withPolicy policy).reconcile.view cell = (CellView.brought policy)^[n] (w.view cell) :=
  ⟨_, count_eq_zero_iff hn hlisted,
    view_reconcile_of_listed (w := w.withPolicy policy) hunit hlisted⟩

/-- A pass under any policy in inches, on a cell whose view it brings to the course. -/
lemma onCourse_presented {policy : Policy} (hw : w.Coherent) (hs : w.host.Stocked)
    (hunit : policy.unit = .inch) (hlisted : ⟨cell, angle⟩ ∈ w.host.panelCells)
    (hcourse : ∀ n, (n = 0 ↔ angle = true) →
      (CellView.brought policy)^[n] (w.view cell) = course policy) :
    OnCourse cell angle course (w.withPolicy policy).reconcile := by
  have hpolicy : (w.withPolicy policy).reconcile.session.policy = policy := policy_reconcile _
  have hrows : (w.withPolicy policy).reconcile.host.rows = w.host.rows := rows_reconcile _
  refine ⟨hw.presented fun h => ?_, stocked_reconcile (w := w.withPolicy policy) hs, ?_, ?_, ?_⟩
  · rw [hunit] at h
    simp at h
  · rw [hpolicy, hunit]
  · rwa [panelCells_of_rows_eq hrows]
  · obtain ⟨n, hn, hview⟩ := view_presented hunit hw.numbered hlisted
    rw [hpolicy, hview, hcourse n hn]

/-- The switch to inches puts a cell of the application's own on its course. -/
lemma onCourse_begun {text : String} (hw : w.Coherent) (hs : w.host.Stocked)
    (hunit : w.session.policy.unit = .millimeter) (hlisted : ⟨cell, angle⟩ ∈ w.host.panelCells)
    (htext : w.host.readText? cell = some text)
    (hcourse : CellView.Course angle (CellView.untouched text) course) :
    OnCourse cell angle course (w.execute .toggleUnit) := by
  have hview : w.view cell = CellView.untouched text := by
    obtain ⟨c, hcell, rfl⟩ := Option.map_eq_some_iff.1 htext
    have hlocked := hs.locked_eq_false hcell
    simp only [view, hw.empty hunit, hcell, CellView.untouched]
    rw [← hlocked]
    rfl
  rw [execute_toggleUnit_of_millimeter hunit]
  have hinch : w.session.policy.toggleUnit.unit = .inch := by
    simp [Policy.toggleUnit, hunit, Unit.toggled]
  refine onCourse_presented hw hs hinch hlisted fun n hn => ?_
  rw [hview]
  exact hcourse.begins _ n hn

/-- What leaves panel, ledger and policy alone. -/
lemma OnCourse.samePanel {w' : Workbench} (h : OnCourse cell angle course w)
    (same : SamePanel w w') :
    OnCourse cell angle course w' where
  coherent := h.coherent.panelChange same.policy same.ledger (.of_eq same.rows same.lastId)
  stocked := h.stocked.of_panel_eq same.rows same.store
  unit := by rw [same.policy, h.unit]
  listed := by
    rw [panelCells_of_rows_eq same.rows]
    exact h.listed
  view := by
    rw [same.policy, ← h.view]
    simp only [Workbench.view, same.ledger, same.store]

lemma OnCourse.presented (h : OnCourse cell angle course w)
    (hcourse : CellView.Course angle start course) {policy : Policy} (hunit : policy.unit = .inch) :
    OnCourse cell angle course (w.withPolicy policy).reconcile := by
  refine onCourse_presented h.coherent h.stocked hunit h.listed fun n hn => ?_
  rw [h.view]
  exact hcourse.goes_on _ policy n hn

lemma OnCourse.execute (h : OnCourse cell angle course w)
    (hcourse : CellView.Course angle start course)
    {command : Command} (hcommand : command ≠ .toggleUnit) :
    OnCourse cell angle course (w.execute command) := by
  have hunit := (unit_execute w hcommand).trans h.unit
  cases execute_effect w command with
  | kept same => exact h.samePanel same
  | presented policy unit eq =>
      rw [eq, policy_reconcile] at hunit
      rw [eq]
      exact h.presented hcourse hunit
  | restored unit session host =>
      simp [session, Policy.toggleUnit, unit, Unit.toggled] at hunit

/-- An edit that leaves the text of a cell leaves the cell where it is: it would have gone with its
row. -/
lemma OnCourse.edit (h : OnCourse cell angle course w) (edit : HostEdit)
    (hspared : (w.host.perform edit).2.readText? cell = w.host.readText? cell)
    (hcell : (w.view cell).cell ≠ none) :
    OnCourse cell angle course (w.step (.edit edit)) := by
  have hchange := Host.perform_panelChange edit w.host
  have hs := h.stocked.perform h.coherent.numbered edit
  obtain ⟨c, hc⟩ := Option.ne_none_iff_exists'.1 hcell
  have hold : w.host.store.cells.get? cell = some c := hc
  have htext : w.host.readText? cell = some c.text := by
    simp [Host.readText?, CellStore.read?, hold]
  obtain ⟨c', hnew, htext'⟩ := Option.map_eq_some_iff.1 (hspared.trans htext)
  have hsame : c' = c := by
    have hlocked := (hs.locked_eq_false hnew).trans (h.stocked.locked_eq_false hold).symm
    cases c
    cases c'
    simp_all
  obtain ⟨other, hother⟩ := hs.listed (h.coherent.numbered.change hchange) hnew
  refine ⟨h.coherent.step (.edit edit), hs, h.unit, ?_, ?_⟩
  · rcases h.coherent.numbered.old_or_fresh hchange hother with hmem | hfresh
    · have hunique := h.coherent.numbered.panelCell_unique hmem h.listed rfl
      rw [← hunique]
      exact hother
    · exact absurd (h.coherent.numbered.cell_le_lastId h.listed) (Nat.not_le_of_lt hfresh)
  · show (⟨w.session.ledger.get? cell, (w.host.perform edit).2.store.cells.get? cell⟩ : CellView)
      = course w.session.policy
    rw [← h.view, hnew, hsame, ← hold]
    rfl

/-- **No step of a stay leaves the course.** -/
theorem Stay.onCourse {w' : Workbench} (hstay : Stay cell w w')
    (hcourse : CellView.Course angle start course) (hexists : ∀ policy, (course policy).cell ≠ none)
    (hbegun : OnCourse cell angle course (w.execute .toggleUnit)) :
    OnCourse cell angle course w' := by
  induction hstay with
  | begun => exact hbegun
  | @step w' event _ unit spared ih =>
      cases event with
      | execute command => exact ih.execute hcourse unit
      | reconcile => exact ih.presented hcourse ih.unit
      | reconfigure actionIds cameraViews => exact ih.samePanel ⟨rfl, rfl, rfl, rfl, rfl⟩
      | edit edit =>
          refine ih.edit edit spared ?_
          rw [ih.view]
          exact hexists _

end OnCourse

/-! ## What is shown -/

/-- What a cell of the application's own shows during a stay, and after the way back. -/
lemma Stay.shows {w w' : Workbench} {cell : CellId} {angle : Bool} {text : String}
    {course : Policy → CellView} (hstay : Stay cell w w') (hreach : w.Reachable)
    (hunit : w.session.policy.unit = .millimeter) (hlisted : ⟨cell, angle⟩ ∈ w.host.panelCells)
    (htext : w.host.readText? cell = some text)
    (hcourse : CellView.Course angle (CellView.untouched text) course)
    (hexists : ∀ policy, (course policy).cell ≠ none) :
    w'.host.readText? cell = (course w'.session.policy).cell.map (·.text)
      ∧ (w'.execute .toggleUnit).host.readText? cell
          = (course w'.session.policy).restored.map (·.text) := by
  have hbegun := onCourse_begun hreach.coherent hreach.stocked hunit hlisted htext hcourse
  have hon := hstay.onCourse hcourse hexists hbegun
  constructor
  · rw [← hon.view]
    rfl
  · rw [← hon.view, ← cell_execute_toggleUnit hon.unit]
    rfl

/-- **A stay in inches does not wear lengths out.**  A cell that showed a length in millimeters
shows it under the current policy after every step, rounded from what was read at the beginning, and
in millimeters after the way back.  The cells of angles, and texts that show no length, stay as they
are. -/
theorem stay_keeps_length {w w' : Workbench} (hreach : w.Reachable)
    (hunit : w.session.policy.unit = .millimeter) {row : Row} (hrow : row ∈ w.host.rows)
    {cell : CellId}
    (hcell : cell ∈ row.cells) {text : String} (htext : w.host.readText? cell = some text)
    (hstay : Stay cell w w') :
    w'.session.policy.unit = .inch
      ∧ (row.isAngle = false → ∀ mm, Millimeter.parse? text = some mm →
          w'.host.readText? cell = some (w'.session.policy.render mm)
            ∧ (w'.execute .toggleUnit).host.readText? cell = some (Millimeter.text mm))
      ∧ (row.isAngle = true ∨ Millimeter.parse? text = none →
          w'.host.readText? cell = some text
            ∧ (w'.execute .toggleUnit).host.readText? cell = some text) := by
  have hlisted := Host.mem_panelCells hreach.coherent.numbered hrow hcell
  have huntouched
      (hcourse : CellView.Course row.isAngle (.untouched text) fun _ => .untouched text) :
      w'.host.readText? cell = some text
        ∧ (w'.execute .toggleUnit).host.readText? cell = some text :=
    hstay.shows hreach hunit hlisted htext hcourse (by simp [CellView.untouched])
  refine ⟨hstay.unit hunit, fun hlength mm hmm => ?_, ?_⟩
  · rw [hlength] at hlisted
    obtain ⟨hshown, hback⟩ := hstay.shows hreach hunit hlisted htext (CellView.course_length hmm)
      (by simp [CellView.converted])
    exact ⟨hshown, by simpa [CellView.restored, CellView.converted] using hback⟩
  · rintro (hangle | hnone)
    · rw [hangle] at huntouched
      exact huntouched (CellView.course_angle text)
    · exact huntouched (CellView.course_text hnone row.isAngle)

/-- 33 mm, shown in sixteenths, in thirty-seconds, beside a new row, and in eighths: what was
rounded to an inch and a quarter is 33 mm again. -/
theorem stay_keeps_length_over_three_precisions :
    let w := (new {} .empty []).step (.edit (.pushScalar "Gap" "33"))
    let w' := ((((w.execute .toggleUnit).step (.execute .cyclePrecision)).step
      (.edit (.pushScalar "Angle" "45"))).step (.execute .cyclePrecision)).step .reconcile
    w.Reachable ∧ w.session.policy.unit = .millimeter ∧ ⟨1, "Gap", .scalar 2⟩ ∈ w.host.rows
      ∧ w.host.readText? 2 = some "33" ∧ Stay 2 w w'
      ∧ w'.host.readText? 2 = some "1 1/4\""
      ∧ (w'.execute .toggleUnit).host.readText? 2 = some "33.000" := by
  intro w w'
  have hreach : w.Reachable := .step _ (.new _ _ _)
  have hunit : w.session.policy.unit = .millimeter := rfl
  have hrow : (⟨1, "Gap", .scalar 2⟩ : Row) ∈ w.host.rows := by decide
  have htext : w.host.readText? 2 = some "33" := by decide
  have hstay : Stay 2 w w' := by
    have hprecise : (WorkEvent.execute .cyclePrecision).KeepsUnit := by simp [WorkEvent.KeepsUnit]
    have hbegun : Stay 2 w (w.execute .toggleUnit) := .begun
    have hfine := hbegun.step hprecise trivial
    have hbeside : Stay 2 w (((w.execute .toggleUnit).step (.execute .cyclePrecision)).step
        (.edit (.pushScalar "Angle" "45"))) :=
      hfine.step trivial (by simp only [WorkEvent.Spares]; decide +kernel)
    exact .step (hbeside.step hprecise trivial) trivial trivial
  obtain ⟨-, hlength, -⟩ := stay_keeps_length hreach hunit hrow (by decide) htext hstay
  obtain ⟨hshown, hback⟩ :=
    hlength (by decide +kernel) ((Millimeter.parse? "33").getD .nan) (by decide +kernel)
  refine ⟨hreach, hunit, hrow, htext, hstay, ?_, ?_⟩
  · rw [hshown]
    decide +kernel
  · rw [hback]
    decide +kernel

end Workbench

end PanelKeys
