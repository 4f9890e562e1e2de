import PanelKeys.Proofs.Length.InchText
import PanelKeys.Proofs.Session.Coherence

/-!
# Copies and the screen

A copied value has two sources: the length in the ledger, written out anew under the current policy,
or the text of the cell.  The user sees only the text, so the two must be the same.

* `Host.shown?` — what a cell shows, without the blanks around it;
* `Host.shownCopy?` — **what a command would copy that knows nothing but the screen**;
* `Screen.Shows` — a screen that reads every cell as it is shown; the four copying commands are then
  determined by the screen;
* `Coherent.shows` — every screen of a coherent session is such;
* `copied_iff_shown` — so in every state that can be reached a command copies what is shown.
-/

namespace PanelKeys

open PanelKeys.Length
open PanelKeys.Panel
open PanelKeys.Text

/-! ## What is on the screen -/

namespace Host

/-- The text that a cell shows, without the blanks around it. -/
def shown? (h : Host) (cell : CellId) : Option String := (h.readText? cell).map trim

/-- The values that a row shows, with tabs between them; none for a row without values. -/
def shownValues? (h : Host) (row : Row) : Option String :=
  if row.cells = [] then none else (row.cells.mapM h.shown?).map (joinWith "\t")

/-- The label of a row and the values that it shows, with tabs between them. -/
def shownLine? (h : Host) (row : Row) : Option String :=
  (row.cells.mapM h.shown?).map fun values => joinWith "\t" (row.label :: values)

/-- The component of a vector row that is shown. -/
def shownAxis? (h : Host) (axis : Axis) (row : Row) : Option String :=
  match row.value with
  | .vector cells => h.shown? (cells.get axis)
  | _ => none

/-- What a command copies from the screen. -/
def shownCopy? (h : Host) : Command → Option String
  | .yankRow index => (nth? h.rows index).bind h.shownValues?
  | .yankRowAxis index axis => (nth? h.rows index).bind (h.shownAxis? axis)
  | .yankPrimary => h.rows.findSome? h.shownValues?
  | .yankTable => if h.rows = [] then none else (h.rows.mapM h.shownLine?).map (joinWith "\n")
  | _ => none

end Host

/-! ## Screens that read what is shown -/

/-- Two readers that agree on every element agree on every list. -/
lemma mapM_ok_iff {α β ε : Type} {f : α → Except ε β} {g : α → Option β}
    (hfg : ∀ a b, f a = .ok b ↔ g a = some b) (l : List α) (bs : List β) :
    l.mapM f = .ok bs ↔ l.mapM g = some bs := by
  induction l generalizing bs with
  | nil => simp [pure, Except.pure]
  | cons a rest ih =>
      rw [List.mapM_cons, List.mapM_cons]
      cases hg : g a with
      | none =>
          cases hf : f a with
          | error e => simp [bind, Except.bind]
          | ok b =>
              rw [(hfg a b).1 hf] at hg
              simp at hg
      | some b =>
          rw [(hfg a b).2 hg]
          cases hgs : rest.mapM g with
          | none =>
              cases hfs : rest.mapM f with
              | error e => simp [bind, Except.bind]
              | ok cs =>
                  rw [(ih cs).1 hfs] at hgs
                  simp at hgs
          | some cs =>
              rw [(ih cs).2 hgs]
              simp [bind, Except.bind, pure, Except.pure]

lemma map_ok_iff {α β ε : Type} {x : Except ε α} {f : α → β} {b : β} :
    x.map f = .ok b ↔ ∃ a, x = .ok a ∧ f a = b := by
  cases x <;> simp [Except.map]

lemma nthOf_ok_iff {α : Type} {what : Counted} {items : List α} {index : Nat} {item : α} :
    nthOf what items index = .ok item ↔ nth? items index = some item := by
  simp only [nthOf]
  split
  · next found hfound => simp [hfound]
  · next hfound => simp [hfound]

namespace Screen

/-- The screen reads every cell as the application shows it. -/
def Shows (s : Screen) (h : Host) : Prop :=
  ∀ cell text, s.cellText cell = .ok text ↔ h.shown? cell = some text

/-- The values of a row are read cell by cell. -/
lemma valueText_eq (s : Screen) (row : Row) :
    s.valueText row
      = if row.cells = [] then .ok none
        else (row.cells.mapM s.cellText).map fun values => some (joinWith "\t" values) := by
  obtain ⟨id, label, value⟩ := row
  cases value with
  | empty => rfl
  | scalar cell =>
      show (s.cellText cell).map some = ([cell].mapM s.cellText).map _
      rw [List.mapM_cons]
      cases s.cellText cell <;> rfl
  | vector cells => rfl

/-- The line of a row is its label and these values. -/
lemma tableLine_eq (s : Screen) (row : Row) :
    s.tableLine row
      = (row.cells.mapM s.cellText).map fun values => joinWith "\t" (row.label :: values) := by
  obtain ⟨id, label, value⟩ := row
  cases value with
  | empty => rfl
  | scalar cell =>
      show ((s.cellText cell).map some).map _ = ([cell].mapM s.cellText).map _
      rw [List.mapM_cons]
      cases s.cellText cell <;> rfl
  | vector cells =>
      show (([cells.x, cells.y, cells.z].mapM s.cellText).map _).map _
        = ([cells.x, cells.y, cells.z].mapM s.cellText).map _
      simp only [List.mapM_cons]
      cases s.cellText cells.x <;> cases s.cellText cells.y <;> cases s.cellText cells.z <;> rfl

variable {s : Screen} {h : Host}

lemma Shows.mapM_iff (hs : s.Shows h) (cells : List CellId) (values : List String) :
    cells.mapM s.cellText = .ok values ↔ cells.mapM h.shown? = some values :=
  mapM_ok_iff hs cells values

lemma Shows.valueText_iff (hs : s.Shows h) (row : Row) (text : String) :
    s.valueText row = .ok (some text) ↔ h.shownValues? row = some text := by
  rw [valueText_eq, Host.shownValues?]
  by_cases hcells : row.cells = []
  · simp [hcells]
  · simp only [if_neg hcells, map_ok_iff, Option.map_eq_some_iff, hs.mapM_iff, Option.some.injEq]

lemma Shows.tableLine_iff (hs : s.Shows h) (row : Row) (line : String) :
    s.tableLine row = .ok line ↔ h.shownLine? row = some line := by
  simp only [tableLine_eq, Host.shownLine?, map_ok_iff, Option.map_eq_some_iff, hs.mapM_iff]

lemma Shows.readable?_eq (hs : s.Shows h) : s.readable? = h.shownValues? := by
  funext row
  refine Option.ext fun text => ?_
  rw [← hs.valueText_iff, readable?]
  cases s.valueText row with
  | error e => simp
  | ok values => simp

/-! ## The four copies -/

lemma Shows.rowText_iff (hs : s.Shows h) (rows : List Row) (index : Nat) (text : String) :
    s.rowText rows index = .ok text ↔ (nth? rows index).bind h.shownValues? = some text := by
  simp only [rowText]
  cases hrow : nth? rows index with
  | none => simp [nthOf, hrow, bind, Except.bind]
  | some row =>
      rw [nthOf_ok_iff.2 hrow, Option.bind_some, ← hs.valueText_iff]
      cases hvalue : s.valueText row with
      | error e => simp [hvalue, bind, Except.bind]
      | ok values => cases values <;> simp [hvalue, bind, Except.bind]

lemma Shows.axisText_iff (hs : s.Shows h) (rows : List Row) (index : Nat) (axis : Axis)
    (text : String) :
    s.axisText rows index axis = .ok text
      ↔ (nth? rows index).bind (h.shownAxis? axis) = some text := by
  simp only [axisText]
  cases hrow : nth? rows index with
  | none => simp [nthOf, hrow, bind, Except.bind]
  | some row =>
      rw [nthOf_ok_iff.2 hrow, Option.bind_some]
      obtain ⟨id, label, value⟩ := row
      cases value with
      | empty | scalar cell => simp [Host.shownAxis?, bind, Except.bind]
      | vector cells => exact hs (cells.get axis) text

lemma Shows.primaryText_iff (hs : s.Shows h) (rows : List Row) (text : String) :
    s.primaryText rows = .ok text ↔ rows.findSome? h.shownValues? = some text := by
  rw [primaryText, hs.readable?_eq]
  cases rows.findSome? h.shownValues? <;> simp

lemma Shows.tableText_iff (hs : s.Shows h) (rows : List Row) (text : String) :
    s.tableText rows = .ok text
      ↔ (if rows = [] then none else (rows.mapM h.shownLine?).map (joinWith "\n")) = some text := by
  rw [tableText]
  cases rows with
  | nil => simp
  | cons row rest =>
      have hlines := mapM_ok_iff hs.tableLine_iff (row :: rest)
      simp only [List.isEmpty_cons, Bool.false_eq_true, if_false, reduceCtorEq, map_ok_iff,
        Option.map_eq_some_iff, hlines]

end Screen

/-! ## Commands that copy -/

/-- The text that is handed to the clipboard. -/
def Execution.copied? (e : Execution) : Option String :=
  match e.result with
  | .ok (.copy text _) => some text
  | _ => none

namespace Session

lemma copied?_copy (s : Session) (h : Host) (text : Except CommandError String)
    (what copied : String) : (s.copy h text what).copied? = some copied ↔ text = .ok copied := by
  cases text <;> simp [copy, Execution.copied?, Except.map]

lemma copied?_invoke (s : Session) (h : Host) (name label : String) :
    (s.invoke h name label).copied? = none := by
  simp only [invoke]
  split <;> rfl

lemma copied?_toggleVisibility (s : Session) (h : Host) (target : VisibilityTarget) :
    (s.toggleVisibility h target).copied? = none := by
  cases target with
  | all =>
      simp only [toggleVisibility]
      split <;> rfl
  | node index =>
      simp only [toggleVisibility]
      split
      · rfl
      · split <;> rfl

end Session

namespace Workbench

/-- **A coherent session reads what is shown.**  An entry that still matches its cell was rendered
under the current policy, so writing its length out again gives the text of the cell. -/
theorem Coherent.shows {w : Workbench} (hw : w.Coherent) :
    (w.session.screen w.host).Shows w.host := by
  intro cell text
  simp only [Screen.cellText, Session.screen, Ledger.reading?, Host.shown?, Host.readText?]
  cases w.host.store.read? cell with
  | none => simp
  | some displayed =>
      cases hentry : w.session.ledger.get? cell with
      | none => simp
      | some e =>
          by_cases hshown : e.shown = displayed
          · have hunit : w.session.policy.unit = .inch := by
              cases hunit : w.session.policy.unit with
              | inch => rfl
              | millimeter =>
                  rw [hw.empty hunit] at hentry
                  exact absurd hentry Ledger.not_get?_empty
            have hrender : w.session.policy.render e.length = displayed := by
              rw [← hw.shown cell e hentry, hshown]
            have htrim : trim displayed = displayed := by
              rw [← hrender, Policy.trim_render hunit]
            simp [hshown, hrender, htrim]
          · simp [hshown]

/-- The text that a command hands to the clipboard. -/
def copied? (w : Workbench) (command : Command) : Option String :=
  (w.session.execute w.host command).copied?

/-- The other commands hand nothing to the clipboard. -/
lemma copied?_of_not_yank (w : Workbench) {command : Command} (h : command.isYank = false) :
    w.copied? command = none := by
  cases command with
  | toggleTool action label | toggleViewOption action label =>
      exact Session.copied?_invoke w.session w.host action label
  | toggleGridPlane axis => exact Session.copied?_invoke w.session w.host _ _
  | setCameraView index =>
      simp only [copied?, Session.execute]
      split
      · exact Session.copied?_invoke w.session w.host _ _
      · rfl
  | toggleUnit =>
      simp only [copied?, Session.execute, Session.toggleUnit]
      split <;> rfl
  | cyclePrecision | toggleFeet => rfl
  | toggleVisibility target => exact Session.copied?_toggleVisibility w.session w.host target
  | yankPrimary | yankRow index | yankRowAxis index axis | yankTable => simp [Command.isYank] at h

/-- **What you copy is what you see**: in every state that can be reached, a command copies what
stands on the screen, and nothing if what it asks for is not there. -/
theorem copied_iff_shown {w : Workbench} (h : w.Reachable) (command : Command) (text : String) :
    w.copied? command = some text ↔ w.host.shownCopy? command = some text := by
  have hw := h.coherent
  have hs := hw.shows
  have hrows := hw.numbered.snapshot_eq_rows
  cases command with
  | yankRow index =>
      rw [copied?, Session.execute, Session.copied?_copy, hrows]
      exact hs.rowText_iff w.host.rows index text
  | yankRowAxis index axis =>
      rw [copied?, Session.execute, Session.copied?_copy, hrows]
      exact hs.axisText_iff w.host.rows index axis text
  | yankPrimary =>
      rw [copied?, Session.execute, Session.copied?_copy, hrows]
      exact hs.primaryText_iff w.host.rows text
  | yankTable =>
      rw [copied?, Session.execute, Session.copied?_copy, hrows]
      exact hs.tableText_iff w.host.rows text
  | toggleTool | setCameraView | toggleViewOption | toggleGridPlane | toggleUnit | cyclePrecision
  | toggleFeet | toggleVisibility =>
      rw [copied?_of_not_yank w rfl]
      simp [Host.shownCopy?]

/-- Two rows in inches, one of which the application has changed since: its text is copied without
the blanks, beside the text that was rendered from the ledger. -/
theorem copied_iff_shown_with_changed_row :
    let w := ((((new {} .empty []).step (.edit (.pushScalar "Length" "31.75"))).step
      (.edit (.pushScalar "Gap" "10"))).step (.execute .toggleUnit)).step
      (.edit (.overwrite 4 " 12.7 "))
    w.Reachable ∧ (w.session.ledger.get? 2).map Captured.shown = w.host.readText? 2
      ∧ (w.session.ledger.get? 4).map Captured.shown ≠ w.host.readText? 4
      ∧ w.copied? .yankTable = some "Length\t1 1/4\"\nGap\t12.7" := by
  intro w
  have hreach : w.Reachable := .step _ (.step _ (.step _ (.step _ (.new _ _ _))))
  have hshown : w.host.shownCopy? .yankTable = some "Length\t1 1/4\"\nGap\t12.7" := by
    decide +kernel
  exact ⟨hreach, by decide +kernel, by decide +kernel,
    (copied_iff_shown hreach .yankTable _).2 hshown⟩

end Workbench

end PanelKeys
