import PanelKeys.Proofs.Session.CellFate
import PanelKeys.Proofs.Session.CopiesAgree
import PanelKeys.Proofs.Session.Frame

/-!
# Commands that are refused

A command is refused when what it asks for is not there: an action that the application does not
have, a view, a node or a row beyond the last one, a row without a value.  The user reads the
reason, so it has to be the right one where there are several; and nothing may have happened, since
a refused command is given again.

* `Session.actionOf?` — the commands that run an action of the application;
* `actionId_of_mapped`, `actionId_of_unmapped` — the action that a name stands for;
* `invoke_of_missing`, `invoke_of_found`, `toggleVisibility_all`, `toggleVisibility_node` and their
  companions — what an action and a toggle of nodes come to, as equations;
* `Reachable.valueText` — **in a session at work every cell of a row can be read**, so that no copy
  fails for a cell that has gone;
* `Workbench.Refused` — the reasons, one constructor for each;
* `Refused.result_and_untouched`, `refused_of_error` — a command with a reason against it fails for
  this reason and changes nothing; and a command that fails has a reason against it;
* **`refused_iff_and_untouched`** — both.
-/

namespace PanelKeys

open PanelKeys.Length
open PanelKeys.Panel
open PanelKeys.Text

/-! ## Actions and nodes -/

namespace Session

/-- The symbolic name of the action that a command runs, and the label under which it is
reported. -/
def actionOf? (s : Session) : Command → Option (String × String)
  | .toggleTool action label => some (action, label)
  | .toggleViewOption action label => some (action, label)
  | .setCameraView index => (nth? s.cameraViews index).map fun name => (name, s!"View {name}")
  | .toggleGridPlane axis => some (gridPlaneAction axis, s!"Grid plane {axis.capital}")
  | _ => none

variable {s : Session} {h : Host}

/-- A name that the settings map stands for what it is mapped to. -/
lemma actionId_of_mapped {name id : String} (hmapped : s.actionIds.get? name = some id) :
    s.actionId name = id := by
  rw [actionId, hmapped, Option.getD_some]

/-- Any other name stands for itself. -/
lemma actionId_of_unmapped {name : String} (hunmapped : s.actionIds.get? name = none) :
    s.actionId name = name := by
  rw [actionId, hunmapped, Option.getD_none]

lemma execute_of_actionOf? {command : Command} {name label : String}
    (haction : s.actionOf? command = some (name, label)) :
    s.execute h command = s.invoke h name label := by
  cases command with
  | toggleTool action text | toggleViewOption action text =>
      cases haction
      rfl
  | toggleGridPlane axis =>
      cases haction
      rfl
  | setCameraView index =>
      obtain ⟨view, hview, hsame⟩ := Option.map_eq_some_iff.1 haction
      cases hsame
      simp only [execute, nthOf_ok_iff.2 hview]
  | _ => cases haction

lemma actionOf?_of_view {index : Nat} {name : String}
    (hview : nth? s.cameraViews index = some name) :
    s.actionOf? (.setCameraView index) = some (name, s!"View {name}") := by
  rw [actionOf?, hview]
  rfl

lemma execute_of_no_view {index : Nat} (hview : nth? s.cameraViews index = none) :
    s.execute h (.setCameraView index)
      = ⟨.error (.outOfRange .cameraView index s.cameraViews.length), s, h⟩ := by
  simp only [execute, nthOf, hview]

lemma invoke_of_missing {name : String} (label : String) (h : Host)
    (hmissing : h.actions.get? (s.actionId name) = none) :
    s.invoke h name label
      = ⟨.error (.actionMissing label), s, h.write (.invoked (s.actionId name) ⟨false, none⟩)⟩ := by
  simp [invoke, Host.invoke, hmissing]

lemma invoke_of_found {name : String} {state : ActionState} (label : String) (h : Host)
    (hfound : h.actions.get? (s.actionId name) = some state) :
    s.invoke h name label
      = ⟨.ok (.action label state.invoked.active?), s,
          { h with actions := h.actions.insert (s.actionId name) state.invoked }.write
            (.invoked (s.actionId name) ⟨true, state.invoked.active?⟩)⟩ := by
  simp [invoke, Host.invoke, hfound]

lemma toggleVisibility_of_empty (target : VisibilityTarget) (hnodes : h.nodes = []) :
    s.toggleVisibility h target = ⟨.error .sceneEmpty, s, h⟩ := by
  simp [toggleVisibility, hnodes]

lemma toggleVisibility_all (hnodes : h.nodes ≠ []) :
    s.toggleVisibility h .all
      = ⟨.ok (.visibility .all (some !h.nodes.any id)), s,
          { h with nodes := h.nodes.map fun _ => !h.nodes.any id }⟩ := by
  simp [toggleVisibility, Host.toggleAll, hnodes]

lemma toggleVisibility_node {index : Nat} {visible : Bool}
    (hnode : nth? h.nodes index = some visible) :
    s.toggleVisibility h (.node index)
      = ⟨.ok (.visibility (.node index) (some !visible)), s,
          { h with nodes := h.nodes.set (index - 1) !visible }⟩ := by
  have hnodes : h.nodes ≠ [] := List.ne_nil_of_mem (mem_of_nth? hnode)
  have hvisible : h.nodeVisible index = some visible := hnode
  simp [toggleVisibility, Host.toggleNode, hnodes, nthOf_ok_iff.2 hnode, hvisible]

lemma toggleVisibility_of_no_node {index : Nat} (hnodes : h.nodes ≠ [])
    (hnode : nth? h.nodes index = none) :
    s.toggleVisibility h (.node index)
      = ⟨.error (.outOfRange .node index h.nodes.length), s, h⟩ := by
  simp [toggleVisibility, hnodes, nthOf, hnode]

lemma result_copy_eq_error {text : Except CommandError String} {what : String}
    {why : CommandError} : (s.copy h text what).result = .error why ↔ text = .error why := by
  cases text <;> simp [copy, Except.map]

end Session

/-! ## Rows that can be read -/

lemma VectorCells.get_mem_toList (cells : VectorCells) (axis : Axis) :
    cells.get axis ∈ cells.toList := by
  cases axis <;> simp [get, toList]

lemma Screen.exists_cellText (s : Screen) {cell : CellId} {displayed : String}
    (h : s.store.read? cell = some displayed) : ∃ text, s.cellText cell = .ok text := by
  simp only [cellText, Ledger.reading?, h, Option.map_some]
  split
  · exact ⟨_, rfl⟩
  · exact ⟨_, rfl⟩
  · next hnone => split at hnone <;> simp at hnone

namespace Workbench

variable {w : Workbench}

lemma Reachable.exists_cellText (h : w.Reachable) {row : Row} (hrow : row ∈ w.host.rows)
    {cell : CellId}
    (hcell : cell ∈ row.cells) : ∃ text, (w.session.screen w.host).cellText cell = .ok text := by
  obtain ⟨displayed, hread⟩ := h.stocked.exists_read? hrow hcell
  exact Screen.exists_cellText _ hread

/-- **Every row can be read**; one without cells has no value. -/
theorem Reachable.valueText (h : w.Reachable) {row : Row} (hrow : row ∈ w.host.rows) :
    ∃ values, (w.session.screen w.host).valueText row = .ok values
      ∧ (values = none ↔ row.cells = []) := by
  rw [Screen.valueText_eq]
  by_cases hcells : row.cells = []
  · exact ⟨none, if_pos hcells, by simp [hcells]⟩
  · obtain ⟨texts, htexts⟩ := exists_mapM_ok.2 fun cell hcell => h.exists_cellText hrow hcell
    refine ⟨some (joinWith "\t" texts), ?_, by simp [hcells]⟩
    rw [if_neg hcells, htexts]
    rfl

/-! ## The reasons -/

/-- **Why a command is refused.** -/
inductive Refused (w : Workbench) : Command → CommandError → Prop where
  /-- the name stands for no action of the application -/
  | actionMissing {command : Command} {name label : String}
      (action : w.session.actionOf? command = some (name, label))
      (missing : w.host.actions.get? (w.session.actionId name) = none) :
      Refused w command (.actionMissing label)
  | noView {index : Nat} (beyond : index = 0 ∨ w.session.cameraViews.length < index) :
      Refused w (.setCameraView index) (.outOfRange .cameraView index w.session.cameraViews.length)
  | noScene (target : VisibilityTarget) (empty : w.host.nodes = []) :
      Refused w (.toggleVisibility target) .sceneEmpty
  | noNode {index : Nat} (scene : w.host.nodes ≠ [])
      (beyond : index = 0 ∨ w.host.nodes.length < index) :
      Refused w (.toggleVisibility (.node index)) (.outOfRange .node index w.host.nodes.length)
  | noRow {index : Nat} (beyond : index = 0 ∨ w.host.rows.length < index) :
      Refused w (.yankRow index) (.outOfRange .row index w.host.rows.length)
  | noRowOfAxis {index : Nat} (axis : Axis) (beyond : index = 0 ∨ w.host.rows.length < index) :
      Refused w (.yankRowAxis index axis) (.outOfRange .row index w.host.rows.length)
  | noValue {index : Nat} {row : Row} (found : nth? w.host.rows index = some row)
      (blank : row.cells = []) :
      Refused w (.yankRow index) (.noValue index)
  | notVector {index : Nat} {row : Row} (axis : Axis) (found : nth? w.host.rows index = some row)
      (other : ∀ cells, row.value ≠ .vector cells) :
      Refused w (.yankRowAxis index axis) (.notVector index)
  | noValues (blank : ∀ row ∈ w.host.rows, row.cells = []) : Refused w .yankPrimary .nothingToCopy
  | noRows (none : w.host.rows = []) : Refused w .yankTable .nothingToCopy

/-! ## Copies of a session at work -/

section Copies

variable (h : w.Reachable) {why : CommandError}
include h

/-- A row is not copied if there is no such row, or if it has no cells. -/
lemma Reachable.refused_yankRow_iff {index : Nat} :
    (w.session.execute w.host (.yankRow index)).result = .error why
      ↔ w.Refused (.yankRow index) why := by
  rw [Session.execute, Session.result_copy_eq_error, h.coherent.numbered.snapshot_eq_rows,
    Screen.rowText_eq_error, nth?_eq_none_iff]
  constructor
  · rintro (⟨hbeyond, rfl⟩ | ⟨row, hrow, herror⟩)
    · exact .noRow hbeyond
    · obtain ⟨values, hvalues, hnone⟩ := h.valueText (mem_of_nth? hrow)
      rw [hvalues] at herror
      rcases herror with herror | ⟨hblank, rfl⟩
      · cases herror
      · cases hblank
        exact .noValue hrow (hnone.1 rfl)
  · intro hrefused
    cases hrefused with
    | actionMissing action => cases action
    | noRow beyond => exact Or.inl ⟨beyond, rfl⟩
    | @noValue _ row found blank =>
        obtain ⟨values, hvalues, hnone⟩ := h.valueText (mem_of_nth? found)
        rw [hnone.2 blank] at hvalues
        exact Or.inr ⟨row, found, Or.inr ⟨hvalues, rfl⟩⟩

/-- A component is not copied if there is no such row, or if it shows no vector. -/
lemma Reachable.refused_yankRowAxis_iff {index : Nat} {axis : Axis} :
    (w.session.execute w.host (.yankRowAxis index axis)).result = .error why
      ↔ w.Refused (.yankRowAxis index axis) why := by
  rw [Session.execute, Session.result_copy_eq_error, h.coherent.numbered.snapshot_eq_rows]
  constructor
  · intro herror
    cases hrow : nth? w.host.rows index with
    | none =>
        rw [Screen.axisText_of_nth?_eq_none hrow] at herror
        cases herror
        exact .noRowOfAxis axis (nth?_eq_none_iff.1 hrow)
    | some row =>
        rw [Screen.axisText_of_nth? hrow] at herror
        cases hvalue : row.value with
        | vector cells =>
            have hcell : cells.get axis ∈ row.cells := by
              rw [Row.cells, hvalue]
              exact cells.get_mem_toList axis
            obtain ⟨text, htext⟩ := h.exists_cellText (mem_of_nth? hrow) hcell
            simp only [hvalue, htext] at herror
            cases herror
        | empty | scalar cell =>
            simp only [hvalue] at herror
            cases herror
            exact .notVector axis hrow (by simp [hvalue])
  · intro hrefused
    cases hrefused with
    | actionMissing action => cases action
    | noRowOfAxis _ beyond => exact Screen.axisText_of_nth?_eq_none (nth?_eq_none_iff.2 beyond)
    | @notVector _ row _ found other =>
        rw [Screen.axisText_of_nth? found]
        cases hvalue : row.value with
        | vector cells => exact absurd hvalue (other cells)
        | empty | scalar cell => rfl

/-- There is no first value if no row has one. -/
lemma Reachable.refused_yankPrimary_iff :
    (w.session.execute w.host .yankPrimary).result = .error why ↔ w.Refused .yankPrimary why := by
  rw [Session.execute, Session.result_copy_eq_error, h.coherent.numbered.snapshot_eq_rows]
  have hcopied : (∀ k text, (w.session.screen w.host).rowText w.host.rows k ≠ .ok text)
      ↔ ∀ row ∈ w.host.rows, row.cells = [] := by
    constructor
    · intro hnone row hrow
      obtain ⟨values, hvalues, hblank⟩ := h.valueText hrow
      obtain ⟨k, hk⟩ := exists_nth? hrow
      cases values with
      | none => exact hblank.1 rfl
      | some text => exact absurd (Screen.rowText_eq_ok.2 ⟨row, hk, hvalues⟩) (hnone k text)
    · intro hblank k text hk
      obtain ⟨row, hrow, hvalue⟩ := Screen.rowText_eq_ok.1 hk
      obtain ⟨values, hvalues, hnone⟩ := h.valueText (mem_of_nth? hrow)
      rw [hnone.2 (hblank row (mem_of_nth? hrow)), hvalue] at hvalues
      simp at hvalues
  constructor
  · intro herror
    obtain rfl := Screen.eq_nothingToCopy_of_primaryText herror
    exact .noValues (hcopied.1 (Screen.primaryText_eq_error.1 herror))
  · intro hrefused
    cases hrefused with
    | actionMissing action => cases action
    | noValues blank => exact Screen.primaryText_eq_error.2 (hcopied.2 blank)

/-- The table is not copied if it has no rows. -/
lemma Reachable.refused_yankTable_iff :
    (w.session.execute w.host .yankTable).result = .error why ↔ w.Refused .yankTable why := by
  rw [Session.execute, Session.result_copy_eq_error, h.coherent.numbered.snapshot_eq_rows]
  constructor
  · intro herror
    by_cases hrows : w.host.rows = []
    · rw [Screen.tableText, hrows] at herror
      cases herror
      exact .noRows hrows
    · have hread : ∀ k, (w.session.screen w.host).rowText w.host.rows k ≠ .error .cellMissing := by
        intro k hk
        obtain ⟨row, hrow, hvalue⟩ := Screen.rowText_eq_cellMissing.1 hk
        obtain ⟨values, hvalues, -⟩ := h.valueText (mem_of_nth? hrow)
        rw [hvalue] at hvalues
        cases hvalues
      obtain ⟨text, htext⟩ := (Screen.exists_tableText hrows).2 hread
      rw [htext] at herror
      cases herror
  · intro hrefused
    cases hrefused with
    | actionMissing action => cases action
    | noRows none =>
        rw [Screen.tableText, none]
        rfl

end Copies

/-! ## Failing for a reason -/

/-- What a command leaves behind that changes nothing: the application may have been asked for an
action that it does not have. -/
structure Untouched (w w' : Workbench) : Prop where
  session : w'.session = w.session
  host : w'.host = { w.host with journal := w'.host.journal }
  invoked : w'.host.invoked = w.host.invoked
  notifications : w'.host.notifications = w.host.notifications

lemma Untouched.refl (w : Workbench) : Untouched w w := ⟨rfl, rfl, rfl, rfl⟩

/-- **A command with a reason against it fails for this reason, and changes nothing.** -/
theorem Refused.result_and_untouched {command : Command} {why : CommandError}
    (hrefused : w.Refused command why) (h : w.Reachable) :
    (w.session.execute w.host command).result = .error why ∧ Untouched w (w.execute command) := by
  have hreason := hrefused
  cases hrefused with
  | actionMissing action missing =>
      rw [execute, Session.execute_of_actionOf? action, Session.invoke_of_missing _ _ missing]
      exact ⟨rfl, rfl, rfl, (Host.invoked_write _ _).trans (List.append_nil _),
        (Host.notifications_write _ _).trans (List.append_nil _)⟩
  | noView beyond =>
      rw [execute, Session.execute_of_no_view (nth?_eq_none_iff.2 beyond)]
      exact ⟨rfl, .refl w⟩
  | noScene target empty =>
      rw [execute, Session.execute, Session.toggleVisibility_of_empty target empty]
      exact ⟨rfl, .refl w⟩
  | noNode scene beyond =>
      rw [execute, Session.execute,
        Session.toggleVisibility_of_no_node scene (nth?_eq_none_iff.2 beyond)]
      exact ⟨rfl, .refl w⟩
  | noRow | noValue => exact ⟨h.refused_yankRow_iff.2 hreason, .refl w⟩
  | noRowOfAxis | notVector => exact ⟨h.refused_yankRowAxis_iff.2 hreason, .refl w⟩
  | noValues => exact ⟨h.refused_yankPrimary_iff.2 hreason, .refl w⟩
  | noRows => exact ⟨h.refused_yankTable_iff.2 hreason, .refl w⟩

/-- An action that fails is one that the application does not have. -/
lemma refused_of_action {command : Command} {name label : String} {why : CommandError}
    (haction : w.session.actionOf? command = some (name, label))
    (herror : (w.session.execute w.host command).result = .error why) : w.Refused command why := by
  rw [Session.execute_of_actionOf? haction] at herror
  cases hstate : w.host.actions.get? (w.session.actionId name) with
  | none =>
      rw [Session.invoke_of_missing _ _ hstate] at herror
      cases herror
      exact .actionMissing haction hstate
  | some state =>
      rw [Session.invoke_of_found _ _ hstate] at herror
      cases herror

lemma refused_of_toggleVisibility {target : VisibilityTarget} {why : CommandError}
    (herror : (w.session.toggleVisibility w.host target).result = .error why) :
    w.Refused (.toggleVisibility target) why := by
  by_cases hnodes : w.host.nodes = []
  · rw [Session.toggleVisibility_of_empty target hnodes] at herror
    cases herror
    exact .noScene target hnodes
  · cases target with
    | all =>
        rw [Session.toggleVisibility_all hnodes] at herror
        cases herror
    | node index =>
        cases hnode : nth? w.host.nodes index with
        | none =>
            rw [Session.toggleVisibility_of_no_node hnodes hnode] at herror
            cases herror
            exact .noNode hnodes (nth?_eq_none_iff.1 hnode)
        | some visible =>
            rw [Session.toggleVisibility_node hnode] at herror
            cases herror

/-- **A command that fails has a reason against it.** -/
theorem Reachable.refused_of_error (h : w.Reachable) {command : Command} {why : CommandError}
    (herror : (w.session.execute w.host command).result = .error why) : w.Refused command why := by
  cases command with
  | toggleTool action label | toggleViewOption action label | toggleGridPlane axis =>
      exact refused_of_action rfl herror
  | setCameraView index =>
      cases hview : nth? w.session.cameraViews index with
      | none =>
          rw [Session.execute_of_no_view hview] at herror
          cases herror
          exact .noView (nth?_eq_none_iff.1 hview)
      | some name => exact refused_of_action (Session.actionOf?_of_view hview) herror
  | toggleUnit =>
      simp only [Session.execute, Session.toggleUnit] at herror
      split at herror <;> cases herror
  | cyclePrecision | toggleFeet => cases herror
  | toggleVisibility target => exact refused_of_toggleVisibility herror
  | yankRow index => exact h.refused_yankRow_iff.1 herror
  | yankRowAxis index axis => exact h.refused_yankRowAxis_iff.1 herror
  | yankPrimary => exact h.refused_yankPrimary_iff.1 herror
  | yankTable => exact h.refused_yankTable_iff.1 herror

/-- **A command fails exactly for one of the reasons, and then nothing has changed**: neither
policy, ledger and names, nor rows, texts, counted writes, states of actions and nodes; and no
action has been run. -/
theorem refused_iff_and_untouched {w : Workbench} (h : w.Reachable) (command : Command)
    (why : CommandError) :
    ((w.session.execute w.host command).result = .error why ↔ w.Refused command why)
      ∧ ((w.session.execute w.host command).result = .error why
        → Untouched w (w.execute command)) :=
  ⟨⟨h.refused_of_error, fun hrefused => (hrefused.result_and_untouched h).1⟩,
    fun herror => ((h.refused_of_error herror).result_and_untouched h).2⟩

/-- A title without a value, two nodes, and a view whose name is mapped to an action that the
application does not have, while it has one of that very name; beside it a tool whose name is not
mapped.  The greatest count is out of range like any other. -/
theorem refused_iff_and_untouched_beside_title :
    let w := (((new {} (.ofList [("front", "camera.front")]) ["front"]).step
      (.edit (.pushHeader "Selection"))).step (.edit (.setNodes 2))).step
      (.edit (.addCommand "front"))
    w.Reachable
      ∧ w.session.actionId "front" = "camera.front"
      ∧ (w.session.execute w.host (.setCameraView 1)).result = .error (.actionMissing "View front")
      ∧ Untouched w (w.execute (.setCameraView 1))
      ∧ w.session.actionId "ruler" = "ruler"
      ∧ (w.session.execute w.host (.toggleTool "ruler" "Ruler")).result
          = .error (.actionMissing "Ruler")
      ∧ w.Refused (.yankRow 1) (.noValue 1) ∧ Untouched w (w.execute (.yankRow 1))
      ∧ (w.session.execute w.host (.yankRow 18446744073709551615)).result
          = .error (.outOfRange .row 18446744073709551615 1) := by
  intro w
  have hreach : w.Reachable := .step _ (.step _ (.step _ (.new _ _ _)))
  have hmapped : w.session.actionId "front" = "camera.front" :=
    Session.actionId_of_mapped (by decide +kernel)
  have hunmapped : w.session.actionId "ruler" = "ruler" :=
    Session.actionId_of_unmapped (by decide +kernel)
  obtain ⟨hview, hviewKept⟩ :=
    refused_iff_and_untouched hreach (.setCameraView 1) (.actionMissing "View front")
  obtain ⟨htool, -⟩ :=
    refused_iff_and_untouched hreach (.toggleTool "ruler" "Ruler") (.actionMissing "Ruler")
  obtain ⟨hrow, hrowKept⟩ := refused_iff_and_untouched hreach (.yankRow 1) (.noValue 1)
  obtain ⟨hlast, -⟩ := refused_iff_and_untouched hreach (.yankRow 18446744073709551615)
    (.outOfRange .row 18446744073709551615 1)
  have hviewFails := hview.2 (.actionMissing rfl (by rw [hmapped]; decide +kernel))
  have htoolFails := htool.2 (.actionMissing rfl (by rw [hunmapped]; decide +kernel))
  have hrowFails : (w.session.execute w.host (.yankRow 1)).result = .error (.noValue 1) := by
    decide +kernel
  exact ⟨hreach, hmapped, hviewFails, hviewKept hviewFails, hunmapped, htoolFails,
    hrow.1 hrowFails, hrowKept hrowFails, hlast.2 (.noRow (Or.inr (by decide)))⟩

end Workbench

end PanelKeys
