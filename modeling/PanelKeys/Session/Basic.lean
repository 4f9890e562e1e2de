import PanelKeys.Panel.Host
import PanelKeys.Session.Outcome
import PanelKeys.Session.Yank

/-!
# A session

A session is what the keyboard layer remembers between commands: the policy, the ledger of converted
cells, and from the settings the names of actions and views.  Carrying out a command changes the
session and the application.

* `Session.execute` — one command.  **A command that fails changes nothing** but the journal of what
  the application was asked;
* `Session.reconcile` — the periodic pass: entries of cells that have gone are dropped, and while
  inches are shown every length is brought to its text;
* `Session.reconfigure` — other names; policy and ledger stay.
-/

namespace PanelKeys

open PanelKeys.Length
open PanelKeys.Panel

/-- What is remembered between commands. -/
structure Session where
  policy : Policy := {}
  ledger : Ledger := {}
  actionIds : Table String String := .empty
  cameraViews : List String := []
  deriving DecidableEq

/-- What came of a command. -/
structure Execution where
  result : Except CommandError Outcome
  session : Session
  host : Host

namespace Session

/-- The application's name for an action; a name that is not mapped is its own. -/
def actionId (s : Session) (name : String) : String := (s.actionIds.get? name).getD name

def screen (s : Session) (h : Host) : Screen := ⟨s.ledger, h.store, s.policy⟩

/-- Takes other names from the settings. -/
def reconfigure (s : Session) (actionIds : Table String String) (cameraViews : List String) :
    Session :=
  { s with actionIds, cameraViews }

/-- One pass over the panel. -/
def reconcile (s : Session) (h : Host) : Report × Session × Host :=
  let cells := h.panelCells
  let ledger := s.ledger.sweep cells
  if s.policy.isInch then
    let pass := ledger.reconcile h.store s.policy cells
    (pass.report, { s with ledger := pass.ledger }, { h with store := pass.store })
  else ({}, { s with ledger }, h)

/-- Runs the action that a name stands for, and reports it under a label. -/
def invoke (s : Session) (h : Host) (name label : String) : Execution :=
  match h.invoke (s.actionId name) with
  | (⟨true, active⟩, h') => ⟨.ok (.action label active), s, h'⟩
  | (⟨false, _⟩, h') => ⟨.error (.actionMissing label), s, h'⟩

/-- The symbolic name of the toggle of a grid plane. -/
def gridPlaneAction (axis : Axis) : String := s!"grid-plane-{axis.text}"

/-- Reports the policy after a pass under it. -/
def presentUnits (s : Session) (h : Host) : Execution :=
  let (_, s, h) := s.reconcile h
  ⟨.ok (.units s.policy), s, h⟩

/-- Inches are presented by a pass, millimeters by writing every converted cell back. -/
def toggleUnit (s : Session) (h : Host) : Execution :=
  let s := { s with policy := s.policy.toggleUnit }
  if s.policy.isInch then s.presentUnits h
  else
    let (store, _) := s.ledger.restore h.store
    ⟨.ok (.units s.policy), { s with ledger := .empty }, { h with store }⟩

def toggleVisibility (s : Session) (h : Host) (target : VisibilityTarget) : Execution :=
  if h.nodes.isEmpty then ⟨.error .sceneEmpty, s, h⟩
  else
    match target with
    | .all =>
        let (visible, h) := h.toggleAll
        ⟨.ok (.visibility target visible), s, h⟩
    | .node index =>
        match nthOf .node h.nodes index with
        | .error e => ⟨.error e, s, h⟩
        | .ok _ =>
            let (visible, h) := h.toggleNode index
            ⟨.ok (.visibility target visible), s, h⟩

/-- Hands a text on for the clipboard. -/
def copy (s : Session) (h : Host) (text : Except CommandError String) (what : String) : Execution :=
  ⟨text.map fun text => .copy text what, s, h⟩

/-- Carries out one command. -/
def execute (s : Session) (h : Host) : Command → Execution
  | .toggleTool action label => s.invoke h action label
  | .toggleViewOption action label => s.invoke h action label
  | .setCameraView index =>
      match nthOf .cameraView s.cameraViews index with
      | .ok name => s.invoke h name s!"View {name}"
      | .error e => ⟨.error e, s, h⟩
  | .toggleGridPlane axis => s.invoke h (gridPlaneAction axis) s!"Grid plane {axis.capital}"
  | .toggleUnit => s.toggleUnit h
  | .cyclePrecision => { s with policy := s.policy.cyclePrecision }.presentUnits h
  | .toggleFeet => { s with policy := s.policy.toggleFeet }.presentUnits h
  | .yankPrimary => s.copy h ((s.screen h).primaryText h.snapshot) "primary value"
  | .yankRow index => s.copy h ((s.screen h).rowText h.snapshot index) s!"row {index}"
  | .yankRowAxis index axis =>
      s.copy h ((s.screen h).axisText h.snapshot index axis) s!"row {index} {axis.text}"
  | .yankTable => s.copy h ((s.screen h).tableText h.snapshot) s!"{h.snapshot.length} rows"
  | .toggleVisibility target => s.toggleVisibility h target

end Session

end PanelKeys
