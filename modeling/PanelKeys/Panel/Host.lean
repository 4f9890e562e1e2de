import PanelKeys.Panel.Row
import PanelKeys.Typing.Prompt

/-!
# An application in memory

The keyboard layer works on an application that shows a panel, runs actions and draws a scene.
`Host` is such an application kept in plain values: it backs the terminal program, and every
statement about a session is a statement about it.

* rows and cells — `pushScalar`, `pushVector`, `pushHeader`, `removeRow`, `clearRows`.  **Rows and
  cells are numbered by one counter, and no number is handed out twice**;
* actions — `invoke` runs an action; a toggle changes its state, a plain command has none;
* the scene — `toggleNode` and `toggleAll`; nodes are counted from one;
* the journal — what the application was asked to run or to show, in order, with `invoked` and
  `notifications` as views of it;
* `snapshot` — the rows as one pass sees them, each asked for by its identity;
* `HostEdit`, `perform` — everything that the application can be made to do, as one type.
-/

namespace PanelKeys

/-- An action of the application: a toggle with its state, or a plain command. -/
inductive ActionState where
  | toggle (active : Bool)
  | command
  deriving DecidableEq

namespace ActionState

/-- The state of a toggle; a plain command has none. -/
def active? : ActionState → Option Bool
  | toggle active => some active
  | command => none

def invoked : ActionState → ActionState
  | toggle active => toggle !active
  | command => command

end ActionState

/-- What came of invoking an action. -/
structure Invocation where
  found : Bool
  activeAfter : Option Bool
  deriving DecidableEq

/-- A short message to the user, good news or bad. -/
structure Notification where
  message : String
  positive : Bool
  deriving DecidableEq

/-- One entry of the journal. -/
inductive HostCall where
  | invoked (id : String) (result : Invocation)
  | notified (message : Notification)
  | promptShown (prompt : Prompt)
  | promptHidden
  deriving DecidableEq

/-- The identity of an action that was found and run. -/
def HostCall.action? : HostCall → Option String
  | invoked id result => if result.found then some id else none
  | _ => none

def HostCall.notification? : HostCall → Option Notification
  | notified message => some message
  | _ => none

/-- The application: panel, actions, scene, the overlay, and the journal of what it was asked. -/
structure Host where
  rows : List Row := []
  store : CellStore := {}
  actions : Table String ActionState := .empty
  nodes : List Bool := []
  lastId : Nat := 0
  prompt : Option Prompt := none
  journal : List HostCall := []
  deriving DecidableEq

namespace Host

def empty : Host := {}

/-! ## The journal -/

def write (call : HostCall) (h : Host) : Host := { h with journal := h.journal ++ [call] }

/-- The actions that were found and run, in order. -/
def invoked (h : Host) : List String := h.journal.filterMap HostCall.action?

/-- The messages to the user, in order. -/
def notifications (h : Host) : List Notification := h.journal.filterMap HostCall.notification?

/-! ## Rows and cells -/

/-- A cell with the next number. -/
def newCell (text : String) (h : Host) : CellId × Host :=
  let id := h.lastId + 1
  (id, { h with lastId := id, store := h.store.put id ⟨text, false⟩ })

/-- A number for a row. -/
def newRowId (h : Host) : RowId × Host :=
  let id := h.lastId + 1
  (id, { h with lastId := id })

def appendRow (row : Row) (h : Host) : Host := { h with rows := h.rows ++ [row] }

/-- A row with one value; the row is numbered before its cell. -/
def pushScalar (label text : String) (h : Host) : CellId × Host :=
  let (row, h) := h.newRowId
  let (cell, h) := h.newCell text
  (cell, h.appendRow ⟨row, label, .scalar cell⟩)

/-- A row with a vector; the row is numbered before its cells. -/
def pushVector (label x y z : String) (h : Host) : VectorCells × Host :=
  let (row, h) := h.newRowId
  let (cx, h) := h.newCell x
  let (cy, h) := h.newCell y
  let (cz, h) := h.newCell z
  (⟨cx, cy, cz⟩, h.appendRow ⟨row, label, .vector ⟨cx, cy, cz⟩⟩)

/-- A row without a value. -/
def pushHeader (label : String) (h : Host) : RowId × Host :=
  let (row, h) := h.newRowId
  (row, h.appendRow ⟨row, label, .empty⟩)

/-- The row at a position goes, with its cells; beyond the end nothing happens. -/
def removeRow (index : Nat) (h : Host) : Host :=
  match h.rows[index]? with
  | some row => { h with rows := h.rows.eraseIdx index, store := h.store.removeAll row.cells }
  | none => h

/-- All rows and all cells go. -/
def clearRows (h : Host) : Host :=
  { h with rows := [], store := { h.store with cells := .empty } }

/-- The application changes a cell by itself. -/
def overwrite (cell : CellId) (text : String) (h : Host) : Host :=
  { h with store := h.store.overwrite cell text }

def readText? (h : Host) (cell : CellId) : Option String := h.store.read? cell

/-- A cell is changed at our request; tells whether it was. -/
def writeText (cell : CellId) (text : String) (h : Host) : Bool × Host :=
  match h.store.write? cell text with
  | some store => (true, { h with store })
  | none => (false, h)

/-! ## The panel as it is seen -/

def visibleRows (h : Host) : List RowId := h.rows.map (·.id)

def row? (h : Host) (id : RowId) : Option Row := h.rows.find? fun row => row.id = id

/-- What the panel answers about a row; about a row that is gone it answers with nothing. -/
def report (h : Host) (id : RowId) : RowReport :=
  match h.row? id with
  | none => {}
  | some row =>
      match row.value with
      | .empty => { label := row.label }
      | .scalar cell => { label := row.label, scalar := some cell }
      | .vector cells => { label := row.label, hasVector := true, vector := some cells }

/-- The visible rows in display order, each read by its identity. -/
def snapshot (h : Host) : List Row := h.visibleRows.map fun id => Row.ofReport id (h.report id)

def panelCells (h : Host) : List PanelCell := PanelKeys.panelCells h.snapshot

/-! ## Actions -/

def addToggle (id : String) (active : Bool) (h : Host) : Host :=
  { h with actions := h.actions.insert id (.toggle active) }

def addCommand (id : String) (h : Host) : Host :=
  { h with actions := h.actions.insert id .command }

/-- Runs an action, if the application has it; the request is in the journal either way. -/
def invoke (id : String) (h : Host) : Invocation × Host :=
  match h.actions.get? id with
  | none =>
      let result := ⟨false, none⟩
      (result, h.write (.invoked id result))
  | some state =>
      let after := state.invoked
      let result := ⟨true, after.active?⟩
      (result, { h with actions := h.actions.insert id after }.write (.invoked id result))

def toggleState (h : Host) (id : String) : Option Bool :=
  (h.actions.get? id).bind ActionState.active?

/-! ## The scene -/

/-- A scene of so many nodes, all visible. -/
def setNodes (count : Nat) (h : Host) : Host := { h with nodes := List.replicate count true }

def nodeVisible (h : Host) (index : Nat) : Option Bool :=
  if index = 0 then none else h.nodes[index - 1]?

/-- Flips one node and tells whether it is visible now. -/
def toggleNode (index : Nat) (h : Host) : Option Bool × Host :=
  match h.nodeVisible index with
  | some visible => (some !visible, { h with nodes := h.nodes.set (index - 1) !visible })
  | none => (none, h)

/-- Hides all nodes if any is visible, and shows all otherwise. -/
def toggleAll (h : Host) : Option Bool × Host :=
  if h.nodes.isEmpty then (none, h)
  else
    let visible := !h.nodes.any id
    (some visible, { h with nodes := h.nodes.map fun _ => visible })

/-! ## Messages and the overlay -/

def notify (message : String) (positive : Bool) (h : Host) : Host :=
  h.write (.notified ⟨message, positive⟩)

def showPrompt (prompt : Prompt) (h : Host) : Host :=
  { h with prompt := some prompt }.write (.promptShown prompt)

def hidePrompt (h : Host) : Host := { h with prompt := none }.write .promptHidden

end Host

/-! ## Everything at once -/

/-- What the application can be made to do from outside a session. -/
inductive HostEdit where
  | pushScalar (label text : String)
  | pushVector (label x y z : String)
  | pushHeader (label : String)
  | removeRow (index : Nat)
  | clearRows
  | addToggle (id : String) (active : Bool)
  | addCommand (id : String)
  | setNodes (count : Nat)
  | overwrite (cell : CellId) (text : String)
  | writeText (cell : CellId) (text : String)
  | invoke (id : String)
  | toggleNode (index : Nat)
  | toggleAll
  | notify (message : String) (positive : Bool)
  deriving DecidableEq

/-- What the application answers to an edit. -/
inductive HostReply where
  | done
  | number (id : Nat)
  | vector (cells : VectorCells)
  | flag (value : Bool)
  | visibility (visible : Option Bool)
  | invocation (result : Invocation)
  | notification (value : Notification)
  deriving DecidableEq

namespace Host

def perform (edit : HostEdit) (h : Host) : HostReply × Host :=
  match edit with
  | .pushScalar label text => let (cell, h) := h.pushScalar label text; (.number cell, h)
  | .pushVector label x y z => let (cells, h) := h.pushVector label x y z; (.vector cells, h)
  | .pushHeader label => let (row, h) := h.pushHeader label; (.number row, h)
  | .removeRow index => (.done, h.removeRow index)
  | .clearRows => (.done, h.clearRows)
  | .addToggle id active => (.done, h.addToggle id active)
  | .addCommand id => (.done, h.addCommand id)
  | .setNodes count => (.done, h.setNodes count)
  | .overwrite cell text => (.done, h.overwrite cell text)
  | .writeText cell text => let (ok, h) := h.writeText cell text; (.flag ok, h)
  | .invoke id => let (result, h) := h.invoke id; (.invocation result, h)
  | .toggleNode index => let (visible, h) := h.toggleNode index; (.visibility visible, h)
  | .toggleAll => let (visible, h) := h.toggleAll; (.visibility visible, h)
  | .notify message positive => (.notification ⟨message, positive⟩, h.notify message positive)

end Host

end PanelKeys
