import PanelKeys.Config.Overrides
import PanelKeys.Session.Basic
import PanelKeys.Typing.Interpreter

/-!
# The controller

The controller owns everything: the interpreter, the session, the application, and the texts that
wait for the clipboard.  Each input is handled to its end before the next, and the signals of the
interpreter are carried out in their order.

* `Controller.handleKey`, `Controller.handleDeadline`, `Controller.tick` — keys, timers, and the
  periodic pass;
* `Controller.applySignal` — prompts go to the application, commands to the session, and **every
  command and every rejection is reported once**: at once, or, for a copy, when the clipboard has
  answered;
* `Controller.copyFinished` — the clipboard's answer;
* `Controller.applySettings` — other settings; what has been typed is dropped, policy and ledger
  stay.
-/

namespace PanelKeys

/-- A text that waits for the clipboard, and the words for it in the report. -/
structure CopyJob where
  text : String
  what : String
  deriving DecidableEq

/-- Why the clipboard did not take a text. -/
inductive ClipboardError where
  | unavailable
  | rejected (why : String)
  deriving DecidableEq

def ClipboardError.message : ClipboardError → String
  | unavailable => "clipboard is not available"
  | rejected why => s!"clipboard write rejected: {why}"

/-- Everything that the keyboard layer holds. -/
structure Controller where
  host : Host
  interpreter : Interpreter
  session : Session
  interval : Nat
  copies : List CopyJob := []
  deriving DecidableEq

namespace Controller

/-- A new controller over an application, under the given settings. -/
def new (host : Host) (settings : Settings) : Controller :=
  { host
    interpreter :=
      { timeout := settings.sequenceTimeout
        bindings := settings.bindingTable
        menu := settings.viewMenu }
    session :=
      { policy := settings.policy
        actionIds := settings.actions
        cameraViews := settings.cameraViews }
    interval := settings.reconcileInterval }

def pending (c : Controller) : Option DeadlineToken := c.interpreter.pending

def mapHost (f : Host → Host) (c : Controller) : Controller := { c with host := f c.host }

/-- Reports a command that was carried out, or keeps its text for the clipboard. -/
def report (outcome : Outcome) (c : Controller) : Controller :=
  match outcome with
  | .copy text what => { c with copies := c.copies ++ [⟨text, what⟩] }
  | outcome => c.mapHost (·.notify outcome.text true)

/-- Carries out a command. -/
def runCommand (command : Command) (c : Controller) : Controller :=
  let e := c.session.execute c.host command
  let c := { c with session := e.session, host := e.host }
  match e.result with
  | .ok outcome => c.report outcome
  | .error why => c.mapHost (·.notify why.message false)

def applySignal (c : Controller) : Signal → Controller
  | .showPrompt prompt => c.mapHost (·.showPrompt prompt)
  | .hidePrompt => c.mapHost (·.hidePrompt)
  | .rejected why => c.mapHost (·.notify why.message false)
  | .resolved command => c.runCommand command

/-- Takes the interpreter's answer over, signal by signal. -/
def applyTurn (t : Turn) (c : Controller) : Controller :=
  t.signals.foldl applySignal { c with interpreter := t.interpreter }

/-- One key; tells whether it was taken.  Keys that were not belong to the application. -/
def handleKey (press : KeyPress) (now : Instant) (c : Controller) : Bool × Controller :=
  let t := c.interpreter.handleKey press now
  (t.consumed, c.applyTurn t)

/-- A timer that has gone off. -/
def handleDeadline (token : DeadlineToken) (now : Instant) (c : Controller) : Controller :=
  c.applyTurn (c.interpreter.handleDeadline token now)

/-- The periodic pass. -/
def tick (c : Controller) : Report × Controller :=
  let (report, session, host) := c.session.reconcile c.host
  (report, { c with session, host })

/-- The texts that have come up for the clipboard, each handed out once. -/
def takeCopies (c : Controller) : List CopyJob × Controller := (c.copies, { c with copies := [] })

/-- The clipboard's answer for one text. -/
def copyFinished (what : String) (answer : Except ClipboardError Unit) (c : Controller) :
    Controller :=
  match answer with
  | .ok () => c.mapHost (·.notify s!"Copied {what}" true)
  | .error why => c.mapHost (·.notify s!"Copy failed: {why.message}" false)

/-- Takes other settings. -/
def applySettings (settings : Settings) (c : Controller) : Controller :=
  let c := c.applyTurn
    (c.interpreter.reconfigure settings.bindingTable settings.viewMenu settings.sequenceTimeout)
  { c with
    session := c.session.reconfigure settings.actions settings.cameraViews
    interval := settings.reconcileInterval }

end Controller

end PanelKeys
