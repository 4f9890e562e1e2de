import PanelKeys.Typing.Deadline
import PanelKeys.Typing.KeyPress
import PanelKeys.Typing.Prompt

/-!
# The key sequence interpreter

Keys come one at a time, and some only begin a sequence.  The interpreter keeps what has been typed,
waits for the next key until a deadline, and answers each input with signals: a prompt to show or to
hide, a command that is complete, or a sequence that makes no sense.

A count is followed by `v` for a camera view, `h` for a node's visibility, or an axis; a count and
an axis by `y`.  `3y` is both row 3 and the beginning of `3yy`, and only the next key or the
deadline settles which.  `yy` copies the primary value, `v` and a key the view menu's command.

* `Interpreter.handleKey` — one key.  **A key at the deadline or after it finds the sequence
  expired**, whether or not the timer has been heard of;
* `Interpreter.handleDeadline` — a timer that has gone off;
* `Interpreter.processChord` — the grammar.  **A key that does not go on with the sequence ends it
  and is then taken as the first key of another**;
* `Interpreter.reset`, `Interpreter.reconfigure` — drop what has been typed.
-/

namespace PanelKeys

open PanelKeys.Number
open PanelKeys.Panel

/-- A sequence that leads nowhere. -/
inductive Rejection where
  | invalidSequence (digits : List Char) (axis : Axis)
  | unknownMenuKey (chord : Chord)
  | missingMenuKey
  deriving DecidableEq

def Rejection.message : Rejection → String
  | invalidSequence digits axis => s!"Invalid sequence: {String.ofList digits}{axis.text}"
  | unknownMenuKey chord => s!"Unknown command: v {chord.text}"
  | missingMenuKey => "Unknown command: v"

/-- What an input leads to. -/
inductive Signal where
  | showPrompt (prompt : Prompt)
  | hidePrompt
  | resolved (command : Command)
  | rejected (why : Rejection)
  deriving DecidableEq

/-- The state of the interpreter, with its tables and the time that a half-typed sequence waits. -/
structure Interpreter where
  mode : Mode := .idle
  deadline : Deadline := {}
  timeout : Nat
  bindings : BindingTable
  menu : ViewMenu
  lastEvent : Option Instant := none
  deriving DecidableEq

/-- The answer to one input: the new state, the signals in order, and whether the key was taken. -/
structure Turn where
  interpreter : Interpreter
  signals : List Signal := []
  consumed : Bool := false

namespace Turn

/-- Goes on from the new state; the signals add up and the later answer says whether the key was
taken. -/
def andThen (t : Turn) (next : Interpreter → Turn) : Turn :=
  let u := next t.interpreter
  { u with signals := t.signals ++ u.signals }

def taking (consumed : Bool) (t : Turn) : Turn := { t with consumed }

def emit (s : Signal) (t : Turn) : Turn := { t with signals := t.signals ++ [s] }

/-- The commands among the signals. -/
def commands (t : Turn) : List Command :=
  t.signals.filterMap fun
    | .resolved command => some command
    | _ => none

/-- The rejections among the signals. -/
def rejections (t : Turn) : List Rejection :=
  t.signals.filterMap fun
    | .rejected why => some why
    | _ => none

end Turn

namespace Interpreter

def prompt (m : Interpreter) : Prompt := m.mode.prompt m.bindings m.menu

/-- The token of the sequence that waits, if one does. -/
def pending (m : Interpreter) : Option DeadlineToken := m.deadline.armed

/-! ## What a transition does -/

/-- Drops what has been typed; the prompt goes if one was up. -/
def clear (m : Interpreter) : Turn :=
  { interpreter := { m with mode := .idle, deadline := m.deadline.cancel }
    signals := if m.mode.isIdle then [] else [.hidePrompt] }

/-- Ends the sequence with a command. -/
def resolve (command : Command) (m : Interpreter) : Turn := m.clear.emit (.resolved command)

/-- Ends the sequence with a complaint. -/
def reject (why : Rejection) (m : Interpreter) : Turn := m.clear.emit (.rejected why)

/-- Goes on to another mode and waits for the next key. -/
def enter (mode : Mode) (now : Instant) (m : Interpreter) : Turn :=
  let m' := { m with mode, deadline := m.deadline.arm (now + m.timeout) }
  { interpreter := m', signals := [.showPrompt m'.prompt] }

/-! ## The grammar -/

/-- What ends a count with an axis that its `y` never confirmed. -/
inductive Interrupt where
  | key
  | timeout

/-- A count and the axis `y` without a second `y` are a whole row.  The other axes mean nothing
alone: a key that comes instead is told so, and a timeout lets them go. -/
def settleAxis (digits : List Char) (axis : Axis) (interrupt : Interrupt) (m : Interpreter) :
    Turn :=
  match axis, interrupt with
  | .y, _ => m.resolve (.yankRowOrTable (countOfDigits digits))
  | _, .key => m.reject (.invalidSequence digits axis)
  | _, .timeout => m.clear

/-- The first key of a sequence, or a binding. -/
def startChord (chord : Chord) (now : Instant) (m : Interpreter) : Turn :=
  if chord.isDigit then (m.enter (.counting [chord.key]) now).taking true
  else if chord.isPlain 'y' then (m.enter .yanking now).taking true
  else if chord.isPlain 'v' then (m.enter .choosingView now).taking true
  else
    match m.bindings.get? chord with
    | some entry => (m.resolve entry.command).taking true
    | none => { interpreter := m }

/-- The axis that a chord without shift names. -/
def axisOf? (chord : Chord) : Option Axis :=
  if chord.shift then none else Axis.ofChar? chord.key

/-- A key after a count. -/
def continueCount (digits : List Char) (chord : Chord) (now : Instant) (m : Interpreter) : Turn :=
  if chord.isDigit then (m.enter (.counting (digits ++ [chord.key])) now).taking true
  else
    match axisOf? chord with
    | some axis => (m.enter (.countingAxis digits axis) now).taking true
    | none =>
        if chord.isPlain 'v' then
          (m.resolve (.setCameraView (countOfDigits digits))).taking true
        else if chord.isPlain 'h' then
          (m.resolve (.toggleNodeOrAll (countOfDigits digits))).taking true
        else m.clear.andThen (startChord chord now)

/-- A key after a count and an axis. -/
def continueAxis (digits : List Char) (axis : Axis) (chord : Chord) (now : Instant)
    (m : Interpreter) : Turn :=
  if chord.isPlain 'y' then (m.resolve (.yankRowAxis (countOfDigits digits) axis)).taking true
  else (m.settleAxis digits axis .key).andThen (startChord chord now)

/-- A key after `y`. -/
def continueYank (chord : Chord) (now : Instant) (m : Interpreter) : Turn :=
  if chord.isPlain 'y' then (m.resolve .yankPrimary).taking true
  else m.clear.andThen (startChord chord now)

/-- A key after `v`: it is taken whether or not the menu has it. -/
def chooseView (chord : Chord) (m : Interpreter) : Turn :=
  match if chord.shift then none else m.menu.get? chord.key with
  | some entry => (m.resolve entry.command).taking true
  | none => (m.reject (.unknownMenuKey chord)).taking true

/-- A key that can take part in a sequence. -/
def processChord (chord : Chord) (now : Instant) (m : Interpreter) : Turn :=
  match m.mode with
  | .idle => m.startChord chord now
  | .counting digits => m.continueCount digits chord now
  | .countingAxis digits axis => m.continueAxis digits axis chord now
  | .yanking => m.continueYank chord now
  | .choosingView => m.chooseView chord

/-- A key that cannot: it is left to the application, and what has been typed ends. -/
def passThrough (m : Interpreter) : Turn :=
  match m.mode with
  | .idle => { interpreter := m }
  | .countingAxis digits axis => m.settleAxis digits axis .key
  | _ => m.clear

/-- Escape drops what has been typed, and is taken only if something had been. -/
def process (press : KeyPress) (now : Instant) (m : Interpreter) : Turn :=
  if press.isEscape then m.clear.taking (!m.mode.isIdle)
  else
    match press.chord? with
    | none => m.passThrough
    | some chord => m.processChord chord now

/-- The deadline has come and no key with it. -/
def expire (m : Interpreter) : Turn :=
  match m.mode with
  | .idle => { interpreter := m }
  | .countingAxis digits axis => m.settleAxis digits axis .timeout
  | .choosingView => m.reject .missingMenuKey
  | .counting _ | .yanking => m.clear

/-! ## Inputs -/

/-- The sequence that waits, expired if its instant has come. -/
def expireIfDue (now : Instant) (m : Interpreter) : Turn :=
  if m.deadline.isDue now then expire { m with deadline := m.deadline.cancel }
  else { interpreter := m }

/-- One key.  A deadline that has come is settled first. -/
def handleKey (press : KeyPress) (now : Instant) (m : Interpreter) : Turn :=
  (m.expireIfDue now).andThen fun m => process press now { m with lastEvent := some now }

/-- A timer that brings back a token.  Tokens that are no longer armed, and instants before the
token's, change nothing. -/
def handleDeadline (token : DeadlineToken) (now : Instant) (m : Interpreter) : Turn :=
  match m.deadline.fire token now with
  | (true, deadline) => expire { m with deadline }
  | (false, _) => { interpreter := m }

/-- Drops what has been typed without settling it. -/
def reset (m : Interpreter) : Turn := m.clear

/-- Takes other tables and another timeout; what has been typed is dropped. -/
def reconfigure (bindings : BindingTable) (menu : ViewMenu) (timeout : Nat) (m : Interpreter) :
    Turn :=
  let t := m.reset
  { t with interpreter := { t.interpreter with bindings, menu, timeout } }

end Interpreter

end PanelKeys
