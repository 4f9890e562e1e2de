import PanelKeys.Session.Controller

/-!
# The event loop

Keys, timers, ticks, other settings and answers of the clipboard reach the controller one at a time,
in whatever order they come.  A text for the clipboard is sent off as soon as the controller has
produced it, and its answer is one more input, which may come late and out of turn.

* `Flight` — a text that has been sent off and not been answered;
* `LoopInput` — what can come;
* `EventLoop.step` — one input to its end, and **every text it produced is on its way before the
  next**;
* `EventLoop.run` — inputs in their order; `EventLoop.finish` — the answers that are waited for when
  the keys have ended.
-/

namespace PanelKeys

/-- A text on its way to the clipboard. -/
structure Flight where
  job : CopyJob
  started : Instant
  deriving DecidableEq

/-- What the clipboard answers. -/
abbrev ClipboardAnswer := Except ClipboardError Unit

/-- What can reach the controller. -/
inductive LoopInput where
  /-- a key was pressed -/
  | key (press : KeyPress)
  /-- the timer of the armed deadline has gone off -/
  | timer
  /-- it is time for the periodic pass -/
  | tick
  /-- the settings have changed -/
  | settings (settings : Settings)
  /-- the clipboard has answered for one of the texts on their way -/
  | answered (index : Nat) (answer : ClipboardAnswer)

/-- The controller and the texts on their way. -/
structure EventLoop where
  controller : Controller
  flights : List Flight := []
  deriving DecidableEq

namespace EventLoop

/-- A new controller, with nothing on its way. -/
def new (host : Host) (settings : Settings) : EventLoop := { controller := .new host settings }

def host (l : EventLoop) : Host := l.controller.host

def mapController (f : Controller → Controller) (l : EventLoop) : EventLoop :=
  { l with controller := f l.controller }

/-- Brings an input to the controller. -/
def handle (input : LoopInput) (now : Instant) (l : EventLoop) : EventLoop :=
  match input with
  | .key press => l.mapController fun c => (c.handleKey press now).2
  | .timer =>
      match l.controller.pending with
      | some token => l.mapController (·.handleDeadline token now)
      | none => l
  | .tick => l.mapController fun c => c.tick.2
  | .settings settings => l.mapController (·.applySettings settings)
  | .answered index answer =>
      match l.flights[index]? with
      | some flight =>
          { controller := l.controller.copyFinished flight.job.what answer
            flights := l.flights.eraseIdx index }
      | none => l

/-- Sends off the texts that the controller has produced. -/
def depart (now : Instant) (l : EventLoop) : EventLoop :=
  let (jobs, controller) := l.controller.takeCopies
  { controller, flights := l.flights ++ jobs.map fun job => ⟨job, now⟩ }

theorem copies_depart (now : Instant) (l : EventLoop) : (l.depart now).controller.copies = [] := rfl

theorem flights_depart (now : Instant) (l : EventLoop) :
    (l.depart now).flights = l.flights ++ l.controller.copies.map fun job => ⟨job, now⟩ := rfl

/-- One input to its end. -/
def step (input : LoopInput) (now : Instant) (l : EventLoop) : EventLoop :=
  (l.handle input now).depart now

/-- Inputs with their instants, in the order in which they come. -/
def run (inputs : List (LoopInput × Instant)) (l : EventLoop) : EventLoop :=
  inputs.foldl (fun l (input, now) => l.step input now) l

/-- When the keys have ended only answers are taken. -/
def finish (answers : List (Nat × ClipboardAnswer)) (now : Instant) (l : EventLoop) : EventLoop :=
  answers.foldl (fun l (index, answer) => l.handle (.answered index answer) now) l

end EventLoop

end PanelKeys
