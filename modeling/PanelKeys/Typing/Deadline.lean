/-!
# One-shot deadlines

A half-typed sequence waits for its next key until an instant.  Timers for that instant are set up
by whoever owns the clock, and a timer may go off after its sequence has ended, or after the next
has begun.  So each arming has a token of its own: a timer brings its token back, and only the token
that is still the armed one counts.

* `Deadline.arm` — a new token in place of any earlier one;
* `Deadline.cancel` — no token is armed;
* `Deadline.fire` — takes the armed token away if it is the one brought back and its instant has
  come;
* `Deadline.isDue` — whether the armed instant has come; **at the instant itself it has**.
-/

namespace PanelKeys

/-- Milliseconds after an arbitrary origin. -/
abbrev Instant := Int

/-- One arming of a deadline.  The generation tells armings for the same instant apart. -/
structure DeadlineToken where
  generation : UInt64
  due : Instant
  deriving DecidableEq

/-- The armed token, if any, and the generation of the last one. -/
structure Deadline where
  generation : UInt64 := 0
  armed : Option DeadlineToken := none
  deriving DecidableEq

namespace Deadline

/-- Arms for an instant, in place of any earlier arming. -/
def arm (d : Deadline) (due : Instant) : Deadline :=
  let generation := d.generation + 1
  ⟨generation, some ⟨generation, due⟩⟩

def cancel (d : Deadline) : Deadline := { d with armed := none }

def isArmed (d : Deadline) : Bool := d.armed.isSome

def isCurrent (d : Deadline) (token : DeadlineToken) : Bool := d.armed = some token

/-- The armed instant has come. -/
def isDue (d : Deadline) (now : Instant) : Bool :=
  match d.armed with
  | some token => token.due ≤ now
  | none => false

/-- Whether a timer that brings this token back takes effect. -/
def fires (d : Deadline) (token : DeadlineToken) (now : Instant) : Bool :=
  d.isCurrent token && decide (token.due ≤ now)

/-- Takes the armed token away if it is the one brought back and its instant has come. -/
def fire (d : Deadline) (token : DeadlineToken) (now : Instant) : Bool × Deadline :=
  if d.fires token now then (true, d.cancel) else (false, d)

end Deadline

end PanelKeys
