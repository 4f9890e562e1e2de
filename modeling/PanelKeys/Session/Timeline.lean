import PanelKeys.Session.EventLoop

/-!
# Sessions on a clock

The event loop leaves open when things happen.  On a timeline they happen at known instants: keys
and changes arrive when they are said to, deadlines and ticks come when they are due, and the
clipboard takes a fixed time for every text.

* `Timeline` — the loop, the clock, the clipboard, and a log of what could be seen from outside;
* `Timeline.nextOccurrence` — what comes next by itself, and when;
* `Timeline.advance` — lets the clock run up to an instant;
* `Timeline.run` — a whole session.  **When the keys end, ticks and deadlines end with them, but
  every text on its way is waited for.**
-/

namespace PanelKeys

/-- What comes from outside, at instants of its own. -/
inductive Arrival where
  | key (press : KeyPress)
  | settings (settings : Settings)
  /-- no other settings will come -/
  | settingsClosed
  /-- from now on the clipboard fails, or works again -/
  | clipboardFails (fails : Bool)
  /-- somebody looks at the panel -/
  | look
  /-- the application changes by itself -/
  | edit (edit : HostEdit)

/-- What can be seen from outside. -/
inductive Sight where
  | called (call : HostCall)
  | clipboard (text : String)
  | panel (host : Host)
  deriving DecidableEq

/-- What happens by itself. -/
inductive Occurrence where
  | landing
  | timer
  | tick
  deriving DecidableEq

/-- A session on a clock. -/
structure Timeline where
  loop : EventLoop
  now : Instant := 0
  nextTick : Instant := 0
  /-- how long the clipboard takes for a text -/
  delay : Nat := 0
  settingsOpen : Bool := true
  clipboardFails : Bool := false
  /-- the texts that the clipboard has taken -/
  clipboard : List String := []
  log : List (Instant × Sight) := []

namespace Timeline

def see (sight : Sight) (t : Timeline) : Timeline := { t with log := t.log ++ [(t.now, sight)] }

/-- Brings an input to the loop and logs what the application was asked to do. -/
def feed (input : LoopInput) (t : Timeline) : Timeline :=
  let loop := t.loop.step input t.now
  let calls := loop.host.journal.drop t.loop.host.journal.length
  calls.foldl (fun t call => t.see (.called call)) { t with loop }

/-! ## What happens by itself -/

/-- When a text reaches the clipboard. -/
def landsAt (t : Timeline) (flight : Flight) : Instant := flight.started + t.delay

/-- The clipboard takes a text, or fails. -/
def write (text : String) (t : Timeline) : Timeline :=
  let t := t.see (.clipboard text)
  if t.clipboardFails then t else { t with clipboard := t.clipboard ++ [text] }

def answer (t : Timeline) : ClipboardAnswer :=
  if t.clipboardFails then .error .unavailable else .ok ()

/-- The texts whose instant has come reach the clipboard together, and are then answered in turn. -/
def land (t : Timeline) : Timeline :=
  let landed := t.loop.flights.takeWhile fun flight => t.landsAt flight ≤ t.now
  let t := landed.foldl (fun t flight => t.write flight.job.text) t
  landed.foldl (fun t _ => t.feed (.answered 0 t.answer)) t

/-- Of two the earlier, and the first if they come together. -/
def earlier (a b : Instant × Occurrence) : Instant × Occurrence := if b.1 < a.1 then b else a

/-- What comes next, and when.  There is always another tick. -/
def nextOccurrence (t : Timeline) : Instant × Occurrence :=
  let landing := t.loop.flights.head?.map fun flight => (t.landsAt flight, Occurrence.landing)
  let timer := t.loop.controller.pending.map fun token => (token.due, Occurrence.timer)
  (landing.toList ++ timer.toList).foldr earlier (t.nextTick, .tick)

def occur (what : Occurrence) (t : Timeline) : Timeline :=
  match what with
  | .landing => t.land
  | .timer => t.feed .timer
  | .tick =>
      let t := t.feed .tick
      { t with nextTick := t.nextTick + t.loop.controller.interval }

/-- Moves the clock; it never goes back. -/
def moveTo (instant : Instant) (t : Timeline) : Timeline := { t with now := max t.now instant }

/-- Everything that happens by itself up to an instant. -/
def advanceWith (fuel : Nat) (instant : Instant) (t : Timeline) : Timeline :=
  match fuel with
  | 0 => t.moveTo instant
  | fuel + 1 =>
      let (at', what) := t.nextOccurrence
      if at' ≤ instant then advanceWith fuel instant ((t.moveTo at').occur what)
      else t.moveTo instant

/-- Lets the clock run up to an instant.  Ticks are more than a millisecond apart, a deadline that
has come arms no other and sends off one text at most, and every landing has a text of its own. -/
def advance (instant : Instant) (t : Timeline) : Timeline :=
  t.advanceWith ((instant - t.nextTick).toNat + t.loop.flights.length + 4) instant

/-! ## What comes from outside -/

def arrive (arrival : Arrival) (t : Timeline) : Timeline :=
  match arrival with
  | .key press => t.feed (.key press)
  | .settings settings =>
      if t.settingsOpen then
        let t' := t.feed (.settings settings)
        if t'.loop.controller.interval = t.loop.controller.interval then t'
        else { t' with nextTick := t'.now }
      else t
  | .settingsClosed => { t with settingsOpen := false }
  | .clipboardFails fails => { t with clipboardFails := fails }
  | .look => t.see (.panel t.loop.host)
  | .edit edit =>
      { t with loop := t.loop.mapController (·.mapHost fun h => (h.perform edit).2) }

/-- Waits for the texts that are on their way. -/
def finishWith (fuel : Nat) (t : Timeline) : Timeline :=
  match fuel, t.loop.flights with
  | fuel + 1, flight :: _ => finishWith fuel ((t.moveTo (t.landsAt flight)).land)
  | _, _ => t

/-- Each landing answers a text, so that the fuel suffices. -/
def finish (t : Timeline) : Timeline := t.finishWith t.loop.flights.length

/-- A session with everything that arrives, in order, up to the instant at which the keys end. -/
def run (arrivals : List (Instant × Arrival)) (stop : Instant) (t : Timeline) : Timeline :=
  let t := arrivals.foldl (fun t (instant, arrival) => (t.advance instant).arrive arrival) t
  (t.advance stop).finish

end Timeline

end PanelKeys
