import PanelKeys.Proofs.Typing.Run

/-!
# The numbers of the tokens

Armings are numbered so that a timer is never taken for the timer of another arming.  To tell them
apart is all that the numbers are for: an interpreter that had begun to count somewhere else would
go the same way, with tokens that are numbered accordingly.

* `DeadlineToken.renumbered`, `Deadline.renumbered`, `Interpreter.renumbered` — the same tokens,
  deadline and interpreter with other numbers; the interpreter may have heard of its last key at
  another time, too;
* `Turn.map` — a turn that leads to another interpreter, with the same signals;
* `processChord_renumbered` — the grammar does not look at the numbers;
* **`handleKey_renumbered`, `handleDeadline_renumbered`, `reconfigure_renumbered`** — nor does
  anything else;
* `NumberedSince`, **`NumberedSince.unheeded`** — and they do tell armings apart: the timer of an
  arming that has gone is not heeded, unless so many came after it that the numbers begin again.
-/

namespace PanelKeys

open PanelKeys.Number
open PanelKeys.Panel

/-! ## Deadlines -/

/-- The token of an arming, if so many armings had gone before all of them. -/
def DeadlineToken.renumbered (g : UInt64) (t : DeadlineToken) : DeadlineToken :=
  ⟨g + t.generation, t.due⟩

lemma DeadlineToken.renumbered_inj {g : UInt64} {t u : DeadlineToken} :
    t.renumbered g = u.renumbered g ↔ t = u := by
  constructor
  · intro h
    cases t
    cases u
    simpa [renumbered] using h
  · rintro rfl
    rfl

namespace Deadline

def renumbered (g : UInt64) (d : Deadline) : Deadline :=
  ⟨g + d.generation, d.armed.map (·.renumbered g)⟩

variable (g : UInt64) (d : Deadline)

lemma arm_renumbered (due : Instant) : (d.renumbered g).arm due = (d.arm due).renumbered g := by
  simp [arm, renumbered, DeadlineToken.renumbered, UInt64.add_assoc]

lemma isDue_renumbered (now : Instant) : (d.renumbered g).isDue now = d.isDue now := by
  simp only [isDue, renumbered]
  cases d.armed <;> rfl

lemma fires_renumbered (token : DeadlineToken) (now : Instant) :
    (d.renumbered g).fires (token.renumbered g) now = d.fires token now := by
  have hcurrent : (d.renumbered g).isCurrent (token.renumbered g) = d.isCurrent token := by
    refine decide_eq_decide.2 ?_
    simp only [renumbered]
    cases d.armed with
    | none => simp
    | some armed => simp [DeadlineToken.renumbered_inj]
  rw [fires, hcurrent]
  rfl

lemma fire_renumbered (token : DeadlineToken) (now : Instant) :
    (d.renumbered g).fire (token.renumbered g) now
      = ((d.fire token now).1, (d.fire token now).2.renumbered g) := by
  simp only [fire, fires_renumbered]
  split <;> rfl

end Deadline

/-! ## Turns -/

namespace Turn

/-- The same answer from another interpreter. -/
def map (f : Interpreter → Interpreter) (t : Turn) : Turn :=
  { t with interpreter := f t.interpreter }

lemma andThen_map {f f' : Interpreter → Interpreter} {next : Interpreter → Turn}
    (h : ∀ m, next (f m) = (next m).map f') (t : Turn) :
    (t.map f).andThen next = (t.andThen next).map f' := by
  simp only [andThen, map, h]

end Turn

namespace Interpreter

/-- The same interpreter with other numbers, which has heard of its last key at another time. -/
def renumbered (g : UInt64) (last : Option Instant) (m : Interpreter) : Interpreter :=
  { m with deadline := m.deadline.renumbered g, lastEvent := last }

variable (g : UInt64) (last : Option Instant) (m : Interpreter)

/-! ## The grammar -/

lemma clear_renumbered : (m.renumbered g last).clear = m.clear.map (renumbered g last) := rfl

lemma resolve_renumbered (command : Command) :
    (m.renumbered g last).resolve command = (m.resolve command).map (renumbered g last) := rfl

lemma reject_renumbered (why : Rejection) :
    (m.renumbered g last).reject why = (m.reject why).map (renumbered g last) := rfl

lemma enter_renumbered (mode : Mode) (now : Instant) :
    (m.renumbered g last).enter mode now = (m.enter mode now).map (renumbered g last) := by
  simp only [enter, renumbered, Deadline.arm_renumbered]
  rfl

lemma settleAxis_renumbered (digits : List Char) (axis : Axis) (interrupt : Interrupt) :
    (m.renumbered g last).settleAxis digits axis interrupt
      = (m.settleAxis digits axis interrupt).map (renumbered g last) := by
  cases axis <;> cases interrupt <;> rfl

lemma startChord_renumbered (chord : Chord) (now : Instant) :
    (m.renumbered g last).startChord chord now
      = (m.startChord chord now).map (renumbered g last) := by
  have hbindings : (m.renumbered g last).bindings = m.bindings := rfl
  simp only [startChord, enter_renumbered, resolve_renumbered, hbindings]
  split
  · rfl
  · split
    · rfl
    · split
      · rfl
      · split <;> rfl

lemma continueCount_renumbered (digits : List Char) (chord : Chord) (now : Instant) :
    (m.renumbered g last).continueCount digits chord now
      = (m.continueCount digits chord now).map (renumbered g last) := by
  have hstart := Turn.andThen_map (fun m => startChord_renumbered g last m chord now) m.clear
  simp only [continueCount, enter_renumbered, resolve_renumbered, clear_renumbered, hstart]
  split
  · rfl
  · split
    · rfl
    · split
      · rfl
      · split <;> rfl

lemma continueAxis_renumbered (digits : List Char) (axis : Axis) (chord : Chord) (now : Instant) :
    (m.renumbered g last).continueAxis digits axis chord now
      = (m.continueAxis digits axis chord now).map (renumbered g last) := by
  have hstart := Turn.andThen_map (fun m => startChord_renumbered g last m chord now)
    (m.settleAxis digits axis .key)
  simp only [continueAxis, resolve_renumbered, settleAxis_renumbered, hstart]
  split <;> rfl

lemma continueYank_renumbered (chord : Chord) (now : Instant) :
    (m.renumbered g last).continueYank chord now
      = (m.continueYank chord now).map (renumbered g last) := by
  have hstart := Turn.andThen_map (fun m => startChord_renumbered g last m chord now) m.clear
  simp only [continueYank, resolve_renumbered, clear_renumbered, hstart]
  split <;> rfl

lemma chooseView_renumbered (chord : Chord) :
    (m.renumbered g last).chooseView chord = (m.chooseView chord).map (renumbered g last) := by
  have hmenu : (m.renumbered g last).menu = m.menu := rfl
  simp only [chooseView, resolve_renumbered, reject_renumbered, hmenu]
  split <;> rfl

/-- **The grammar does not look at the numbers.** -/
lemma processChord_renumbered (chord : Chord) (now : Instant) :
    (m.renumbered g last).processChord chord now
      = (m.processChord chord now).map (renumbered g last) := by
  have hmode : (m.renumbered g last).mode = m.mode := rfl
  simp only [processChord, hmode]
  cases m.mode with
  | idle => exact startChord_renumbered g last m chord now
  | counting digits => exact continueCount_renumbered g last m digits chord now
  | countingAxis digits axis => exact continueAxis_renumbered g last m digits axis chord now
  | yanking => exact continueYank_renumbered g last m chord now
  | choosingView => exact chooseView_renumbered g last m chord

lemma passThrough_renumbered :
    (m.renumbered g last).passThrough = m.passThrough.map (renumbered g last) := by
  have hmode : (m.renumbered g last).mode = m.mode := rfl
  simp only [passThrough, hmode]
  cases m.mode with
  | idle | counting _ | yanking | choosingView => rfl
  | countingAxis digits axis => exact settleAxis_renumbered g last m digits axis .key

lemma process_renumbered (press : KeyPress) (now : Instant) :
    (m.renumbered g last).process press now = (m.process press now).map (renumbered g last) := by
  simp only [process]
  split
  · rfl
  · split
    · exact passThrough_renumbered g last m
    · next chord _ => exact processChord_renumbered g last m chord now

lemma expire_renumbered : (m.renumbered g last).expire = m.expire.map (renumbered g last) := by
  have hmode : (m.renumbered g last).mode = m.mode := rfl
  simp only [expire, hmode]
  cases m.mode with
  | idle | counting _ | yanking | choosingView => rfl
  | countingAxis digits axis => exact settleAxis_renumbered g last m digits axis .timeout

lemma expireIfDue_renumbered (now : Instant) :
    (m.renumbered g last).expireIfDue now = (m.expireIfDue now).map (renumbered g last) := by
  have hdeadline : (m.renumbered g last).deadline = m.deadline.renumbered g := rfl
  simp only [expireIfDue, hdeadline, Deadline.isDue_renumbered]
  split
  · exact expire_renumbered g last { m with deadline := m.deadline.cancel }
  · rfl

/-! ## Inputs -/

/-- **A key is answered in the same way whatever the numbers are.** -/
theorem handleKey_renumbered (press : KeyPress) (now : Instant) :
    (m.renumbered g last).handleKey press now
      = (m.handleKey press now).map (renumbered g (some now)) := by
  rw [handleKey, expireIfDue_renumbered]
  exact Turn.andThen_map (fun m => process_renumbered g (some now) (m.keyedAt now) press now) _

/-- **A timer is heeded or not, whatever the numbers are**: the token of the same arming is. -/
theorem handleDeadline_renumbered (token : DeadlineToken) (now : Instant) :
    (m.renumbered g last).handleDeadline (token.renumbered g) now
      = (m.handleDeadline token now).map (renumbered g last) := by
  have hdeadline : (m.renumbered g last).deadline = m.deadline.renumbered g := rfl
  simp only [handleDeadline, hdeadline, Deadline.fire_renumbered]
  rcases m.deadline.fire token now with ⟨fired, deadline⟩
  cases fired with
  | false => rfl
  | true => exact expire_renumbered g last { m with deadline }

/-- **Other tables are taken in the same way whatever the numbers are.** -/
theorem reconfigure_renumbered (bindings : BindingTable) (menu : ViewMenu) (timeout : Nat) :
    (m.renumbered g last).reconfigure bindings menu timeout
      = (m.reconfigure bindings menu timeout).map (renumbered g last) := rfl

/-! ## Earlier tokens -/

/-- The last number was `g` when nothing was armed, and at most so many armings have been since. -/
def NumberedSince (g : UInt64) (inputs : Nat) (m : Interpreter) : Prop :=
  ∃ armings ≤ inputs, m.deadline.generation = g + UInt64.ofNat armings
    ∧ (m.deadline.armed ≠ none → armings ≠ 0)

variable {g : UInt64} {m : Interpreter}

lemma NumberedSince.mono {n n' : Nat} (h : m.NumberedSince g n) (hn : n ≤ n') :
    m.NumberedSince g n' := by
  obtain ⟨armings, hle, hrest⟩ := h
  exact ⟨armings, Nat.le_trans hle hn, hrest⟩

/-- Nothing is armed any more, and the last number is the same. -/
lemma NumberedSince.unarmed {n : Nat} {m' : Interpreter} (h : m.NumberedSince g n)
    (hgeneration : m'.deadline.generation = m.deadline.generation)
    (hunarmed : m'.deadline.armed = none) :
    m'.NumberedSince g n := by
  obtain ⟨armings, hle, hnumber, -⟩ := h
  exact ⟨armings, hle, hgeneration.trans hnumber, fun harmed => absurd hunarmed harmed⟩

/-- A key arms once at most. -/
lemma NumberedSince.restsOrWaits {n : Nat} {m' : Interpreter} {now : Instant}
    (h : m.NumberedSince g n)
    (hkey : RestsOrWaits (m.keyedAt now) now m') : m'.NumberedSince g (n + 1) := by
  rcases hkey with hrest | ⟨mode, -, -, hwait⟩
  · have hunarmed : (m.keyedAt now).atRest.NumberedSince g n := h.unarmed rfl rfl
    rw [hrest]
    exact hunarmed.mono (Nat.le_succ n)
  · obtain ⟨armings, hle, hnumber, -⟩ := h
    refine ⟨armings + 1, Nat.succ_le_succ hle, ?_, fun _ => Nat.succ_ne_zero armings⟩
    have hsucc : m'.deadline.generation = m.deadline.generation + 1 := by
      rw [hwait]
      rfl
    rw [hsucc, hnumber, UInt64.add_assoc, UInt64.ofNat_add]
    rfl

lemma NumberedSince.stepped {n : Nat} {input : Input} {t : Turn} (h : m.NumberedSince g n)
    (hstep : Stepped m input t) : t.interpreter.NumberedSince g (n + 1) := by
  have hsame := h.mono (Nat.le_succ n)
  cases hstep with
  | fresh idle turn => exact h.restsOrWaits turn.restsOrWaits
  | answered typing turn => exact h.restsOrWaits turn.restsOrWaits
  | expired typing => exact hsame.unarmed rfl rfl
  | ignored => exact hsame
  | reset => exact hsame.unarmed rfl rfl
  | reconfigured bindings menu timeout => exact hsame.unarmed rfl rfl

/-- **The timer of an arming that has gone is not heeded.** -/
theorem NumberedSince.unheeded {n : Nat} (h : m.NumberedSince g n) (hm : m.Coherent)
    (few : n < UInt64.size) {token : DeadlineToken} (hold : token.generation = g) (now : Instant) :
    m.handleDeadline token now = ⟨m, [], false⟩ := by
  refine handleDeadline_of_not_fires ?_
  cases harmed : m.deadline.armed with
  | none => simp [Deadline.fires, Deadline.isCurrent, harmed]
  | some armed =>
      obtain ⟨armings, hle, hnumber, hsome⟩ := h
      have hne : armed ≠ token := by
        rintro rfl
        have hsame : g + UInt64.ofNat armings = g + 0 := by
          rw [← hnumber, ← hm.generation_eq armed harmed, hold, UInt64.add_zero]
        have hzero : UInt64.ofNat armings = UInt64.ofNat 0 := (UInt64.add_right_inj g).1 hsame
        have hfew : armings < UInt64.size := Nat.lt_of_le_of_lt hle few
        have hmod := congrArg UInt64.toNat hzero
        rw [UInt64.toNat_ofNat_of_lt' hfew] at hmod
        exact hsome (by simp [harmed]) hmod
      simp [Deadline.fires, Deadline.isCurrent, harmed, hne]

end Interpreter

end PanelKeys
