import Mathlib.Tactic.Common
import PanelKeys.Typing.Interpreter

/-!
# What a key can come to

The grammar has many branches, but they leave the interpreter in one of two states: at rest, with
nothing typed and no deadline, or waiting in some mode for a key that must come within the timeout.
This file says once which turns there are, so that a statement about all keys is a statement about
these turns and not about the branches.

* `Mode.Resolves`, `Mode.Rejects` — the commands and the complaints that a sequence may end with;
* `atRest`, `waiting` — the two states;
* `Fresh` — **the turns of a key that begins afresh**: it is left to the application, begins a
  sequence, or is a binding;
* `Answered` — **the turns of a key while a sequence waits**: the sequence goes on, it ends with the
  key, or it ends before the key and the key begins afresh;
* `handleKey_fresh`, `handleKey_answered` — every key has one of these turns, also one that comes
  after the deadline, which only makes it a key before which the sequence has ended.
-/

namespace PanelKeys

open PanelKeys.Number
open PanelKeys.Panel

/-- The digits of a count are there, and they are digits. -/
def Mode.HasDigits : Mode → Prop
  | .counting digits | .countingAxis digits _ => digits ≠ [] ∧ ∀ c ∈ digits, c.isDigit = true
  | _ => True

/-- The commands that a sequence may end with. -/
inductive Mode.Resolves (menu : ViewMenu) : Mode → Command → Prop where
  | view (digits : List Char) :
      Resolves menu (.counting digits) (.setCameraView (countOfDigits digits))
  | visibility (digits : List Char) :
      Resolves menu (.counting digits) (.toggleNodeOrAll (countOfDigits digits))
  | component (digits : List Char) (axis : Axis) :
      Resolves menu (.countingAxis digits axis) (.yankRowAxis (countOfDigits digits) axis)
  | row (digits : List Char) :
      Resolves menu (.countingAxis digits .y) (.yankRowOrTable (countOfDigits digits))
  | primary : Resolves menu .yanking .yankPrimary
  | entry {key : Char} {entry : Labelled} (found : menu.get? key = some entry) :
      Resolves menu .choosingView entry.command

/-- The complaints that a sequence may end with. -/
inductive Mode.Rejects (menu : ViewMenu) : Mode → Rejection → Prop where
  | axis (digits : List Char) {axis : Axis} (notY : axis ≠ .y) :
      Rejects menu (.countingAxis digits axis) (.invalidSequence digits axis)
  | unknownKey {chord : Chord} (unknown : chord.shift = false → menu.get? chord.key = none) :
      Rejects menu .choosingView (.unknownMenuKey chord)
  | noKey : Rejects menu .choosingView .missingMenuKey

/-- What a sequence says when its time is over: `y` after a count is a row or the table, and an open
view menu has missed its key. -/
def Mode.timeoutWord : Mode → List Signal
  | .countingAxis digits .y => [.resolved (.yankRowOrTable (countOfDigits digits))]
  | .choosingView => [.rejected .missingMenuKey]
  | _ => []

namespace Interpreter

/-! ## The two states -/

/-- Nothing typed, and no deadline. -/
def atRest (m : Interpreter) : Interpreter :=
  { m with mode := .idle, deadline := m.deadline.cancel }

/-- In a mode, with a deadline for the next key. -/
def waiting (mode : Mode) (now : Instant) (m : Interpreter) : Interpreter :=
  { m with mode, deadline := m.deadline.arm (now + m.timeout) }

lemma atRest_eq_self {m : Interpreter} (hmode : m.mode = .idle)
    (hdeadline : m.deadline.armed = none) :
    m.atRest = m := by
  obtain ⟨mode, ⟨generation, armed⟩, _, _, _, _⟩ := m
  subst hmode hdeadline
  rfl

/-- What ends a sequence leaves the interpreter at rest, with or without a last word. -/
lemma clear_eq {m : Interpreter} (h : m.mode ≠ .idle) :
    m.clear = ⟨m.atRest, [.hidePrompt], false⟩ := by
  simp [clear, atRest, Mode.isIdle, h]

lemma resolve_eq {m : Interpreter} (command : Command) (h : m.mode ≠ .idle) :
    m.resolve command = ⟨m.atRest, [.hidePrompt, .resolved command], false⟩ := by
  simp [resolve, clear_eq h, Turn.emit]

lemma reject_eq {m : Interpreter} (why : Rejection) (h : m.mode ≠ .idle) :
    m.reject why = ⟨m.atRest, [.hidePrompt, .rejected why], false⟩ := by
  simp [reject, clear_eq h, Turn.emit]

/-! ## The turns -/

/-- What a sequence says when it ends: nothing, a command of its own, or a complaint of its own. -/
inductive LastWord (m : Interpreter) : List Signal → Prop where
  | silent : LastWord m []
  | command {command : Command} (own : m.mode.Resolves m.menu command) :
      LastWord m [.resolved command]
  | complaint {why : Rejection} (own : m.mode.Rejects m.menu why) : LastWord m [.rejected why]

lemma lastWord_timeoutWord (m : Interpreter) : LastWord m m.mode.timeoutWord := by
  cases hmode : m.mode with
  | countingAxis digits axis =>
      cases axis
      case y => exact .command (by rw [hmode]; exact .row digits)
      case x | z => exact .silent
  | choosingView => exact .complaint (by rw [hmode]; exact .noKey)
  | idle | counting digits | yanking => exact .silent

/-- The turns of a key with nothing typed before it. -/
inductive Fresh (m : Interpreter) (pressed : Option Chord) (now : Instant) : Turn → Prop where
  /-- the key means nothing here -/
  | passed : Fresh m pressed now ⟨m.atRest, [], false⟩
  | bound {chord : Chord} {entry : Labelled} (key : pressed = some chord)
      (found : m.bindings.get? chord = some entry) :
      Fresh m pressed now ⟨m.atRest, [.resolved entry.command], true⟩
  | begun (mode : Mode) (notIdle : mode ≠ .idle) (digits : mode.HasDigits) :
      Fresh m pressed now ⟨m.waiting mode now, [.showPrompt (m.waiting mode now).prompt], true⟩

/-- The turns of a key with a sequence typed before it. -/
inductive Answered (m : Interpreter) (pressed : Option Chord) (now : Instant) : Turn → Prop where
  | continued (mode : Mode) (notIdle : mode ≠ .idle) (digits : mode.HasDigits) :
      Answered m pressed now ⟨m.waiting mode now, [.showPrompt (m.waiting mode now).prompt], true⟩
  | ended {word : List Signal} (consumed : Bool) (last : LastWord m word) :
      Answered m pressed now ⟨m.atRest, .hidePrompt :: word, consumed⟩
  /-- the sequence ends before the key -/
  | resumed {word : List Signal} {t : Turn} (last : LastWord m word)
      (fresh : Fresh m pressed now t) :
      Answered m pressed now ⟨t.interpreter, .hidePrompt :: word ++ t.signals, t.consumed⟩

/-- How a turn leaves the interpreter. -/
def RestsOrWaits (m : Interpreter) (now : Instant) (m' : Interpreter) : Prop :=
  m' = m.atRest ∨ ∃ mode : Mode, mode ≠ .idle ∧ mode.HasDigits ∧ m' = m.waiting mode now

lemma Fresh.restsOrWaits {m : Interpreter} {pressed : Option Chord} {now : Instant} {t : Turn}
    (h : Fresh m pressed now t) : RestsOrWaits m now t.interpreter := by
  cases h with
  | passed => exact Or.inl rfl
  | bound key found => exact Or.inl rfl
  | begun mode notIdle digits => exact Or.inr ⟨mode, notIdle, digits, rfl⟩

lemma Answered.restsOrWaits {m : Interpreter} {pressed : Option Chord} {now : Instant} {t : Turn}
    (h : Answered m pressed now t) : RestsOrWaits m now t.interpreter := by
  cases h with
  | continued mode notIdle digits => exact Or.inr ⟨mode, notIdle, digits, rfl⟩
  | ended consumed last => exact Or.inl rfl
  | resumed last fresh => exact fresh.restsOrWaits

/-! ## The grammar -/

lemma startChord_fresh (chord : Chord) (now : Instant) (m : Interpreter) :
    Fresh m (some chord) now (m.atRest.startChord chord now) := by
  simp only [startChord]
  by_cases hdigit : chord.isDigit = true
  · rw [if_pos hdigit]
    refine Fresh.begun (.counting [chord.key]) (by simp) ⟨by simp, ?_⟩
    intro c hc
    rw [List.mem_singleton.1 hc]
    exact (Bool.and_eq_true_iff.1 hdigit).2
  · rw [if_neg hdigit]
    by_cases hy : chord.isPlain 'y' = true
    · rw [if_pos hy]
      exact Fresh.begun .yanking (by simp) trivial
    · rw [if_neg hy]
      by_cases hv : chord.isPlain 'v' = true
      · rw [if_pos hv]
        exact Fresh.begun .choosingView (by simp) trivial
      · rw [if_neg hv]
        cases hentry : m.atRest.bindings.get? chord with
        | none => exact Fresh.passed
        | some entry => exact Fresh.bound rfl hentry

/-- A sequence that has ended with a last word is followed by a fresh key. -/
lemma resumed_startChord {m : Interpreter} {word : List Signal} (last : LastWord m word)
    (chord : Chord) (now : Instant) (consumed : Bool) :
    Answered m (some chord) now
      ((⟨m.atRest, .hidePrompt :: word, consumed⟩ : Turn).andThen (startChord chord now)) :=
  Answered.resumed last (startChord_fresh chord now m)

/-- A count with an axis ends at rest, whatever ends it. -/
lemma settleAxis_eq {m : Interpreter} {digits : List Char} {axis : Axis} (i : Interrupt)
    (h : m.mode = .countingAxis digits axis) :
    ∃ word, LastWord m word
      ∧ m.settleAxis digits axis i = ⟨m.atRest, .hidePrompt :: word, false⟩ := by
  have hne : m.mode ≠ .idle := by simp [h]
  cases axis <;> cases i
  case y.key | y.timeout => exact ⟨_, .command (by rw [h]; exact .row digits), resolve_eq _ hne⟩
  case x.key | z.key =>
      exact ⟨_, .complaint (by rw [h]; exact .axis digits (by simp)), reject_eq _ hne⟩
  case x.timeout | z.timeout => exact ⟨_, .silent, clear_eq hne⟩

lemma continueCount_answered {m : Interpreter} {digits : List Char} (chord : Chord) (now : Instant)
    (h : m.mode = .counting digits) (hd : m.mode.HasDigits) :
    Answered m (some chord) now (m.continueCount digits chord now) := by
  have hne : m.mode ≠ .idle := by simp [h]
  rw [h] at hd
  simp only [continueCount]
  by_cases hdigit : chord.isDigit = true
  · rw [if_pos hdigit]
    refine Answered.continued (.counting (digits ++ [chord.key])) (by simp) ⟨by simp, ?_⟩
    intro c hc
    rcases List.mem_append.1 hc with hc | hc
    · exact hd.2 c hc
    · rw [List.mem_singleton.1 hc]
      exact (Bool.and_eq_true_iff.1 hdigit).2
  · rw [if_neg hdigit]
    cases axisOf? chord with
    | some axis => exact Answered.continued (.countingAxis digits axis) (by simp) hd
    | none =>
        simp only [resolve_eq _ hne, clear_eq hne]
        by_cases hv : chord.isPlain 'v' = true
        · rw [if_pos hv]
          exact Answered.ended true (.command (by rw [h]; exact .view digits))
        · rw [if_neg hv]
          by_cases hh : chord.isPlain 'h' = true
          · rw [if_pos hh]
            exact Answered.ended true (.command (by rw [h]; exact .visibility digits))
          · rw [if_neg hh]
            exact resumed_startChord .silent chord now false

lemma continueAxis_answered {m : Interpreter} {digits : List Char} {axis : Axis} (chord : Chord)
    (now : Instant) (h : m.mode = .countingAxis digits axis) :
    Answered m (some chord) now (m.continueAxis digits axis chord now) := by
  have hne : m.mode ≠ .idle := by simp [h]
  simp only [continueAxis]
  by_cases hy : chord.isPlain 'y' = true
  · rw [if_pos hy, resolve_eq _ hne]
    exact Answered.ended true (.command (by rw [h]; exact .component digits axis))
  · obtain ⟨word, last, hsettle⟩ := settleAxis_eq .key h
    rw [if_neg hy, hsettle]
    exact resumed_startChord last chord now false

lemma continueYank_answered {m : Interpreter} (chord : Chord) (now : Instant)
    (h : m.mode = .yanking) : Answered m (some chord) now (m.continueYank chord now) := by
  have hne : m.mode ≠ .idle := by simp [h]
  simp only [continueYank]
  by_cases hy : chord.isPlain 'y' = true
  · rw [if_pos hy, resolve_eq _ hne]
    exact Answered.ended true (.command (by rw [h]; exact .primary))
  · rw [if_neg hy, clear_eq hne]
    exact resumed_startChord .silent chord now false

lemma chooseView_answered {m : Interpreter} (chord : Chord) (now : Instant)
    (h : m.mode = .choosingView) : Answered m (some chord) now (m.chooseView chord) := by
  have hne : m.mode ≠ .idle := by simp [h]
  simp only [chooseView, resolve_eq _ hne, reject_eq _ hne]
  cases hentry : (if chord.shift then none else m.menu.get? chord.key : Option Labelled) with
  | some entry =>
      have hfound : m.menu.get? chord.key = some entry := by
        split at hentry
        · simp at hentry
        · exact hentry
      exact Answered.ended true (.command (by rw [h]; exact .entry hfound))
  | none =>
      have hunknown : chord.shift = false → m.menu.get? chord.key = none := by
        intro hshift
        rwa [hshift, if_neg (by simp)] at hentry
      exact Answered.ended true (.complaint (by rw [h]; exact .unknownKey hunknown))

/-! ## Keys -/

lemma passThrough_answered {m : Interpreter} (now : Instant) (h : m.mode ≠ .idle) :
    Answered m none now m.passThrough := by
  simp only [passThrough]
  split
  · next hidle => exact absurd hidle h
  · next digits axis hmode =>
      obtain ⟨word, last, hsettle⟩ := settleAxis_eq .key hmode
      rw [hsettle]
      exact Answered.ended false last
  · rw [clear_eq h]
    exact Answered.ended false .silent

lemma process_fresh (press : KeyPress) (now : Instant) (m : Interpreter) :
    Fresh m press.chord? now (process press now m.atRest) := by
  simp only [process]
  by_cases hescape : press.isEscape = true
  · rw [if_pos hescape]
    exact Fresh.passed
  · rw [if_neg hescape]
    cases press.chord? with
    | none => exact Fresh.passed
    | some chord => exact startChord_fresh chord now m

lemma process_answered {m : Interpreter} (press : KeyPress) (now : Instant) (h : m.mode ≠ .idle)
    (hd : m.mode.HasDigits) : Answered m press.chord? now (process press now m) := by
  simp only [process]
  by_cases hescape : press.isEscape = true
  · rw [if_pos hescape, clear_eq h]
    exact Answered.ended _ .silent
  · rw [if_neg hescape]
    cases press.chord? with
    | none => exact passThrough_answered now h
    | some chord =>
        simp only [processChord]
        cases hmode : m.mode with
        | idle => exact absurd hmode h
        | counting digits => exact continueCount_answered chord now hmode hd
        | countingAxis digits axis => exact continueAxis_answered chord now hmode
        | yanking => exact continueYank_answered chord now hmode
        | choosingView => exact chooseView_answered chord now hmode

/-! ## The deadline

A sequence that has run out of time ends as one that is ended by a key, only with another last word.
So a key after the deadline is a key before which the sequence has ended.
-/

lemma expire_eq {m : Interpreter} (h : m.mode ≠ .idle) :
    m.expire = ⟨m.atRest, .hidePrompt :: m.mode.timeoutWord, false⟩ := by
  simp only [expire]
  split
  · next hidle => exact absurd hidle h
  · next digits axis hmode =>
      rw [hmode]
      cases axis
      case y => exact resolve_eq _ h
      case x | z => exact clear_eq h
  · next hmode => rw [hmode]; exact reject_eq _ h
  · next hmode => rw [hmode]; exact clear_eq h
  · next hmode => rw [hmode]; exact clear_eq h

lemma expireIfDue_of_not_due {m : Interpreter} {now : Instant} (h : m.deadline.isDue now = false) :
    m.expireIfDue now = ⟨m, [], false⟩ := by
  simp [expireIfDue, h]

lemma expireIfDue_of_due {m : Interpreter} {now : Instant} (hmode : m.mode ≠ .idle)
    (h : m.deadline.isDue now = true) :
    m.expireIfDue now = ⟨m.atRest, .hidePrompt :: m.mode.timeoutWord, false⟩ := by
  rw [expireIfDue, if_pos h]
  exact expire_eq (m := { m with deadline := m.deadline.cancel }) hmode

/-- The interpreter once it has heard of a key. -/
def keyedAt (now : Instant) (m : Interpreter) : Interpreter := { m with lastEvent := some now }

lemma handleKey_of_not_due {m : Interpreter} (press : KeyPress) {now : Instant}
    (h : m.deadline.isDue now = false) :
    m.handleKey press now = process press now (m.keyedAt now) := by
  rw [handleKey, expireIfDue_of_not_due h]
  rfl

lemma handleKey_of_due {m : Interpreter} (press : KeyPress) {now : Instant} (hmode : m.mode ≠ .idle)
    (h : m.deadline.isDue now = true) :
    m.handleKey press now
      = (⟨m.atRest, .hidePrompt :: m.mode.timeoutWord, false⟩ : Turn).andThen
          fun m => process press now (m.keyedAt now) := by
  rw [handleKey, expireIfDue_of_due hmode h]
  rfl

/-! ## Keys in time -/

/-- An instant before the deadline, if there is one. -/
def InTime (m : Interpreter) (now : Instant) : Prop :=
  ∀ token, m.pending = some token → now < token.due

instance (m : Interpreter) (now : Instant) : Decidable (m.InTime now) :=
  decidable_of_iff (∀ token ∈ m.pending, now < token.due) Iff.rfl

lemma exists_inTime (m : Interpreter) : ∃ now, m.InTime now := by
  cases hpending : m.pending with
  | none => exact ⟨0, by simp [InTime, hpending]⟩
  | some token =>
      refine ⟨token.due - 1, fun armed harmed => ?_⟩
      obtain rfl : token = armed := Option.some.inj (hpending.symm.trans harmed)
      exact Int.sub_lt_self token.due (by decide)

lemma isDue_of_inTime {m : Interpreter} {now : Instant} (h : m.InTime now) :
    m.deadline.isDue now = false := by
  simp only [Deadline.isDue]
  split
  · next token harmed =>
      have hlt : now < token.due := h token harmed
      exact decide_eq_false (Int.not_le.2 hlt)
  · rfl

/-- A chord that comes in time is a matter of the grammar alone. -/
lemma handleKey_of_chord {m : Interpreter} {press : KeyPress} {chord : Chord} {now : Instant}
    (hin : m.InTime now) (hchord : press.chord? = some chord) :
    m.handleKey press now = (m.keyedAt now).processChord chord now := by
  have hescape : press.isEscape = false := by
    cases hkey : press.key with
    | escape => simp [KeyPress.chord?, hkey] at hchord
    | char c | named name => simp [KeyPress.isEscape, hkey]
  rw [handleKey_of_not_due press (isDue_of_inTime hin)]
  simp [process, hescape, hchord]

/-! ## All keys -/

/-- **With nothing typed, every key is fresh.** -/
theorem handleKey_fresh {m : Interpreter} (press : KeyPress) (now : Instant)
    (hmode : m.mode = .idle) (hdeadline : m.deadline.armed = none) :
    Fresh (m.keyedAt now) press.chord? now (m.handleKey press now) := by
  have hdue : m.deadline.isDue now = false := by simp [Deadline.isDue, hdeadline]
  rw [handleKey_of_not_due press hdue]
  have hrest : (m.keyedAt now).atRest = m.keyedAt now := atRest_eq_self hmode hdeadline
  have hfresh := process_fresh press now (m.keyedAt now)
  rwa [hrest] at hfresh

/-- **While a sequence waits, every key answers it**, be it in time or late. -/
theorem handleKey_answered {m : Interpreter} (press : KeyPress) (now : Instant)
    (hmode : m.mode ≠ .idle) (hd : m.mode.HasDigits) :
    Answered (m.keyedAt now) press.chord? now (m.handleKey press now) := by
  cases hdue : m.deadline.isDue now with
  | false =>
      rw [handleKey_of_not_due press hdue]
      exact process_answered press now hmode hd
  | true =>
      rw [handleKey_of_due press hmode hdue]
      exact Answered.resumed (lastWord_timeoutWord (m.keyedAt now))
        (process_fresh press now (m.keyedAt now))

end Interpreter

end PanelKeys
