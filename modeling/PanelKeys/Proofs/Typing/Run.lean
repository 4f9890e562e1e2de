import Mathlib.Data.List.Induction
import PanelKeys.Proofs.Typing.Answer

/-!
# Runs of the interpreter

Four things reach an interpreter: a key, a timer that brings back some token, a reset, and other
tables.  They come in any order, and the instants they bring need not grow.

* `Input`, `step`, `run` — one of the four, its turn, and the turns of several;
* `Reachable` — every state that a new interpreter can get into;
* `Coherent` — **the invariant**: a sequence and a deadline are there together or not at all, the
  deadline is one timeout after the last key, its token is the latest, and a count has digits;
* `Stepped` — the turns that an input can have, and `Coherent.stepped`, that every step is one of
  them.

`Coherent` is kept because of `RestsOrWaits`: a turn either takes the sequence and the deadline away
together, or sets both from the same key.
-/

namespace PanelKeys

/-- What can reach an interpreter. -/
inductive Interpreter.Input where
  | key (press : KeyPress) (now : Instant)
  | timer (token : DeadlineToken) (now : Instant)
  | reset
  | reconfigure (bindings : BindingTable) (menu : ViewMenu) (timeout : Nat)

namespace Interpreter

/-- The turn of one input. -/
def step (m : Interpreter) : Input → Turn
  | .key press now => m.handleKey press now
  | .timer token now => m.handleDeadline token now
  | .reset => m.reset
  | .reconfigure bindings menu timeout => m.reconfigure bindings menu timeout

/-- An interpreter with nothing typed. -/
def new (bindings : BindingTable) (menu : ViewMenu) (timeout : Nat) : Interpreter :=
  { timeout, bindings, menu }

/-- The turns of several inputs, one after the other, as one. -/
def run (inputs : List Input) (m : Interpreter) : Turn :=
  inputs.foldl (fun t input => t.andThen fun m => m.step input) { interpreter := m }

@[simp] lemma run_nil (m : Interpreter) : m.run [] = { interpreter := m } := rfl

lemma run_concat (inputs : List Input) (input : Input) (m : Interpreter) :
    m.run (inputs ++ [input]) = (m.run inputs).andThen fun m => m.step input := by
  simp [run, List.foldl_append]

/-- The states that a new interpreter can get into. -/
inductive Reachable : Interpreter → Prop where
  | new (bindings : BindingTable) (menu : ViewMenu) (timeout : Nat) :
      Reachable (new bindings menu timeout)
  | step {m : Interpreter} (input : Input) (h : Reachable m) : Reachable (m.step input).interpreter

/-- A sequence and a deadline are there together, and fit together. -/
structure Coherent (m : Interpreter) : Prop where
  idle_iff : m.mode = .idle ↔ m.deadline.armed = none
  due_eq : ∀ token, m.deadline.armed = some token →
    ∃ last, m.lastEvent = some last ∧ token.due = last + m.timeout
  generation_eq : ∀ token, m.deadline.armed = some token → token.generation = m.deadline.generation
  digits : m.mode.HasDigits

lemma coherent_of_idle {m : Interpreter} (hmode : m.mode = .idle)
    (hdeadline : m.deadline.armed = none) :
    m.Coherent where
  idle_iff := by simp [hmode, hdeadline]
  due_eq := by simp [hdeadline]
  generation_eq := by simp [hdeadline]
  digits := by rw [hmode]; trivial

lemma coherent_atRest (m : Interpreter) : m.atRest.Coherent := coherent_of_idle rfl rfl

lemma coherent_waiting {mode : Mode} {now : Instant} {m : Interpreter} (hmode : mode ≠ .idle)
    (hd : mode.HasDigits) (hlast : m.lastEvent = some now) : (m.waiting mode now).Coherent where
  idle_iff := by simp [waiting, Deadline.arm, hmode]
  due_eq := by
    intro token htoken
    simp only [waiting, Deadline.arm, Option.some.injEq] at htoken
    exact ⟨now, hlast, by rw [← htoken]; rfl⟩
  generation_eq := by
    intro token htoken
    simp only [waiting, Deadline.arm, Option.some.injEq] at htoken
    rw [← htoken]
    rfl
  digits := hd

/-! ## One step -/

/-- The armed token, brought back when its instant has come, takes effect. -/
lemma fires_of_armed {m : Interpreter} {token : DeadlineToken} {now : Instant}
    (harmed : m.deadline.armed = some token) (hdue : token.due ≤ now) :
    m.deadline.fires token now = true := by
  simp [Deadline.fires, Deadline.isCurrent, harmed, hdue]

/-- A token takes effect only while a sequence waits. -/
lemma Coherent.not_idle_of_fires {m : Interpreter} (h : m.Coherent) {token : DeadlineToken}
    {now : Instant} (hfires : m.deadline.fires token now = true) : m.mode ≠ .idle := by
  intro hidle
  have harmed : m.deadline.armed = none := h.idle_iff.1 hidle
  simp [Deadline.fires, Deadline.isCurrent, harmed] at hfires

/-- The armed token, brought back in time, ends the sequence. -/
lemma Coherent.handleDeadline_of_fires {m : Interpreter} (h : m.Coherent) {token : DeadlineToken}
    {now : Instant} (hfires : m.deadline.fires token now = true) :
    m.handleDeadline token now = ⟨m.atRest, .hidePrompt :: m.mode.timeoutWord, false⟩ := by
  have hmode : m.mode ≠ .idle := h.not_idle_of_fires hfires
  rw [Interpreter.handleDeadline, Deadline.fire, if_pos hfires]
  exact expire_eq (m := { m with deadline := m.deadline.cancel }) hmode

/-- Any other token is as good as none. -/
lemma handleDeadline_of_not_fires {m : Interpreter} {token : DeadlineToken} {now : Instant}
    (hfires : m.deadline.fires token now = false) :
    m.handleDeadline token now = ⟨m, [], false⟩ := by
  simp [Interpreter.handleDeadline, Deadline.fire, hfires]

/-- The turns of an input.  A key is fresh or answers the sequence, a timer ends the sequence or is
not heeded, and the others drop what has been typed. -/
inductive Stepped (m : Interpreter) : Input → Turn → Prop where
  | fresh {press : KeyPress} {now : Instant} {t : Turn} (idle : m.mode = .idle)
      (turn : Fresh (m.keyedAt now) press.chord? now t) : Stepped m (.key press now) t
  | answered {press : KeyPress} {now : Instant} {t : Turn} (typing : m.mode ≠ .idle)
      (turn : Answered (m.keyedAt now) press.chord? now t) : Stepped m (.key press now) t
  | expired {token : DeadlineToken} {now : Instant} (typing : m.mode ≠ .idle) :
      Stepped m (.timer token now) ⟨m.atRest, .hidePrompt :: m.mode.timeoutWord, false⟩
  | ignored {token : DeadlineToken} {now : Instant} : Stepped m (.timer token now) ⟨m, [], false⟩
  | reset : Stepped m .reset m.clear
  | reconfigured (bindings : BindingTable) (menu : ViewMenu) (timeout : Nat) :
      Stepped m (.reconfigure bindings menu timeout) (m.reconfigure bindings menu timeout)

/-- **Every input has one of these turns.** -/
theorem Coherent.stepped {m : Interpreter} (h : m.Coherent) (input : Input) :
    Stepped m input (m.step input) := by
  cases input with
  | key press now =>
      by_cases hmode : m.mode = .idle
      · exact .fresh hmode (handleKey_fresh press now hmode (h.idle_iff.1 hmode))
      · exact .answered hmode (handleKey_answered press now hmode h.digits)
  | timer token now =>
      show Stepped m (.timer token now) (m.handleDeadline token now)
      cases hfires : m.deadline.fires token now with
      | true =>
          rw [h.handleDeadline_of_fires hfires]
          exact .expired (h.not_idle_of_fires hfires)
      | false =>
          rw [handleDeadline_of_not_fires hfires]
          exact .ignored
  | reset => exact .reset
  | reconfigure bindings menu timeout => exact .reconfigured bindings menu timeout

lemma RestsOrWaits.coherent {m m' : Interpreter} {now : Instant}
    (h : RestsOrWaits (m.keyedAt now) now m') : m'.Coherent := by
  rcases h with hrest | ⟨mode, hmode, hd, hwait⟩
  · rw [hrest]
    exact coherent_atRest _
  · rw [hwait]
    exact coherent_waiting hmode hd rfl

/-- A key leaves the interpreter at rest, or waiting since it came. -/
lemma Coherent.handleKey_restsOrWaits {m : Interpreter} (h : m.Coherent) (press : KeyPress)
    (now : Instant) :
    RestsOrWaits (m.keyedAt now) now (m.handleKey press now).interpreter := by
  cases h.stepped (.key press now) with
  | fresh idle turn => exact turn.restsOrWaits
  | answered typing turn => exact turn.restsOrWaits

lemma Stepped.coherent {m : Interpreter} {input : Input} {t : Turn} (hstep : Stepped m input t)
    (h : m.Coherent) : t.interpreter.Coherent := by
  cases hstep with
  | fresh idle turn => exact turn.restsOrWaits.coherent
  | answered typing turn => exact turn.restsOrWaits.coherent
  | expired typing => exact coherent_atRest m
  | ignored => exact h
  | reset => exact coherent_atRest m
  | reconfigured bindings menu timeout => exact coherent_of_idle rfl rfl

/-- **One step keeps the invariant**, whatever comes and whatever the clock reads. -/
theorem Coherent.step {m : Interpreter} (h : m.Coherent) (input : Input) :
    (m.step input).interpreter.Coherent :=
  (h.stepped input).coherent h

theorem Reachable.coherent {m : Interpreter} (h : m.Reachable) : m.Coherent := by
  induction h with
  | new bindings menu timeout => exact coherent_of_idle rfl rfl
  | step input _ ih => exact ih.step input

theorem Coherent.run {m : Interpreter} (h : m.Coherent) (inputs : List Input) :
    (m.run inputs).interpreter.Coherent := by
  induction inputs using List.reverseRecOn with
  | nil => exact h
  | append_singleton inputs input ih =>
      rw [run_concat]
      exact ih.step input

/-! ## What holds in every state -/

/-- **Nothing typed means no deadline**, and the other way round; a deadline is one timeout after
the last key; and a count, with or without an axis, is a number of digits and not empty. -/
theorem mode_and_deadline_agree {m : Interpreter} (h : m.Reachable) :
    (m.mode = .idle ↔ m.pending = none)
      ∧ (∀ token, m.pending = some token →
          ∃ last, m.lastEvent = some last ∧ token.due = last + m.timeout)
      ∧ ∀ digits, (m.mode = .counting digits ∨ ∃ axis, m.mode = .countingAxis digits axis) →
          digits ≠ [] ∧ ∀ c ∈ digits, '0' ≤ c ∧ c ≤ '9' := by
  have hm := h.coherent
  refine ⟨hm.idle_iff, hm.due_eq, ?_⟩
  intro digits hmode
  have hd : digits ≠ [] ∧ ∀ c ∈ digits, c.isDigit = true := by
    have hd := hm.digits
    rcases hmode with hmode | ⟨axis, hmode⟩ <;>
      · rw [hmode] at hd
        exact hd
  refine ⟨hd.1, fun c hc => ?_⟩
  have hdigit := hd.2 c hc
  simp only [Char.isDigit, Bool.and_eq_true, decide_eq_true_eq] at hdigit
  exact hdigit

/-- `4z`, where the clock goes back by thirty between the two keys. -/
theorem mode_and_deadline_agree_when_clock_goes_back :
    let m := (((new .empty .empty 700).step (.key ⟨.char '4', {}⟩ 50)).interpreter.step
      (.key ⟨.char 'z', {}⟩ 20)).interpreter
    m.Reachable ∧ m.mode = .countingAxis ['4'] .z ∧ m.pending = some ⟨2, 720⟩
      ∧ (m.mode = .idle ↔ m.pending = none)
      ∧ (∃ last, m.lastEvent = some last ∧ (720 : Instant) = last + m.timeout)
      ∧ ['4'] ≠ [] ∧ ∀ c ∈ ['4'], '0' ≤ c ∧ c ≤ '9' := by
  intro m
  have hreach : m.Reachable := .step _ (.step _ (.new _ _ _))
  have hmode : m.mode = .countingAxis ['4'] .z := by decide
  have hpending : m.pending = some ⟨2, 720⟩ := by decide
  obtain ⟨hidle, hdue, hdigits⟩ := mode_and_deadline_agree hreach
  exact ⟨hreach, hmode, hpending, hidle, hdue _ hpending, hdigits _ (Or.inr ⟨_, hmode⟩)⟩

end Interpreter

end PanelKeys
