import PanelKeys.Proofs.Typing.Run

/-!
# The timer and a late key

A timer goes off when its deadline comes, but it may be heard of only after a key that was pressed
later.  The interpreter must not care: the deadline has ended the sequence either way, and the key
is the first of another.

* `not_fires_of_restsOrWaits` — after a key, the token that was armed before it is worthless, even
  if the key has armed another for the same instant;
* `Coherent.handleKey_eq_andThen` — a key at the deadline or after it does what the timer does, and
  then what the key does;
* **`timer_and_late_key_commute`** — so the timer and such a key may change places.
-/

namespace PanelKeys.Interpreter

/-- A token has a generation of its own, so the next arming is never mistaken for it. -/
lemma not_fires_of_restsOrWaits {m m' : Interpreter} {now : Instant} {token : DeadlineToken}
    (h : RestsOrWaits m now m') (htoken : token.generation = m.deadline.generation)
    (later : Instant) :
    m'.deadline.fires token later = false := by
  rcases h with hrest | ⟨mode, _, _, hwait⟩
  · rw [hrest]
    rfl
  · rw [hwait]
    have hne : (m.waiting mode now).deadline.armed ≠ some token := by
      intro harmed
      simp only [waiting, Deadline.arm, Option.some.injEq] at harmed
      have hsucc : m.deadline.generation + 1 = m.deadline.generation := by
        rw [← harmed] at htoken
        exact htoken
      simp at hsucc
    simp [Deadline.fires, Deadline.isCurrent, hne]

/-- A key that comes when the deadline has come leaves nothing for the timer to do. -/
lemma Coherent.handleDeadline_handleKey {m : Interpreter} (h : m.Coherent) {token : DeadlineToken}
    (harmed : m.deadline.armed = some token) (press : KeyPress) (now later : Instant) :
    (m.handleKey press now).interpreter.handleDeadline token later
      = ⟨(m.handleKey press now).interpreter, [], false⟩ := by
  have hkey := h.handleKey_restsOrWaits press now
  exact handleDeadline_of_not_fires
    (not_fires_of_restsOrWaits hkey (h.generation_eq token harmed) later)

/-- **A late key does what the timer does, and then what the key does.** -/
theorem Coherent.handleKey_eq_andThen {m : Interpreter} (h : m.Coherent) {token : DeadlineToken}
    (harmed : m.deadline.armed = some token) (press : KeyPress) {now : Instant}
    (hdue : token.due ≤ now) :
    m.handleKey press now
      = (m.handleDeadline token now).andThen (Interpreter.handleKey press now) := by
  have hmode : m.mode ≠ .idle := by
    intro hidle
    rw [h.idle_iff.1 hidle] at harmed
    simp at harmed
  have hisDue : m.deadline.isDue now = true := by simp [Deadline.isDue, harmed, hdue]
  -- the timer has left no deadline, so the key is not late a second time
  have hrest : m.atRest.handleKey press now = process press now (m.atRest.keyedAt now) :=
    handleKey_of_not_due press rfl
  rw [handleKey_of_due press hmode hisDue, h.handleDeadline_of_fires (fires_of_armed harmed hdue)]
  simp only [Turn.andThen, hrest]

/-- **The timer and a late key commute.**  Heard before the key or after it, the timer ends the
sequence once: the signals in their order, the answer to the key and the state are the same, and the
other time the token does nothing. -/
theorem timer_and_late_key_commute {m : Interpreter} (h : m.Reachable) {token : DeadlineToken}
    (harmed : m.pending = some token) (press : KeyPress) {now : Instant} (hdue : token.due ≤ now)
    (later : Instant) :
    let timer := m.handleDeadline token now
    let keyAfter := timer.interpreter.handleKey press now
    let key := m.handleKey press now
    let timerAfter := key.interpreter.handleDeadline token later
    timer.signals ++ keyAfter.signals = key.signals ++ timerAfter.signals
      ∧ keyAfter.consumed = key.consumed
      ∧ keyAfter.interpreter = timerAfter.interpreter
      ∧ timer.signals = .hidePrompt :: m.mode.timeoutWord
      ∧ timer.interpreter.mode = .idle
      ∧ timerAfter.signals = []
      ∧ timerAfter.interpreter = key.interpreter := by
  intro timer keyAfter key timerAfter
  have hm := h.coherent
  have htimer : timer = ⟨m.atRest, .hidePrompt :: m.mode.timeoutWord, false⟩ :=
    hm.handleDeadline_of_fires (fires_of_armed harmed hdue)
  have hkey : key = { keyAfter with signals := timer.signals ++ keyAfter.signals } :=
    hm.handleKey_eq_andThen harmed press hdue
  have htimerAfter : timerAfter = ⟨key.interpreter, [], false⟩ :=
    hm.handleDeadline_handleKey harmed press now later
  refine ⟨?_, ?_, ?_, ?_, ?_, ?_, ?_⟩
  · rw [htimerAfter, List.append_nil, hkey]
  · rw [hkey]
  · rw [htimerAfter, hkey]
  · rw [htimer]
  · rw [htimer]
    rfl
  · rw [htimerAfter]
  · rw [htimerAfter]

/-- `3y` typed at 100 and 160, then a key at the very instant of the deadline, which itself arms
another. -/
theorem timer_and_digit_commute_after_row_three :
    let m := (((new .empty .empty 700).step (.key ⟨.char '3', {}⟩ 100)).interpreter.step
      (.key ⟨.char 'y', {}⟩ 160)).interpreter
    let token : DeadlineToken := ⟨2, 860⟩
    m.Reachable ∧ m.pending = some token ∧ token.due ≤ 860
      ∧ (m.handleDeadline token 860).signals = [.hidePrompt, .resolved (.yankRow 3)]
      ∧ ((m.handleDeadline token 860).interpreter.handleKey ⟨.char '7', {}⟩ 860).interpreter
          = ((m.handleKey ⟨.char '7', {}⟩ 860).interpreter.handleDeadline token 900).interpreter
      ∧ (m.handleKey ⟨.char '7', {}⟩ 860).interpreter.pending = some ⟨3, 1560⟩ := by
  intro m token
  have hreach : m.Reachable := .step _ (.step _ (.new _ _ _))
  have harmed : m.pending = some token := by decide
  have hdue : token.due ≤ 860 := by decide
  obtain ⟨-, -, hstate, hword, -⟩ :=
    timer_and_late_key_commute hreach harmed ⟨.char '7', {}⟩ hdue 900
  exact ⟨hreach, harmed, hdue, hword, hstate, by decide⟩

end PanelKeys.Interpreter
