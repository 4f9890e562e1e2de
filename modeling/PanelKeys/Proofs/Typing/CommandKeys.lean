import PanelKeys.Proofs.Typing.Reoffer

/-!
# Keys that belong to the application

Control, alt and the platform key mark a key as the application's own.  Such a key is no chord, so
it can neither go on with a sequence nor begin one: it only ends what has been typed, and a `y`
after a count has then waited in vain for a second `y` and stands for its row.  Escape is the
exception, since it is known by the key alone.  With command modifiers it still drops a sequence
without a word, and is kept for having done so.

* `Mode.unconfirmedRow` — the command that a sequence still owes when it is broken off;
* `handleKey_of_idle`, `handleKey_of_inTime`, `handleKey_of_late` — **what a key that is no chord
  does**, with nothing typed, to a sequence that waits, and to one whose time is over;
* **`command_key_leaves_nothing`** — after a key with command modifiers nothing is typed and nothing
  waits, no command but that one comes of it, and only an escape that drops a sequence is taken;
* `modified_escape_is_taken` — so an application does lose `ctrl-escape` to a count.
-/

namespace PanelKeys

open PanelKeys.Number
open PanelKeys.Panel

/-- The command that a sequence still owes when it is broken off: the row of a `y` that was not
confirmed. -/
def Mode.unconfirmedRow : Mode → List Command
  | .countingAxis digits .y => [.yankRowOrTable (countOfDigits digits)]
  | _ => []

lemma KeyPress.chord?_of_command {press : KeyPress} (h : press.modifiers.hasCommand = true) :
    press.chord? = none := by
  simp [KeyPress.chord?, h]

namespace Interpreter

variable {m : Interpreter} {press : KeyPress} {now : Instant}

/-- A sequence that ends before its time, or with it, pays what it owes and nothing else. -/
lemma commands_of_ended {m' : Interpreter} {mode : Mode} {word : List Signal} {consumed : Bool}
    (h : word = mode.abandonedWord ∨ word = mode.timeoutWord) :
    (⟨m', .hidePrompt :: word, consumed⟩ : Turn).commands = mode.unconfirmedRow := by
  rcases h with rfl | rfl <;>
    cases mode with
    | countingAxis digits axis => cases axis <;> rfl
    | idle | counting digits | yanking | choosingView => rfl

/-! ## Keys that are no chord -/

lemma passThrough_eq (h : m.mode ≠ .idle) :
    m.passThrough = ⟨m.atRest, .hidePrompt :: m.mode.abandonedWord, false⟩ := by
  simp only [passThrough]
  split
  · next hidle => exact absurd hidle h
  · next digits axis hmode => exact settleAxis_key_eq hmode
  · next hidle haxis =>
      have hsilent : m.mode.abandonedWord = [] := by
        cases hmode : m.mode with
        | countingAxis digits axis => exact absurd hmode (haxis digits axis)
        | idle | counting digits | yanking | choosingView => rfl
      rw [hsilent]
      exact clear_eq h

/-- With nothing typed, a key that is no chord comes to nothing. -/
lemma process_atRest_of_chord?_eq_none (hchord : press.chord? = none) :
    process press now m.atRest = ⟨m.atRest, [], false⟩ := by
  cases hescape : press.isEscape with
  | true => simp [process, hescape, clear, Turn.taking, atRest, Deadline.cancel, Mode.isIdle]
  | false => simp [process, hescape, hchord, passThrough, atRest]

/-- **A key that is no chord ends the sequence**: escape drops it, any other key lets it have its
word. -/
lemma process_of_chord?_eq_none (h : m.mode ≠ .idle) (hchord : press.chord? = none) :
    process press now m = if press.isEscape then ⟨m.atRest, [.hidePrompt], true⟩
      else ⟨m.atRest, .hidePrompt :: m.mode.abandonedWord, false⟩ := by
  cases hescape : press.isEscape with
  | true => simp [process, hescape, clear_eq h, Turn.taking, Mode.isIdle, h]
  | false => simp [process, hescape, hchord, passThrough_eq h]

lemma not_due_iff_inTime : m.deadline.isDue now = false ↔ m.InTime now := by
  refine ⟨fun hdue token hpending => ?_, isDue_of_inTime⟩
  have harmed : m.deadline.armed = some token := hpending
  simpa [Deadline.isDue, harmed] using hdue

/-- With nothing typed, such a key is only heard of. -/
lemma Coherent.handleKey_of_idle (h : m.Coherent) (hidle : m.mode = .idle)
    (hchord : press.chord? = none) :
    m.handleKey press now = ⟨(m.keyedAt now).atRest, [], false⟩ := by
  have harmed : m.deadline.armed = none := h.idle_iff.1 hidle
  have hdue : m.deadline.isDue now = false := by simp [Deadline.isDue, harmed]
  have hrest : (m.keyedAt now).atRest = m.keyedAt now := atRest_eq_self hidle harmed
  rw [handleKey_of_not_due press hdue, ← hrest]
  exact process_atRest_of_chord?_eq_none hchord

/-- In time, it ends the sequence. -/
lemma handleKey_of_inTime (h : m.mode ≠ .idle) (hin : m.InTime now) (hchord : press.chord? = none) :
    m.handleKey press now = if press.isEscape then ⟨(m.keyedAt now).atRest, [.hidePrompt], true⟩
      else ⟨(m.keyedAt now).atRest, .hidePrompt :: m.mode.abandonedWord, false⟩ := by
  rw [handleKey_of_not_due press (isDue_of_inTime hin)]
  exact process_of_chord?_eq_none (m := m.keyedAt now) h hchord

/-- Too late, it finds that the sequence has ended. -/
lemma handleKey_of_late (h : m.mode ≠ .idle) (hlate : ¬ m.InTime now)
    (hchord : press.chord? = none) :
    m.handleKey press now = ⟨(m.keyedAt now).atRest, .hidePrompt :: m.mode.timeoutWord, false⟩ := by
  have hdue : m.deadline.isDue now = true := by
    rw [← Bool.not_eq_false]
    exact fun hnot => hlate (not_due_iff_inTime.1 hnot)
  have hrest : process press now (m.atRest.keyedAt now) = ⟨(m.keyedAt now).atRest, [], false⟩ :=
    process_atRest_of_chord?_eq_none (m := m.keyedAt now) hchord
  rw [handleKey_of_due press h hdue]
  simp only [Turn.andThen, hrest, List.append_nil]

/-! ## Keys with command modifiers -/

/-- **A key with command modifiers leaves nothing typed**, nothing that waits, and no command but
the row that was owed.  It is left to the application, unless it is an escape that drops a sequence
in time: that one is taken, and drops the row as well. -/
theorem command_key_leaves_nothing (h : m.Reachable) (hcommand : press.modifiers.hasCommand = true)
    (now : Instant) :
    let t := m.handleKey press now
    t.interpreter.mode = .idle ∧ t.interpreter.pending = none
      ∧ t.commands = (if press.isEscape = true ∧ m.InTime now then [] else m.mode.unconfirmedRow)
      ∧ (t.consumed = true ↔ press.isEscape = true ∧ m.mode ≠ .idle ∧ m.InTime now) := by
  intro t
  have hchord : press.chord? = none := KeyPress.chord?_of_command hcommand
  by_cases hidle : m.mode = .idle
  · have ht : t = _ := h.coherent.handleKey_of_idle hidle hchord
    rw [ht, hidle]
    exact ⟨rfl, rfl, by split <;> rfl, by simp⟩
  · by_cases hin : m.InTime now
    · have ht : t = _ := handleKey_of_inTime hidle hin hchord
      cases hescape : press.isEscape with
      | true =>
          rw [ht, hescape, if_pos rfl]
          exact ⟨rfl, rfl, by simp [hin, Turn.commands], by simp [hidle, hin]⟩
      | false =>
          rw [ht, hescape, if_neg Bool.false_ne_true]
          exact ⟨rfl, rfl, by simp [commands_of_ended (Or.inl rfl)], by simp⟩
    · have ht : t = _ := handleKey_of_late hidle hin hchord
      rw [ht]
      exact ⟨rfl, rfl, by simp [hin, commands_of_ended (Or.inr rfl)], by simp [hin]⟩

/-- `ctrl-c` in the time of `2y`: the row is copied, and the key is the application's. -/
theorem command_key_leaves_nothing_of_row_two :
    let m :=
      ((new .empty .empty 700).run [.key ⟨.char '2', {}⟩ 0, .key ⟨.char 'y', {}⟩ 90]).interpreter
    let copy : KeyPress := ⟨.char 'c', { control := true }⟩
    let t := m.handleKey copy 300
    m.Reachable ∧ copy.modifiers.hasCommand = true ∧ t.interpreter.mode = .idle
      ∧ t.interpreter.pending = none ∧ t.commands = [.yankRow 2] ∧ t.consumed = false := by
  intro m copy t
  have hreach : m.Reachable :=
    .step (.key ⟨.char 'y', {}⟩ 90) (.step (.key ⟨.char '2', {}⟩ 0) (.new .empty .empty 700))
  have hmode : m.mode = .countingAxis ['2'] .y := by decide +kernel
  have hcommand : copy.modifiers.hasCommand = true := rfl
  obtain ⟨hidle, hpending, hcommands, htaken⟩ := command_key_leaves_nothing hreach hcommand 300
  have hescape : copy.isEscape = false := rfl
  rw [hescape, hmode] at hcommands
  rw [hescape] at htaken
  refine ⟨hreach, hcommand, hidle, hpending, ?_, ?_⟩
  · rw [hcommands]
    decide +kernel
  · simpa using htaken

/-- **An escape is taken although it bears a command modifier**, if a sequence waits for its next
key: here `ctrl-escape` after `3`. -/
theorem modified_escape_is_taken :
    ¬ ∀ (m : Interpreter) (press : KeyPress) (now : Instant), m.Reachable →
        press.modifiers.hasCommand = true → (m.handleKey press now).consumed = false := by
  intro hleft
  have hreach : ((new .empty .empty 1000).step (.key ⟨.char '3', {}⟩ 0)).interpreter.Reachable :=
    .step (.key ⟨.char '3', {}⟩ 0) (.new .empty .empty 1000)
  have htaken : (((new .empty .empty 1000).step (.key ⟨.char '3', {}⟩ 0)).interpreter.handleKey
      ⟨.escape, { control := true }⟩ 100).consumed = true := by decide +kernel
  rw [hleft _ _ 100 hreach rfl] at htaken
  simp at htaken

end Interpreter

end PanelKeys
