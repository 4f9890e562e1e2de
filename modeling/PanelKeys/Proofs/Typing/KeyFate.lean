import PanelKeys.Proofs.Typing.Run

/-!
# What becomes of a key

The answer to a key says whether the interpreter has taken it, and the application acts on every key
that has not been taken.  If a key were left and yet went on with a sequence, it would act twice; if
it were taken and nothing came of it, it would be lost.  The grammar says so on every one of its
ways separately, so that it is the turns, of which there are few, that have to be gone through.

* `KeyFate` — **the fates of a key**: it is left and nothing waits, it is spent on what ends a
  sequence, or it is kept in one that waits;
* `Fresh.keyFate`, `Answered.keyFate` — every turn of a key is one of these; what has been said
  before the key makes no difference (`KeyFate.after`);
* `signals_of_left` — a key that comes when nothing is typed, and is left, is answered by nothing at
  all;
* **`key_taken_or_left`** — what the answer to a key tells about it.
-/

namespace PanelKeys

/-- The prompts among the signals. -/
def Signal.IsPrompt (s : Signal) : Prop := ∃ prompt, s = .showPrompt prompt

namespace Interpreter

variable {m : Interpreter} {pressed : Option Chord} {now : Instant} {t : Turn}

/-- What can become of a key. -/
inductive KeyFate (t : Turn) : Prop where
  | left (consumed : t.consumed = false) (mode : t.interpreter.mode = .idle)
      (unarmed : t.interpreter.pending = none)
  | spent {s : Signal} (consumed : t.consumed = true) (mode : t.interpreter.mode = .idle)
      (last : t.signals.getLast? = some s) (silent : ¬ s.IsPrompt)
  | kept (consumed : t.consumed = true) (mode : t.interpreter.mode ≠ .idle)
      (last : t.signals.getLast? = some (.showPrompt t.interpreter.prompt))

/-- What a sequence has said before the key does not change the key's fate. -/
lemma KeyFate.after (h : KeyFate t) (earlier : List Signal) :
    KeyFate ⟨t.interpreter, earlier ++ t.signals, t.consumed⟩ := by
  cases h with
  | left consumed mode unarmed => exact .left consumed mode unarmed
  | spent consumed mode last silent =>
      exact .spent consumed mode (by simp [List.getLast?_append, last]) silent
  | kept consumed mode last => exact .kept consumed mode (by simp [List.getLast?_append, last])

lemma Fresh.keyFate (h : Fresh m pressed now t) : KeyFate t := by
  cases h with
  | passed => exact .left rfl rfl rfl
  | bound key found => exact .spent rfl rfl rfl (by simp [Signal.IsPrompt])
  | begun mode notIdle digits => exact .kept rfl notIdle rfl

/-- The end of a sequence hides its prompt and shows no other. -/
lemma LastWord.exists_last {word : List Signal} (h : LastWord m word) :
    ∃ s, (Signal.hidePrompt :: word).getLast? = some s ∧ ¬ s.IsPrompt := by
  cases h with
  | silent => exact ⟨_, rfl, by simp [Signal.IsPrompt]⟩
  | command own => exact ⟨_, rfl, by simp [Signal.IsPrompt]⟩
  | complaint own => exact ⟨_, rfl, by simp [Signal.IsPrompt]⟩

lemma Answered.keyFate (h : Answered m pressed now t) : KeyFate t := by
  cases h with
  | continued mode notIdle digits => exact .kept rfl notIdle rfl
  | ended consumed last =>
      cases consumed with
      | false => exact .left rfl rfl rfl
      | true =>
          obtain ⟨s, hlast, hsilent⟩ := last.exists_last
          exact .spent rfl rfl hlast hsilent
  | resumed last fresh => exact fresh.keyFate.after _

lemma Coherent.keyFate (h : m.Coherent) (press : KeyPress) (now : Instant) :
    KeyFate (m.handleKey press now) := by
  cases h.stepped (.key press now) with
  | fresh idle turn => exact turn.keyFate
  | answered typing turn => exact turn.keyFate

/-- With nothing typed, a key that means nothing is not answered. -/
lemma Fresh.signals_of_left (h : Fresh m pressed now t) (hleft : t.consumed = false) :
    t.signals = [] := by
  cases h with
  | passed => rfl
  | bound key found | begun mode notIdle digits => simp at hleft

/-- **A key is taken or left, and never both.**  After a key that is left, nothing is typed and
nothing waits, and it is not answered at all unless something had been typed.  A key that is taken
is answered, and the answer ends with a prompt exactly if the interpreter waits for another key. -/
theorem key_taken_or_left (h : m.Reachable) (press : KeyPress) (now : Instant) :
    let t := m.handleKey press now
    (t.consumed = false →
        t.interpreter.mode = .idle ∧ t.interpreter.pending = none
          ∧ (m.mode = .idle → t.signals = []))
      ∧ (t.consumed = true →
        ∃ earlier last, t.signals = earlier ++ [last]
          ∧ ((∃ prompt, last = .showPrompt prompt) ↔ t.interpreter.mode ≠ .idle)
          ∧ (t.interpreter.mode ≠ .idle ↔ t.interpreter.pending ≠ none)) := by
  intro t
  have hm := h.coherent
  have hagree := not_congr (hm.step (.key press now)).idle_iff
  have hfate : KeyFate t := hm.keyFate press now
  cases hfate with
  | left consumed mode unarmed =>
      refine ⟨fun _ => ⟨mode, unarmed, fun hidle => ?_⟩, by simp [consumed]⟩
      have hfresh := handleKey_fresh press now hidle (hm.idle_iff.1 hidle)
      exact hfresh.signals_of_left consumed
  | spent consumed mode last silent =>
      obtain ⟨earlier, hsignals⟩ := List.getLast?_eq_some_iff.1 last
      exact ⟨by simp [consumed],
        fun _ => ⟨earlier, _, hsignals, iff_of_false silent (by simp [mode]), hagree⟩⟩
  | kept consumed mode last =>
      obtain ⟨earlier, hsignals⟩ := List.getLast?_eq_some_iff.1 last
      exact ⟨by simp [consumed], fun _ => ⟨earlier, _, hsignals, iff_of_true ⟨_, rfl⟩ mode, hagree⟩⟩

/-- After `4z`, a `5` ends the sequence and begins another, and a `q` ends it and is left. -/
theorem key_taken_or_left_after_unconfirmed_axis :
    let m :=
      ((new .empty .empty 700).run [.key ⟨.char '4', {}⟩ 0, .key ⟨.char 'z', {}⟩ 50]).interpreter
    let taken := m.handleKey ⟨.char '5', {}⟩ 90
    let left := m.handleKey ⟨.char 'q', {}⟩ 90
    m.Reachable
      ∧ (taken.consumed = true ∧ taken.interpreter.mode = .counting ['5']
          ∧ ∃ earlier prompt, taken.signals = earlier ++ [.showPrompt prompt])
      ∧ left.consumed = false ∧ left.interpreter.mode = .idle
      ∧ left.interpreter.pending = none := by
  intro m taken left
  have hreach : m.Reachable :=
    .step (.key ⟨.char 'z', {}⟩ 50) (.step (.key ⟨.char '4', {}⟩ 0) (.new .empty .empty 700))
  have htaken : taken.consumed = true := by decide +kernel
  have hmode : taken.interpreter.mode = .counting ['5'] := by decide +kernel
  have hleft : left.consumed = false := by decide +kernel
  obtain ⟨earlier, last, hsignals, hprompt, -⟩ :=
    (key_taken_or_left hreach ⟨.char '5', {}⟩ 90).2 htaken
  obtain ⟨prompt, rfl⟩ := hprompt.2 (fun hidle => absurd (hmode.symm.trans hidle) (by decide))
  obtain ⟨hidle, hpending, -⟩ := (key_taken_or_left hreach ⟨.char 'q', {}⟩ 90).1 hleft
  exact ⟨hreach, ⟨htaken, hmode, earlier, prompt, hsignals⟩, hleft, hidle, hpending⟩

end Interpreter

end PanelKeys
