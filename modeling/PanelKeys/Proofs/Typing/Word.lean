import Mathlib.Computability.Language
import PanelKeys.Proofs.Typing.Overlay

/-!
# The word that signals spell

Whatever is typed, and however timers, resets and settings come in between, the signals keep a fixed
order: prompts, then their end, then at most one outcome.  With a letter for what each signal is,

* `B` for the command of a binding, with nothing typed,
* `S` for a prompt that is shown and `H` for its end,
* `R` for the command of the sequence that has ended, and `X` for its complaint,

the signals of every run spell a word of `(B | S⁺ H (R | X)?)∗ S∗`.

* `Letter`, `Letter.sentence` — the letters and the language;
* `Reads` — what makes a signal an `R` and not a `B`: **the command is one that the sequence may end
  with**, or the one that the pressed key is bound to;
* `Letter.Follows`, `mem_sentence` — the language by what may follow a letter;
* `Reading` — the letters of a whole run;
* **`signals_spell_sentence`** — every run has a reading in the language.
-/

namespace PanelKeys

open scoped Computability

/-- What a signal is in its run. -/
inductive Letter where
  | bound
  | shown
  | hidden
  | resolved
  | rejected
  deriving DecidableEq

namespace Letter

/-! ## The language -/

/-- `S⁺` — the prompts of one sequence. -/
def prompts : Language Letter := {[shown]} * {[shown]}∗

/-- `B | S⁺ H (R | X)?` — a binding, or a sequence from its first prompt to its end. -/
def round : Language Letter := {[bound]} + prompts * {[hidden]} * (1 + {[resolved]} + {[rejected]})

/-- `(B | S⁺ H (R | X)?)∗ S∗` — rounds, and a sequence that is still being typed. -/
def sentence : Language Letter := round∗ * {[shown]}∗

/-- What may come after a letter, or first. -/
def Follows (last : Option Letter) : Letter → Prop
  | shown => True
  | hidden => last = some shown
  | bound => last ≠ some shown
  | resolved | rejected => last = some hidden

/-- The last letter of a word, or the one before it. -/
def lastOf (last : Option Letter) (word : List Letter) : Option Letter :=
  word.foldl (fun _ letter => some letter) last

lemma lastOf_concat (last : Option Letter) (word : List Letter) (letter : Letter) :
    lastOf last (word ++ [letter]) = some letter := by
  simp [lastOf]

lemma lastOf_none (word : List Letter) : lastOf none word = word.getLast? := by
  induction word using List.reverseRecOn with
  | nil => rfl
  | append_singleton word letter _ => rw [lastOf_concat, List.getLast?_concat]

/-- Each letter may follow the one before it. -/
def Ordered (last : Option Letter) (word : List Letter) : Prop :=
  AllowedFrom Follows (fun _ letter => some letter) last word

/-- The words in order up to a given last letter. -/
def upTo : Option Letter → Language Letter
  | some shown => round∗ * prompts
  | some hidden => round∗ * (prompts * {[hidden]})
  | _ => round∗

lemma append_mem_rounds {w v : List Letter} (hw : w ∈ round∗) (hv : v ∈ round) :
    w ++ v ∈ round∗ := by
  have hle : round∗ * round ≤ round∗ := kstar_mul_le_kstar
  exact hle (Language.append_mem_mul hw hv)

lemma bound_mem_round : [bound] ∈ round := Or.inl rfl

lemma sequence_mem_round {w v : List Letter} (hw : w ∈ prompts * {[hidden]})
    (hv : v = [] ∨ v = [resolved] ∨ v = [rejected]) : w ++ v ∈ round := by
  refine Or.inr (Language.append_mem_mul hw ?_)
  rcases hv with rfl | rfl | rfl
  · exact Or.inl (Or.inl rfl)
  · exact Or.inl (Or.inr rfl)
  · exact Or.inr rfl

/-- One more prompt of a sequence, or the first. -/
lemma append_shown_mem_prompts {w : List Letter} (hw : w ∈ prompts) : w ++ [shown] ∈ prompts := by
  obtain ⟨first, hfirst, rest, hrest, rfl⟩ := Language.mem_mul.1 hw
  rw [List.append_assoc]
  have hle : ({[shown]} : Language Letter)∗ * {[shown]} ≤ {[shown]}∗ := kstar_mul_le_kstar
  exact Language.append_mem_mul hfirst (hle (Language.append_mem_mul hrest rfl))

lemma shown_mem_prompts : [shown] ∈ prompts :=
  Language.append_mem_mul (a := [shown]) (b := []) rfl (Language.nil_mem_kstar _)

/-- A word that does not stop in a sequence consists of rounds. -/
lemma mem_rounds_of_upTo {last : Option Letter} {w : List Letter} (hlast : last ≠ some shown)
    (hw : w ∈ upTo last) : w ∈ round∗ := by
  rcases last with _ | ⟨_ | _ | _ | _ | _⟩
  case none | some.bound | some.resolved | some.rejected => exact hw
  case some.shown => exact absurd rfl hlast
  case some.hidden =>
      obtain ⟨rounds, hrounds, sequence, hsequence, rfl⟩ := Language.mem_mul.1 hw
      refine append_mem_rounds hrounds ?_
      have hround := sequence_mem_round hsequence (Or.inl rfl)
      rwa [List.append_nil] at hround

/-- The order of the letters gives the language, one letter after the other. -/
lemma mem_upTo {word : List Letter} (h : Ordered none word) : word ∈ upTo word.getLast? := by
  induction word using List.reverseRecOn with
  | nil => exact Language.nil_mem_kstar round
  | append_singleton word letter ih =>
      obtain ⟨hword, hletter, -⟩ := h.of_append
      have hmem := ih hword
      have hfollows : Follows word.getLast? letter := by
        rw [← lastOf_none]
        exact hletter
      rw [List.getLast?_concat]
      cases letter with
      | bound => exact append_mem_rounds (mem_rounds_of_upTo hfollows hmem) bound_mem_round
      | shown =>
          by_cases hlast : word.getLast? = some shown
          · rw [hlast] at hmem
            obtain ⟨rounds, hrounds, typed, htyped, rfl⟩ := Language.mem_mul.1 hmem
            rw [List.append_assoc]
            exact Language.append_mem_mul hrounds (append_shown_mem_prompts htyped)
          · exact Language.append_mem_mul (mem_rounds_of_upTo hlast hmem) shown_mem_prompts
      | hidden =>
          have hlast : word.getLast? = some shown := hfollows
          rw [hlast] at hmem
          obtain ⟨rounds, hrounds, typed, htyped, rfl⟩ := Language.mem_mul.1 hmem
          rw [List.append_assoc]
          exact Language.append_mem_mul hrounds (Language.append_mem_mul htyped rfl)
      | resolved | rejected =>
          have hlast : word.getLast? = some hidden := hfollows
          rw [hlast] at hmem
          obtain ⟨rounds, hrounds, sequence, hsequence, rfl⟩ := Language.mem_mul.1 hmem
          rw [List.append_assoc]
          exact append_mem_rounds hrounds (sequence_mem_round hsequence (by simp))

theorem mem_sentence {word : List Letter} (h : Ordered none word) : word ∈ sentence := by
  have hmem := mem_upTo h
  by_cases hlast : word.getLast? = some shown
  · rw [hlast] at hmem
    obtain ⟨rounds, hrounds, typed, htyped, rfl⟩ := Language.mem_mul.1 hmem
    have hle : prompts ≤ {[shown]}∗ := mul_kstar_le_kstar
    exact Language.append_mem_mul hrounds (hle htyped)
  · have hrounds := mem_rounds_of_upTo hlast hmem
    have hword := Language.append_mem_mul hrounds (Language.nil_mem_kstar {[shown]})
    rwa [List.append_nil] at hword

end Letter

namespace Interpreter

/-! ## Reading signals -/

/-- The chord that an input brings. -/
def Input.chord? : Input → Option Chord
  | .key press _ => press.chord?
  | .timer _ _ | .reset | .reconfigure _ _ _ => none

/-- What a signal is, in a turn from one state to another. -/
inductive Reads (m : Interpreter) (pressed : Option Chord) (m' : Interpreter) :
    Letter → Signal → Prop where
  | bound {chord : Chord} {entry : Labelled} (key : pressed = some chord)
      (found : m.bindings.get? chord = some entry) :
      Reads m pressed m' .bound (.resolved entry.command)
  | shown : Reads m pressed m' .shown (.showPrompt m'.prompt)
  | hidden : Reads m pressed m' .hidden .hidePrompt
  | resolved {command : Command} (own : m.mode.Resolves m.menu command) :
      Reads m pressed m' .resolved (.resolved command)
  | rejected {why : Rejection} (own : m.mode.Rejects m.menu why) :
      Reads m pressed m' .rejected (.rejected why)

lemma Reads.of_keyedAt {m m' : Interpreter} {pressed : Option Chord} {now : Instant}
    {letter : Letter}
    {s : Signal} (h : Reads (m.keyedAt now) pressed m' letter s) : Reads m pressed m' letter s := by
  cases h with
  | bound key found => exact .bound key found
  | shown => exact .shown
  | hidden => exact .hidden
  | resolved own => exact .resolved own
  | rejected own => exact .rejected own

/-- The signals of a turn can be read in order, and they stop at a prompt exactly if a sequence
waits. -/
def Legible (m : Interpreter) (pressed : Option Chord) (m' : Interpreter) (last : Option Letter)
    (signals : List Signal) : Prop :=
  ∃ letters, List.Forall₂ (Reads m pressed m') letters signals ∧ Letter.Ordered last letters
    ∧ (Letter.lastOf last letters = some .shown ↔ m'.mode ≠ .idle)

section Legible

variable {m m' : Interpreter} {pressed : Option Chord} {last : Option Letter}

lemma legible_nil (h : last = some .shown ↔ m'.mode ≠ .idle) : Legible m pressed m' last [] :=
  ⟨[], .nil, trivial, h⟩

lemma Legible.cons {letter : Letter} {s : Signal} {signals : List Signal}
    (h : Legible m pressed m' (some letter) signals) (reads : Reads m pressed m' letter s)
    (follows : letter.Follows last) : Legible m pressed m' last (s :: signals) := by
  obtain ⟨letters, hreads, hordered, hstop⟩ := h
  exact ⟨letter :: letters, .cons reads hreads, ⟨follows, hordered⟩, hstop⟩

lemma Legible.of_keyedAt {now : Instant} {signals : List Signal}
    (h : Legible (m.keyedAt now) pressed m' last signals) : Legible m pressed m' last signals := by
  obtain ⟨letters, hreads, hordered, hstop⟩ := h
  exact ⟨letters, hreads.imp fun _ _ => Reads.of_keyedAt, hordered, hstop⟩

/-- A sequence ends with its prompt and with one outcome at most, and what comes then is read
afresh. -/
lemma LastWord.legible {word signals : List Signal} (h : LastWord m word)
    (rest : ∀ last, last ≠ some .shown → Legible m pressed m' last signals) :
    Legible m pressed m' (some .shown) (.hidePrompt :: word ++ signals) := by
  cases h with
  | silent => exact (rest (some .hidden) (by simp)).cons .hidden rfl
  | command own =>
      exact ((rest (some .resolved) (by simp)).cons (.resolved own) rfl).cons .hidden rfl
  | complaint own =>
      exact ((rest (some .rejected) (by simp)).cons (.rejected own) rfl).cons .hidden rfl

/-- A sequence that ends at rest. -/
lemma LastWord.legible_atRest {word : List Signal} (h : LastWord m word) (hidle : m'.mode = .idle) :
    Legible m pressed m' (some .shown) (.hidePrompt :: word) := by
  have hlegible : Legible m pressed m' (some .shown) (.hidePrompt :: word ++ []) :=
    h.legible fun last hlast => legible_nil (by simp [hlast, hidle])
  rwa [List.append_nil] at hlegible

lemma Fresh.legible {now : Instant} {t : Turn} (h : Fresh m pressed now t)
    (hlast : last ≠ some .shown) : Legible m pressed t.interpreter last t.signals := by
  cases h with
  | passed => exact legible_nil (by simp [hlast, atRest])
  | bound key found => exact (legible_nil (by simp [atRest])).cons (.bound key found) hlast
  | begun mode notIdle digits =>
      exact (legible_nil (by simp [waiting, notIdle])).cons .shown trivial

lemma Answered.legible {now : Instant} {t : Turn} (h : Answered m pressed now t) :
    Legible m pressed t.interpreter (some .shown) t.signals := by
  cases h with
  | continued mode notIdle digits =>
      exact (legible_nil (by simp [waiting, notIdle])).cons .shown trivial
  | ended consumed word => exact word.legible_atRest rfl
  | resumed word fresh => exact word.legible fun _ hlast => fresh.legible hlast

end Legible

/-! ## Every turn can be read -/

lemma clear_legible {m m' : Interpreter} {last : Option Letter} (hidle : m'.mode = .idle)
    (hlast : last = some .shown ↔ m.mode ≠ .idle) : Legible m none m' last m.clear.signals := by
  by_cases hmode : m.mode = .idle
  · rw [clear, Mode.isIdle, hmode]
    exact legible_nil (by simp [hlast, hmode, hidle])
  · rw [clear_eq hmode, hlast.2 hmode]
    exact LastWord.silent.legible_atRest hidle

/-- **The signals of a turn go on with the word**, wherever it has stopped. -/
theorem Stepped.legible {m : Interpreter} {input : Input} {t : Turn} (h : Stepped m input t)
    {last : Option Letter} (hlast : last = some .shown ↔ m.mode ≠ .idle) :
    Legible m input.chord? t.interpreter last t.signals := by
  cases h with
  | fresh idle turn => exact (turn.legible fun hshown => hlast.1 hshown idle).of_keyedAt
  | answered typing turn =>
      rw [hlast.2 typing]
      exact turn.legible.of_keyedAt
  | expired typing =>
      rw [hlast.2 typing]
      exact (lastWord_timeoutWord m).legible_atRest rfl
  | ignored => exact legible_nil hlast
  | reset => exact clear_legible rfl hlast
  | reconfigured bindings menu timeout => exact clear_legible rfl hlast

/-! ## How many signals a turn has -/

lemma LastWord.length_le {m : Interpreter} {word : List Signal} (h : LastWord m word) :
    word.length ≤ 1 := by
  cases h <;> simp

lemma Fresh.length_le {m : Interpreter} {pressed : Option Chord} {now : Instant} {t : Turn}
    (h : Fresh m pressed now t) : t.signals.length ≤ 1 := by
  cases h <;> simp

lemma Answered.length_le {m : Interpreter} {pressed : Option Chord} {now : Instant} {t : Turn}
    (h : Answered m pressed now t) : t.signals.length ≤ 3 := by
  cases h with
  | continued mode notIdle digits => simp
  | ended consumed last =>
      have hword := last.length_le
      simp only [List.length_cons]
      omega
  | resumed last fresh =>
      have hword := last.length_le
      have hfresh := fresh.length_le
      simp only [List.length_append, List.length_cons]
      omega

lemma length_clear_le (m : Interpreter) : m.clear.signals.length ≤ 1 := by
  simp only [clear]
  split <;> simp

/-- An expired sequence, its outcome, and a key that begins afresh: more does not happen at once. -/
lemma Stepped.length_le {m : Interpreter} {input : Input} {t : Turn} (h : Stepped m input t) :
    t.signals.length ≤ 3 := by
  cases h with
  | fresh idle turn => exact Nat.le_trans turn.length_le (by decide)
  | answered typing turn => exact turn.length_le
  | expired typing =>
      have hword := (lastWord_timeoutWord m).length_le
      simp only [List.length_cons]
      omega
  | ignored => simp
  | reset => exact Nat.le_trans m.length_clear_le (by decide)
  | reconfigured bindings menu timeout => exact Nat.le_trans m.length_clear_le (by decide)

/-! ## Runs -/

/-- The letters of a whole run, turn by turn. -/
inductive Reading (m : Interpreter) : List Input → List Letter → Prop where
  | nil : Reading m [] []
  | concat {inputs : List Input} {word letters : List Letter} {input : Input}
      (before : Reading m inputs word)
      (turn : List.Forall₂
        (Reads (m.run inputs).interpreter input.chord? (m.run (inputs ++ [input])).interpreter)
        letters ((m.run inputs).interpreter.step input).signals) :
      Reading m (inputs ++ [input]) (word ++ letters)

/-- A run that starts at rest has a reading in order. -/
lemma Coherent.exists_reading {m : Interpreter} (h : m.Coherent) (hidle : m.mode = .idle)
    (inputs : List Input) :
    ∃ word, Reading m inputs word ∧ Letter.Ordered none word
      ∧ (word.getLast? = some .shown ↔ (m.run inputs).interpreter.mode ≠ .idle) := by
  induction inputs using List.reverseRecOn with
  | nil => exact ⟨[], .nil, trivial, by simp [hidle]⟩
  | append_singleton inputs input ih =>
      obtain ⟨word, hreading, hordered, hstop⟩ := ih
      obtain ⟨letters, hreads, hletters, hlast⟩ := ((h.run inputs).stepped input).legible hstop
      have hrun : (m.run (inputs ++ [input])).interpreter
          = ((m.run inputs).interpreter.step input).interpreter := by
        rw [run_concat]
        rfl
      refine ⟨word ++ letters, hreading.concat (by rw [hrun]; exact hreads), ?_, ?_⟩
      · refine hordered.append ?_
        have hfold : Letter.lastOf none word = word.getLast? := Letter.lastOf_none word
        rw [Letter.lastOf] at hfold
        rw [hfold]
        exact hletters
      · rw [hrun, ← hlast, ← Letter.lastOf_none, ← Letter.lastOf_none]
        simp [Letter.lastOf, List.foldl_append]

/-- The signals of a run draw the overlay of its state. -/
lemma Coherent.run_draws {m : Interpreter} (h : m.Coherent) (inputs : List Input) :
    Draws m.overlay (m.run inputs).signals (m.run inputs).interpreter.overlay := by
  induction inputs using List.reverseRecOn with
  | nil => exact .nil m.overlay
  | append_singleton inputs input ih =>
      rw [run_concat]
      exact ih.append ((h.run inputs).stepped input).draws

/-- **The signals of every run spell a word of `(B | S⁺ H (R | X)?)∗ S∗`**, which stops at a prompt
exactly if a sequence waits; no turn has more than three.  So no command and no complaint comes
while a prompt is up, a prompt is hidden only when one is, and a sequence has one outcome at most,
behind its own `H`. -/
theorem signals_spell_sentence (bindings : BindingTable) (menu : ViewMenu) (timeout : Nat)
    (inputs : List Input) :
    let m := new bindings menu timeout
    let t := m.run inputs
    (∃ word, Reading m inputs word ∧ word ∈ Letter.sentence
        ∧ (word.getLast? = some .shown ↔ t.interpreter.mode ≠ .idle)
        ∧ ∀ before letter after, word = before ++ letter :: after →
            letter = .resolved ∨ letter = .rejected → before.getLast? = some .hidden)
      ∧ (∀ before s after, t.signals = before ++ s :: after → s.Fits (overlayAfter none before))
      ∧ ∀ input, (t.interpreter.step input).signals.length ≤ 3 := by
  intro m t
  have hm : m.Coherent := coherent_of_idle rfl rfl
  obtain ⟨word, hreading, hordered, hstop⟩ := hm.exists_reading rfl inputs
  refine ⟨⟨word, hreading, Letter.mem_sentence hordered, hstop, ?_⟩, ?_, fun input => ?_⟩
  · intro before letter after hword houtcome
    rw [hword] at hordered
    have hfollows : letter.Follows before.getLast? := by
      rw [← Letter.lastOf_none]
      exact hordered.allowed_at
    rcases houtcome with rfl | rfl
    · exact hfollows
    · exact hfollows
  · intro before s after hsignals
    have hfits := (hm.run_draws inputs).fits
    rw [hsignals] at hfits
    exact hfits.allowed_at
  · exact ((hm.run inputs).stepped input).length_le

end Interpreter

end PanelKeys
