import PanelKeys.Proofs.Typing.Run

/-!
# The overlay that signals draw

The application hears of prompts one signal at a time, and nothing tells it what is up but the
signals before.  So the signals of a turn have to lead from the overlay of the old state to that of
the new one, and on the way each has to make sense where it comes.

* `Signal.overlay`, `overlayAfter` — the overlay after a signal, and after several;
* `Signal.Fits` — **a prompt is hidden only when one is up, and a command or a complaint comes only
  when none is**;
* `Interpreter.overlay` — the overlay that belongs to a state;
* `Draws` — signals that fit and lead from one overlay to another;
* `Stepped.draws` — the signals of every turn draw the overlay of its state.
-/

namespace PanelKeys

/-- Every element is allowed in the state to which the elements before it have led. -/
def AllowedFrom {σ α : Type} (allowed : σ → α → Prop) (next : σ → α → σ) : σ → List α → Prop
  | _, [] => True
  | s, a :: rest => allowed s a ∧ AllowedFrom allowed next (next s a) rest

section AllowedFrom

variable {σ α : Type} {allowed : σ → α → Prop} {next : σ → α → σ}

lemma AllowedFrom.append {s : σ} {before after : List α}
    (hbefore : AllowedFrom allowed next s before)
    (hafter : AllowedFrom allowed next (before.foldl next s) after) :
    AllowedFrom allowed next s (before ++ after) := by
  induction before generalizing s with
  | nil => exact hafter
  | cons a rest ih => exact ⟨hbefore.1, ih hbefore.2 hafter⟩

lemma AllowedFrom.of_append {s : σ} {before after : List α}
    (h : AllowedFrom allowed next s (before ++ after)) :
    AllowedFrom allowed next s before ∧ AllowedFrom allowed next (before.foldl next s) after := by
  induction before generalizing s with
  | nil => exact ⟨trivial, h⟩
  | cons a rest ih =>
      obtain ⟨hrest, hafter⟩ := ih h.2
      exact ⟨⟨h.1, hrest⟩, hafter⟩

lemma AllowedFrom.allowed_at {s : σ} {before after : List α} {a : α}
    (h : AllowedFrom allowed next s (before ++ a :: after)) : allowed (before.foldl next s) a :=
  h.of_append.2.1

end AllowedFrom

namespace Signal

/-- The overlay after a signal. -/
def overlay (shown : Option Prompt) : Signal → Option Prompt
  | showPrompt prompt => some prompt
  | hidePrompt => none
  | resolved _ | rejected _ => shown

/-- Whether a signal makes sense under an overlay. -/
def Fits (shown : Option Prompt) : Signal → Prop
  | showPrompt _ => True
  | hidePrompt => shown ≠ none
  | resolved _ | rejected _ => shown = none

end Signal

/-- The overlay after several signals. -/
def overlayAfter (shown : Option Prompt) (signals : List Signal) : Option Prompt :=
  signals.foldl Signal.overlay shown

/-- The signals fit, one after the other, and lead from one overlay to another. -/
structure Draws (before : Option Prompt) (signals : List Signal) (after : Option Prompt) :
    Prop where
  fits : AllowedFrom Signal.Fits Signal.overlay before signals
  leads : overlayAfter before signals = after

namespace Draws

variable {a b c : Option Prompt} {s₁ s₂ : List Signal}

lemma nil (a : Option Prompt) : Draws a [] a := ⟨trivial, rfl⟩

lemma append (h₁ : Draws a s₁ b) (h₂ : Draws b s₂ c) : Draws a (s₁ ++ s₂) c where
  fits := by
    refine h₁.fits.append ?_
    have hleads : s₁.foldl Signal.overlay a = b := h₁.leads
    rw [hleads]
    exact h₂.fits
  leads := by
    rw [overlayAfter, List.foldl_append]
    have hleads : s₁.foldl Signal.overlay a = b := h₁.leads
    rw [hleads]
    exact h₂.leads

lemma show_prompt (a : Option Prompt) (prompt : Prompt) :
    Draws a [.showPrompt prompt] (some prompt) :=
  ⟨⟨trivial, trivial⟩, rfl⟩

lemma hide_prompt (prompt : Prompt) : Draws (some prompt) [.hidePrompt] none :=
  ⟨⟨by simp [Signal.Fits], trivial⟩, rfl⟩

end Draws

namespace Interpreter

/-- The overlay that belongs to a state: none with nothing typed, else the prompt. -/
def overlay (m : Interpreter) : Option Prompt := if m.mode = .idle then none else some m.prompt

lemma overlay_of_idle {m : Interpreter} (h : m.mode = .idle) : m.overlay = none := if_pos h

lemma overlay_of_not_idle {m : Interpreter} (h : m.mode ≠ .idle) : m.overlay = some m.prompt :=
  if_neg h

/-! ## Turns -/

lemma LastWord.draws {m : Interpreter} {word : List Signal} (h : LastWord m word) :
    Draws none word none := by
  cases h with
  | silent => exact .nil none
  | command own => exact ⟨⟨rfl, trivial⟩, rfl⟩
  | complaint own => exact ⟨⟨rfl, trivial⟩, rfl⟩

lemma Fresh.draws {m : Interpreter} {pressed : Option Chord} {now : Instant} {t : Turn}
    (h : Fresh m pressed now t) : Draws none t.signals t.interpreter.overlay := by
  cases h with
  | passed => exact .nil none
  | bound key found => exact ⟨⟨rfl, trivial⟩, rfl⟩
  | begun mode notIdle digits =>
      rw [overlay_of_not_idle (m := m.waiting mode now) notIdle]
      exact .show_prompt _ _

/-- The last word comes with the prompt down already. -/
lemma LastWord.draws_hide {m : Interpreter} {word : List Signal} (h : LastWord m word)
    (prompt : Prompt) : Draws (some prompt) (.hidePrompt :: word) none :=
  (Draws.hide_prompt prompt).append h.draws

lemma Answered.draws {m : Interpreter} {pressed : Option Chord} {now : Instant} {t : Turn}
    (h : Answered m pressed now t) (prompt : Prompt) :
    Draws (some prompt) t.signals t.interpreter.overlay := by
  cases h with
  | continued mode notIdle digits =>
      rw [overlay_of_not_idle (m := m.waiting mode now) notIdle]
      exact .show_prompt _ _
  | ended consumed last => exact last.draws_hide prompt
  | resumed last fresh => exact (last.draws_hide prompt).append fresh.draws

lemma clear_draws (m : Interpreter) : Draws m.overlay m.clear.signals none := by
  by_cases hmode : m.mode = .idle
  · rw [overlay_of_idle hmode, clear, Mode.isIdle, hmode]
    exact .nil none
  · rw [overlay_of_not_idle hmode, clear_eq hmode]
    exact .hide_prompt m.prompt

/-- **The signals of a turn draw the overlay of its state**, and each fits where it comes. -/
theorem Stepped.draws {m : Interpreter} {input : Input} {t : Turn} (h : Stepped m input t) :
    Draws m.overlay t.signals t.interpreter.overlay := by
  cases h with
  | fresh idle turn =>
      rw [overlay_of_idle idle]
      exact turn.draws
  | answered typing turn =>
      rw [overlay_of_not_idle typing]
      exact turn.draws m.prompt
  | expired typing =>
      rw [overlay_of_not_idle typing]
      exact (lastWord_timeoutWord m).draws_hide m.prompt
  | ignored => exact .nil m.overlay
  | reset => exact m.clear_draws
  | reconfigured bindings menu timeout => exact m.clear_draws

end Interpreter

end PanelKeys
