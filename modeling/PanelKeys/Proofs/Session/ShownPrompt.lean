import PanelKeys.Proofs.Session.Frame
import PanelKeys.Proofs.Typing.Overlay
import PanelKeys.Session.Controller

/-!
# The prompt on the screen

The application shows a prompt because it was told to, some inputs ago, and hides it because it was
told to.  The user takes what it shows for the state of the sequence that is being typed, so the two
must never part: no prompt may outlive its sequence, and none may be out of date.

Signals draw the overlay of the interpreter's state (`Stepped.draws`), so two things remain: the
controller carries the signals of a turn out to the last one, and nothing else touches the overlay.

* `Controller.Input`, `Controller.step`, `Controller.Reachable` — what can reach a controller, and
  what it can become;
* `prompt_outOfReach`, `prompt_perform` — commands and the application's own changes leave the
  overlay alone;
* `prompt_applyTurn` — a turn that is carried out leaves the overlay that its signals draw;
* **`prompt_shown_iff_typing`** — the application shows the prompt of the sequence, or none.
-/

namespace PanelKeys

/-- What can reach a controller. -/
inductive Controller.Input where
  | key (press : KeyPress) (now : Instant)
  | timer (token : DeadlineToken) (now : Instant)
  | tick
  | copyFinished (what : String) (answer : Except ClipboardError Unit)
  | takeCopies
  | settings (settings : Settings)
  /-- the application changes by itself -/
  | edit (edit : HostEdit)

/-! ## What leaves the overlay alone -/

namespace Host

lemma prompt_invoke (id : String) (h : Host) : (h.invoke id).2.prompt = h.prompt := by
  simp only [invoke]
  split <;> rfl

lemma prompt_toggleNode (index : Nat) (h : Host) : (h.toggleNode index).2.prompt = h.prompt := by
  simp only [toggleNode]
  split <;> rfl

lemma prompt_toggleAll (h : Host) : h.toggleAll.2.prompt = h.prompt := by
  simp only [toggleAll]
  split <;> rfl

lemma prompt_removeRow (index : Nat) (h : Host) : (h.removeRow index).prompt = h.prompt := by
  simp only [removeRow]
  split <;> rfl

lemma prompt_writeText (cell : CellId) (text : String) (h : Host) :
    (h.writeText cell text).2.prompt = h.prompt := by
  simp only [writeText]
  split <;> rfl

/-- The application's own changes are not to the overlay. -/
lemma prompt_perform (edit : HostEdit) (h : Host) : (h.perform edit).2.prompt = h.prompt := by
  cases edit with
  | removeRow index => exact prompt_removeRow index h
  | writeText cell text => exact prompt_writeText cell text h
  | invoke id => exact prompt_invoke id h
  | toggleNode index => exact prompt_toggleNode index h
  | toggleAll => exact prompt_toggleAll h
  | pushScalar | pushVector | pushHeader | clearRows | addToggle | addCommand | setNodes | overwrite
  | notify => rfl

/-- Commands do not touch the overlay, whether they succeed or fail. -/
lemma prompt_outOfReach : OutOfReach prompt where
  store _ _ := rfl
  invoke h id := prompt_invoke id h
  toggleNode h index := prompt_toggleNode index h
  toggleAll := prompt_toggleAll

end Host

namespace Controller

/-! ## Turns that are carried out -/

lemma prompt_report (outcome : Outcome) (c : Controller) :
    (c.report outcome).host.prompt = c.host.prompt := by
  cases outcome <;> rfl

lemma prompt_runCommand (command : Command) (c : Controller) :
    (c.runCommand command).host.prompt = c.host.prompt := by
  have hexecute := Host.prompt_outOfReach.execute c.session c.host command
  simp only [runCommand]
  split
  · exact (prompt_report _ _).trans hexecute
  · exact hexecute

lemma interpreter_runCommand (command : Command) (c : Controller) :
    (c.runCommand command).interpreter = c.interpreter := by
  simp only [runCommand]
  split
  · next outcome _ => cases outcome <;> rfl
  · rfl

lemma prompt_applySignal (c : Controller) (s : Signal) :
    (c.applySignal s).host.prompt = s.overlay c.host.prompt := by
  cases s with
  | showPrompt prompt | hidePrompt | rejected why => rfl
  | resolved command => exact prompt_runCommand command c

lemma interpreter_applySignal (c : Controller) (s : Signal) :
    (c.applySignal s).interpreter = c.interpreter := by
  cases s with
  | showPrompt prompt | hidePrompt | rejected why => rfl
  | resolved command => exact interpreter_runCommand command c

lemma prompt_foldl_applySignal (signals : List Signal) (c : Controller) :
    (signals.foldl applySignal c).host.prompt = overlayAfter c.host.prompt signals := by
  induction signals generalizing c with
  | nil => rfl
  | cons s rest ih =>
      rw [List.foldl_cons, ih, prompt_applySignal]
      rfl

lemma interpreter_foldl_applySignal (signals : List Signal) (c : Controller) :
    (signals.foldl applySignal c).interpreter = c.interpreter := by
  induction signals generalizing c with
  | nil => rfl
  | cons s rest ih => rw [List.foldl_cons, ih, interpreter_applySignal]

lemma prompt_applyTurn (t : Turn) (c : Controller) :
    (c.applyTurn t).host.prompt = overlayAfter c.host.prompt t.signals :=
  prompt_foldl_applySignal t.signals { c with interpreter := t.interpreter }

lemma interpreter_applyTurn (t : Turn) (c : Controller) :
    (c.applyTurn t).interpreter = t.interpreter :=
  interpreter_foldl_applySignal t.signals { c with interpreter := t.interpreter }

/-! ## Runs -/

def step (c : Controller) : Input → Controller
  | .key press now => (c.handleKey press now).2
  | .timer token now => c.handleDeadline token now
  | .tick => c.tick.2
  | .copyFinished what answer => c.copyFinished what answer
  | .takeCopies => c.takeCopies.2
  | .settings settings => c.applySettings settings
  | .edit edit => c.mapHost fun h => (h.perform edit).2

/-- What a new controller over an application without a prompt can become. -/
inductive Reachable : Controller → Prop where
  | new (host : Host) (settings : Settings) (bare : host.prompt = none) :
      Reachable (new host settings)
  | step {c : Controller} (input : Input) (h : Reachable c) : Reachable (c.step input)

/-- The application shows what belongs to the state of the interpreter. -/
structure ShowsSequence (c : Controller) : Prop where
  coherent : c.interpreter.Coherent
  prompt : c.host.prompt = c.interpreter.overlay

lemma ShowsSequence.of_eq {c c' : Controller} (h : c.ShowsSequence)
    (hinterpreter : c'.interpreter = c.interpreter) (hprompt : c'.host.prompt = c.host.prompt) :
    c'.ShowsSequence where
  coherent := by
    rw [hinterpreter]
    exact h.coherent
  prompt := by rw [hinterpreter, hprompt, h.prompt]

/-- Carrying out the turn of any input keeps the two together. -/
lemma ShowsSequence.applyTurn {c : Controller} (h : c.ShowsSequence) (input : Interpreter.Input) :
    (c.applyTurn (c.interpreter.step input)).ShowsSequence where
  coherent := by
    rw [interpreter_applyTurn]
    exact h.coherent.step input
  prompt := by
    rw [interpreter_applyTurn, prompt_applyTurn, h.prompt]
    exact (h.coherent.stepped input).draws.leads

/-- **One step keeps the prompt and the sequence together.** -/
theorem ShowsSequence.step {c : Controller} (h : c.ShowsSequence) (input : Input) :
    (c.step input).ShowsSequence := by
  cases input with
  | key press now => exact h.applyTurn (.key press now)
  | timer token now => exact h.applyTurn (.timer token now)
  | tick => exact h.of_eq rfl (Host.prompt_outOfReach.reconcile c.session c.host)
  | copyFinished what answer => cases answer <;> exact h.of_eq rfl rfl
  | takeCopies => exact h.of_eq rfl rfl
  | settings settings =>
      have hturn := h.applyTurn
        (.reconfigure settings.bindingTable settings.viewMenu settings.sequenceTimeout)
      exact hturn.of_eq rfl rfl
  | edit edit => exact h.of_eq rfl (Host.prompt_perform edit c.host)

theorem Reachable.showsSequence {c : Controller} (h : c.Reachable) : c.ShowsSequence := by
  induction h with
  | new host settings bare => exact ⟨Interpreter.coherent_of_idle rfl rfl, bare⟩
  | step input _ ih => exact ih.step input

/-- **The application shows the prompt of the sequence that is being typed, and none at rest**: in
every state that can be reached, under the tables of that state. -/
theorem prompt_shown_iff_typing {c : Controller} (h : c.Reachable) :
    (c.interpreter.mode = .idle → c.host.prompt = none)
      ∧ (c.interpreter.mode ≠ .idle →
          c.host.prompt
            = some (c.interpreter.mode.prompt c.interpreter.bindings c.interpreter.menu)) := by
  have hprompt := h.showsSequence.prompt
  constructor
  · intro hidle
    rw [hprompt, Interpreter.overlay_of_idle hidle]
  · intro htyping
    rw [hprompt, Interpreter.overlay_of_not_idle htyping]
    rfl

/-- The view menu is open when the settings change; opened again, it has the new entry at its end
and the renamed one in its place. -/
theorem prompt_shown_after_menu_changed :
    let settings : Settings :=
      { viewOptions := [⟨'k', "option:lights", some "Lights"⟩,
        ⟨'e', "option:edges", some "Outline"⟩,
          ⟨'x', "none", none⟩, ⟨'y', "none", none⟩, ⟨'z', "none", none⟩] }
    let v : KeyPress := ⟨.char 'v', {}⟩
    let reloaded := ((new .empty {}).step (.key v 0)).step (.settings settings)
    let c := (reloaded.step (.edit (.pushScalar "Length" "12.7"))).step (.key v 40)
    c.Reachable ∧ reloaded.host.prompt = none ∧ c.interpreter.mode ≠ .idle
      ∧ c.host.prompt = some ⟨"v", [⟨"g", "Grid"⟩, ⟨"e", "Outline"⟩, ⟨"w", "Wireframe"⟩,
          ⟨"p", "Perspective"⟩, ⟨"t", "Transparency"⟩, ⟨"k", "Lights"⟩]⟩ := by
  intro settings v reloaded c
  have hreloaded : reloaded.Reachable := .step _ (.step _ (.new _ _ rfl))
  have hreach : c.Reachable := .step _ (.step _ hreloaded)
  have htyping : c.interpreter.mode ≠ .idle := by decide +kernel
  refine ⟨hreach, (prompt_shown_iff_typing hreloaded).1 (by decide +kernel), htyping, ?_⟩
  rw [(prompt_shown_iff_typing hreach).2 htyping]
  decide +kernel

end Controller

end PanelKeys
