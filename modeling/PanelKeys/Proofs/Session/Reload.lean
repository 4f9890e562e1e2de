import PanelKeys.Proofs.Session.ShownPrompt
import PanelKeys.Proofs.Typing.Renumber

/-!
# Other settings are a new start

When the settings change, the user expects the program that would come up under them now: the old
bindings, the old menu, the old timeout and whatever has been typed are gone.  Only the session goes
on, with its policy and with the lengths behind the converted cells.

* `Controller.restarted` — the controller that would come up, with the session of the old one;
* `Controller.carrying` — a controller with other numbers on its tokens, and with texts from before
  in front of its own;
* `applySettings_eq` — that is all by which a controller differs that has taken the settings;
* `step_carrying`, `run_carrying` — **and it makes no difference to any step**, so it makes none to
  a run;
* **`reload_is_restart`** — nobody can tell the two apart, whatever comes;
* `old_timer_unheeded` — not even a timer from before.
-/

namespace PanelKeys

namespace Host

/-- The application, told to hide its prompt if it shows one. -/
def withoutPrompt (h : Host) : Host := if h.prompt.isSome then h.hidePrompt else h

lemma prompt_withoutPrompt (h : Host) : h.withoutPrompt.prompt = none := by
  rw [withoutPrompt]
  split
  · rfl
  · next hnone => simpa using hnone

/-- What is seen of the application without its overlay stays. -/
lemma view_withoutPrompt {α : Type} (view : Host → α) {h : Host}
    (hview : view h.hidePrompt = view h) :
    view h.withoutPrompt = view h := by
  rw [withoutPrompt]
  split
  · exact hview
  · rfl

end Host

namespace Controller

/-- A new controller under other settings, over the application as it is but without a prompt.  The
session goes on with the policy and the ledger. -/
def restarted (settings : Settings) (c : Controller) : Controller :=
  let fresh := new c.host.withoutPrompt settings
  { fresh with session.policy := c.session.policy, session.ledger := c.session.ledger }

/-- The inputs one after the other. -/
def run (c : Controller) (inputs : List Input) : Controller := inputs.foldl step c

lemma run_concat (c : Controller) (inputs : List Input) (input : Input) :
    c.run (inputs ++ [input]) = (c.run inputs).step input := by
  simp [run, List.foldl_append]

/-! ## Other numbers, and texts from before -/

/-- The same input where the tokens have other numbers. -/
def Input.renumbered (g : UInt64) : Input → Input
  | .timer token now => .timer (token.renumbered g) now
  | input => input

/-- The texts that wait for the clipboard are handed out. -/
def Input.handsOut : Input → Bool
  | .takeCopies => true
  | _ => false

/-- What is left of the texts from before. -/
def leftOf (held : List CopyJob) (inputs : List Input) : List CopyJob :=
  if inputs.any Input.handsOut then [] else held

lemma leftOf_concat (held : List CopyJob) (inputs : List Input) (input : Input) :
    leftOf held (inputs ++ [input]) = leftOf (leftOf held inputs) [input] := by
  simp only [leftOf, List.any_append]
  cases inputs.any Input.handsOut <;> simp

/-- The same controller with other numbers on its tokens; it has heard of its last key at another
time, and holds texts from before in front of its own. -/
def carrying (g : UInt64) (last : Option Instant) (held : List CopyJob) (c : Controller) :
    Controller :=
  { c with interpreter := c.interpreter.renumbered g last, copies := held ++ c.copies }

variable (g : UInt64) (last : Option Instant) (held : List CopyJob)

lemma report_carrying (outcome : Outcome) (c : Controller) :
    (c.carrying g last held).report outcome = (c.report outcome).carrying g last held := by
  cases outcome with
  | copy text what => simp [report, carrying]
  | action _ _ | units _ | visibility _ _ => rfl

lemma runCommand_carrying (command : Command) (c : Controller) :
    (c.carrying g last held).runCommand command = (c.runCommand command).carrying g last held := by
  have hsession : (c.carrying g last held).session = c.session := rfl
  have hhost : (c.carrying g last held).host = c.host := rfl
  simp only [runCommand, hsession, hhost]
  split
  · next outcome _ =>
      exact report_carrying g last held outcome { c with
        session := (c.session.execute c.host command).session
        host := (c.session.execute c.host command).host }
  · rfl

lemma applySignal_carrying (c : Controller) (s : Signal) :
    (c.carrying g last held).applySignal s = (c.applySignal s).carrying g last held := by
  cases s with
  | showPrompt prompt | hidePrompt | rejected why => rfl
  | resolved command => exact runCommand_carrying g last held command c

lemma applyTurn_carrying (last' : Option Instant) (t : Turn) (c : Controller) :
    (c.carrying g last held).applyTurn (t.map (Interpreter.renumbered g last'))
      = (c.applyTurn t).carrying g last' held := by
  have hsignals :
      t.signals.foldl applySignal (carrying g last' held { c with interpreter := t.interpreter })
        = carrying g last' held
          (t.signals.foldl applySignal { c with interpreter := t.interpreter }) :=
    List.foldl_hom (carrying g last' held) (applySignal_carrying g last' held)
  exact hsignals

lemma handleKey_carrying (press : KeyPress) (now : Instant) (c : Controller) :
    (c.carrying g last held).handleKey press now
      = ((c.handleKey press now).1, (c.handleKey press now).2.carrying g (some now) held) := by
  have hkey := Interpreter.handleKey_renumbered g last c.interpreter press now
  have hturn : (c.carrying g last held).interpreter.handleKey press now = _ := hkey
  simp only [handleKey, hturn, applyTurn_carrying]
  rfl

/-- **A step makes no difference between the two.** -/
lemma step_carrying (c : Controller) (input : Input) :
    ∃ last', (c.carrying g last held).step (input.renumbered g)
      = (c.step input).carrying g last' (leftOf held [input]) := by
  cases input with
  | key press now =>
      exact ⟨some now, congrArg Prod.snd (handleKey_carrying g last held press now c)⟩
  | timer token now =>
      have htimer := Interpreter.handleDeadline_renumbered g last c.interpreter token now
      refine ⟨last, ?_⟩
      show (c.carrying g last held).applyTurn
        ((c.interpreter.renumbered g last).handleDeadline _ now) = _
      rw [htimer]
      exact applyTurn_carrying g last held last _ c
  | settings settings =>
      refine ⟨last, ?_⟩
      have hreconfigure := Interpreter.reconfigure_renumbered g last c.interpreter
        settings.bindingTable settings.viewMenu settings.sequenceTimeout
      have hturn := applyTurn_carrying g last held last
        (c.interpreter.reconfigure settings.bindingTable settings.viewMenu
          settings.sequenceTimeout) c
      rw [← hreconfigure] at hturn
      exact congrArg (fun c : Controller => { c with
        session := c.session.reconfigure settings.actions settings.cameraViews
        interval := settings.reconcileInterval }) hturn
  | copyFinished what answer => exact ⟨last, by cases answer <;> rfl⟩
  | tick | takeCopies | edit _ => exact ⟨last, rfl⟩

lemma run_carrying (c : Controller) (inputs : List Input) :
    ∃ last', (c.carrying g last held).run (inputs.map (Input.renumbered g))
      = (c.run inputs).carrying g last' (leftOf held inputs) := by
  induction inputs using List.reverseRecOn with
  | nil => exact ⟨last, rfl⟩
  | append_singleton inputs input ih =>
      obtain ⟨earlier, hrun⟩ := ih
      obtain ⟨later, hstep⟩ := step_carrying g earlier (leftOf held inputs) (c.run inputs) input
      refine ⟨later, ?_⟩
      rw [List.map_append, List.map_singleton, run_concat, hrun, hstep, run_concat, leftOf_concat]

/-! ## The settings change -/

/-- Dropping what has been typed takes the prompt away, if one was up, and does nothing else. -/
lemma applyTurn_clear {c : Controller} (h : c.ShowsSequence) (m : Interpreter) :
    c.applyTurn { c.interpreter.clear with interpreter := m }
      = { c with interpreter := m, host := c.host.withoutPrompt } := by
  have hprompt := h.prompt
  by_cases hmode : c.interpreter.mode = .idle
  · rw [Interpreter.overlay_of_idle hmode] at hprompt
    simp [applyTurn, Interpreter.clear, Mode.isIdle, hmode, Host.withoutPrompt, hprompt]
  · rw [Interpreter.overlay_of_not_idle hmode] at hprompt
    simp [applyTurn, Interpreter.clear_eq hmode, applySignal, mapHost, Host.withoutPrompt, hprompt]

/-- **A controller that has taken other settings is a new one with other numbers**, which holds the
texts from before. -/
lemma applySettings_eq {c : Controller} (h : c.ShowsSequence) (settings : Settings) :
    c.applySettings settings
      = (c.restarted settings).carrying c.interpreter.deadline.generation c.interpreter.lastEvent
          c.copies := by
  rw [applySettings, Interpreter.reconfigure, Interpreter.reset, applyTurn_clear h]
  simp [restarted, carrying, new, Session.reconfigure, Interpreter.clear, Interpreter.renumbered,
    Deadline.renumbered, Deadline.cancel]

/-- The work is as it was: the session's policy and ledger, the panel, the actions and nodes of the
application, the texts for the clipboard, and the messages to the user. -/
structure SameWork (c c' : Controller) : Prop where
  policy : c'.session.policy = c.session.policy
  ledger : c'.session.ledger = c.session.ledger
  rows : c'.host.rows = c.host.rows
  store : c'.host.store = c.host.store
  actions : c'.host.actions = c.host.actions
  nodes : c'.host.nodes = c.host.nodes
  copies : c'.copies = c.copies
  notifications : c'.host.notifications = c.host.notifications

/-- Nobody can tell two controllers apart, but by the numbers of their tokens and by texts that one
of them holds from before. -/
structure Indistinct (g : UInt64) (held : List CopyJob) (a b : Controller) : Prop where
  taken (press : KeyPress) (now : Instant) : (a.handleKey press now).1 = (b.handleKey press now).1
  mode : a.interpreter.mode = b.interpreter.mode
  pending : a.pending = b.pending.map (·.renumbered g)
  host : a.host = b.host
  session : a.session = b.session
  report : a.tick.1 = b.tick.1
  interval : a.interval = b.interval
  copies : a.copies = held ++ b.copies

lemma indistinct_carrying (c : Controller) : (c.carrying g last held).Indistinct g held c where
  taken press now := by rw [handleKey_carrying]
  mode := rfl
  pending := rfl
  host := rfl
  session := rfl
  report := rfl
  interval := rfl
  copies := rfl

lemma sameWork_applySettings {c : Controller} (h : c.ShowsSequence) (settings : Settings) :
    c.SameWork (c.applySettings settings) := by
  have hmessages : c.host.hidePrompt.notifications = c.host.notifications :=
    (Host.notifications_write _ _).trans (List.append_nil _)
  rw [applySettings_eq h]
  exact {
    policy := rfl
    ledger := rfl
    rows := Host.view_withoutPrompt Host.rows rfl
    store := Host.view_withoutPrompt Host.store rfl
    actions := Host.view_withoutPrompt Host.actions rfl
    nodes := Host.view_withoutPrompt Host.nodes rfl
    copies := List.append_nil c.copies
    notifications := Host.view_withoutPrompt Host.notifications hmessages }

/-- **Other settings are a new start.**  They leave the work as it is and nothing typed, and from
then on nothing tells the controller from one that comes up under them with the old policy and
ledger: keys are taken or left alike, sequences and their deadlines are alike, and so are the
application, the session and the reports, whatever comes and however long.  Tokens correspond by the
number of armings before, and texts that waited for the clipboard wait until they are handed out. -/
theorem reload_is_restart {c : Controller} (h : c.Reachable) (settings : Settings) :
    let reloaded := c.applySettings settings
    let g := c.interpreter.deadline.generation
    c.SameWork reloaded
      ∧ reloaded.interpreter.mode = .idle ∧ reloaded.pending = none ∧ reloaded.host.prompt = none
      ∧ ∀ inputs : List Input,
          (reloaded.run (inputs.map (Input.renumbered g))).Indistinct g (leftOf c.copies inputs)
            ((c.restarted settings).run inputs) := by
  intro reloaded g
  have hshows := h.showsSequence
  have heq : reloaded = (c.restarted settings).carrying g c.interpreter.lastEvent c.copies :=
    applySettings_eq hshows settings
  refine ⟨sameWork_applySettings hshows settings, ?_⟩
  rw [heq]
  refine ⟨rfl, rfl, Host.prompt_withoutPrompt c.host, fun inputs => ?_⟩
  obtain ⟨last, hrun⟩ :=
    run_carrying g c.interpreter.lastEvent c.copies (c.restarted settings) inputs
  rw [hrun]
  exact indistinct_carrying g last _ _

/-- Inches are shown and `y` has been typed when the settings change; then row 1 is copied by a
count, an axis and a timeout. -/
theorem reload_is_restart_while_yanking :
    let y : KeyPress := ⟨.char 'y', {}⟩
    let panel := (Host.empty.pushScalar "Length" "12.7").2
    let c := ((new panel {}).step (.key ⟨.char 'u', {}⟩ 0)).step (.key y 10)
    let settings : Settings := { sequenceTimeoutMs := 60, cameraViews := [] }
    let g := c.interpreter.deadline.generation
    let inputs : List Input :=
      [.key ⟨.char '1', {}⟩ 100, .edit (.overwrite 2 "25.4"), .tick, .key y 150,
        .timer ⟨2, 250⟩ 260]
    let reloaded := (c.applySettings settings).run (inputs.map (Input.renumbered g))
    c.Reachable ∧ c.pending = some ⟨1, 1010⟩ ∧ g = 1 ∧ c.SameWork (c.applySettings settings)
      ∧ reloaded.Indistinct g [] ((c.restarted settings).run inputs)
      ∧ reloaded.copies = [⟨"1\"", "row 1"⟩] := by
  intro y panel c settings g inputs reloaded
  have hreach : c.Reachable := .step _ (.step _ (.new _ _ rfl))
  obtain ⟨hsame, -, -, -, hruns⟩ := reload_is_restart hreach settings
  exact ⟨hreach, by decide +kernel, by decide +kernel, hsame, hruns inputs, by decide +kernel⟩

/-! ## Timers from before -/

variable {g} {c : Controller}

lemma numberedSince_step {n : Nat} (h : c.interpreter.NumberedSince g n)
    (hm : c.interpreter.Coherent)
    (input : Input) : (c.step input).interpreter.NumberedSince g (n + 1) := by
  have hsame := h.mono (Nat.le_succ n)
  cases input with
  | key press now =>
      have hkey := h.stepped (hm.stepped (.key press now))
      rwa [← interpreter_applyTurn _ c] at hkey
  | timer token now =>
      have htimer := h.stepped (hm.stepped (.timer token now))
      rwa [← interpreter_applyTurn _ c] at htimer
  | settings settings =>
      have hreconfigure := h.stepped (hm.stepped
        (.reconfigure settings.bindingTable settings.viewMenu settings.sequenceTimeout))
      rwa [← interpreter_applyTurn _ c] at hreconfigure
  | copyFinished what answer => cases answer <;> exact hsame
  | tick | takeCopies | edit _ => exact hsame

lemma numberedSince_run (h : c.interpreter.NumberedSince g 0) (hshows : c.ShowsSequence)
    (inputs : List Input) :
    (c.run inputs).interpreter.NumberedSince g inputs.length ∧ (c.run inputs).ShowsSequence := by
  induction inputs using List.reverseRecOn with
  | nil => exact ⟨h, hshows⟩
  | append_singleton inputs input ih =>
      rw [run_concat, List.length_append, List.length_singleton]
      exact ⟨numberedSince_step ih.1 ih.2.coherent input, ih.2.step input⟩

/-- **A timer that was set up before the settings changed is not heeded**, whatever has come
since. -/
theorem old_timer_unheeded (h : c.Reachable) {token : DeadlineToken}
    (htoken : c.pending = some token)
    (settings : Settings) (inputs : List Input) (few : inputs.length < UInt64.size)
    (now : Instant) : ((c.applySettings settings).run inputs).handleDeadline token now
      = (c.applySettings settings).run inputs := by
  have hshows := h.showsSequence
  have hnumber :
      (c.applySettings settings).interpreter.NumberedSince c.interpreter.deadline.generation 0 := by
    rw [applySettings_eq hshows]
    exact ⟨0, Nat.le_refl 0, rfl, fun harmed => absurd rfl harmed⟩
  obtain ⟨hsince, hafter⟩ := numberedSince_run hnumber (hshows.step (.settings settings)) inputs
  have hold := hshows.coherent.generation_eq token htoken
  rw [handleDeadline, hsince.unheeded hafter.coherent few hold now]
  rfl

end Controller

end PanelKeys
