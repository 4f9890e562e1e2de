import PanelKeys.Proofs.Number.Count
import PanelKeys.Proofs.Typing.Run

/-!
# Phrases

A few keys in a row are a phrase, and each phrase has one meaning.  The same letters stand in
several of them: `y` begins a phrase, names an axis and confirms one, and `v` both opens the view
menu and closes a count.  What keeps the phrases apart is the mode in which a key finds the
interpreter.

* `Numeral` — a count as it is typed, and its value;
* `Phrase` — what can be typed, with its keys and its meaning, the commands and complaints it comes
  to;
* `Typed`, `Said` — inputs that type some letters in time, and inputs that say a phrase, which for
  some is to type it and wait; `exists_typed`, that there are such inputs;
* `Goes` — **the keys that lead on in each mode**, and `processChord_leadsTo`, that they do;
* `Typed.leadsTo_counting` — digits add up to a count;
* **`phrase_has_its_meaning`** — a phrase that is said comes to its meaning and to nothing else.
-/

namespace PanelKeys

open PanelKeys.Number
open PanelKeys.Panel
open PanelKeys.Text

/-! ## What can be said -/

/-- A count as it is typed: decimal digits, at least one. -/
structure Numeral where
  digits : List Char
  ne_nil : digits ≠ []
  isDigit : ∀ c ∈ digits, c.isDigit = true

/-- The number that the digits spell, held at the largest number of 64 bits. -/
def Numeral.value (count : Numeral) : Nat := min (decimalValue count.digits) (2 ^ 64 - 1)

lemma Numeral.countOfDigits_eq (count : Numeral) : countOfDigits count.digits = count.value :=
  countOfDigits_eq_min count.isDigit

/-- What can be said with keys. -/
inductive Phrase where
  /-- `3v` -/
  | view (count : Numeral)
  /-- `3h` -/
  | visibility (count : Numeral)
  /-- `3xy` -/
  | component (count : Numeral) (axis : Axis)
  /-- `3x`, and no key after it -/
  | alone (count : Numeral) (axis : Axis)
  /-- `yy` -/
  | primary
  /-- `v` and any key, whether or not the menu has it -/
  | entry (key : Char)

/-- The letters of a phrase. -/
def Phrase.keys : Phrase → List Char
  | view count => count.digits ++ ['v']
  | visibility count => count.digits ++ ['h']
  | component count axis => count.digits ++ [axis.toChar, 'y']
  | alone count axis => count.digits ++ [axis.toChar]
  | primary => ['y', 'y']
  | entry key => ['v', key]

/-- Whether it takes the deadline to complete a phrase. -/
def Phrase.waits : Phrase → Bool
  | alone _ _ => true
  | _ => false

/-- What a key of the view menu stands for. -/
def ViewMenu.outcome (menu : ViewMenu) (key : Char) : Signal :=
  match menu.get? key with
  | some entry => .resolved entry.command
  | none => .rejected (.unknownMenuKey (.plain key))

/-- The commands and complaints that a phrase comes to. -/
def Phrase.meaning (menu : ViewMenu) : Phrase → List Signal
  | view count => [.resolved (.setCameraView count.value)]
  | visibility count =>
      [.resolved (.toggleVisibility (if count.value = 0 then .all else .node count.value))]
  | component count axis => [.resolved (.yankRowAxis count.value axis)]
  | alone count .y => [.resolved (if count.value = 0 then .yankTable else .yankRow count.value)]
  | alone _ _ => []
  | primary => [.resolved .yankPrimary]
  | entry key => [menu.outcome key]

/-! ## Where a turn leads -/

/-- A command or a complaint. -/
def Signal.isOutcome : Signal → Bool
  | .resolved _ | .rejected _ => true
  | .showPrompt _ | .hidePrompt => false

/-- The turn has these commands and complaints, in this order and no others, and leaves this
mode. -/
structure Turn.LeadsTo (t : Turn) (outcomes : List Signal) (mode : Mode) : Prop where
  outcomes : t.signals.filter Signal.isOutcome = outcomes
  mode : t.interpreter.mode = mode

/-- What has said nothing so far says what it goes on to say. -/
lemma Turn.LeadsTo.andThen {t : Turn} {between mode : Mode} {outcomes : List Signal}
    {next : Interpreter → Turn} (h : t.LeadsTo [] between)
    (hnext : (next t.interpreter).LeadsTo outcomes mode) :
    (t.andThen next).LeadsTo outcomes mode where
  outcomes := by
    show (t.signals ++ (next t.interpreter).signals).filter Signal.isOutcome = outcomes
    rw [List.filter_append, h.outcomes, hnext.outcomes, List.nil_append]
  mode := hnext.mode

namespace Interpreter

lemma enter_leadsTo (mode : Mode) (now : Instant) (m : Interpreter) :
    ((m.enter mode now).taking true).LeadsTo [] mode :=
  ⟨rfl, rfl⟩

lemma resolve_leadsTo {m : Interpreter} (command : Command) (h : m.mode ≠ .idle) :
    ((m.resolve command).taking true).LeadsTo [.resolved command] .idle := by
  rw [resolve_eq command h]
  exact ⟨rfl, rfl⟩

lemma reject_leadsTo {m : Interpreter} (why : Rejection) (h : m.mode ≠ .idle) :
    ((m.reject why).taking true).LeadsTo [.rejected why] .idle := by
  rw [reject_eq why h]
  exact ⟨rfl, rfl⟩

/-! ## One key -/

/-- The plain keys that lead on from a mode, what they say and the mode that they lead to. -/
inductive Goes (menu : ViewMenu) : Mode → Char → List Signal → Mode → Prop where
  | firstDigit {c : Char} (digit : c.isDigit = true) : Goes menu .idle c [] (.counting [c])
  | nextDigit (digits : List Char) {c : Char} (digit : c.isDigit = true) :
      Goes menu (.counting digits) c [] (.counting (digits ++ [c]))
  | axis (digits : List Char) (axis : Axis) :
      Goes menu (.counting digits) axis.toChar [] (.countingAxis digits axis)
  | view (digits : List Char) :
      Goes menu (.counting digits) 'v' [.resolved (.setCameraView (countOfDigits digits))] .idle
  | visibility (digits : List Char) :
      Goes menu (.counting digits) 'h' [.resolved (.toggleNodeOrAll (countOfDigits digits))] .idle
  | component (digits : List Char) (axis : Axis) :
      Goes menu (.countingAxis digits axis) 'y'
        [.resolved (.yankRowAxis (countOfDigits digits) axis)] .idle
  | firstYank : Goes menu .idle 'y' [] .yanking
  | secondYank : Goes menu .yanking 'y' [.resolved .yankPrimary] .idle
  | openMenu : Goes menu .idle 'v' [] .choosingView
  | choose (key : Char) : Goes menu .choosingView key [menu.outcome key] .idle

lemma chooseView_leadsTo {m : Interpreter} (key : Char) (h : m.mode ≠ .idle) :
    (m.chooseView (.plain key)).LeadsTo [m.menu.outcome key] .idle := by
  simp only [chooseView, Chord.plain, Bool.false_eq_true, if_false, ViewMenu.outcome]
  cases m.menu.get? key with
  | some entry => exact resolve_leadsTo entry.command h
  | none => exact reject_leadsTo _ h

/-- **A key that leads on does what it is said to do**, whatever is bound. -/
lemma processChord_leadsTo {m : Interpreter} {mode mode' : Mode} {c : Char} {outcomes : List Signal}
    (goes : Goes m.menu mode c outcomes mode') (hmode : m.mode = mode) (now : Instant) :
    (m.processChord (.plain c) now).LeadsTo outcomes mode' := by
  have hdigit : (Chord.plain c).isDigit = c.isDigit := by simp [Chord.isDigit, Chord.plain]
  cases goes with
  | firstDigit digit =>
      simp only [processChord, hmode, startChord, hdigit, digit, if_true]
      exact enter_leadsTo (.counting [c]) now m
  | nextDigit digits digit =>
      simp only [processChord, hmode, continueCount, hdigit, digit, if_true]
      exact enter_leadsTo (.counting (digits ++ [c])) now m
  | axis digits axis =>
      have hletter : axis.toChar.isDigit = false := by cases axis <;> rfl
      have haxis : axisOf? (.plain axis.toChar) = some axis := by simp [axisOf?, Chord.plain]
      simp only [processChord, hmode, continueCount, hdigit, hletter, haxis, Bool.false_eq_true,
        if_false]
      exact enter_leadsTo (.countingAxis digits axis) now m
  | view digits =>
      simp only [processChord, hmode]
      exact resolve_leadsTo (.setCameraView (countOfDigits digits)) (by simp [hmode])
  | visibility digits =>
      simp only [processChord, hmode]
      exact resolve_leadsTo (.toggleNodeOrAll (countOfDigits digits)) (by simp [hmode])
  | component digits axis =>
      simp only [processChord, hmode]
      exact resolve_leadsTo (.yankRowAxis (countOfDigits digits) axis) (by simp [hmode])
  | firstYank =>
      simp only [processChord, hmode]
      exact enter_leadsTo .yanking now m
  | secondYank =>
      simp only [processChord, hmode]
      exact resolve_leadsTo .yankPrimary (by simp [hmode])
  | openMenu =>
      simp only [processChord, hmode]
      exact enter_leadsTo .choosingView now m
  | choose key =>
      simp only [processChord, hmode]
      exact chooseView_leadsTo c (by simp [hmode])

/-! ## Keys in a row -/

/-- Inputs that type letters: each as a plain key, before the deadline that waits for it. -/
inductive Typed (m : Interpreter) : List Char → List Input → Prop where
  | nil : Typed m [] []
  | concat {cs : List Char} {inputs : List Input} {c : Char} {press : KeyPress} {now : Instant}
      (before : Typed m cs inputs) (plain : press.chord? = some (.plain c))
      (inTime : (m.run inputs).interpreter.InTime now) :
      Typed m (cs ++ [c]) (inputs ++ [.key press now])

/-- Inputs that say a phrase: they type it and, if that does not complete it, bring back the
deadline's token when its instant has come. -/
inductive Said (m : Interpreter) (phrase : Phrase) : List Input → Prop where
  | atOnce {inputs : List Input} (typed : Typed m phrase.keys inputs)
      (complete : phrase.waits = false) :
      Said m phrase inputs
  | atDeadline {inputs : List Input} {token : DeadlineToken} {now : Instant}
      (typed : Typed m phrase.keys inputs) (waits : phrase.waits = true)
      (armed : (m.run inputs).interpreter.pending = some token) (due : token.due ≤ now) :
      Said m phrase (inputs ++ [.timer token now])

/-- **All letters that are keys by themselves can be typed**, whatever deadline there is: a capital
is no such letter, since it takes shift. -/
theorem exists_typed (m : Interpreter) {cs : List Char} (hcs : ∀ c ∈ cs, isUppercase c = false) :
    ∃ inputs, Typed m cs inputs := by
  induction cs using List.reverseRecOn with
  | nil => exact ⟨[], .nil⟩
  | append_singleton cs c ih =>
      obtain ⟨inputs, typed⟩ := ih fun d hd => hcs d (by simp [hd])
      obtain ⟨now, hin⟩ := (m.run inputs).interpreter.exists_inTime
      have hplain : KeyPress.chord? ⟨.char c, {}⟩ = some (.plain c) := by
        simp [KeyPress.chord?, Modifiers.hasCommand, Chord.ofTyped, Chord.plain, hcs c (by simp)]
      exact ⟨_, typed.concat hplain hin⟩

/-- The last letter was typed behind the others, and is a matter of the grammar. -/
lemma Typed.exists_last {m : Interpreter} {cs : List Char} {c : Char} {inputs : List Input}
    (h : Typed m (cs ++ [c]) inputs) :
    ∃ before now, Typed m cs before
      ∧ m.run inputs
        = (m.run before).andThen fun m => (m.keyedAt now).processChord (.plain c) now := by
  generalize hletters : cs ++ [c] = letters at h
  cases h with
  | nil => simp at hletters
  | @concat cs' before c' press now typed plain inTime =>
      obtain ⟨hcs, hc⟩ := List.append_inj' hletters rfl
      obtain rfl : cs = cs' := hcs
      obtain rfl : c = c' := by simpa using hc
      refine ⟨before, now, typed, ?_⟩
      rw [run_concat]
      simp only [Turn.andThen, step, handleKey_of_chord inTime plain]

/-- Typing changes no table. -/
lemma Typed.menu_eq {m : Interpreter} {cs : List Char} {inputs : List Input} (h : Typed m cs inputs)
    (hm : m.Coherent) : (m.run inputs).interpreter.menu = m.menu := by
  induction h with
  | nil => rfl
  | @concat _ before _ press now _ _ _ ih =>
      rw [run_concat]
      show ((m.run before).interpreter.handleKey press now).interpreter.menu = m.menu
      rcases (hm.run before).handleKey_restsOrWaits press now with hrest | ⟨mode, -, -, hwait⟩
      · rw [hrest]
        exact ih
      · rw [hwait]
        exact ih

/-- One letter more, behind letters that have said nothing. -/
lemma Typed.leadsTo_concat {m : Interpreter} {cs : List Char} {c : Char} {inputs : List Input}
    {mode mode' : Mode} {outcomes : List Signal} (h : Typed m (cs ++ [c]) inputs) (hm : m.Coherent)
    (hbefore : ∀ {before}, Typed m cs before → (m.run before).LeadsTo [] mode)
    (goes : Goes m.menu mode c outcomes mode') : (m.run inputs).LeadsTo outcomes mode' := by
  obtain ⟨before, now, typed, hrun⟩ := h.exists_last
  rw [← typed.menu_eq hm] at goes
  rw [hrun]
  exact (hbefore typed).andThen
    (processChord_leadsTo (m := (m.run before).interpreter.keyedAt now) goes
      (hbefore typed).mode now)

/-- Nothing typed leads nowhere. -/
lemma Typed.leadsTo_idle {m : Interpreter} {inputs : List Input} (h : Typed m [] inputs)
    (hidle : m.mode = .idle) : (m.run inputs).LeadsTo [] .idle := by
  generalize hletters : ([] : List Char) = letters at h
  cases h with
  | nil => exact ⟨rfl, hidle⟩
  | concat before plain inTime => simp at hletters

/-- **Digits say nothing and add up to a count.** -/
lemma Typed.leadsTo_counting {m : Interpreter} {digits : List Char} {inputs : List Input}
    (h : Typed m digits inputs) (hm : m.Coherent) (hidle : m.mode = .idle) (hne : digits ≠ [])
    (hdigits : ∀ c ∈ digits, c.isDigit = true) : (m.run inputs).LeadsTo [] (.counting digits) := by
  induction digits using List.reverseRecOn generalizing inputs with
  | nil => exact absurd rfl hne
  | append_singleton digits c ih =>
      have hc : c.isDigit = true := hdigits c (by simp)
      have hbefore : ∀ d ∈ digits, d.isDigit = true := fun d hd => hdigits d (by simp [hd])
      -- the first digit is taken at rest, each later one by the count that it is added to
      by_cases hfirst : digits = []
      · subst hfirst
        exact h.leadsTo_concat hm (fun typed => typed.leadsTo_idle hidle) (.firstDigit hc)
      · exact h.leadsTo_concat hm (fun typed => ih typed hfirst hbefore) (.nextDigit digits hc)

/-- A count and its axis say nothing yet. -/
lemma Typed.leadsTo_countingAxis {m : Interpreter} {count : Numeral} {axis : Axis}
    {inputs : List Input}
    (h : Typed m (count.digits ++ [axis.toChar]) inputs) (hm : m.Coherent)
    (hidle : m.mode = .idle) : (m.run inputs).LeadsTo [] (.countingAxis count.digits axis) :=
  h.leadsTo_concat hm (fun typed => typed.leadsTo_counting hm hidle count.ne_nil count.isDigit)
    (.axis count.digits axis)

/-! ## The phrases -/

/-- A phrase that takes no deadline is over with its last key. -/
lemma Typed.leadsTo_meaning {m : Interpreter} {phrase : Phrase} {inputs : List Input}
    (h : Typed m phrase.keys inputs) (hm : m.Coherent) (hidle : m.mode = .idle)
    (hcomplete : phrase.waits = false) : (m.run inputs).LeadsTo (phrase.meaning m.menu) .idle := by
  have hcounting : ∀ (count : Numeral) {before}, Typed m count.digits before →
      (m.run before).LeadsTo [] (.counting count.digits) := fun count _ typed =>
    typed.leadsTo_counting hm hidle count.ne_nil count.isDigit
  cases phrase with
  | view count =>
      rw [Phrase.meaning, ← count.countOfDigits_eq]
      exact h.leadsTo_concat hm (hcounting count) (.view count.digits)
  | visibility count =>
      rw [Phrase.meaning, ← count.countOfDigits_eq]
      exact h.leadsTo_concat hm (hcounting count) (.visibility count.digits)
  | component count axis =>
      rw [Phrase.meaning, ← count.countOfDigits_eq]
      have htyped : Typed m ((count.digits ++ [axis.toChar]) ++ ['y']) inputs := by
        simpa [Phrase.keys] using h
      exact htyped.leadsTo_concat hm (fun typed => typed.leadsTo_countingAxis hm hidle)
        (.component count.digits axis)
  | alone count axis => simp [Phrase.waits] at hcomplete
  | primary =>
      have htyped : Typed m (([] ++ ['y']) ++ ['y']) inputs := h
      exact htyped.leadsTo_concat hm
        (fun typed => typed.leadsTo_concat hm (fun typed => typed.leadsTo_idle hidle) .firstYank)
        .secondYank
  | entry key =>
      have htyped : Typed m (([] ++ ['v']) ++ [key]) inputs := h
      exact htyped.leadsTo_concat hm
        (fun typed => typed.leadsTo_concat hm (fun typed => typed.leadsTo_idle hidle) .openMenu)
        (.choose key)

/-- What a count and its axis say at the deadline. -/
lemma timeoutWord_eq_meaning (menu : ViewMenu) (count : Numeral) (axis : Axis) :
    (Mode.countingAxis count.digits axis).timeoutWord = (Phrase.alone count axis).meaning menu := by
  cases axis with
  | x | z => rfl
  | y =>
      rw [Mode.timeoutWord, Phrase.meaning, count.countOfDigits_eq]
      rfl

/-- The deadline completes a count and its axis. -/
lemma Typed.leadsTo_meaning_at_deadline {m : Interpreter} {count : Numeral} {axis : Axis}
    {inputs : List Input} {token : DeadlineToken} {now : Instant}
    (h : Typed m (count.digits ++ [axis.toChar]) inputs) (hm : m.Coherent) (hidle : m.mode = .idle)
    (harmed : (m.run inputs).interpreter.pending = some token) (hdue : token.due ≤ now) :
    (m.run (inputs ++ [.timer token now])).LeadsTo
      ((Phrase.alone count axis).meaning m.menu) .idle := by
  have hbefore := h.leadsTo_countingAxis hm hidle
  rw [run_concat]
  refine hbefore.andThen ?_
  show ((m.run inputs).interpreter.handleDeadline token now).LeadsTo _ _
  rw [(hm.run inputs).handleDeadline_of_fires (fires_of_armed harmed hdue), hbefore.mode,
    timeoutWord_eq_meaning m.menu]
  refine ⟨?_, rfl⟩
  cases axis <;> rfl

/-- **A phrase that is said comes to its meaning and to nothing else**, from any state with nothing
typed: digits say nothing and are kept as they are typed; a phrase that has to wait has said
nothing, and has a deadline to wait for; and once a phrase is complete nothing is left of it. -/
theorem phrase_has_its_meaning {m : Interpreter} (h : m.Reachable) (hidle : m.mode = .idle) :
    (∀ (count : Numeral) (inputs : List Input), Typed m count.digits inputs →
        (m.run inputs).LeadsTo [] (.counting count.digits))
      ∧ (∀ (phrase : Phrase) (inputs : List Input),
          Typed m phrase.keys inputs → phrase.waits = true →
          (∃ mode, (m.run inputs).LeadsTo [] mode)
            ∧ ∃ token, (m.run inputs).interpreter.pending = some token)
      ∧ ∀ (phrase : Phrase) (inputs : List Input), Said m phrase inputs →
          (m.run inputs).LeadsTo (phrase.meaning m.menu) .idle := by
  have hm := h.coherent
  refine ⟨fun count inputs typed => ?_, fun phrase inputs typed hwaits => ?_,
    fun phrase inputs said => ?_⟩
  · exact typed.leadsTo_counting hm hidle count.ne_nil count.isDigit
  · cases phrase with
    | alone count axis =>
        have hleads := typed.leadsTo_countingAxis hm hidle
        refine ⟨⟨_, hleads⟩, Option.ne_none_iff_exists'.1 fun hnone => ?_⟩
        have hmode : (m.run inputs).interpreter.mode = .idle := (hm.run inputs).idle_iff.2 hnone
        simp [hleads.mode] at hmode
    | view | visibility | component | primary | entry => simp [Phrase.waits] at hwaits
  · cases said with
    | atOnce typed complete => exact typed.leadsTo_meaning hm hidle complete
    | atDeadline typed waits armed due =>
        cases phrase with
        | alone count axis => exact typed.leadsTo_meaning_at_deadline hm hidle armed due
        | view | visibility | component | primary | entry => simp [Phrase.waits] at waits

/-- `0y`, the second key ten milliseconds before the deadline, and then the deadline: the whole
table. -/
theorem phrase_has_its_meaning_for_row_zero :
    let m := ((new .empty .empty 700).run [.key ⟨.named "tab", {}⟩ 40]).interpreter
    let zero : Numeral := ⟨['0'], by simp, by simp⟩
    let digit : Input := .key ⟨.char '0', {}⟩ 100
    let axis : Input := .key ⟨.char 'y', {}⟩ 790
    let deadline : Input := .timer ⟨2, 1490⟩ 1490
    m.Reachable ∧ m.mode = .idle ∧ Typed m zero.digits [digit]
      ∧ Typed m (Phrase.alone zero .y).keys [digit, axis]
      ∧ Said m (.alone zero .y) [digit, axis, deadline]
      ∧ (m.run [digit]).LeadsTo [] (.counting ['0'])
      ∧ (∃ mode, (m.run [digit, axis]).LeadsTo [] mode)
      ∧ (m.run [digit, axis, deadline]).LeadsTo [.resolved .yankTable] .idle := by
  intro m zero digit axis deadline
  have hreach : m.Reachable := .step (.key ⟨.named "tab", {}⟩ 40) (.new .empty .empty 700)
  have hidle : m.mode = .idle := by decide +kernel
  have hzero : Typed m zero.digits [digit] := by
    have hchord : KeyPress.chord? ⟨.char '0', {}⟩ = some (.plain '0') := by decide +kernel
    have hin : (m.run []).interpreter.InTime 100 := by decide +kernel
    exact Typed.nil.concat hchord hin
  have htyped : Typed m (Phrase.alone zero .y).keys [digit, axis] := by
    have hchord : KeyPress.chord? ⟨.char 'y', {}⟩ = some (.plain 'y') := by decide +kernel
    have hin : (m.run [digit]).interpreter.InTime 790 := by decide +kernel
    exact hzero.concat hchord hin
  have hsaid : Said m (.alone zero .y) [digit, axis, deadline] := by
    have harmed : (m.run [digit, axis]).interpreter.pending = some ⟨2, 1490⟩ := by decide +kernel
    exact Said.atDeadline htyped rfl harmed (Int.le_refl 1490)
  obtain ⟨hcount, hwait, hmeaning⟩ := phrase_has_its_meaning hreach hidle
  refine ⟨hreach, hidle, hzero, htyped, hsaid, hcount zero [digit] hzero, ?_, ?_⟩
  · exact (hwait (.alone zero .y) [digit, axis] htyped rfl).1
  · have hzeroValue : zero.value = 0 := by decide +kernel
    have hsays := hmeaning (.alone zero .y) [digit, axis, deadline] hsaid
    rwa [Phrase.meaning, if_pos hzeroValue] at hsays

end Interpreter

end PanelKeys
