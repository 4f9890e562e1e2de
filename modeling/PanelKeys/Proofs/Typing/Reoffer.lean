import PanelKeys.Proofs.Typing.Run

/-!
# Keys that end a sequence

A key that does not go on with a sequence is not lost: the sequence ends, says what it has to say,
and the key is the first of another.  Nothing of the old sequence may be left when that happens,
neither its digits nor its axis nor its deadline, or the key would mean something else than it does
by itself.

* `Mode.DeadEnd` — the chords that lead nowhere from a mode;
* `Mode.abandonedWord` — what a sequence says when a key ends it;
* `processChord_of_deadEnd` — the sequence is over before the key is looked at;
* `Alike`, `startChord_alike` — **where a key leads by itself depends on the tables and the timeout
  only**;
* **`dead_end_is_first_key`** — so the key does what it does with nothing typed.
-/

namespace PanelKeys

open PanelKeys.Number
open PanelKeys.Panel

/-- The chords that do not go on with a sequence but end it. -/
def Mode.DeadEnd : Mode → Chord → Prop
  | .counting _, chord =>
      chord.isDigit = false ∧ ∀ key ∈ ['x', 'y', 'z', 'v', 'h'], chord.isPlain key = false
  | .countingAxis _ _, chord | .yanking, chord => chord.isPlain 'y' = false
  | .idle, _ | .choosingView, _ => False

instance : (mode : Mode) → (chord : Chord) → Decidable (mode.DeadEnd chord)
  | .counting _, chord =>
      inferInstanceAs (Decidable (chord.isDigit = false
        ∧ ∀ key ∈ ['x', 'y', 'z', 'v', 'h'], chord.isPlain key = false))
  | .countingAxis _ _, chord | .yanking, chord =>
      inferInstanceAs (Decidable (chord.isPlain 'y' = false))
  | .idle, _ | .choosingView, _ => inferInstanceAs (Decidable False)

/-- What a sequence says when a key ends it: `y` after a count is a row or the table, the other axes
are told that they make no sense, and a count or a `y` alone goes without a word. -/
def Mode.abandonedWord : Mode → List Signal
  | .countingAxis digits .y => [.resolved (.yankRowOrTable (countOfDigits digits))]
  | .countingAxis digits axis => [.rejected (.invalidSequence digits axis)]
  | _ => []

namespace Interpreter

/-! ## The end of the sequence -/

lemma axisOf?_eq_none {chord : Chord} (h : ∀ axis : Axis, chord.isPlain axis.toChar = false) :
    axisOf? chord = none := by
  simp only [axisOf?]
  split
  · rfl
  · next hshift =>
      cases haxis : Axis.ofChar? chord.key with
      | none => rfl
      | some axis =>
          have hplain := h axis
          rw [← Axis.eq_toChar_of_ofChar? haxis] at hplain
          simp [Chord.isPlain, hshift] at hplain

/-- An axis that is not confirmed has its word, and leaves the interpreter at rest. -/
lemma settleAxis_key_eq {m : Interpreter} {digits : List Char} {axis : Axis}
    (h : m.mode = .countingAxis digits axis) :
    m.settleAxis digits axis .key = ⟨m.atRest, .hidePrompt :: m.mode.abandonedWord, false⟩ := by
  have hne : m.mode ≠ .idle := by simp [h]
  rw [h]
  cases axis
  case y => exact resolve_eq _ hne
  case x | z => exact reject_eq _ hne

/-- **A dead end is taken up at rest**, behind the last word of the sequence. -/
lemma processChord_of_deadEnd {m : Interpreter} {chord : Chord} (h : m.mode.DeadEnd chord)
    (now : Instant) :
    m.processChord chord now
      = (⟨m.atRest, .hidePrompt :: m.mode.abandonedWord, false⟩ : Turn).andThen
          (startChord chord now) := by
  simp only [processChord]
  cases hmode : m.mode with
  | idle | choosingView => simp [hmode, Mode.DeadEnd] at h
  | counting digits =>
      rw [hmode] at h
      obtain ⟨hdigit, hplain⟩ := h
      have haxis : axisOf? chord = none := axisOf?_eq_none fun axis => by
        cases axis <;> exact hplain _ (by simp [Axis.toChar])
      have hv : chord.isPlain 'v' = false := hplain 'v' (by simp)
      have hh : chord.isPlain 'h' = false := hplain 'h' (by simp)
      simp only [continueCount, hdigit, haxis, hv, hh, Bool.false_eq_true, if_false]
      rw [clear_eq (by simp [hmode])]
      rfl
  | countingAxis digits axis =>
      have hy : chord.isPlain 'y' = false := by rwa [hmode] at h
      simp only [continueAxis, hy, Bool.false_eq_true, if_false]
      rw [settleAxis_key_eq hmode, hmode]
  | yanking =>
      have hy : chord.isPlain 'y' = false := by rwa [hmode] at h
      simp only [continueYank, hy, Bool.false_eq_true, if_false]
      rw [clear_eq (by simp [hmode])]
      rfl

/-! ## The key by itself -/

/-- The tables and the timeout are the same. -/
structure SameSettings (a b : Interpreter) : Prop where
  bindings : a.bindings = b.bindings
  menu : a.menu = b.menu
  timeout : a.timeout = b.timeout

/-- Two turns with the same signals and the same answer to the key, which leave the same sequence
behind, to be gone on with until the same instant. -/
structure Alike (t u : Turn) : Prop where
  signals : t.signals = u.signals
  consumed : t.consumed = u.consumed
  mode : t.interpreter.mode = u.interpreter.mode
  due : t.interpreter.pending.map (·.due) = u.interpreter.pending.map (·.due)

lemma enter_alike {a b : Interpreter} (same : SameSettings a b) (mode : Mode) (now : Instant) :
    Alike ((a.enter mode now).taking true) ((b.enter mode now).taking true) where
  signals := by simp [Turn.taking, enter, prompt, same.bindings, same.menu]
  consumed := rfl
  mode := rfl
  due := by simp [Turn.taking, enter, pending, Deadline.arm, same.timeout]

lemma startChord_alike {a b : Interpreter} (same : SameSettings a b) (chord : Chord)
    (now : Instant) :
    Alike (a.atRest.startChord chord now) (b.atRest.startChord chord now) := by
  have hrest : SameSettings a.atRest b.atRest := ⟨same.bindings, same.menu, same.timeout⟩
  simp only [startChord]
  by_cases hdigit : chord.isDigit = true
  · rw [if_pos hdigit, if_pos hdigit]
    exact enter_alike hrest (.counting [chord.key]) now
  · rw [if_neg hdigit, if_neg hdigit]
    by_cases hy : chord.isPlain 'y' = true
    · rw [if_pos hy, if_pos hy]
      exact enter_alike hrest .yanking now
    · rw [if_neg hy, if_neg hy]
      by_cases hv : chord.isPlain 'v' = true
      · rw [if_pos hv, if_pos hv]
        exact enter_alike hrest .choosingView now
      · rw [if_neg hv, if_neg hv, hrest.bindings]
        cases b.atRest.bindings.get? chord with
        | none => exact ⟨rfl, rfl, rfl, rfl⟩
        | some entry => exact ⟨rfl, rfl, rfl, rfl⟩

/-! ## The key after the sequence -/

/-- **A key that ends a sequence is the first key of another**: behind the end of the sequence and
its last word come the signals that an interpreter with nothing typed gives for this key, and the
answer, the state and the deadline are that interpreter's. -/
theorem dead_end_is_first_key {m idle : Interpreter} {press : KeyPress} {chord : Chord}
    {now : Instant}
    (hchord : press.chord? = some chord) (hdead : m.mode.DeadEnd chord) (hin : m.InTime now)
    (hreach : idle.Reachable) (hidle : idle.mode = .idle) (same : SameSettings m idle) :
    let t := m.handleKey press now
    let u := idle.handleKey press now
    t.consumed = u.consumed
      ∧ t.interpreter.mode = u.interpreter.mode
      ∧ t.interpreter.pending.map (·.due) = u.interpreter.pending.map (·.due)
      ∧ t.signals = .hidePrompt :: m.mode.abandonedWord ++ u.signals := by
  intro t u
  have hnone : idle.pending = none := hreach.coherent.idle_iff.1 hidle
  have hidleIn : idle.InTime now := by simp [InTime, hnone]
  have hrest : (idle.keyedAt now).atRest = idle.keyedAt now := atRest_eq_self hidle hnone
  have hu : u = (idle.keyedAt now).atRest.startChord chord now := by
    rw [hrest]
    show idle.handleKey press now = _
    rw [handleKey_of_chord hidleIn hchord, processChord]
    simp [keyedAt, hidle]
  have ht : t = Turn.andThen ⟨(m.keyedAt now).atRest, .hidePrompt :: m.mode.abandonedWord, false⟩
      (startChord chord now) := by
    show m.handleKey press now = _
    rw [handleKey_of_chord hin hchord]
    exact processChord_of_deadEnd (m := m.keyedAt now) hdead now
  have hsame : SameSettings (m.keyedAt now) (idle.keyedAt now) :=
    ⟨same.bindings, same.menu, same.timeout⟩
  have halike := startChord_alike hsame chord now
  rw [ht, hu]
  refine ⟨halike.consumed, halike.mode, halike.due, ?_⟩
  rw [← halike.signals]
  rfl

/-- `3x5`: the five is refused as an axis's confirmation and begins a count, as it does when it is
the first key after a binding. -/
theorem dead_end_is_first_key_after_axis :
    let bindings : BindingTable := .ofList [(.plain 'u', ⟨.toggleUnit, "Units"⟩)]
    let m :=
      ((new bindings .empty 700).run [.key ⟨.char '3', {}⟩ 0, .key ⟨.char 'x', {}⟩ 90]).interpreter
    let idle := ((new bindings .empty 700).run [.key ⟨.char 'u', {}⟩ 40]).interpreter
    let five : KeyPress := ⟨.char '5', {}⟩
    five.chord? = some (.plain '5') ∧ m.mode.DeadEnd (.plain '5') ∧ m.InTime 300 ∧ idle.Reachable
      ∧ idle.mode = .idle ∧ SameSettings m idle
      ∧ (m.handleKey five 300).interpreter.mode = .counting ['5']
      ∧ (m.handleKey five 300).interpreter.pending.map (·.due) = some 1000
      ∧ (m.handleKey five 300).signals
          = .hidePrompt :: [.rejected (.invalidSequence ['3'] .x)]
            ++ (idle.handleKey five 300).signals := by
  intro bindings m idle five
  have hchord : five.chord? = some (.plain '5') := by decide +kernel
  have hmode : m.mode = .countingAxis ['3'] .x := by decide +kernel
  have hdead : m.mode.DeadEnd (.plain '5') := by decide +kernel
  have hin : m.InTime 300 := by decide +kernel
  have hreach : idle.Reachable := .step (.key ⟨.char 'u', {}⟩ 40) (.new bindings .empty 700)
  have hidle : idle.mode = .idle := by decide +kernel
  have same : SameSettings m idle := ⟨by decide +kernel, by decide +kernel, by decide +kernel⟩
  obtain ⟨-, hstate, hdue, hsignals⟩ := dead_end_is_first_key hchord hdead hin hreach hidle same
  rw [hmode] at hsignals
  refine ⟨hchord, hdead, hin, hreach, hidle, same, ?_, ?_, hsignals⟩
  · rw [hstate]
    decide +kernel
  · rw [hdue]
    decide +kernel

end Interpreter

end PanelKeys
