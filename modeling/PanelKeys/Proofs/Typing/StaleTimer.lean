import PanelKeys.Proofs.Typing.Run

/-!
# Timers of deadlines that are gone

A timer that has been set up goes off some time, and by then its sequence may have gone on, ended,
or been dropped.  The instant does not tell: the clock may repeat itself, and then two deadlines are
for the same instant.  What tells is the number of the token, which no later arming bears until the
numbers begin again.

* `countAlong` — how often something happens in a run;
* `arms`, `armings` — the inputs that arm the deadline, and how many of a run do;
* `heeds`, `timesHeeded` — the timers with a token that come to anything, and how many of a run do;
* `Coherent.generation_run` — **the number of the deadline counts the armings**;
* `Coherent.pending_ne_of_gone` — hence a token that has gone does not come back;
* **`gone_timer_is_unheeded`** — and its timer is not heeded, in the whole run.
-/

namespace PanelKeys

deriving instance DecidableEq for Turn

namespace Interpreter

variable {m : Interpreter} {token : DeadlineToken} {inputs : List Input}

/-! ## Counting in a run -/

lemma interpreter_run_append (before after : List Input) (m : Interpreter) :
    (m.run (before ++ after)).interpreter = ((m.run before).interpreter.run after).interpreter := by
  induction after using List.reverseRecOn with
  | nil => rw [List.append_nil, run_nil]
  | append_singleton after input ih =>
      rw [← List.append_assoc, run_concat, run_concat]
      show ((m.run (before ++ after)).interpreter.step input).interpreter = _
      rw [ih]
      rfl

lemma interpreter_run_cons (input : Input) (rest : List Input) (m : Interpreter) :
    (m.run (input :: rest)).interpreter = ((m.step input).interpreter.run rest).interpreter :=
  interpreter_run_append [input] rest m

/-- How often something happens in a run, where it depends on an input and the state that the input
meets. -/
def countAlong (happens : Interpreter → Input → Bool) : List Input → Interpreter → Nat
  | [], _ => 0
  | input :: rest, m => (happens m input).toNat + countAlong happens rest (m.step input).interpreter

lemma countAlong_append (happens : Interpreter → Input → Bool) (before after : List Input)
    (m : Interpreter) :
    countAlong happens (before ++ after) m
      = countAlong happens before m + countAlong happens after (m.run before).interpreter := by
  induction before generalizing m with
  | nil => simp [countAlong]
  | cons input rest ih =>
      rw [List.cons_append, countAlong, countAlong, ih, interpreter_run_cons, Nat.add_assoc]

/-- Whether an input arms the deadline: a token waits after it that did not wait before. -/
def arms (m : Interpreter) (input : Input) : Bool :=
  decide ((m.step input).interpreter.pending ≠ none
    ∧ (m.step input).interpreter.pending ≠ m.pending)

/-- How often the deadline is armed in a run. -/
def armings (inputs : List Input) (m : Interpreter) : Nat := countAlong arms inputs m

lemma armings_cons (input : Input) (rest : List Input) (m : Interpreter) :
    armings (input :: rest) m
      = (m.arms input).toNat + armings rest (m.step input).interpreter := rfl

lemma armings_append (before after : List Input) (m : Interpreter) :
    armings (before ++ after) m = armings before m + armings after (m.run before).interpreter :=
  countAlong_append arms before after m

/-- Whether an input is a timer that brings back this token and comes to anything. -/
def heeds (token : DeadlineToken) (m : Interpreter) : Input → Bool
  | .timer token' now => decide (token' = token ∧ m.handleDeadline token' now ≠ ⟨m, [], false⟩)
  | _ => false

/-- How often a timer that brings back this token comes to anything in a run. -/
def timesHeeded (token : DeadlineToken) (inputs : List Input) (m : Interpreter) : Nat :=
  countAlong (heeds token) inputs m

lemma timesHeeded_cons (input : Input) (rest : List Input) (m : Interpreter) :
    timesHeeded token (input :: rest) m
      = (heeds token m input).toNat + timesHeeded token rest (m.step input).interpreter := rfl

/-! ## The number of the deadline -/

lemma arms_eq_false_of_unarmed {input : Input} (h : (m.step input).interpreter.pending = none) :
    m.arms input = false := by
  simp [arms, h]

lemma arms_eq_false_of_same {input : Input} (h : (m.step input).interpreter = m) :
    m.arms input = false := by
  simp [arms, h]

/-- A deadline with a new number has been armed. -/
lemma Coherent.arms_of_generation (hm : m.Coherent) {input : Input} {armed : DeadlineToken}
    (harmed : (m.step input).interpreter.pending = some armed)
    (hnew : armed.generation = m.deadline.generation + 1) : m.arms input = true := by
  have hne : some armed ≠ m.pending := by
    intro hsame
    have hold : armed.generation = m.deadline.generation := hm.generation_eq armed hsame.symm
    rw [hold] at hnew
    simp at hnew
  simp [arms, harmed, hne]

/-- A key arms the deadline exactly if the sequence waits after it. -/
lemma Coherent.generation_key (hm : m.Coherent) (press : KeyPress) (now : Instant) :
    (m.step (.key press now)).interpreter.deadline.generation
      = m.deadline.generation + UInt64.ofNat (m.arms (.key press now)).toNat := by
  rcases hm.handleKey_restsOrWaits press now with hrest | ⟨mode, -, -, hwait⟩
  · have hstep : (m.step (.key press now)).interpreter = (m.keyedAt now).atRest := hrest
    have hunarmed : m.arms (.key press now) = false := arms_eq_false_of_unarmed (by rw [hstep]; rfl)
    rw [hunarmed, hstep]
    exact (UInt64.add_zero _).symm
  · have hstep : (m.step (.key press now)).interpreter = (m.keyedAt now).waiting mode now := hwait
    have harmed : (m.step (.key press now)).interpreter.pending
        = some ⟨m.deadline.generation + 1, now + m.timeout⟩ := by
      rw [hstep]
      rfl
    have harms : m.arms (.key press now) = true := hm.arms_of_generation harmed rfl
    rw [harms, hstep]
    rfl

/-- **An input that arms the deadline raises its number by one**, and no other input changes it. -/
lemma Coherent.generation_step (hm : m.Coherent) (input : Input) :
    (m.step input).interpreter.deadline.generation
      = m.deadline.generation + UInt64.ofNat (m.arms input).toNat := by
  have hkept (hunarmed : m.arms input = false) :
      m.deadline.generation = m.deadline.generation + UInt64.ofNat (m.arms input).toNat := by
    rw [hunarmed]
    exact (UInt64.add_zero _).symm
  cases input with
  | key press now => exact hm.generation_key press now
  | timer token now =>
      cases hfires : m.deadline.fires token now with
      | true =>
          have hstep : (m.step (.timer token now)).interpreter = m.atRest := by
            rw [Interpreter.step, hm.handleDeadline_of_fires hfires]
          rw [hstep]
          exact hkept (arms_eq_false_of_unarmed (by rw [hstep]; rfl))
      | false =>
          have hstep : (m.step (.timer token now)).interpreter = m := by
            rw [Interpreter.step, handleDeadline_of_not_fires hfires]
          rw [hstep]
          exact hkept (arms_eq_false_of_same hstep)
  | reset => exact hkept (arms_eq_false_of_unarmed rfl)
  | reconfigure bindings menu timeout => exact hkept (arms_eq_false_of_unarmed rfl)

/-- **The number of the deadline counts the armings** of a run, beginning again after the largest
number. -/
theorem Coherent.generation_run (hm : m.Coherent) (inputs : List Input) :
    (m.run inputs).interpreter.deadline.generation
      = m.deadline.generation + UInt64.ofNat (armings inputs m) := by
  induction inputs generalizing m with
  | nil => exact (UInt64.add_zero _).symm
  | cons input rest ih =>
      rw [interpreter_run_cons, ih (hm.step input), hm.generation_step, armings_cons,
        UInt64.ofNat_add, UInt64.add_assoc]

/-! ## Tokens that have gone -/

/-- Without an arming the token that waits goes on waiting, or none waits. -/
lemma pending_run_of_armings_eq_zero (h : armings inputs m = 0) :
    (m.run inputs).interpreter.pending = none ∨ (m.run inputs).interpreter.pending = m.pending := by
  induction inputs generalizing m with
  | nil => exact Or.inr rfl
  | cons input rest ih =>
      rw [armings_cons, Nat.add_eq_zero_iff] at h
      have harms : m.arms input = false := by simpa using h.1
      have hstep : (m.step input).interpreter.pending ≠ none →
          (m.step input).interpreter.pending = m.pending := by simpa [arms] using harms
      rw [interpreter_run_cons]
      rcases ih h.2 with hnone | hsame
      · exact Or.inl hnone
      · rw [hsame]
        by_cases hnone : (m.step input).interpreter.pending = none
        · exact Or.inl hnone
        · exact Or.inr (hstep hnone)

/-- **A token that has gone does not come back** before the numbers begin again: it would have to be
armed a second time, and the second arming has another number. -/
theorem Coherent.pending_ne_of_gone (hm : m.Coherent) {between after : List Input}
    (few : armings (between ++ after) m < UInt64.size) (was : m.pending = some token)
    (gone : (m.run between).interpreter.pending ≠ some token) :
    (m.run (between ++ after)).interpreter.pending ≠ some token := by
  intro hback
  have hnumber : m.deadline.generation + UInt64.ofNat (armings (between ++ after) m)
      = m.deadline.generation + 0 := by
    rw [← hm.generation_run, ← (hm.run _).generation_eq token hback, ← hm.generation_eq token was,
      UInt64.add_zero]
  have hzero : armings (between ++ after) m = 0 := by
    have hmod := congrArg UInt64.toNat ((UInt64.add_right_inj _).1 hnumber)
    rwa [UInt64.toNat_ofNat_of_lt' few] at hmod
  rw [armings_append, Nat.add_eq_zero_iff] at hzero
  rw [interpreter_run_append] at hback
  have hnone : (m.run between).interpreter.pending = none := by
    rcases pending_run_of_armings_eq_zero hzero.1 with hnone | hsame
    · exact hnone
    · exact absurd (hsame.trans was) gone
  rcases pending_run_of_armings_eq_zero hzero.2 with hend | hend
  · simp [hend] at hback
  · simp [hend, hnone] at hback

/-! ## Timers -/

/-- The timer of a token that does not wait is not heeded. -/
lemma handleDeadline_of_pending_ne (h : m.pending ≠ some token) (now : Instant) :
    m.handleDeadline token now = ⟨m, [], false⟩ := by
  have harmed : m.deadline.armed ≠ some token := h
  exact handleDeadline_of_not_fires (by simp [Deadline.fires, Deadline.isCurrent, harmed])

/-- The timer of the token that waits is heeded from its instant on. -/
lemma Coherent.handleDeadline_ne_iff (hm : m.Coherent) (hpending : m.pending = some token)
    (now : Instant) : m.handleDeadline token now ≠ ⟨m, [], false⟩ ↔ token.due ≤ now := by
  have harmed : m.deadline.armed = some token := hpending
  constructor
  · intro hheeded
    by_contra hearly
    exact hheeded (handleDeadline_of_not_fires (by simp [Deadline.fires, hearly]))
  · intro hdue
    rw [hm.handleDeadline_of_fires (fires_of_armed harmed hdue)]
    simp

/-- A timer that is heeded takes its token away. -/
lemma Coherent.pending_of_heeds (hm : m.Coherent) {input : Input} (h : heeds token m input = true) :
    m.pending = some token ∧ (m.step input).interpreter.pending = none := by
  cases input with
  | key press now => simp [heeds] at h
  | reset => simp [heeds] at h
  | reconfigure bindings menu timeout => simp [heeds] at h
  | timer token' now =>
      obtain ⟨rfl, hheeded⟩ : token' = token ∧ m.handleDeadline token' now ≠ ⟨m, [], false⟩ := by
        simpa [heeds] using h
      have hpending : m.pending = some token' := by
        by_contra hne
        exact hheeded (handleDeadline_of_pending_ne hne now)
      have hdue := (hm.handleDeadline_ne_iff hpending now).1 hheeded
      refine ⟨hpending, ?_⟩
      rw [Interpreter.step, hm.handleDeadline_of_fires (fires_of_armed hpending hdue)]
      rfl

lemma Coherent.timesHeeded_eq_zero (hm : m.Coherent)
    (gone : ∀ before after,
      inputs = before ++ after → (m.run before).interpreter.pending ≠ some token) :
    timesHeeded token inputs m = 0 := by
  induction inputs generalizing m with
  | nil => rfl
  | cons input rest ih =>
      have hunheeded : heeds token m input = false := by
        by_contra hheeds
        exact gone [] (input :: rest) rfl (hm.pending_of_heeds (by simpa using hheeds)).1
      have hrest : timesHeeded token rest (m.step input).interpreter = 0 := by
        refine ih (hm.step input) fun before after hsplit => ?_
        rw [← interpreter_run_cons]
        exact gone (input :: before) after (by rw [hsplit, List.cons_append])
      rw [timesHeeded_cons, hunheeded, hrest]
      rfl

/-- **A token is heeded once at most.** -/
theorem Coherent.timesHeeded_le_one (hm : m.Coherent) (few : armings inputs m < UInt64.size) :
    timesHeeded token inputs m ≤ 1 := by
  induction inputs generalizing m with
  | nil => exact Nat.zero_le 1
  | cons input rest ih =>
      rw [timesHeeded_cons]
      cases hheeds : heeds token m input with
      | false =>
          have hfew : armings rest (m.step input).interpreter < UInt64.size :=
            Nat.lt_of_le_of_lt (Nat.le_add_left _ _) few
          simpa using ih (hm.step input) hfew
      | true =>
          obtain ⟨was, hgone⟩ := hm.pending_of_heeds hheeds
          have hrest : timesHeeded token rest (m.step input).interpreter = 0 := by
            refine (hm.step input).timesHeeded_eq_zero fun before after hsplit => ?_
            have hfew : armings ([input] ++ before) m < UInt64.size := by
              refine Nat.lt_of_le_of_lt ?_ few
              show armings (input :: before) m ≤ _
              rw [hsplit, ← List.cons_append, armings_append]
              exact Nat.le_add_right _ _
            have hgone' : (m.run [input]).interpreter.pending ≠ some token := by
              show (m.step input).interpreter.pending ≠ some token
              rw [hgone]
              simp
            have hend := hm.pending_ne_of_gone hfew was hgone'
            rwa [List.singleton_append, interpreter_run_cons] at hend
          exact Nat.add_le_add_left (Nat.le_of_eq hrest) 1

/-- **The timer of a deadline that is gone is not heeded.**  In a run in which the numbers do not
begin again, a token that waited once and waits no longer, be it replaced, cancelled or taken by its
timer, stays without effect for the rest of the run, whenever its timer goes off; a token that waits
has an effect from its instant on; and no token is heeded a second time. -/
theorem gone_timer_is_unheeded {bindings : BindingTable} {menu : ViewMenu} {timeout : Nat}
    {inputs : List Input} (few : armings inputs (new bindings menu timeout) < UInt64.size) :
    let start := new bindings menu timeout
    let m := (start.run inputs).interpreter
    (∀ before between after token, inputs = before ++ between ++ after →
        (start.run before).interpreter.pending = some token →
        (start.run (before ++ between)).interpreter.pending ≠ some token →
        ∀ now, m.handleDeadline token now = ⟨m, [], false⟩)
      ∧ (∀ token, m.pending = some token →
          ∀ now, m.handleDeadline token now ≠ ⟨m, [], false⟩ ↔ token.due ≤ now)
      ∧ ∀ token, timesHeeded token inputs start ≤ 1 := by
  intro start m
  have hstart : start.Coherent := (Reachable.new bindings menu timeout).coherent
  refine ⟨fun before between after token hsplit was gone now => ?_,
    fun token hpending now => (hstart.run inputs).handleDeadline_ne_iff hpending now,
    fun token => hstart.timesHeeded_le_one few⟩
  have hfew : armings (between ++ after) (start.run before).interpreter < UInt64.size := by
    rw [hsplit, List.append_assoc, armings_append] at few
    exact Nat.lt_of_le_of_lt (Nat.le_add_left _ _) few
  rw [interpreter_run_append] at gone
  have hend := (hstart.run before).pending_ne_of_gone hfew was gone
  rw [← interpreter_run_append, ← List.append_assoc, ← hsplit] at hend
  exact handleDeadline_of_pending_ne hend now

/-- `3`, escape and `7`, all at the same instant: two deadlines for the same instant, and the timer
of the first is heard of while the second waits. -/
theorem gone_timer_is_unheeded_at_same_instant :
    let start := new .empty .empty 700
    let three : Input := .key ⟨.char '3', {}⟩ 100
    let escape : Input := .key ⟨.escape, {}⟩ 100
    let seven : Input := .key ⟨.char '7', {}⟩ 100
    let timer : Input := .timer ⟨1, 800⟩ 800
    let inputs := [three, escape, seven, timer]
    let m := (start.run inputs).interpreter
    armings inputs start < UInt64.size ∧ armings inputs start = 2
      ∧ (start.run [three]).interpreter.pending = some ⟨1, 800⟩
      ∧ (start.run [three, escape]).interpreter.pending ≠ some ⟨1, 800⟩
      ∧ m.pending = some ⟨2, 800⟩
      ∧ m.handleDeadline ⟨1, 800⟩ 800 = ⟨m, [], false⟩
      ∧ m.handleDeadline ⟨2, 800⟩ 800 ≠ ⟨m, [], false⟩
      ∧ timesHeeded ⟨2, 800⟩ inputs start ≤ 1 := by
  intro start three escape seven timer inputs m
  have htwo : armings inputs start = 2 := by decide +kernel
  have few : armings inputs start < UInt64.size := by rw [htwo]; decide
  have was : (start.run [three]).interpreter.pending = some ⟨1, 800⟩ := by decide +kernel
  have gone : (start.run [three, escape]).interpreter.pending ≠ some ⟨1, 800⟩ := by decide +kernel
  have hwaits : m.pending = some ⟨2, 800⟩ := by decide +kernel
  obtain ⟨hunheeded, hheeded, honce⟩ := gone_timer_is_unheeded few
  refine ⟨few, htwo, was, gone, hwaits, ?_, ?_, honce ⟨2, 800⟩⟩
  · exact hunheeded [three] [escape] [seven, timer] ⟨1, 800⟩ rfl was gone 800
  · exact (hheeded ⟨2, 800⟩ hwaits 800).2 (Int.le_refl 800)

end Interpreter

end PanelKeys
