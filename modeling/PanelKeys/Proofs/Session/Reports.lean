import Mathlib.Data.List.Induction
import Mathlib.Data.List.Perm.Subperm
import PanelKeys.Proofs.Session.Frame
import PanelKeys.Session.EventLoop

/-!
# Every command is reported once

Whatever a command came to, the user is told so, and told once: at once, or for a copy when the
clipboard has answered.  Copies go their own ways: a text that was sent off is handed to the
clipboard at some moment, the clipboard answers at some later one, and the loop takes up the answer
later still, perhaps when the keys have long ended.

* `Brought`, `brought_applyTurn` — what a turn brings forth: one message or one text for each
  command and each rejection;
* `Errand`, `LiveLoop`, `LiveMove` — the loop with the texts that it has sent off, and a record of
  what has happened to them; moves come in any order;
* `Accounted`, `Accounted.step` — **nothing gets lost and nothing comes twice**, in one move;
* **`every_command_reported_once`** — hence in every run, until it returns and when it does;
* `exists_returned` — and return it can.
-/

namespace PanelKeys

open scoped List

/-! ## What a turn brings forth -/

/-- The signals that the user is told about. -/
def Signal.isReported : Signal → Bool
  | .resolved _ => true
  | .rejected _ => true
  | .showPrompt _ => false
  | .hidePrompt => false

namespace Controller

/-- What a controller has brought forth since: messages to the user and texts for the clipboard, so
many of both together. -/
def Brought (c : Controller) (count : Nat) (c' : Controller) : Prop :=
  ∃ messages jobs, c'.host.notifications = c.host.notifications ++ messages
    ∧ c'.copies = c.copies ++ jobs ∧ messages.length + jobs.length = count

lemma Brought.nothing {c c' : Controller}
    (hnotifications : c'.host.notifications = c.host.notifications)
    (hcopies : c'.copies = c.copies) : c.Brought 0 c' :=
  ⟨[], [], by rw [hnotifications, List.append_nil], by rw [hcopies, List.append_nil], rfl⟩

lemma Brought.trans {c c' c'' : Controller} {m n : Nat} (h : c.Brought m c')
    (h' : c'.Brought n c'') :
    c.Brought (m + n) c'' := by
  obtain ⟨messages, jobs, hmessages, hjobs, hm⟩ := h
  obtain ⟨messages', jobs', hmessages', hjobs', hn⟩ := h'
  refine ⟨messages ++ messages', jobs ++ jobs', ?_, ?_, ?_⟩
  · rw [hmessages', hmessages, List.append_assoc]
  · rw [hjobs', hjobs, List.append_assoc]
  · rw [List.length_append, List.length_append]
    omega

lemma brought_notify (message : String) (positive : Bool) (c : Controller) :
    c.Brought 1 (c.mapHost (·.notify message positive)) :=
  ⟨[⟨message, positive⟩], [], Host.notifications_write _ _, (List.append_nil _).symm, rfl⟩

/-- A command that was carried out brings one message, or one text. -/
lemma brought_report (outcome : Outcome) (c : Controller) : c.Brought 1 (c.report outcome) := by
  cases outcome with
  | copy text what => exact ⟨[], [⟨text, what⟩], (List.append_nil _).symm, rfl, rfl⟩
  | action _ _ | units _ | visibility _ _ => exact brought_notify _ true c

lemma brought_runCommand (command : Command) (c : Controller) :
    c.Brought 1 (c.runCommand command) := by
  have hcommand : c.Brought 0 { c with
      session := (c.session.execute c.host command).session
      host := (c.session.execute c.host command).host } :=
    .nothing (Host.notifications_outOfReach.execute c.session c.host command) rfl
  simp only [runCommand]
  split
  · next outcome _ => exact hcommand.trans (brought_report outcome _)
  · next why _ => exact hcommand.trans (brought_notify why.message false _)

lemma brought_applySignal (c : Controller) (s : Signal) :
    c.Brought ([s].countP Signal.isReported) (c.applySignal s) := by
  cases s with
  | showPrompt prompt =>
      exact .nothing ((Host.notifications_write _ _).trans (List.append_nil _)) rfl
  | hidePrompt => exact .nothing ((Host.notifications_write _ _).trans (List.append_nil _)) rfl
  | rejected why => exact brought_notify why.message false c
  | resolved command => exact brought_runCommand command c

lemma brought_foldl_applySignal (signals : List Signal) (c : Controller) :
    c.Brought (signals.countP Signal.isReported) (signals.foldl applySignal c) := by
  induction signals generalizing c with
  | nil => exact .nothing rfl rfl
  | cons s rest ih =>
      rw [← List.singleton_append, List.countP_append, List.foldl_append]
      exact (brought_applySignal c s).trans (ih (c.applySignal s))

/-- **A turn brings one message or one text for every command and every rejection**, and nothing
else. -/
theorem brought_applyTurn (t : Turn) (c : Controller) :
    c.Brought (t.signals.countP Signal.isReported) (c.applyTurn t) :=
  brought_foldl_applySignal t.signals { c with interpreter := t.interpreter }

/-- What the user is told when the clipboard has answered. -/
def copyNotice (what : String) : ClipboardAnswer → Notification
  | .ok () => ⟨s!"Copied {what}", true⟩
  | .error why => ⟨s!"Copy failed: {why.message}", false⟩

lemma notifications_copyFinished (what : String) (answer : ClipboardAnswer) (c : Controller) :
    (c.copyFinished what answer).host.notifications
      = c.host.notifications ++ [copyNotice what answer] := by
  cases answer <;> exact Host.notifications_write _ _

lemma copies_copyFinished (what : String) (answer : ClipboardAnswer) (c : Controller) :
    (c.copyFinished what answer).copies = c.copies := by
  cases answer <;> rfl

end Controller

/-! ## One input of the loop -/

/-- Anything but an answer of the clipboard. -/
def LoopInput.isFresh : LoopInput → Bool
  | .answered _ _ => false
  | _ => true

namespace EventLoop

lemma depart_of_quiet (now : Instant) {l : EventLoop} (h : l.controller.copies = []) :
    l.depart now = l := by
  obtain ⟨c, flights⟩ := l
  cases c
  cases h
  simp [depart, Controller.takeCopies]

/-- The signals of the interpreter on an input. -/
def signals (input : LoopInput) (now : Instant) (l : EventLoop) : List Signal :=
  match input with
  | .key press => (l.controller.interpreter.handleKey press now).signals
  | .timer =>
      match l.controller.pending with
      | some token => (l.controller.interpreter.handleDeadline token now).signals
      | none => []
  | .settings settings =>
      (l.controller.interpreter.reconfigure settings.bindingTable settings.viewMenu
        settings.sequenceTimeout).signals
  | .tick | .answered _ _ => []

lemma brought_handle {input : LoopInput} (hfresh : input.isFresh) (now : Instant) (l : EventLoop) :
    l.controller.Brought ((l.signals input now).countP Signal.isReported)
      (l.handle input now).controller
      ∧ (l.handle input now).flights = l.flights := by
  cases input with
  | key press => exact ⟨Controller.brought_applyTurn _ l.controller, rfl⟩
  | timer =>
      simp only [handle, signals]
      cases l.controller.pending with
      | some token => exact ⟨Controller.brought_applyTurn _ l.controller, rfl⟩
      | none => exact ⟨.nothing rfl rfl, rfl⟩
  | tick => exact ⟨.nothing (Host.notifications_outOfReach.reconcile _ _) rfl, rfl⟩
  | settings settings => exact ⟨Controller.brought_applyTurn _ l.controller, rfl⟩
  | answered index answer => simp [LoopInput.isFresh] at hfresh

end EventLoop

/-! ## The loop with the texts that it has sent off -/

/-- How far a text has come that was sent off. -/
inductive Stage where
  | waiting
  /-- the clipboard has the text -/
  | writing
  /-- the clipboard has answered, and the loop has not heard of it -/
  | answered (answer : ClipboardAnswer)
  deriving DecidableEq

/-- A text that was sent off, with its place among all the texts of the run. -/
structure Errand where
  order : CopyJob × Nat
  stage : Stage := .waiting
  deriving DecidableEq

namespace Errand

def waiting? (e : Errand) : Option (CopyJob × Nat) :=
  match e.stage with
  | .waiting => some e.order
  | _ => none

def writing? (e : Errand) : Option (CopyJob × Nat) :=
  match e.stage with
  | .writing => some e.order
  | _ => none

def answered? (e : Errand) : Option ((CopyJob × Nat) × ClipboardAnswer) :=
  match e.stage with
  | .answered answer => some (e.order, answer)
  | _ => none

/-- Texts that are sent off when so many have been before. -/
def sent (before : Nat) (jobs : List CopyJob) : List Errand :=
  (jobs.zipIdx before).map fun order => { order }

end Errand

/-- The event loop at work: each text on its way is an errand, which goes at its own pace.  What has
happened is kept in the order in which it happened. -/
structure LiveLoop where
  loop : EventLoop
  errands : List Errand := []
  /-- the keys have ended -/
  closed : Bool := false
  signals : List Signal := []
  /-- the texts that the controller has given away -/
  produced : List CopyJob := []
  /-- the texts that the clipboard was given -/
  handed : List (CopyJob × Nat) := []
  /-- what the clipboard has answered -/
  answers : List ((CopyJob × Nat) × ClipboardAnswer) := []
  /-- what the controller was told: its words for the text, and the answer -/
  finished : List ((String × Nat) × ClipboardAnswer) := []

/-- What can happen next. -/
inductive LiveMove where
  /-- a key, a timer, a tick or other settings, as long as the keys have not ended -/
  | input (input : LoopInput) (now : Instant)
  /-- an errand gives its text to the clipboard -/
  | write (index : Nat)
  /-- the clipboard answers an errand -/
  | reply (index : Nat) (answer : ClipboardAnswer)
  /-- the loop takes up the answer that an errand has brought back -/
  | hear (index : Nat) (now : Instant)
  /-- the keys end -/
  | close

namespace LiveLoop

/-- A controller before its first input. -/
def start (c : Controller) : LiveLoop := { loop := { controller := c } }

/-- The loop brings an input to its end, and every text that it produced becomes an errand. -/
def take (input : LoopInput) (now : Instant) (s : LiveLoop) : LiveLoop :=
  let jobs := (s.loop.handle input now).controller.copies
  { s with
    loop := s.loop.step input now
    errands := s.errands ++ Errand.sent s.produced.length jobs
    signals := s.signals ++ s.loop.signals input now
    produced := s.produced ++ jobs }

/-- The loop takes up an answer; when the keys have ended this is all that it does. -/
def hear (index : Nat) (place : Nat) (answer : ClipboardAnswer) (now : Instant) (s : LiveLoop) :
    LiveLoop :=
  { s with
    loop :=
      if s.closed then s.loop.handle (.answered index answer) now
      else s.loop.step (.answered index answer) now
    errands := s.errands.eraseIdx index
    finished := s.finished ++
      (s.loop.flights[index]?.map fun flight => ((flight.job.what, place), answer)).toList }

/-- One move; a move whose time has not come changes nothing. -/
def step (s : LiveLoop) : LiveMove → LiveLoop
  | .input input now => if s.closed || !input.isFresh then s else s.take input now
  | .write index =>
      match s.errands[index]? with
      | some ⟨order, .waiting⟩ =>
          { s with errands := s.errands.set index ⟨order, .writing⟩, handed := s.handed ++ [order] }
      | _ => s
  | .reply index answer =>
      match s.errands[index]? with
      | some ⟨order, .writing⟩ =>
          { s with
            errands := s.errands.set index ⟨order, .answered answer⟩
            answers := s.answers ++ [(order, answer)] }
      | _ => s
  | .hear index now =>
      match s.errands[index]? with
      | some ⟨order, .answered answer⟩ => s.hear index order.2 answer now
      | _ => s
  | .close => { s with closed := true }

def run (s : LiveLoop) (moves : List LiveMove) : LiveLoop := moves.foldl step s

/-- The loop returns when the keys have ended and every errand is done. -/
def Returned (s : LiveLoop) : Prop := s.closed = true ∧ s.errands = []

/-- The words for a text in place of the text itself. -/
def told (a : (CopyJob × Nat) × ClipboardAnswer) : (String × Nat) × ClipboardAnswer :=
  ((a.1.1.what, a.1.2), a.2)

end LiveLoop

/-! ## Nothing gets lost and nothing comes twice -/

namespace Errand

variable {before : Nat} {jobs : List CopyJob}

lemma waiting_sent : (sent before jobs).filterMap waiting? = jobs.zipIdx before := by
  rw [sent, List.filterMap_map]
  exact List.filterMap_some

lemma writing_sent : (sent before jobs).filterMap writing? = [] := by
  rw [sent, List.filterMap_map, List.filterMap_eq_nil_iff]
  exact fun _ _ => rfl

lemma answered_sent : (sent before jobs).filterMap answered? = [] := by
  rw [sent, List.filterMap_map, List.filterMap_eq_nil_iff]
  exact fun _ _ => rfl

lemma jobs_sent : (sent before jobs).map (·.order.1) = jobs := by
  rw [sent, List.map_map]
  exact List.zipIdx_map_fst before jobs

lemma length_sent : (sent before jobs).length = jobs.length := by
  rw [sent, List.length_map, List.length_zipIdx]

variable {errands : List Errand} {index : Nat} {e : Errand}

/-- An errand among the others. -/
lemma perm_cons_eraseIdx (h : errands[index]? = some e) :
    errands ~ e :: errands.eraseIdx index := by
  obtain ⟨hindex, rfl⟩ := List.getElem?_eq_some_iff.1 h
  exact (List.getElem_cons_eraseIdx_perm hindex).symm

lemma set_perm (h : errands[index]? = some e) (e' : Errand) :
    errands.set index e' ~ e' :: errands.eraseIdx index := by
  obtain ⟨hindex, -⟩ := List.getElem?_eq_some_iff.1 h
  exact List.set_perm_cons_eraseIdx hindex e'

/-- Another stage of an errand is not another text. -/
lemma jobs_set (h : errands[index]? = some e) (stage : Stage) :
    (errands.set index ⟨e.order, stage⟩).map (·.order.1) = errands.map (·.order.1) := by
  obtain ⟨hindex, rfl⟩ := List.getElem?_eq_some_iff.1 h
  refine List.ext_getElem? fun i => ?_
  rw [List.getElem?_map, List.getElem?_map, List.getElem?_set]
  by_cases hi : index = i
  · subst hi
    simp [hindex]
  · simp [hi]

end Errand

namespace LiveLoop

/-- What a run has to answer for.  Each text that the controller has given away waits or has been
given to the clipboard; of these each is being written or was answered; and of the answers each is
on its way back or was heard.  Signals are reported by messages, unless their text is still an
errand. -/
structure Accounted (c : Controller) (s : LiveLoop) : Prop where
  quiet : s.loop.controller.copies = []
  aligned : s.errands.map (·.order.1) = s.loop.flights.map (·.job)
  handed : s.produced.zipIdx ~ s.handed ++ s.errands.filterMap Errand.waiting?
  answered : s.handed ~ s.answers.map Prod.fst ++ s.errands.filterMap Errand.writing?
  finished : s.answers.map told ~ s.finished ++ (s.errands.filterMap Errand.answered?).map told
  reported : ∃ messages, s.loop.host.notifications = c.host.notifications ++ messages
    ∧ s.finished.map (fun f => Controller.copyNotice f.1.1 f.2) <+ messages
    ∧ messages.length + s.errands.length = s.signals.countP Signal.isReported

lemma accounted_start {c : Controller} (bare : c.copies = []) : (start c).Accounted c where
  quiet := bare
  aligned := rfl
  handed := .refl _
  answered := .refl _
  finished := .refl _
  reported := ⟨[], (List.append_nil _).symm, .refl _, rfl⟩

variable {c : Controller} {s : LiveLoop}

/-- An input: what it brings forth is told at once or becomes an errand. -/
lemma Accounted.take (h : s.Accounted c) {input : LoopInput} (hfresh : input.isFresh)
    (now : Instant) : (s.take input now).Accounted c := by
  obtain ⟨⟨messages, jobs, hmessages, hjobs, hcount⟩, hflights⟩ :=
    EventLoop.brought_handle hfresh now s.loop
  rw [h.quiet, List.nil_append] at hjobs
  obtain ⟨earlier, hearlier, htold, hreported⟩ := h.reported
  refine ⟨EventLoop.copies_depart _ _, ?_, ?_, ?_, ?_, earlier ++ messages, ?_, ?_, ?_⟩
  · simp only [LiveLoop.take, EventLoop.step, EventLoop.flights_depart, hjobs, hflights,
      List.map_append, Errand.jobs_sent, h.aligned, List.map_map]
    rw [List.append_cancel_left_eq]
    exact (List.map_id' jobs).symm
  · simp only [LiveLoop.take, hjobs, List.zipIdx_append, Nat.zero_add, List.filterMap_append,
      Errand.waiting_sent]
    rw [← List.append_assoc]
    exact h.handed.append_right _
  · simp only [LiveLoop.take, List.filterMap_append, Errand.writing_sent, List.append_nil]
    exact h.answered
  · simp only [LiveLoop.take, List.filterMap_append, Errand.answered_sent, List.append_nil]
    exact h.finished
  · rw [← List.append_assoc, ← hearlier]
    exact hmessages
  · exact htold.trans (List.sublist_append_left earlier messages)
  · simp only [LiveLoop.take, hjobs, List.length_append, Errand.length_sent, List.countP_append]
    omega

/-- One of those that were left is done. -/
lemma perm_one_done {α : Type} {all done left rest : List α} {a : α} (h : all ~ done ++ left)
    (hleft : left ~ a :: rest) : all ~ done ++ [a] ++ rest := by
  rw [List.append_assoc]
  exact h.trans (hleft.append_left done)

/-- One more is left. -/
lemma perm_one_more {α : Type} {all done left more : List α} {a : α} (h : all ~ done ++ left)
    (hmore : more ~ a :: left) : all ++ [a] ~ done ++ more :=
  calc all ++ [a] ~ a :: all := List.perm_append_singleton a all
    _ ~ a :: (done ++ left) := h.cons a
    _ ~ done ++ a :: left := List.perm_middle.symm
    _ ~ done ++ more := hmore.symm.append_left done

/-- An errand goes to the clipboard. -/
lemma Accounted.write (h : s.Accounted c) {index : Nat} {order : CopyJob × Nat}
    (he : s.errands[index]? = some ⟨order, .waiting⟩) :
    { s with
      errands := s.errands.set index ⟨order, .writing⟩
      handed := s.handed ++ [order] : LiveLoop }.Accounted c := by
  have hbefore := Errand.perm_cons_eraseIdx he
  have hafter := Errand.set_perm he ⟨order, .writing⟩
  obtain ⟨messages, hmessages, htold, hreported⟩ := h.reported
  refine ⟨h.quiet, (Errand.jobs_set he .writing).trans h.aligned, ?_, ?_, ?_, messages, hmessages,
    htold, ?_⟩
  · have hdone := perm_one_done h.handed (hbefore.filterMap Errand.waiting?)
    exact hdone.trans ((hafter.filterMap Errand.waiting?).symm.append_left _)
  · have hleft := hbefore.filterMap Errand.writing?
    exact perm_one_more (h.answered.trans (hleft.append_left _)) (hafter.filterMap Errand.writing?)
  · have hsame :=
      (hbefore.filterMap Errand.answered?).trans (hafter.filterMap Errand.answered?).symm
    exact h.finished.trans ((hsame.map told).append_left _)
  · rw [List.length_set]
    exact hreported

/-- The clipboard answers an errand. -/
lemma Accounted.reply (h : s.Accounted c) {index : Nat} {order : CopyJob × Nat}
    (he : s.errands[index]? = some ⟨order, .writing⟩) (answer : ClipboardAnswer) :
    { s with
      errands := s.errands.set index ⟨order, .answered answer⟩
      answers := s.answers ++ [(order, answer)] : LiveLoop }.Accounted c := by
  have hbefore := Errand.perm_cons_eraseIdx he
  have hafter := Errand.set_perm he ⟨order, .answered answer⟩
  obtain ⟨messages, hmessages, htold, hreported⟩ := h.reported
  refine ⟨h.quiet, (Errand.jobs_set he (.answered answer)).trans h.aligned, ?_, ?_, ?_, messages,
    hmessages, htold, ?_⟩
  · have hsame := (hbefore.filterMap Errand.waiting?).trans (hafter.filterMap Errand.waiting?).symm
    exact h.handed.trans (hsame.append_left _)
  · rw [List.map_append]
    have hdone := perm_one_done h.answered (hbefore.filterMap Errand.writing?)
    exact hdone.trans ((hafter.filterMap Errand.writing?).symm.append_left _)
  · rw [List.map_append]
    have hleft := (hbefore.filterMap Errand.answered?).map told
    exact perm_one_more (h.finished.trans (hleft.append_left _))
      ((hafter.filterMap Errand.answered?).map told)
  · rw [List.length_set]
    exact hreported

/-- What the loop does with an answer, whether or not the keys have ended: the controller is told
the words for the text that was written, and nothing else is on its way because of it. -/
lemma loop_hear {index : Nat} {flight : Flight} (hquiet : s.loop.controller.copies = [])
    (hflight : s.loop.flights[index]? = some flight) (place : Nat) (answer : ClipboardAnswer)
    (now : Instant) :
    (s.hear index place answer now).loop
      = { controller := s.loop.controller.copyFinished flight.job.what answer
          flights := s.loop.flights.eraseIdx index } := by
  have hcopies := Controller.copies_copyFinished flight.job.what answer s.loop.controller
  rw [hquiet] at hcopies
  simp only [LiveLoop.hear, EventLoop.step, EventLoop.handle, hflight]
  split
  · rfl
  · exact EventLoop.depart_of_quiet now hcopies

/-- The loop takes up an answer. -/
lemma Accounted.hear (h : s.Accounted c) {index : Nat} {order : CopyJob × Nat}
    {answer : ClipboardAnswer}
    (he : s.errands[index]? = some ⟨order, .answered answer⟩) (now : Instant) :
    (s.hear index order.2 answer now).Accounted c := by
  have hbefore := Errand.perm_cons_eraseIdx he
  obtain ⟨messages, hmessages, htold, hreported⟩ := h.reported
  obtain ⟨flight, hflight, hjob⟩ : ∃ flight, s.loop.flights[index]? = some flight
      ∧ flight.job = order.1 := by
    have hsame := congrArg (fun jobs => jobs[index]?) h.aligned
    simp only [List.getElem?_map, he, Option.map_some] at hsame
    exact Option.map_eq_some_iff.1 hsame.symm
  have hloop := loop_hear h.quiet hflight order.2 answer now
  have hfinished : (s.hear index order.2 answer now).finished
      = s.finished ++ [((order.1.what, order.2), answer)] := by
    simp only [LiveLoop.hear, hflight, hjob, Option.map_some, Option.toList_some]
  refine ⟨?_, ?_, ?_, ?_, ?_, messages ++ [Controller.copyNotice order.1.what answer], ?_, ?_, ?_⟩
  · rw [hloop]
    exact (Controller.copies_copyFinished _ _ _).trans h.quiet
  · rw [hloop]
    simp only [LiveLoop.hear]
    rw [← List.eraseIdx_map, ← List.eraseIdx_map, h.aligned]
  · exact h.handed.trans ((hbefore.filterMap Errand.waiting?).append_left _)
  · exact h.answered.trans ((hbefore.filterMap Errand.writing?).append_left _)
  · rw [hfinished]
    exact perm_one_done h.finished ((hbefore.filterMap Errand.answered?).map told)
  · rw [hloop, EventLoop.host, Controller.notifications_copyFinished, hjob, ← List.append_assoc,
      ← hmessages]
    rfl
  · rw [hfinished, List.map_append]
    exact htold.append (.refl _)
  · have hlength := hbefore.length_eq
    simp only [List.length_cons] at hlength
    simp only [LiveLoop.hear, List.length_append, List.length_singleton]
    omega

/-- **One move loses nothing and does nothing twice.** -/
theorem Accounted.step (h : s.Accounted c) (move : LiveMove) : (s.step move).Accounted c := by
  cases move with
  | input input now =>
      simp only [LiveLoop.step]
      split
      · exact h
      · next hopen =>
          have hinput : s.closed = false ∧ input.isFresh = true := by simpa using hopen
          exact h.take hinput.2 now
  | write index =>
      simp only [LiveLoop.step]
      split
      · next order he => exact h.write he
      · exact h
  | reply index answer =>
      simp only [LiveLoop.step]
      split
      · next order he => exact h.reply he answer
      · exact h
  | hear index now =>
      simp only [LiveLoop.step]
      split
      · next order answer he => exact h.hear he now
      · exact h
  | close => exact ⟨h.quiet, h.aligned, h.handed, h.answered, h.finished, h.reported⟩

lemma accounted_run {c : Controller} (bare : c.copies = []) (moves : List LiveMove) :
    ((start c).run moves).Accounted c := by
  induction moves using List.reverseRecOn with
  | nil => exact accounted_start bare
  | append_singleton moves move ih =>
      rw [run, List.foldl_append]
      exact ih.step move

/-- **Every command is reported exactly once**, whatever comes and in whichever order.  At any time,
the texts that the clipboard was given are among those that the controller has given away, the
answers are to such texts, and the controller was told of such answers, none of them twice.  When
the loop returns these are all of them.  There is then one new message for each command and each
rejection, and the answers are among the messages. -/
theorem every_command_reported_once {c : Controller} (bare : c.copies = [])
    (moves : List LiveMove) :
    let s := (start c).run moves
    s.handed <+~ s.produced.zipIdx
      ∧ s.answers.map Prod.fst <+~ s.handed
      ∧ s.finished <+~ s.answers.map told
      ∧ (s.Returned →
          s.handed ~ s.produced.zipIdx
          ∧ s.answers.map Prod.fst ~ s.handed
          ∧ s.finished ~ s.answers.map told
          ∧ ∃ messages, s.loop.host.notifications = c.host.notifications ++ messages
              ∧ messages.length = s.signals.countP Signal.isReported
              ∧ s.finished.map (fun f => Controller.copyNotice f.1.1 f.2) <+ messages) := by
  intro s
  have h : s.Accounted c := accounted_run bare moves
  refine ⟨(List.sublist_append_left _ _).subperm.trans h.handed.symm.subperm,
    (List.sublist_append_left _ _).subperm.trans h.answered.symm.subperm,
    (List.sublist_append_left _ _).subperm.trans h.finished.symm.subperm, ?_⟩
  rintro ⟨-, hnone⟩
  have hhanded := h.handed
  have hanswered := h.answered
  have hfinished := h.finished
  obtain ⟨messages, hmessages, htold, hreported⟩ := h.reported
  rw [hnone, List.filterMap_nil, List.append_nil] at hhanded hanswered
  rw [hnone, List.filterMap_nil, List.map_nil, List.append_nil] at hfinished
  rw [hnone, List.length_nil, Nat.add_zero] at hreported
  exact ⟨hhanded.symm, hanswered.symm, hfinished.symm, messages, hmessages, hreported, htold⟩

/-- Two texts are copied, and the second is answered first, with a refusal; the first is heard of
when the keys have ended. -/
theorem reported_once_when_answers_cross :
    let c := Controller.new (Host.empty.pushScalar "Length" "12.7").2 {}
    let y : LoopInput := .key ⟨.char 'y', {}⟩
    let moves : List LiveMove :=
      [.input y 0, .input y 10, .write 0, .input (.key ⟨.char '1', {}⟩) 20, .input y 30,
        .input .timer 5000, .write 1, .reply 1 (.error .unavailable), .hear 1 5100,
        .input .tick 5200, .close, .reply 0 (.ok ()), .hear 0 5300]
    let s := (start c).run moves
    c.copies = [] ∧ s.Returned ∧ s.produced = [⟨"12.7", "primary value"⟩, ⟨"12.7", "row 1"⟩]
      ∧ s.handed ~ [(⟨"12.7", "primary value"⟩, 0), (⟨"12.7", "row 1"⟩, 1)]
      ∧ s.finished = [(("row 1", 1), .error .unavailable), (("primary value", 0), .ok ())]
      ∧ ∃ messages, s.loop.host.notifications = messages ∧ messages.length = 2
          ∧ s.finished.map (fun f => Controller.copyNotice f.1.1 f.2) <+ messages := by
  intro c y moves s
  have hreturned : s.Returned := ⟨by decide +kernel, by decide +kernel⟩
  have hproduced : s.produced = [⟨"12.7", "primary value"⟩, ⟨"12.7", "row 1"⟩] := by decide +kernel
  obtain ⟨hhanded, -, -, messages, hmessages, hcount, htold⟩ :=
    (every_command_reported_once (c := c) rfl moves).2.2.2 hreturned
  have htwo : s.signals.countP Signal.isReported = 2 := by decide +kernel
  refine ⟨rfl, hreturned, hproduced, ?_, by decide +kernel, messages, hmessages, hcount.trans htwo,
    htold⟩
  have hplaces := congrArg (fun jobs : List CopyJob => jobs.zipIdx) hproduced
  exact hhanded.trans (.of_eq hplaces)

/-- The first errand can be brought to its end, however far it has come. -/
lemma exists_one_less {s : LiveLoop} {e : Errand} {rest : List Errand} (h : s.errands = e :: rest) :
    ∃ moves, (s.run moves).errands = rest ∧ (s.run moves).closed = s.closed := by
  obtain ⟨order, stage⟩ := e
  cases stage with
  | waiting =>
      refine ⟨[.write 0, .reply 0 (.ok ()), .hear 0 0], ?_⟩
      simp [run, step, hear, h]
  | writing =>
      refine ⟨[.reply 0 (.ok ()), .hear 0 0], ?_⟩
      simp [run, step, hear, h]
  | answered answer =>
      refine ⟨[.hear 0 0], ?_⟩
      simp [run, step, hear, h]

/-- **The loop can always return**: when the keys end, it waits for nothing but answers of the
clipboard. -/
theorem exists_returned (s : LiveLoop) : ∃ moves, (s.run moves).Returned := by
  have hclosed : ∀ (errands : List Errand) (s : LiveLoop), s.errands = errands → s.closed = true →
      ∃ moves, (s.run moves).Returned := by
    intro errands
    induction errands with
    | nil => exact fun s hnone hclosed => ⟨[], hclosed, hnone⟩
    | cons e rest ih =>
        intro s herrands hclosed
        obtain ⟨moves, hrest, hstill⟩ := exists_one_less herrands
        obtain ⟨later, hreturned⟩ := ih (s.run moves) hrest (hstill.trans hclosed)
        refine ⟨moves ++ later, ?_⟩
        rwa [run, List.foldl_append]
  obtain ⟨moves, hreturned⟩ := hclosed _ (s.step .close) rfl rfl
  exact ⟨.close :: moves, hreturned⟩

end LiveLoop

end PanelKeys
