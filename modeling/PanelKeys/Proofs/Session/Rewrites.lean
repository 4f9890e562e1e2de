import Mathlib.Data.List.Induction
import PanelKeys.Proofs.Panel.Stock
import PanelKeys.Proofs.Session.CellView

/-!
# Which texts are replaced

The application's own texts are the measurements, and the ledger replaces them.  It may do so only
if it knows what stands behind a text: because it wrote the text itself, or because the text spells
a length.  And it may not replace a text by itself, since every replacement wakes the application.

* `Rewrite`, `Rewritten` — **replacements, one successful write each**, that lead from some cells to
  others;
* `CellView.rewrite?` — what a visit writes into a cell; after one visit there is nothing more to
  write;
* `rewritten_reconcile`, `rewritten_restore` — the replacements of a pass, and of the way back;
* `LedgerCall`, `Desk` — a ledger in use, with an application that may do with its cells what it
  likes;
* **`every_write_has_its_reason`** — each replacement changes the text, and there is a reason for
  each.
-/

namespace PanelKeys

open PanelKeys.Length
open PanelKeys.Number

/-- One text in the place of another. -/
structure Rewrite where
  cell : CellId
  before : String
  after : String
  deriving DecidableEq

/-- The replacements lead from some cells to others: each is one successful write of a cell that
shows the old text. -/
inductive Rewritten (s : CellStore) : List Rewrite → CellStore → Prop
  | none : Rewritten s [] s
  | concat {rewrites : List Rewrite} {s' s'' : CellStore} {r : Rewrite}
      (before : Rewritten s rewrites s')
      (read : s'.read? r.cell = some r.before) (write : s'.write? r.cell r.after = some s'') :
      Rewritten s (rewrites ++ [r]) s''

namespace Rewritten

variable {s s' : CellStore} {rewrites : List Rewrite}

/-- Every successful write is among them. -/
lemma writes_eq (h : Rewritten s rewrites s') : s'.writes = s.writes + rewrites.length := by
  induction h with
  | none => rfl
  | concat _ _ write ih =>
      obtain ⟨c, -, -, rfl⟩ := CellStore.write?_eq_some write
      simp only [ih, List.length_append, List.length_singleton]
      omega

lemma get?_of_not_mem (h : Rewritten s rewrites s') {cell : CellId}
    (hcell : cell ∉ rewrites.map Rewrite.cell) : s'.cells.get? cell = s.cells.get? cell := by
  induction h with
  | none => rfl
  | concat _ _ write ih =>
      simp only [List.map_append, List.map_cons, List.map_nil, List.mem_append, List.mem_singleton,
        not_or] at hcell
      obtain ⟨c, -, -, rfl⟩ := CellStore.write?_eq_some write
      rw [Table.get?_insert_of_ne _ _ (Ne.symm hcell.2), ih hcell.1]

lemma read?_of_not_mem (h : Rewritten s rewrites s') {cell : CellId}
    (hcell : cell ∉ rewrites.map Rewrite.cell) : s'.read? cell = s.read? cell := by
  rw [CellStore.read?, h.get?_of_not_mem hcell, CellStore.read?]

/-- If no cell is replaced twice, each shows the new text in the end. -/
lemma read?_of_mem (h : Rewritten s rewrites s') (hnodup : (rewrites.map Rewrite.cell).Nodup)
    {r : Rewrite} (hr : r ∈ rewrites) : s'.read? r.cell = some r.after := by
  induction h with
  | none => simp at hr
  | @concat earlier s₁ s₂ last before _ write ih =>
      rw [List.map_append, List.nodup_append] at hnodup
      obtain ⟨hearlier, -, hlast⟩ := hnodup
      obtain ⟨c, -, -, rfl⟩ := CellStore.write?_eq_some write
      rcases List.mem_append.1 hr with hold | hnew
      · have hne : last.cell ≠ r.cell :=
          fun h => hlast r.cell (List.mem_map_of_mem hold) last.cell (by simp) h.symm
        rw [CellStore.read?, Table.get?_insert_of_ne _ _ hne]
        exact ih hearlier hold
      · rw [List.mem_singleton.1 hnew, CellStore.read?, Table.get?_insert_self]
        rfl

end Rewritten

/-- Some cells with a reason for every text that was replaced, and no cell replaced twice. -/
def RewrittenFor (s : CellStore) (reason : Rewrite → Prop) (s' : CellStore) : Prop :=
  ∃ rewrites, Rewritten s rewrites s' ∧ (rewrites.map Rewrite.cell).Nodup
    ∧ ∀ r ∈ rewrites, s.read? r.cell = some r.before ∧ reason r

namespace RewrittenFor

variable {s s' s'' : CellStore} {reason reason' : Rewrite → Prop}

lemma refl (s : CellStore) (reason : Rewrite → Prop) : RewrittenFor s reason s :=
  ⟨[], .none, List.nodup_nil, by simp⟩

lemma imp (h : RewrittenFor s reason s') (weaken : ∀ r, reason r → reason' r) :
    RewrittenFor s reason' s' := by
  obtain ⟨rewrites, hrewritten, hnodup, hreason⟩ := h
  exact ⟨rewrites, hrewritten, hnodup, fun r hr => ⟨(hreason r hr).1, weaken r (hreason r hr).2⟩⟩

/-- One more, of a cell that had no reason before. -/
lemma concat {r : Rewrite} (h : RewrittenFor s reason s') (fresh : ∀ q, reason q → q.cell ≠ r.cell)
    (weaken : ∀ q, reason q → reason' q) (own : reason' r) (read : s'.read? r.cell = some r.before)
    (write : s'.write? r.cell r.after = some s'') : RewrittenFor s reason' s'' := by
  obtain ⟨rewrites, hrewritten, hnodup, hreason⟩ := h
  have hcell : r.cell ∉ rewrites.map Rewrite.cell := by
    intro hmem
    obtain ⟨q, hq, hsame⟩ := List.mem_map.1 hmem
    exact fresh q (hreason q hq).2 hsame
  refine ⟨rewrites ++ [r], hrewritten.concat read write, ?_, fun q hq => ?_⟩
  · rw [List.map_append, List.map_singleton, ← List.concat_eq_append]
    exact hnodup.concat hcell
  · rcases List.mem_append.1 hq with hold | hnew
    · exact ⟨(hreason q hold).1, weaken q (hreason q hold).2⟩
    · rw [List.mem_singleton.1 hnew]
      exact ⟨hrewritten.read?_of_not_mem hcell ▸ read, own⟩

end RewrittenFor

/-! ## One visit -/

/-- The text that takes the place of another one, if the length has another and the cell can be
written. -/
def Cell.replacement? (policy : Policy) (cell : Cell) (mm : Double) : Option String :=
  if policy.render mm = cell.text ∨ cell.locked = true then none else some (policy.render mm)

namespace CellView

/-- The text that a visit writes into a cell, if it writes one. -/
def rewrite? (policy : Policy) (v : CellView) : Option String :=
  v.cell.bind fun cell => (v.length? cell.text).bind (cell.replacement? policy)

lemma length?_of_shown {v : CellView} {e : Captured} (hentry : v.entry = some e) :
    v.length? e.shown = some e.length := by
  simp [length?, hentry, Option.filter]

/-- The length behind a text is that of the entry which wrote it, or the one that the text
spells. -/
lemma length?_eq_some {v : CellView} {displayed : String} {mm : Double}
    (h : v.length? displayed = some mm) :
    (∃ e, v.entry = some e ∧ e.shown = displayed ∧ e.length = mm)
      ∨ Millimeter.parse? displayed = some mm := by
  simp only [length?] at h
  split at h
  · next e hown =>
      obtain ⟨hentry, hshown⟩ := Option.filter_eq_some_iff.1 hown
      exact Or.inl ⟨e, hentry, by simpa using hshown, Option.some.inj h⟩
  · exact Or.inr h

lemma rewrite?_eq_some {policy : Policy} {v : CellView} {text : String}
    (h : v.rewrite? policy = some text) :
    ∃ cell mm, v.cell = some cell ∧ v.length? cell.text = some mm ∧ policy.render mm ≠ cell.text
      ∧ cell.locked = false ∧ policy.render mm = text := by
  obtain ⟨cell, hcell, h⟩ := Option.bind_eq_some_iff.1 h
  obtain ⟨mm, hlength, h⟩ := Option.bind_eq_some_iff.1 h
  simp only [Cell.replacement?] at h
  split at h
  · simp at h
  · next hno =>
      obtain ⟨hchange, hlocked⟩ := not_or.1 hno
      exact ⟨cell, mm, hcell, hlength, hchange, by simpa using hlocked, Option.some.inj h⟩

lemma rewrite?_presenting (policy : Policy) (cell : Cell) (mm : Double) :
    (presenting policy cell mm).rewrite? policy = none := by
  simp only [presenting]
  split
  · next hsame =>
      have hlength := length?_of_shown (v := ⟨some ⟨mm, policy.render mm⟩, some cell⟩) rfl
      simp only [hsame] at hlength
      simp [rewrite?, Cell.replacement?, hsame, hlength]
  · split
    · next hlocked => simp [rewrite?, Cell.replacement?, hlocked]
    · next hchange hlocked =>
        have hlength := length?_of_shown
          (v := ⟨some ⟨mm, policy.render mm⟩, some { cell with text := policy.render mm }⟩) rfl
        simp only at hlength
        simp [rewrite?, Cell.replacement?, hlength]

/-- **A second visit has nothing to write.** -/
lemma rewrite?_brought (policy : Policy) (v : CellView) :
    (v.brought policy).rewrite? policy = none := by
  simp only [brought]
  split
  · rfl
  · next cell _ =>
      split
      · next hlength =>
          have hparse : Millimeter.parse? cell.text = none := by
            simp only [length?] at hlength
            split at hlength
            · simp at hlength
            · exact hlength
          simp [rewrite?, length?, hparse]
      · next mm _ => exact rewrite?_presenting policy cell mm

lemma rewrite?_iterate_brought (policy : Policy) {n : Nat} (hn : n ≠ 0) (v : CellView) :
    ((brought policy)^[n] v).rewrite? policy = none := by
  obtain ⟨k, rfl⟩ := Nat.exists_eq_succ_of_ne_zero hn
  rw [Function.iterate_succ_apply', rewrite?_brought]

end CellView

namespace Pass

lemma store_dropForeign (p : Pass) (cell : CellId) (displayed : String) :
    (p.dropForeign cell displayed).store = p.store := by
  simp only [dropForeign]
  split <;> rfl

/-- Some cells after one text has been written into a cell, or left as it was. -/
def Leaves (s : CellStore) (cell : CellId) (text : Option String) (s' : CellStore) : Prop :=
  match text with
  | some text => s.write? cell text = some s'
  | none => s' = s

lemma leaves_present (policy : Policy) {cell : CellId} {c : Cell} {p : Pass} (mm : Double)
    (hget : p.store.cells.get? cell = some c) :
    Leaves p.store cell (c.replacement? policy mm) (p.present policy cell c.text mm).store := by
  simp only [present, Cell.replacement?]
  by_cases hsame : policy.render mm = c.text
  · simp [hsame, Leaves, record]
  · cases hlocked : c.locked with
    | true => simp [hsame, hlocked, Leaves, CellStore.write?, hget, skip, forget]
    | false => simp [hsame, hlocked, Leaves, CellStore.write?, hget, record]

/-- **A visit writes what its view says**, and nothing else. -/
lemma leaves_visitLength (policy : Policy) (cell : CellId) (p : Pass) :
    Leaves p.store cell ((p.view cell).rewrite? policy) (p.visitLength policy cell).store := by
  have hread : p.store.read? cell = (p.view cell).cell.map (·.text) := rfl
  simp only [visitLength, hread, CellView.rewrite?]
  cases hcell : (p.view cell).cell with
  | none => rfl
  | some c =>
      have hget : p.store.cells.get? cell = some c := hcell
      have hstore := store_dropForeign p cell c.text
      have hentry : (p.dropForeign cell c.text).ledger.get? cell
          = (p.view cell).entry.filter fun e => e.shown = c.text :=
        congrArg CellView.entry (view_dropForeign_self p cell c.text)
      rw [← hstore] at hget
      simp only [Option.map_some, lengthOf?, hentry, CellView.length?, Option.bind_some]
      rw [← hstore]
      cases (p.view cell).entry.filter fun e => e.shown = c.text with
      | some e => exact leaves_present policy e.length hget
      | none =>
          cases Millimeter.parse? c.text with
          | none => rfl
          | some mm =>
              exact leaves_present policy (p := (p.dropForeign cell c.text).countCaptured) mm hget

end Pass

/-! ## A pass, and the way back -/

namespace Ledger

lemma reconcile_concat (l : Ledger) (store : CellStore) (policy : Policy) (cells : List PanelCell)
    (c : PanelCell) :
    l.reconcile store policy (cells ++ [c]) = (l.reconcile store policy cells).visit policy c := by
  simp [reconcile, List.foldl_append]

/-- Why a pass replaces a text: the cell is listed as a length, and a visit writes the new text into
it. -/
def PassReason (l : Ledger) (store : CellStore) (policy : Policy) (cells : List PanelCell)
    (r : Rewrite) :
    Prop :=
  ⟨r.cell, false⟩ ∈ cells
    ∧ (⟨l.get? r.cell, store.cells.get? r.cell⟩ : CellView).rewrite? policy = some r.after

lemma PassReason.concat {l : Ledger} {store : CellStore} {policy : Policy} {cells : List PanelCell}
    {r : Rewrite} (h : l.PassReason store policy cells r) (c : PanelCell) :
    l.PassReason store policy (cells ++ [c]) r :=
  ⟨List.mem_append_left _ h.1, h.2⟩

/-- **A pass replaces texts of listed lengths**, each as the cell was before the pass: a cell that
is listed again has nothing more to be written. -/
theorem rewritten_reconcile (l : Ledger) (store : CellStore) (policy : Policy)
    (cells : List PanelCell) :
    RewrittenFor store (l.PassReason store policy cells)
      (l.reconcile store policy cells).store := by
  induction cells using List.reverseRecOn with
  | nil => exact .refl store _
  | append_singleton cells c ih =>
      have hview := view_reconcile l store policy cells c.cell
      rw [reconcile_concat]
      generalize l.reconcile store policy cells = p at ih hview ⊢
      have hkept : (p.visit policy c).store = p.store →
          RewrittenFor store (l.PassReason store policy (cells ++ [c]))
            (p.visit policy c).store := by
        intro hstore
        rw [hstore]
        exact ih.imp fun r hr => hr.concat c
      obtain ⟨cell, angle⟩ := c
      cases angle with
      | true => exact hkept rfl
      | false =>
          have hleaves : Pass.Leaves p.store cell ((p.view cell).rewrite? policy)
              (p.visit policy ⟨cell, false⟩).store :=
            Pass.leaves_visitLength policy cell p.countVisited
          cases hrewrite : (p.view cell).rewrite? policy with
          | none =>
              rw [hrewrite] at hleaves
              exact hkept hleaves
          | some text =>
              rw [hrewrite] at hleaves
              have hfirst : cells.count ⟨cell, false⟩ = 0 := by
                by_contra hagain
                rw [hview, CellView.rewrite?_iterate_brought policy hagain] at hrewrite
                simp at hrewrite
              obtain ⟨c, -, hcell, -⟩ := CellView.rewrite?_eq_some hrewrite
              have hread : p.store.read? cell = some c.text := congrArg (Option.map Cell.text) hcell
              rw [hview, hfirst] at hrewrite
              refine ih.concat (r := ⟨cell, c.text, text⟩) ?_ (fun q hq => hq.concat _)
                ⟨by simp, hrewrite⟩ hread hleaves
              rintro q ⟨hmem, -⟩ rfl
              exact List.count_eq_zero.1 hfirst hmem

/-- One entry on the way back: the cell is left as it is, or its own text is replaced. -/
lemma restoreCell_cases (s : CellStore × Nat) (cell : CellId) (e : Captured) :
    (restoreCell s (cell, e)).1 = s.1
      ∨ s.1.read? cell = some e.shown ∧ e.shown ≠ Millimeter.text e.length
        ∧ s.1.write? cell (Millimeter.text e.length) = some (restoreCell s (cell, e)).1 := by
  simp only [restoreCell]
  split
  · exact Or.inl rfl
  · next displayed hread =>
      split
      · exact Or.inl rfl
      · next hchange =>
          simp only [Bool.or_eq_true, decide_eq_true_eq, not_or, not_not] at hchange
          obtain ⟨rfl, hnative⟩ := hchange
          split
          · next store hwrite => exact Or.inr ⟨hread, Ne.symm hnative, hwrite⟩
          · exact Or.inl rfl

/-- Why the way back replaces a text: an entry has written it, and its length has another in
millimeters. -/
def BackReason (entries : List (CellId × Captured)) (r : Rewrite) : Prop :=
  r.before ≠ r.after
    ∧ ∃ e, (r.cell, e) ∈ entries ∧ e.shown = r.before ∧ r.after = Millimeter.text e.length

lemma BackReason.concat {entries : List (CellId × Captured)} {r : Rewrite}
    (h : BackReason entries r) (entry : CellId × Captured) : BackReason (entries ++ [entry]) r := by
  obtain ⟨hchange, e, he, hreason⟩ := h
  exact ⟨hchange, e, List.mem_append_left _ he, hreason⟩

lemma rewritten_foldl_restoreCell {entries : List (CellId × Captured)}
    (hnodup : (entries.map Prod.fst).Nodup) (s : CellStore × Nat) :
    RewrittenFor s.1 (BackReason entries) (entries.foldl restoreCell s).1 := by
  induction entries using List.reverseRecOn with
  | nil => exact .refl s.1 _
  | append_singleton entries entry ih =>
      obtain ⟨cell, e⟩ := entry
      rw [List.map_append, List.nodup_append] at hnodup
      obtain ⟨hentries, -, hcell⟩ := hnodup
      have hih := ih hentries
      rw [List.foldl_append, List.foldl_cons, List.foldl_nil]
      generalize entries.foldl restoreCell s = t at hih ⊢
      rcases restoreCell_cases t cell e with hkept | ⟨hread, hchange, hwrite⟩
      · rw [hkept]
        exact hih.imp fun r hr => hr.concat _
      · refine hih.concat (r := ⟨cell, e.shown, Millimeter.text e.length⟩) ?_
          (fun r hr => hr.concat _) ⟨hchange, e, by simp, rfl, rfl⟩ hread hwrite
        rintro q ⟨-, f, hf, -⟩ hsame
        exact hcell q.cell (List.mem_map_of_mem hf) cell (by simp) hsame

/-- **The way back replaces texts that the ledger has written.** -/
theorem rewritten_restore (l : Ledger) (store : CellStore) :
    RewrittenFor store (BackReason l.entries.entries) (l.restore store).1 :=
  rewritten_foldl_restoreCell l.entries.nodupKeys (store, 0)

end Ledger

/-! ## A ledger in use -/

/-- What a ledger can be asked to do. -/
inductive LedgerCall where
  | reconcile (policy : Policy) (cells : List PanelCell)
  | restore
  | sweep (live : List PanelCell)
  | forget (cell : CellId)

/-- The texts that a call may replace while the ledger has these entries.  A pass replaces the text
of a cell that is listed as a length, if the ledger has written that text or if it spells a length;
the way back replaces what the ledger has written; the other calls replace nothing. -/
def LedgerCall.Allows (l : Ledger) (r : Rewrite) : LedgerCall → Prop
  | .reconcile policy cells =>
      ⟨r.cell, false⟩ ∈ cells
        ∧ ((∃ e, l.get? r.cell = some e ∧ e.shown = r.before ∧ r.after = policy.render e.length)
          ∨ ∃ mm, Millimeter.parse? r.before = some mm ∧ r.after = policy.render mm)
  | .restore =>
      ∃ e, l.get? r.cell = some e ∧ e.shown = r.before ∧ r.after = Millimeter.text e.length
  | .sweep _ => False
  | .forget _ => False

/-- A ledger and the cells that it works on. -/
structure Desk where
  ledger : Ledger
  store : CellStore

/-- What can happen to them. -/
inductive DeskEvent where
  | call (call : LedgerCall)
  /-- the application creates, changes, locks, unlocks and removes cells, as many as it likes -/
  | edit (cells : Table CellId Cell)

namespace Desk

/-- A new ledger on some cells. -/
def new (store : CellStore) : Desk := ⟨.empty, store⟩

def call (d : Desk) : LedgerCall → Desk
  | .reconcile policy cells =>
      ⟨(d.ledger.reconcile d.store policy cells).ledger,
        (d.ledger.reconcile d.store policy cells).store⟩
  | .restore => ⟨.empty, (d.ledger.restore d.store).1⟩
  | .sweep live => ⟨d.ledger.sweep live, d.store⟩
  | .forget cell => ⟨d.ledger.forget cell, d.store⟩

def step (d : Desk) : DeskEvent → Desk
  | .call c => d.call c
  | .edit cells => { d with store.cells := cells }

def run (d : Desk) (events : List DeskEvent) : Desk := events.foldl step d

/-- What a visit writes is not what the cell shows, and the length comes from the entry or from the
text. -/
lemma allows_of_passReason {d : Desk} {policy : Policy} {cells : List PanelCell} {r : Rewrite}
    (hread : d.store.read? r.cell = some r.before)
    (h : d.ledger.PassReason d.store policy cells r) :
    r.before ≠ r.after ∧ (LedgerCall.reconcile policy cells).Allows d.ledger r := by
  obtain ⟨hlisted, hrewrite⟩ := h
  obtain ⟨cell, mm, hcell, hlength, hchange, -, hafter⟩ := CellView.rewrite?_eq_some hrewrite
  have hbefore : cell.text = r.before := by
    have hcell' : d.store.cells.get? r.cell = some cell := hcell
    rw [CellStore.read?, hcell', Option.map_some] at hread
    exact Option.some.inj hread
  rw [hbefore] at hlength hchange
  rw [hafter] at hchange
  refine ⟨hchange.symm, hlisted, ?_⟩
  rcases CellView.length?_eq_some hlength with ⟨e, hentry, hshown, rfl⟩ | hparse
  · exact Or.inl ⟨e, hentry, hshown, hafter.symm⟩
  · exact Or.inr ⟨mm, hparse, hafter.symm⟩

lemma allows_of_backReason {d : Desk} {r : Rewrite}
    (h : Ledger.BackReason d.ledger.entries.entries r) :
    r.before ≠ r.after ∧ LedgerCall.restore.Allows d.ledger r := by
  obtain ⟨hchange, e, he, hshown, hafter⟩ := h
  exact ⟨hchange, e, Table.lookupIn_of_mem d.ledger.entries.nodupKeys he, hshown, hafter⟩

/-- **One call replaces only what it may**, and no text by itself. -/
theorem rewritten_call (d : Desk) (call : LedgerCall) :
    RewrittenFor d.store (fun r => r.before ≠ r.after ∧ call.Allows d.ledger r)
      (d.call call).store := by
  cases call with
  | reconcile policy cells =>
      obtain ⟨rewrites, hrewritten, hnodup, hreason⟩ :=
        d.ledger.rewritten_reconcile d.store policy cells
      refine ⟨rewrites, hrewritten, hnodup, fun r hr => ?_⟩
      obtain ⟨hread, hpass⟩ := hreason r hr
      exact ⟨hread, allows_of_passReason hread hpass⟩
  | restore => exact (d.ledger.rewritten_restore d.store).imp fun r hr => allows_of_backReason hr
  | sweep live => exact .refl d.store _
  | forget cell => exact .refl d.store _

/-- **Every text that is replaced gives way to another one, and for a reason.**  Whatever the ledger
has been asked for since it was empty, and whatever the application has done to its cells in
between: the successful writes of the next call are replacements, no two of the same cell.  Each
finds the old text and leaves the new one, which differs from it; and either the ledger has written
the old text, or the old text spells a length.  The other cells stay as they are, and a pass leaves
alone whatever it does not list as a length. -/
theorem every_write_has_its_reason (store : CellStore) (events : List DeskEvent)
    (call : LedgerCall) :
    ∃ rewrites,
      Rewritten ((new store).run events).store rewrites (((new store).run events).call call).store
      ∧ (rewrites.map Rewrite.cell).Nodup
      ∧ (((new store).run events).call call).store.writes
          = ((new store).run events).store.writes + rewrites.length
      ∧ (∀ r ∈ rewrites,
          ((new store).run events).store.read? r.cell = some r.before
          ∧ (((new store).run events).call call).store.read? r.cell = some r.after
          ∧ r.before ≠ r.after
          ∧ call.Allows ((new store).run events).ledger r)
      ∧ (∀ cell, cell ∉ rewrites.map Rewrite.cell →
          (((new store).run events).call call).store.cells.get? cell
            = ((new store).run events).store.cells.get? cell)
      ∧ ∀ policy cells cell, call = .reconcile policy cells → ⟨cell, false⟩ ∉ cells →
          cell ∉ rewrites.map Rewrite.cell := by
  obtain ⟨rewrites, hrewritten, hnodup, hreason⟩ := rewritten_call ((new store).run events) call
  refine ⟨rewrites, hrewritten, hnodup, hrewritten.writes_eq, fun r hr => ?_,
    fun cell hcell => hrewritten.get?_of_not_mem hcell, ?_⟩
  · obtain ⟨hread, hchange, hallowed⟩ := hreason r hr
    exact ⟨hread, hrewritten.read?_of_mem hnodup hr, hchange, hallowed⟩
  · rintro policy cells cell rfl hlisted hmem
    obtain ⟨r, hr, rfl⟩ := List.mem_map.1 hmem
    exact hlisted (hreason r hr).2.2.1

end Desk

end PanelKeys
