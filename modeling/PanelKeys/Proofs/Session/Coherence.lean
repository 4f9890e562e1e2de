import PanelKeys.Proofs.Session.CellView
import PanelKeys.Proofs.Session.Workbench

/-!
# The ledger and the policy

An entry of the ledger is written under one policy and may outlive it: rows go, the application
rewrites cells, the unit and the precision change.  What keeps the ledger honest is that every
change of the policy ends in a pass, and that a pass brings every cell that has an entry to the new
policy or drops the entry.

* `Ledger.OfLengths` — entries belong to numbers that have been handed out, and never to a cell of
  an angle.  Numbers are not used again, so this survives whatever the application does;
* `reconcile_listed` — hence **after a pass every entry is one of a cell that the pass has
  visited**, and shows its length under the policy of the pass;
* `Coherent` — the invariant of a session at work;
* `ledger_shows_policy` — what it says in every state that can be reached.
-/

namespace PanelKeys

open PanelKeys.Length
open PanelKeys.Number
open PanelKeys.Panel

/-- Entries belong to cells that have been numbered, and not to cells that show angles. -/
def Ledger.OfLengths (l : Ledger) (h : Host) : Prop :=
  ∀ cell e, l.get? cell = some e → cell ≤ h.lastId ∧ ⟨cell, true⟩ ∉ h.panelCells

lemma Ledger.OfLengths.change {l : Ledger} {h h' : Host} (hl : l.OfLengths h) (hn : h.WellNumbered)
    (hc : h.PanelChange h') : l.OfLengths h' := by
  intro cell e he
  obtain ⟨hle, hangle⟩ := hl cell e he
  refine ⟨Nat.le_trans hle hc.lastId_le, fun hmem => ?_⟩
  rcases hn.old_or_fresh hc hmem with hold | hfresh
  · exact hangle hold
  · exact absurd hle (Nat.not_le_of_lt hfresh)

lemma Ledger.OfLengths.sweep {l : Ledger} {h : Host} (hl : l.OfLengths h) (live : List PanelCell) :
    (l.sweep live).OfLengths h := by
  intro cell e he
  rw [get?_sweep] at he
  split at he
  · exact hl cell e he
  · simp at he

lemma Ledger.not_get?_empty {cell : CellId} {e : Captured} : Ledger.empty.get? cell ≠ some e := by
  simp [Ledger.get?, Ledger.empty]

namespace Workbench

/-! ## One pass -/

lemma ledger_reconcile_of_inch {w : Workbench} (hunit : w.session.policy.unit = .inch) :
    w.reconcile.session.ledger
      = ((w.session.ledger.sweep w.host.panelCells).reconcile w.host.store w.session.policy
          w.host.panelCells).ledger := by
  simp [reconcile, Session.reconcile, Policy.isInch, hunit]

/-- While millimeters are shown a pass only sweeps. -/
lemma reconcile_of_millimeter {w : Workbench} (hunit : w.session.policy.unit = .millimeter) :
    w.reconcile
      = { w with session.ledger := w.session.ledger.sweep w.host.panelCells } := by
  simp [reconcile, Session.reconcile, Policy.isInch, hunit]

/-- After a pass an entry is one of a listed length: the sweep has dropped the cells that are not
listed, and those listed as angles have no entries. -/
lemma reconcile_listed {w : Workbench} (hl : w.session.ledger.OfLengths w.host)
    (hunit : w.session.policy.unit = .inch) {cell : CellId} {e : Captured}
    (he : w.reconcile.session.ledger.get? cell = some e) : ⟨cell, false⟩ ∈ w.host.panelCells := by
  by_contra hlength
  rw [ledger_reconcile_of_inch hunit, Ledger.get?_reconcile_of_not_mem _ _ _ hlength,
    Ledger.get?_sweep] at he
  split at he
  · next hlive =>
      obtain ⟨⟨cell', angle⟩, hc, hcell⟩ := List.any_eq_true.1 hlive
      have hsame : cell' = cell := by simpa using hcell
      subst hsame
      cases angle with
      | false => exact hlength hc
      | true => exact (hl cell' e he).2 hc
  · simp at he

/-- **After a pass every entry shows its length under the policy of the pass**, whatever it showed
before. -/
theorem shown_reconcile {w : Workbench} (hl : w.session.ledger.OfLengths w.host)
    (hunit : w.session.policy.unit = .inch) {cell : CellId} {e : Captured}
    (he : w.reconcile.session.ledger.get? cell = some e) :
    e.shown = w.session.policy.render e.length := by
  have hlisted := reconcile_listed hl hunit he
  rw [ledger_reconcile_of_inch hunit] at he
  exact Ledger.shown_of_mem hlisted he

lemma ofLengths_reconcile {w : Workbench} (hn : w.host.WellNumbered)
    (hl : w.session.ledger.OfLengths w.host) : w.reconcile.session.ledger.OfLengths w.host := by
  cases hunit : w.session.policy.unit with
  | millimeter =>
      rw [reconcile_of_millimeter hunit]
      exact hl.sweep w.host.panelCells
  | inch =>
      intro cell e he
      have hlisted := reconcile_listed hl hunit he
      refine ⟨hn.cell_le_lastId hlisted, fun hangle => ?_⟩
      have hsame := hn.panelCell_unique hlisted hangle rfl
      simp at hsame

/-! ## The invariant -/

/-- The ledger is empty while millimeters are shown, its entries show their lengths under the
policy, and they are entries of length cells of the panel or of cells that have gone. -/
structure Coherent (w : Workbench) : Prop where
  numbered : w.host.WellNumbered
  empty : w.session.policy.unit = .millimeter → w.session.ledger = .empty
  shown : ∀ cell e, w.session.ledger.get? cell = some e → e.shown = w.session.policy.render e.length
  ofLengths : w.session.ledger.OfLengths w.host

lemma coherent_new (policy : Policy) (actionIds : Table String String) (cameraViews : List String) :
    (new policy actionIds cameraViews).Coherent where
  numbered := Host.wellNumbered_empty
  empty _ := rfl
  shown _ _ he := absurd he Ledger.not_get?_empty
  ofLengths _ _ he := absurd he Ledger.not_get?_empty

/-- What happens to the rows does not matter to the ledger. -/
lemma Coherent.panelChange {w w' : Workbench} (h : w.Coherent)
    (hpolicy : w'.session.policy = w.session.policy)
    (hledger : w'.session.ledger = w.session.ledger)
    (hc : w.host.PanelChange w'.host) : w'.Coherent where
  numbered := h.numbered.change hc
  empty hunit := by
    rw [hpolicy] at hunit
    rw [hledger, h.empty hunit]
  shown := by
    rw [hpolicy, hledger]
    exact h.shown
  ofLengths := by
    rw [hledger]
    exact h.ofLengths.change h.numbered hc

/-- **A pass makes the ledger honest under any policy**: what the entries showed before does not
matter. -/
theorem Coherent.presented {w : Workbench} (h : w.Coherent) {policy : Policy}
    (unit : policy.unit = .millimeter → w.session.policy.unit = .millimeter) :
    (w.withPolicy policy).reconcile.Coherent := by
  have hc := (w.withPolicy policy).reconcile_panelChange
  have hl : (w.withPolicy policy).session.ledger.OfLengths (w.withPolicy policy).host := h.ofLengths
  have hpolicy : (w.withPolicy policy).reconcile.session.policy = policy := policy_reconcile _
  have hempty : policy.unit = .millimeter
      → (w.withPolicy policy).reconcile.session.ledger = .empty := by
    intro hunit
    rw [reconcile_of_millimeter (w := w.withPolicy policy) hunit]
    show w.session.ledger.sweep _ = _
    rw [h.empty (unit hunit)]
    rfl
  refine ⟨h.numbered.change hc, ?_, ?_, ?_⟩
  · rw [hpolicy]
    exact hempty
  · intro cell e he
    rw [hpolicy]
    cases hunit : policy.unit with
    | millimeter =>
        rw [hempty hunit] at he
        exact absurd he Ledger.not_get?_empty
    | inch => exact shown_reconcile hl hunit he
  · exact (ofLengths_reconcile (w := w.withPolicy policy) h.numbered hl).change h.numbered hc

lemma Coherent.effect {w w' : Workbench} (h : w.Coherent) (he : Effect w w') : w'.Coherent := by
  cases he with
  | kept same => exact h.panelChange same.policy same.ledger (.of_eq same.rows same.lastId)
  | presented policy unit eq =>
      rw [eq]
      exact h.presented unit
  | restored unit session host =>
      have hc : w.host.PanelChange w'.host := .of_eq (by rw [host]) (by rw [host])
      have hledger : w'.session.ledger = .empty := by rw [session]
      refine ⟨h.numbered.change hc, fun _ => hledger, ?_, ?_⟩
      · intro cell e he
        rw [hledger] at he
        exact absurd he Ledger.not_get?_empty
      · intro cell e he
        rw [hledger] at he
        exact absurd he Ledger.not_get?_empty

/-- **One step keeps the invariant**, whoever takes it. -/
theorem Coherent.step {w : Workbench} (h : w.Coherent) (event : WorkEvent) :
    (w.step event).Coherent := by
  cases event with
  | execute command => exact h.effect (execute_effect w command)
  | reconcile =>
      show (w.withPolicy w.session.policy).reconcile.Coherent
      exact h.presented id
  | reconfigure actionIds cameraViews => exact h.panelChange rfl rfl (.of_eq rfl rfl)
  | edit edit => exact h.panelChange rfl rfl (Host.perform_panelChange edit w.host)

theorem Reachable.coherent {w : Workbench} (h : w.Reachable) : w.Coherent := by
  induction h with
  | new policy actionIds cameraViews => exact coherent_new policy actionIds cameraViews
  | step event _ ih => exact ih.step event

/-! ## What holds in every state -/

/-- A command that begins and ends in millimeters writes nothing. -/
lemma store_execute_of_millimeter {w : Workbench} (command : Command)
    (hunit : w.session.policy.unit = .millimeter)
    (hunit' : (w.execute command).session.policy.unit = .millimeter) :
    (w.execute command).host.store = w.host.store := by
  cases execute_effect w command with
  | kept same => exact same.store
  | presented policy unit eq =>
      rw [eq, policy_reconcile] at hunit'
      rw [eq, reconcile_of_millimeter hunit']
      rfl
  | restored unit session host =>
      rw [unit] at hunit
      simp at hunit

/-- **The ledger and the policy agree in every state**: in millimeters there are no entries, in
inches every entry shows its length under the current policy; and as long as millimeters stay,
neither a command nor a pass writes a cell. -/
theorem ledger_shows_policy {w : Workbench} (h : w.Reachable) :
    (w.session.policy.unit = .millimeter → w.session.ledger = .empty)
      ∧ (w.session.policy.unit = .inch → ∀ cell e, w.session.ledger.get? cell = some e →
          e.shown = w.session.policy.render e.length)
      ∧ (w.session.policy.unit = .millimeter →
          (∀ command, (w.execute command).session.policy.unit = .millimeter →
            (w.execute command).host.store = w.host.store)
          ∧ w.reconcile.host.store = w.host.store) := by
  have hw := h.coherent
  refine ⟨hw.empty, fun _ => hw.shown, fun hunit => ⟨?_, ?_⟩⟩
  · intro command hunit'
    exact store_execute_of_millimeter command hunit hunit'
  · rw [reconcile_of_millimeter hunit]

/-- A row of 31.75 mm, shown in inches, then with another precision, and then in millimeters
again. -/
theorem ledger_shows_policy_after_precision_and_unit :
    let inches := (((new {} .empty []).step (.edit (.pushScalar "Length" "31.75"))).step
      (.execute .toggleUnit)).step (.execute .cyclePrecision)
    let millimeters := inches.step (.execute .toggleUnit)
    inches.Reachable ∧ inches.session.policy.unit = .inch
      ∧ (∃ e, inches.session.ledger.get? 2 = some e ∧ e.shown = "1 1/4\""
          ∧ e.shown = inches.session.policy.render e.length)
      ∧ millimeters.Reachable ∧ millimeters.session.policy.unit = .millimeter
      ∧ millimeters.session.ledger = .empty
      ∧ (millimeters.execute .cyclePrecision).host.store = millimeters.host.store := by
  intro inches millimeters
  have hinches : inches.Reachable := .step _ (.step _ (.step _ (.new _ _ _)))
  have hmillimeters : millimeters.Reachable := .step _ hinches
  have hinch : inches.session.policy.unit = .inch := by decide +kernel
  have hmillimeter : millimeters.session.policy.unit = .millimeter := by decide +kernel
  have hentry : (inches.session.ledger.get? 2).map Captured.shown = some "1 1/4\"" := by
    decide +kernel
  obtain ⟨e, he, hshown⟩ := Option.map_eq_some_iff.1 hentry
  obtain ⟨-, hrendered, -⟩ := ledger_shows_policy hinches
  obtain ⟨hempty, -, hwritten⟩ := ledger_shows_policy hmillimeters
  refine ⟨hinches, hinch, ⟨e, he, hshown, hrendered hinch 2 e he⟩, hmillimeters, hmillimeter,
    hempty hmillimeter, ?_⟩
  exact (hwritten hmillimeter).1 .cyclePrecision (by decide +kernel)

end Workbench

end PanelKeys
