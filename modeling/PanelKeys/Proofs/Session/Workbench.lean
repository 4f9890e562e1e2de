import PanelKeys.Proofs.Panel.Numbering
import PanelKeys.Session.Basic

/-!
# A session at work

A session and the application that it works on change in turns: commands and periodic passes change
both, other settings change the session, and the application changes whenever it likes.

* `Workbench` — a session with its application;
* `WorkEvent`, `Workbench.step` — what can happen to them;
* `Workbench.Reachable` — what a new session on an empty application can become;
* `Effect` — **what carrying out a command comes to for the panel and the ledger**: nothing, a pass
  under another policy, or the way back to millimeters;
* `execute_effect` — each of the twelve commands has one of these effects.
-/

namespace PanelKeys

open PanelKeys.Length
open PanelKeys.Panel

/-- A session and the application that it works on. -/
structure Workbench where
  session : Session
  host : Host
  deriving DecidableEq

/-- What can happen to a session and its application. -/
inductive WorkEvent where
  | execute (command : Command)
  | reconcile
  | reconfigure (actionIds : Table String String) (cameraViews : List String)
  /-- the application changes by itself -/
  | edit (edit : HostEdit)

namespace Workbench

/-- A new session on an application with nothing in it. -/
def new (policy : Policy) (actionIds : Table String String) (cameraViews : List String) :
    Workbench :=
  ⟨{ policy, actionIds, cameraViews }, .empty⟩

/-- Carries out a command. -/
def execute (w : Workbench) (command : Command) : Workbench :=
  ⟨(w.session.execute w.host command).session, (w.session.execute w.host command).host⟩

/-- One periodic pass. -/
def reconcile (w : Workbench) : Workbench :=
  ⟨(w.session.reconcile w.host).2.1, (w.session.reconcile w.host).2.2⟩

def step (w : Workbench) : WorkEvent → Workbench
  | .execute command => w.execute command
  | .reconcile => w.reconcile
  | .reconfigure actionIds cameraViews =>
      { w with session := w.session.reconfigure actionIds cameraViews }
  | .edit edit => { w with host := (w.host.perform edit).2 }

/-- What a new session can become. -/
inductive Reachable : Workbench → Prop where
  | new (policy : Policy) (actionIds : Table String String) (cameraViews : List String) :
      Reachable (new policy actionIds cameraViews)
  | step {w : Workbench} (event : WorkEvent) (h : Reachable w) : Reachable (w.step event)

/-- The same session under another policy. -/
def withPolicy (policy : Policy) (w : Workbench) : Workbench :=
  { w with session := { w.session with policy } }

/-- What a step leaves as it was: policy, ledger, rows and cells. -/
structure SamePanel (w w' : Workbench) : Prop where
  policy : w'.session.policy = w.session.policy
  ledger : w'.session.ledger = w.session.ledger
  rows : w'.host.rows = w.host.rows
  lastId : w'.host.lastId = w.host.lastId
  store : w'.host.store = w.host.store

/-- What a command comes to, as far as panel and ledger go. -/
inductive Effect (w w' : Workbench) : Prop where
  | kept (same : SamePanel w w')
  /-- millimeters are presented only if they were shown before -/
  | presented (policy : Policy)
      (unit : policy.unit = .millimeter → w.session.policy.unit = .millimeter)
      (eq : w' = (w.withPolicy policy).reconcile)
  | restored (unit : w.session.policy.unit = .inch)
      (session :
        w'.session = { w.session with policy := w.session.policy.toggleUnit, ledger := .empty })
      (host : w'.host = { w.host with store := (w.session.ledger.restore w.host.store).1 })

/-! ## Commands -/

lemma samePanel_invoke (w : Workbench) (name label : String) :
    let e := w.session.invoke w.host name label
    SamePanel w ⟨e.session, e.host⟩ := by
  obtain ⟨hrows, hlastId, hstore⟩ := Host.panel_invoke (w.session.actionId name) w.host
  simp only [Session.invoke]
  split
  · next active host hinvoke =>
      rw [hinvoke] at hrows hlastId hstore
      exact ⟨rfl, rfl, hrows, hlastId, hstore⟩
  · next active host hinvoke =>
      rw [hinvoke] at hrows hlastId hstore
      exact ⟨rfl, rfl, hrows, hlastId, hstore⟩

lemma samePanel_toggleVisibility (w : Workbench) (target : VisibilityTarget) :
    let e := w.session.toggleVisibility w.host target
    SamePanel w ⟨e.session, e.host⟩ := by
  cases target with
  | all =>
      obtain ⟨hrows, hlastId, hstore⟩ := Host.panel_toggleAll w.host
      simp only [Session.toggleVisibility]
      split
      · exact ⟨rfl, rfl, rfl, rfl, rfl⟩
      · exact ⟨rfl, rfl, hrows, hlastId, hstore⟩
  | node index =>
      obtain ⟨hrows, hlastId, hstore⟩ := Host.panel_toggleNode index w.host
      simp only [Session.toggleVisibility]
      split
      · exact ⟨rfl, rfl, rfl, rfl, rfl⟩
      · split
        · exact ⟨rfl, rfl, rfl, rfl, rfl⟩
        · exact ⟨rfl, rfl, hrows, hlastId, hstore⟩

lemma effect_presentUnits (w : Workbench) (policy : Policy)
    (unit : policy.unit = .millimeter → w.session.policy.unit = .millimeter) :
    let e := { w.session with policy }.presentUnits w.host
    Effect w ⟨e.session, e.host⟩ :=
  .presented policy unit rfl

lemma effect_toggleUnit (w : Workbench) :
    let e := w.session.toggleUnit w.host
    Effect w ⟨e.session, e.host⟩ := by
  simp only [Session.toggleUnit]
  by_cases hinch : w.session.policy.toggleUnit.isInch = true
  · rw [if_pos hinch]
    refine effect_presentUnits w w.session.policy.toggleUnit fun hunit => ?_
    simp [Policy.isInch, hunit] at hinch
  · rw [if_neg hinch]
    refine .restored ?_ rfl rfl
    cases hunit : w.session.policy.unit with
    | inch => rfl
    | millimeter => simp [Policy.isInch, Policy.toggleUnit, hunit, Unit.toggled] at hinch

/-- **A command presents the panel under another policy, restores millimeters, or leaves panel and
ledger alone.** -/
theorem execute_effect (w : Workbench) (command : Command) : Effect w (w.execute command) := by
  cases command with
  | toggleTool action label | toggleViewOption action label =>
      exact .kept (samePanel_invoke w action label)
  | toggleGridPlane axis => exact .kept (samePanel_invoke w _ _)
  | setCameraView index =>
      simp only [execute, Session.execute]
      split
      · exact .kept (samePanel_invoke w _ _)
      · exact .kept ⟨rfl, rfl, rfl, rfl, rfl⟩
  | toggleUnit => exact effect_toggleUnit w
  | cyclePrecision => exact effect_presentUnits w w.session.policy.cyclePrecision id
  | toggleFeet => exact effect_presentUnits w w.session.policy.toggleFeet id
  | yankPrimary | yankRow index | yankRowAxis index axis | yankTable =>
      exact .kept ⟨rfl, rfl, rfl, rfl, rfl⟩
  | toggleVisibility target => exact .kept (samePanel_toggleVisibility w target)

/-! ## Passes -/

/-- A pass changes texts; rows and numbers stay. -/
lemma reconcile_panelChange (w : Workbench) : w.host.PanelChange w.reconcile.host := by
  simp only [reconcile, Session.reconcile]
  split <;> exact .of_eq rfl rfl

lemma rows_reconcile (w : Workbench) : w.reconcile.host.rows = w.host.rows := by
  simp only [reconcile, Session.reconcile]
  split <;> rfl

lemma policy_reconcile (w : Workbench) : w.reconcile.session.policy = w.session.policy := by
  simp only [reconcile, Session.reconcile]
  split <;> rfl

end Workbench

end PanelKeys
