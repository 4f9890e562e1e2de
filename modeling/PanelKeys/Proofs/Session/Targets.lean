import PanelKeys.Proofs.Session.Refusals

/-!
# What a command touches

A command is given for one thing: the way in which lengths are shown, an action of the application,
a node, or a text for the clipboard.  Everything else must be afterwards as it was before, and what
is reported must be the state in which the command has left its own thing, not the one that was
asked for.

* `Command.policyAfter?`, `Command.ChangesPolicy` — the commands that change the policy, each in one
  component;
* `Shown`, `Ran`, `Flipped`, `Unified` — **what the four kinds of change leave alone**, and what
  they do to the one thing that they touch;
* `Carried` — what a command comes to that is carried out, with the report on it;
* `carried_of_action`, `carried_of_policy`, `carried_of_toggleVisibility`, `carried_of_copy` — the
  twelve commands by these kinds;
* **`carried_out`** — so every command touches its own thing only, and tells the truth about it.
-/

namespace PanelKeys

open PanelKeys.Length
open PanelKeys.Panel

/-- The policy under which a command shows lengths from then on. -/
def Command.policyAfter? (p : Policy) : Command → Option Policy
  | .toggleUnit => some { p with unit := p.unit.toggled }
  | .cyclePrecision => some { p with precision := p.precision.next }
  | .toggleFeet => some { p with feet := !p.feet }
  | _ => none

/-- The second policy is another in the component that the command is about, and in no other. -/
def Command.ChangesPolicy (p q : Policy) : Command → Prop
  | .toggleUnit => q.unit ≠ p.unit ∧ q.precision = p.precision ∧ q.feet = p.feet
  | .cyclePrecision => q.precision ≠ p.precision ∧ q.unit = p.unit ∧ q.feet = p.feet
  | .toggleFeet => q.feet ≠ p.feet ∧ q.unit = p.unit ∧ q.precision = p.precision
  | _ => False

lemma Command.changesPolicy_of_policyAfter? {command : Command} {p q : Policy}
    (h : command.policyAfter? p = some q) : command.ChangesPolicy p q := by
  cases command with
  | toggleUnit =>
      cases h
      exact ⟨p.unit.toggled_ne, rfl, rfl⟩
  | cyclePrecision =>
      cases h
      exact ⟨p.precision.next_ne, rfl, rfl⟩
  | toggleFeet =>
      cases h
      exact ⟨(Bool.not_eq_self p.feet).1, rfl, rfl⟩
  | _ => cases h

namespace Workbench

/-! ## Four kinds of change -/

/-- The lengths are shown under another policy: that changes texts and entries.  No cell comes, goes
or is locked. -/
structure Shown (w : Workbench) (policy : Policy) (w' : Workbench) : Prop where
  session : w'.session = { w.session with policy, ledger := w'.session.ledger }
  host : w'.host = { w.host with store := w'.host.store }
  cells : ∀ id, (w'.host.store.cells.get? id).map (·.locked)
    = (w.host.store.cells.get? id).map (·.locked)

/-- One action of the application has been run once: a toggle is the other way, a plain command as
it was. -/
structure Ran (w : Workbench) (id : String) (w' : Workbench) : Prop where
  session : w'.session = w.session
  host : w'.host = { w.host with actions := w'.host.actions, journal := w'.host.journal }
  state : ∃ before, w.host.actions.get? id = some before
    ∧ w'.host.actions.get? id = some before.invoked
  others : ∀ other, other ≠ id → w'.host.actions.get? other = w.host.actions.get? other
  invoked : w'.host.invoked = w.host.invoked ++ [id]
  notifications : w'.host.notifications = w.host.notifications

/-- One node is the other way. -/
structure Flipped (w : Workbench) (index : Nat) (w' : Workbench) : Prop where
  session : w'.session = w.session
  host : w'.host = { w.host with nodes := w'.host.nodes }
  count : w'.host.nodes.length = w.host.nodes.length
  node : ∃ before, w.host.nodeVisible index = some before ∧ w'.host.nodeVisible index = some !before
  others : ∀ other, other ≠ index → w'.host.nodeVisible other = w.host.nodeVisible other

/-- All nodes are the same way: hidden if any was visible, and else visible. -/
structure Unified (w : Workbench) (visible : Bool) (w' : Workbench) : Prop where
  session : w'.session = w.session
  host : w'.host = { w.host with nodes := w'.host.nodes }
  count : w'.host.nodes.length = w.host.nodes.length
  nodes : ∀ node ∈ w'.host.nodes, node = visible
  hidden : visible = false ↔ true ∈ w.host.nodes

/-- **What a command comes to that is carried out.**  What is reported of an action or a node is its
state afterwards. -/
inductive Carried (w : Workbench) : Command → Outcome → Workbench → Prop where
  | units {command : Command} {policy : Policy} {w' : Workbench}
      (asked : command.policyAfter? w.session.policy = some policy)
      (changed : command.ChangesPolicy w.session.policy policy) (shown : Shown w policy w') :
      Carried w command (.units policy) w'
  | action {command : Command} {name label : String} {w' : Workbench}
      (asked : w.session.actionOf? command = some (name, label))
      (ran : Ran w (w.session.actionId name) w') :
      Carried w command (.action label (w'.host.toggleState (w.session.actionId name))) w'
  | node {index : Nat} {w' : Workbench} (flipped : Flipped w index w') :
      Carried w (.toggleVisibility (.node index))
        (.visibility (.node index) (w'.host.nodeVisible index)) w'
  | all {visible : Bool} {w' : Workbench} (unified : Unified w visible w') :
      Carried w (.toggleVisibility .all) (.visibility .all (some visible)) w'
  | copy {command : Command} (asked : command.isYank = true) (text what : String) :
      Carried w command (.copy text what) w

variable {w : Workbench} {command : Command} {outcome : Outcome}

/-! ## The commands -/

lemma carried_of_action {name label : String}
    (hasked : w.session.actionOf? command = some (name, label))
    (hok : (w.session.execute w.host command).result = .ok outcome) :
    w.Carried command outcome (w.execute command) := by
  rw [Session.execute_of_actionOf? hasked] at hok
  cases hstate : w.host.actions.get? (w.session.actionId name) with
  | none =>
      rw [Session.invoke_of_missing _ _ hstate] at hok
      cases hok
  | some state =>
      have hinvoke := Session.invoke_of_found label w.host hstate
      rw [hinvoke] at hok
      have hran : Ran w (w.session.actionId name) (w.execute command) := by
        rw [execute, Session.execute_of_actionOf? hasked, hinvoke]
        refine ⟨rfl, rfl, ⟨state, hstate, Table.get?_insert_self _ _ _⟩,
          fun other hne => ?_, ?_, ?_⟩
        · exact Table.get?_insert_of_ne _ _ hne.symm
        · exact Host.invoked_write _ _
        · exact (Host.notifications_write _ _).trans (List.append_nil _)
      have hactive : (w.execute command).host.toggleState (w.session.actionId name)
          = state.invoked.active? := by
        obtain ⟨before, hbefore, hafter⟩ := hran.state
        rw [Host.toggleState, hafter, ← Option.some.inj (hstate.symm.trans hbefore)]
        rfl
      cases hok
      rw [← hactive]
      exact .action hasked hran

/-- A pass changes texts and entries. -/
lemma reconcile_frame (w : Workbench) :
    w.reconcile.session = { w.session with ledger := w.reconcile.session.ledger }
      ∧ w.reconcile.host = { w.host with store := w.reconcile.host.store } := by
  simp only [reconcile, Session.reconcile]
  split <;> exact ⟨rfl, rfl⟩

lemma shown_of_pass {policy : Policy}
    (hpass : w.execute command = (w.withPolicy policy).reconcile) :
    Shown w policy (w.execute command) := by
  obtain ⟨hsession, hhost⟩ := reconcile_frame (w.withPolicy policy)
  refine ⟨?_, ?_, locked_effect (execute_effect w command)⟩
  · rw [hpass]
    exact hsession
  · rw [hpass]
    exact hhost

/-- Inches are shown by a pass, millimeters by the way back; the report is read off afterwards. -/
lemma shown_toggleUnit (w : Workbench) :
    Shown w w.session.policy.toggleUnit (w.execute .toggleUnit)
      ∧ (w.session.execute w.host .toggleUnit).result
        = .ok (.units (w.execute .toggleUnit).session.policy) := by
  by_cases hinch : w.session.policy.toggleUnit.isInch = true
  · have hpresent : w.session.execute w.host .toggleUnit
        = { w.session with policy := w.session.policy.toggleUnit }.presentUnits w.host := by
      simp only [Session.execute, Session.toggleUnit, hinch, if_true]
    have hpass : w.execute .toggleUnit = (w.withPolicy w.session.policy.toggleUnit).reconcile := by
      rw [execute, hpresent]
      rfl
    refine ⟨shown_of_pass hpass, ?_⟩
    rw [hpass, hpresent]
    rfl
  · have hback : w.session.execute w.host .toggleUnit
        = ⟨.ok (.units w.session.policy.toggleUnit),
            { w.session with policy := w.session.policy.toggleUnit, ledger := .empty },
            { w.host with store := (w.session.ledger.restore w.host.store).1 }⟩ := by
      simp only [Session.execute, Session.toggleUnit, hinch, if_false, Bool.false_eq_true]
    refine ⟨⟨?_, ?_, locked_effect (execute_effect w .toggleUnit)⟩, ?_⟩
    · rw [execute, hback]
    · rw [execute, hback]
    · rw [execute, hback]

lemma carried_of_policy {policy : Policy}
    (hasked : command.policyAfter? w.session.policy = some policy)
    (hok : (w.session.execute w.host command).result = .ok outcome) :
    w.Carried command outcome (w.execute command) := by
  have hshown : Shown w policy (w.execute command)
      ∧ (w.session.execute w.host command).result
        = .ok (.units (w.execute command).session.policy) := by
    cases command with
    | toggleUnit =>
        cases hasked
        exact shown_toggleUnit w
    | cyclePrecision | toggleFeet =>
        cases hasked
        exact ⟨shown_of_pass rfl, rfl⟩
    | _ => cases hasked
  obtain ⟨hchanged, hresult⟩ := hshown
  have hpolicy : (w.execute command).session.policy = policy := by rw [hchanged.session]
  rw [hresult, hpolicy] at hok
  cases hok
  exact .units hasked (Command.changesPolicy_of_policyAfter? hasked) hchanged

/-- One node is flipped where it stands. -/
lemma flipped_set {index : Nat} {visible : Bool} (hnode : nth? w.host.nodes index = some visible) :
    Flipped w index
      ⟨w.session, { w.host with nodes := w.host.nodes.set (index - 1) !visible }⟩ := by
  have hnodes : ∀ other, nth? (w.host.nodes.set (index - 1) !visible) other
      = if other = index then some !visible else nth? w.host.nodes other := nth?_set hnode !visible
  refine ⟨rfl, rfl, List.length_set, ⟨visible, hnode, ?_⟩, fun other hne => ?_⟩
  · exact (hnodes index).trans (if_pos rfl)
  · exact (hnodes other).trans (if_neg hne)

lemma unified_map (w : Workbench) :
    Unified w (!w.host.nodes.any id)
      ⟨w.session, { w.host with nodes := w.host.nodes.map fun _ => !w.host.nodes.any id }⟩ := by
  refine ⟨rfl, rfl, List.length_map _, fun node hnode => ?_, by simp⟩
  obtain ⟨-, -, rfl⟩ := List.mem_map.1 hnode
  rfl

lemma carried_of_toggleVisibility {target : VisibilityTarget}
    (hok : (w.session.execute w.host (.toggleVisibility target)).result = .ok outcome) :
    w.Carried (.toggleVisibility target) outcome (w.execute (.toggleVisibility target)) := by
  rw [Session.execute] at hok
  by_cases hnodes : w.host.nodes = []
  · rw [Session.toggleVisibility_of_empty target hnodes] at hok
    cases hok
  · cases target with
    | all =>
        rw [execute, Session.execute]
        rw [Session.toggleVisibility_all hnodes] at hok ⊢
        cases hok
        exact .all (unified_map w)
    | node index =>
        cases hnode : nth? w.host.nodes index with
        | none =>
            rw [Session.toggleVisibility_of_no_node hnodes hnode] at hok
            cases hok
        | some visible =>
            rw [execute, Session.execute]
            rw [Session.toggleVisibility_node hnode] at hok ⊢
            have hflipped := flipped_set hnode
            obtain ⟨before, hbefore, hafter⟩ := hflipped.node
            obtain rfl := Option.some.inj (hnode.symm.trans hbefore)
            cases hok
            rw [← hafter]
            exact .node hflipped

/-- A copy is made of the panel as it is. -/
lemma carried_of_copy (hasked : command.isYank = true)
    (hok : (w.session.execute w.host command).result = .ok outcome) :
    w.Carried command outcome (w.execute command) := by
  have hcopy : ∃ text what, w.session.execute w.host command = w.session.copy w.host text what := by
    cases command with
    | yankPrimary | yankRow index | yankRowAxis index axis | yankTable => exact ⟨_, _, rfl⟩
    | _ => cases hasked
  obtain ⟨text, what, hcopy⟩ := hcopy
  have hkept : w.execute command = w := by
    rw [execute, hcopy]
    rfl
  rw [hkept]
  rw [hcopy] at hok
  cases text with
  | error why => cases hok
  | ok text =>
      cases hok
      exact .copy hasked text what

/-- **A command touches its own thing only, and tells the truth about it**, whatever there is
besides.  The policy changes for three commands, in one component each, and texts and entries change
for no others.  An action, a node or all nodes are left as they are reported, and what has been run
is the one action that the name stands for.  A copy changes nothing at all. -/
theorem carried_out (w : Workbench) (command : Command) (outcome : Outcome)
    (hok : (w.session.execute w.host command).result = .ok outcome) :
    w.Carried command outcome (w.execute command) := by
  cases command with
  | toggleUnit | cyclePrecision | toggleFeet => exact carried_of_policy rfl hok
  | toggleTool action label | toggleViewOption action label | toggleGridPlane axis =>
      exact carried_of_action rfl hok
  | setCameraView index =>
      cases hview : nth? w.session.cameraViews index with
      | none =>
          rw [Session.execute_of_no_view hview] at hok
          cases hok
      | some name => exact carried_of_action (Session.actionOf?_of_view hview) hok
  | toggleVisibility target => exact carried_of_toggleVisibility hok
  | yankPrimary | yankRow index | yankRowAxis index axis | yankTable =>
      exact carried_of_copy rfl hok

/-- Two names for one toggle, run by the second of them; then all nodes, of which one is hidden; and
finer fractions, while millimeters are shown. -/
theorem carried_out_under_second_name :
    let w := (((((new {} (.ofList [("grid", "snap"), ("raster", "snap")]) []).step
      (.edit (.addToggle "snap" false))).step (.edit (.addToggle "raster" true))).step
      (.edit (.setNodes 2))).step (.edit (.toggleNode 1)))
    w.Carried (.toggleTool "raster" "Raster") (.action "Raster" (some true))
        (w.execute (.toggleTool "raster" "Raster"))
      ∧ (w.execute (.toggleTool "raster" "Raster")).host.invoked = ["snap"]
      ∧ w.Carried (.toggleVisibility .all) (.visibility .all (some false))
        (w.execute (.toggleVisibility .all))
      ∧ (w.execute (.toggleVisibility .all)).host.nodes = [false, false]
      ∧ w.Carried .cyclePrecision (.units { precision := .thirtySecond })
        (w.execute .cyclePrecision)
      ∧ w.session.policy.precision = .sixteenth
      ∧ (w.execute .cyclePrecision).session.policy.precision = .thirtySecond := by
  intro w
  have htool : (w.session.execute w.host (.toggleTool "raster" "Raster")).result
      = .ok (.action "Raster" (some true)) := by decide +kernel
  have hall : (w.session.execute w.host (.toggleVisibility .all)).result
      = .ok (.visibility .all (some false)) := by decide +kernel
  have hfiner : (w.session.execute w.host .cyclePrecision).result
      = .ok (.units { precision := .thirtySecond }) := by decide +kernel
  exact ⟨carried_out w _ _ htool, by decide +kernel, carried_out w _ _ hall, by decide +kernel,
    carried_out w _ _ hfiner, rfl, rfl⟩

end Workbench

end PanelKeys
