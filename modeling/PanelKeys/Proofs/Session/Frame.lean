import Mathlib.Tactic.Lemma
import PanelKeys.Session.Basic

/-!
# What is out of reach of commands

A command asks few things of the application: its cells, its actions and its nodes.  What the user
is shown besides, the overlay and the messages, is up to the controller.  So a view of the
application that sees none of those things is the same after every command, and there is nothing to
be proved for one command at a time.

* `OutOfReach` — a view that requests of commands do not change;
* **`OutOfReach.execute`** — then no command changes it, whether it succeeds or fails;
* `notifications_outOfReach` — the messages to the user are such a view.
-/

namespace PanelKeys

/-- A view of the application that is the same after everything that commands ask for. -/
structure OutOfReach {α : Type} (view : Host → α) : Prop where
  store (h : Host) (store : CellStore) : view { h with store } = view h
  invoke (h : Host) (id : String) : view (h.invoke id).2 = view h
  toggleNode (h : Host) (index : Nat) : view (h.toggleNode index).2 = view h
  toggleAll (h : Host) : view h.toggleAll.2 = view h

namespace OutOfReach

variable {α : Type} {view : Host → α}

lemma reconcile (hview : OutOfReach view) (s : Session) (h : Host) :
    view (s.reconcile h).2.2 = view h := by
  simp only [Session.reconcile]
  split
  · exact hview.store h _
  · rfl

lemma invokeAction (hview : OutOfReach view) (s : Session) (h : Host) (name label : String) :
    view (s.invoke h name label).host = view h := by
  have hhost := hview.invoke h (s.actionId name)
  simp only [Session.invoke]
  split
  · next active host hinvoke => rwa [hinvoke] at hhost
  · next active host hinvoke => rwa [hinvoke] at hhost

lemma presentUnits (hview : OutOfReach view) (s : Session) (h : Host) :
    view (s.presentUnits h).host = view h :=
  hview.reconcile s h

lemma toggleUnit (hview : OutOfReach view) (s : Session) (h : Host) :
    view (s.toggleUnit h).host = view h := by
  simp only [Session.toggleUnit]
  split
  · exact hview.presentUnits _ h
  · exact hview.store h _

lemma toggleVisibility (hview : OutOfReach view) (s : Session) (h : Host)
    (target : VisibilityTarget) :
    view (s.toggleVisibility h target).host = view h := by
  cases target with
  | all =>
      simp only [Session.toggleVisibility]
      split
      · rfl
      · exact hview.toggleAll h
  | node index =>
      simp only [Session.toggleVisibility]
      split
      · rfl
      · split
        · rfl
        · exact hview.toggleNode h index

/-- **Commands do not change what is out of their reach.** -/
theorem execute (hview : OutOfReach view) (s : Session) (h : Host) (command : Command) :
    view (s.execute h command).host = view h := by
  cases command with
  | toggleTool action label | toggleViewOption action label =>
      exact hview.invokeAction s h action label
  | toggleGridPlane axis => exact hview.invokeAction s h _ _
  | setCameraView index =>
      simp only [Session.execute]
      split
      · exact hview.invokeAction s h _ _
      · rfl
  | toggleUnit => exact hview.toggleUnit s h
  | cyclePrecision | toggleFeet => exact hview.presentUnits _ h
  | toggleVisibility target => exact hview.toggleVisibility s h target
  | yankPrimary | yankRow index | yankRowAxis index axis | yankTable => rfl

end OutOfReach

/-! ## The journal -/

namespace Host

lemma notifications_write (call : HostCall) (h : Host) :
    (h.write call).notifications = h.notifications ++ call.notification?.toList := by
  simp only [write, notifications, List.filterMap_append, List.filterMap_cons, List.filterMap_nil]
  cases call.notification? <;> rfl

lemma invoked_write (call : HostCall) (h : Host) :
    (h.write call).invoked = h.invoked ++ call.action?.toList := by
  simp only [write, invoked, List.filterMap_append, List.filterMap_cons, List.filterMap_nil]
  cases call.action? <;> rfl

/-- Commands bring no messages of their own. -/
lemma notifications_outOfReach : OutOfReach notifications where
  store _ _ := rfl
  invoke h id := by
    simp only [invoke]
    split <;> exact (notifications_write _ _).trans (List.append_nil _)
  toggleNode h index := by
    simp only [toggleNode]
    split <;> rfl
  toggleAll h := by
    simp only [toggleAll]
    split <;> rfl

end Host

end PanelKeys
