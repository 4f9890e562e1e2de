import PanelKeys.Command.Basic
import PanelKeys.Length.Policy

/-!
# What a command came to

A command that was carried out is reported in a few words.  Copies are the exception: their text has
still to reach the clipboard, and they are reported when it has.

* `Outcome` — what was done;
* `Outcome.text` — the words for it;
* `Outcome.message?` — the words that are shown at once.
-/

namespace PanelKeys

open PanelKeys.Length

/-- What a command did. -/
inductive Outcome where
  | action (label : String) (active : Option Bool)
  | units (policy : Policy)
  | visibility (target : VisibilityTarget) (visible : Option Bool)
  | copy (text what : String)
  deriving DecidableEq

namespace Outcome

def subject : VisibilityTarget → String
  | .all => "All nodes"
  | .node n => s!"Node {n}"

/-- The state of a toggle is told where it is known. -/
def text : Outcome → String
  | action label (some active) => label ++ if active then ": on" else ": off"
  | action label none => label
  | units policy => s!"Units: {policy.text}"
  | visibility target (some visible) => subject target ++ if visible then " shown" else " hidden"
  | visibility target none => subject target ++ " toggled"
  | copy _ what => s!"Copied {what}"

/-- The words that are shown at once; a copy is reported when it has reached the clipboard. -/
def message? : Outcome → Option String
  | copy _ _ => none
  | outcome => some outcome.text

end Outcome

end PanelKeys
