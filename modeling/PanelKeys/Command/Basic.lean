import PanelKeys.Panel.Axis
import PanelKeys.Text.Blank

/-!
# Commands

A command is what a finished key sequence asks for, and it is carried out as a whole.  Tools, views
and view options are named by symbolic action names; which action of the application each name
stands for is a matter of the settings.

* `Command` — everything that can be asked for; counts in it start at one;
* `Command.yankRowOrTable`, `Command.toggleNodeOrAll` — a count of zero stands for all of them;
* `Command.ofBindingText?`, `Command.ofMenuText?` — a command as the settings write it;
* `Command.text` — a command as it is reported.
-/

namespace PanelKeys

open PanelKeys.Panel
open PanelKeys.Text

/-- What a visibility toggle applies to; nodes are counted from one. -/
inductive VisibilityTarget where
  | all
  | node (index : Nat)
  deriving DecidableEq

/-- Everything that a key sequence can ask for; rows, nodes and views are counted from one. -/
inductive Command where
  | toggleTool (action label : String)
  | setCameraView (index : Nat)
  | toggleViewOption (action label : String)
  | toggleGridPlane (axis : Axis)
  | toggleUnit
  | cyclePrecision
  | toggleFeet
  | yankPrimary
  | yankRow (index : Nat)
  | yankRowAxis (index : Nat) (axis : Axis)
  | yankTable
  | toggleVisibility (target : VisibilityTarget)
  deriving DecidableEq

namespace Command

/-- Yanks the row with this number, and the whole table for zero. -/
def yankRowOrTable (index : Nat) : Command :=
  if index = 0 then yankTable else yankRow index

/-- Toggles the node with this number, and all of them for zero. -/
def toggleNodeOrAll (index : Nat) : Command :=
  toggleVisibility (if index = 0 then .all else .node index)

def ofActionName? (name : List Char) (command : String → Command) : Option Command :=
  if name.isEmpty then none else some (command (String.ofList name))

def toolMark : List Char := ['t', 'o', 'o', 'l', ':']

def optionMark : List Char := ['o', 'p', 't', 'i', 'o', 'n', ':']

def gridPlaneMark : List Char := ['g', 'r', 'i', 'd', '-', 'p', 'l', 'a', 'n', 'e', ':']

/-- The commands that a key can be bound to by their name alone. -/
def ofBuiltinName? : String → Option Command
  | "toggle-unit" => some toggleUnit
  | "cycle-precision" => some cyclePrecision
  | "toggle-feet" => some toggleFeet
  | "yank-primary" => some yankPrimary
  | "yank-table" => some yankTable
  | "toggle-all" => some (toggleNodeOrAll 0)
  | _ => none

/-- Reads the action of a key binding: the name of a command, or `tool:` and the name of a tool. -/
def ofBindingText? (s : String) : Option Command :=
  let cs := trimChars s.toList
  match toolMark.isPrefixOf? cs with
  | some name => ofActionName? name fun n => toggleTool n n
  | none => ofBuiltinName? (String.ofList cs)

/-- Reads the action of a menu entry: `grid-plane:` and an axis, or `option:` and a name. -/
def ofMenuText? (s : String) : Option Command :=
  let cs := trimChars s.toList
  match gridPlaneMark.isPrefixOf? cs with
  | some [c] => (Axis.ofChar? c).map toggleGridPlane
  | some _ => none
  | none =>
      match optionMark.isPrefixOf? cs with
      | some name => ofActionName? name fun n => toggleViewOption n n
      | none => none

/-- Whether the command copies text. -/
def isYank : Command → Bool
  | yankPrimary | yankRow _ | yankRowAxis _ _ | yankTable => true
  | _ => false

def text : Command → String
  | toggleTool action _ => s!"toggle-tool({action})"
  | setCameraView n => s!"set-camera-view({n})"
  | toggleViewOption action _ => s!"toggle-view-option({action})"
  | toggleGridPlane axis => s!"toggle-grid-plane({axis.text})"
  | toggleUnit => "toggle-unit"
  | cyclePrecision => "cycle-precision"
  | toggleFeet => "toggle-feet"
  | yankPrimary => "yank-primary"
  | yankRow n => s!"yank-row({n})"
  | yankRowAxis n axis => s!"yank-row-axis({n}, {axis.text})"
  | yankTable => "yank-table"
  | toggleVisibility .all => "toggle-visibility(all)"
  | toggleVisibility (.node n) => s!"toggle-visibility({n})"

/-- The label of an entry that brings none: that of the tool or option, else the command itself. -/
def defaultLabel : Command → String
  | toggleTool _ label => label
  | toggleViewOption _ label => label
  | command => command.text

/-- Gives a tool or an option another label; other commands carry none. -/
def relabel (label : String) : Command → Command
  | toggleTool action _ => toggleTool action label
  | toggleViewOption action _ => toggleViewOption action label
  | command => command

end Command

end PanelKeys
