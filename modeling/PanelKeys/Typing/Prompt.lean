import PanelKeys.Command.Bindings
import PanelKeys.Number.Count

/-!
# Modes and prompts

Between two keys the interpreter is in one of five modes: nothing begun, a count, a count with an
axis, a yank, or the view menu.  While something has been begun, a prompt lists the keys that go on
from there.

* `Mode` — the five modes, with the digits typed so far as they were typed;
* `Mode.prompt` — the title and the options of a mode, in the order in which they are listed.
-/

namespace PanelKeys

open PanelKeys.Number
open PanelKeys.Panel

/-- What has been typed so far. -/
inductive Mode where
  | idle
  | counting (digits : List Char)
  | countingAxis (digits : List Char) (axis : Axis)
  | yanking
  | choosingView
  deriving DecidableEq

namespace Mode

def isIdle (m : Mode) : Bool := m = idle

end Mode

/-- A key, or several, and what it does. -/
structure PromptOption where
  keys : String
  label : String
  deriving DecidableEq

/-- The overlay that lists the keys valid in a half-typed sequence. -/
structure Prompt where
  title : String
  options : List PromptOption
  deriving DecidableEq

namespace Prompt

/-- What `y` does after a count, if no axis is meant. -/
def yankLabel (count : Nat) : String :=
  if count = 0 then "Yank table" else s!"Yank row {count}"

/-- What `h` does after a count. -/
def visibilityLabel (count : Nat) : String :=
  if count = 0 then "Toggle all" else s!"Toggle node {count}"

def countOptions (count : Nat) : List PromptOption := [
  ⟨"0-9", "Count"⟩,
  ⟨"y", yankLabel count⟩,
  ⟨"x z", "Pick axis, then y"⟩,
  ⟨"v", s!"Camera view {count}"⟩,
  ⟨"h", visibilityLabel count⟩]

/-- After the axis `y`, waiting is a choice too. -/
def axisOptions (count : Nat) (axis : Axis) : List PromptOption :=
  ⟨"y", s!"Yank {axis.text} of row {count}"⟩ ::
    if axis = .y then [⟨"wait", yankLabel count⟩] else []

def bindingOptions (t : BindingTable) : List PromptOption :=
  t.entries.map fun (chord, entry) => ⟨chord.text, entry.label⟩

def menuOptions (t : ViewMenu) : List PromptOption :=
  t.entries.map fun (key, entry) => ⟨key.toString, entry.label⟩

end Prompt

/-- The prompt of a mode under the given tables; with nothing begun it lists the bindings. -/
def Mode.prompt (bindings : BindingTable) (menu : ViewMenu) : Mode → Prompt
  | idle => ⟨"", Prompt.bindingOptions bindings⟩
  | counting digits => ⟨String.ofList digits, Prompt.countOptions (countOfDigits digits)⟩
  | countingAxis digits axis =>
      ⟨String.ofList (digits ++ [axis.toChar]), Prompt.axisOptions (countOfDigits digits) axis⟩
  | yanking => ⟨"y", [⟨"y", "Yank primary value"⟩]⟩
  | choosingView => ⟨"v", Prompt.menuOptions menu⟩

end PanelKeys
