import PanelKeys.Command.Chord

/-!
# Key presses

What the keyboard delivers: a key and the modifiers that were down.  Presses are also written as
text, one per line, when the keys come from a file or a pipe.

* `KeyPress` — a key with its modifiers;
* `KeyPress.chord?` — the chord that takes part in sequences; presses with control, alt or the
  platform key, and named keys, have none and belong to the application;
* `KeyPress.parse` — reads `u`, `U`, `shift-u`, `ctrl-c`, `escape`, `space`, `-`;
* `KeyPress.text` — the spelling that is shown.
-/

namespace PanelKeys

open PanelKeys.Text

/-- A key of the keyboard. -/
inductive Key where
  | char (c : Char)
  | escape
  | named (name : String)
  deriving DecidableEq

/-- The modifiers that were down. -/
structure Modifiers where
  shift : Bool := false
  control : Bool := false
  alt : Bool := false
  platform : Bool := false
  deriving DecidableEq

/-- Modifiers that leave the key to the application. -/
def Modifiers.hasCommand (m : Modifiers) : Bool := m.control || m.alt || m.platform

/-- A key with the modifiers that were down. -/
structure KeyPress where
  key : Key
  modifiers : Modifiers := {}
  deriving DecidableEq

/-- Why a text spells no key press. -/
inductive KeyError where
  | empty
  | unknownModifier (name : String)
  deriving DecidableEq

def KeyError.message : KeyError → String
  | empty => "empty key"
  | unknownModifier name => s!"unknown modifier `{name}`"

/-- Sets the modifier with this name; `none` if there is no such modifier. -/
def Modifiers.add? (m : Modifiers) (name : String) : Option Modifiers :=
  match name with
  | "shift" => some { m with shift := true }
  | "ctrl" | "control" => some { m with control := true }
  | "alt" | "option" => some { m with alt := true }
  | "cmd" | "meta" | "super" | "platform" => some { m with platform := true }
  | _ => none

namespace KeyPress

def isEscape (k : KeyPress) : Bool := k.key = .escape

/-- The chord that takes part in key sequences. -/
def chord? (k : KeyPress) : Option Chord :=
  if k.modifiers.hasCommand then none
  else
    match k.key with
    | .char c => some (Chord.ofTyped c k.modifiers.shift)
    | _ => none

def isDash (c : Char) : Bool := c = '-'

/-- Reads modifier names off the front, each closed by a dash.  A dash with nothing before or behind
it closes no name, so that `-` and `ctrl--` end in the dash key. -/
def readModifiers (m : Modifiers) (cs : List Char) : Except KeyError (Modifiers × List Char) :=
  match _h : splitFirst? isDash cs with
  | none => .ok (m, cs)
  | some (name, tail) =>
      if name.isEmpty || tail.isEmpty then .ok (m, cs)
      else
        match m.add? (String.ofList (name.map lowerAscii)) with
        | some m' => readModifiers m' tail
        | none => .error (.unknownModifier (String.ofList name))
termination_by cs.length
decreasing_by exact length_lt_of_splitFirst? _h

/-- One character is its own key; longer texts are names. -/
def keyOf (cs : List Char) : Key :=
  match cs with
  | [c] => .char c
  | _ =>
      match String.ofList (cs.map lowerAscii) with
      | "escape" | "esc" => .escape
      | "space" => .char ' '
      | name => .named name

/-- Reads modifiers and a key, with blanks around them. -/
def parse (s : String) : Except KeyError KeyPress :=
  let cs := trimChars s.toList
  if cs.isEmpty then .error .empty
  else (readModifiers {} cs).map fun (m, rest) => ⟨keyOf rest, m⟩

def modifierTexts (m : Modifiers) : String :=
  (if m.control then "ctrl-" else "") ++ (if m.alt then "alt-" else "")
    ++ (if m.platform then "cmd-" else "") ++ (if m.shift then "shift-" else "")

def keyText : Key → String
  | .char c => c.toString
  | .escape => "escape"
  | .named name => name

def text (k : KeyPress) : String := modifierTexts k.modifiers ++ keyText k.key

end KeyPress

end PanelKeys
