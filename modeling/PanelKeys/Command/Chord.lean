import PanelKeys.Text.Blank
import PanelKeys.Text.Letter
import PanelKeys.Text.Split

/-!
# Chords

A chord is one printable key, with or without shift: all that a binding can be tied to.  A capital
typed on the keyboard and its small letter with shift are the same chord, so chords are built from
what was typed by `Chord.ofTyped`.

* `Chord.ofTyped` — the chord of a typed character;
* `Chord.parse` — the chord that the settings spell: `u`, `U`, `shift-u`, `Shift+U`;
* `Chord.text` — the spelling that is shown;
* `Chord.isReserved` — the keys that begin a sequence and cannot be bound.
-/

namespace PanelKeys

open PanelKeys.Text

/-- One printable key, with or without shift. -/
structure Chord where
  key : Char
  shift : Bool
  deriving DecidableEq

/-- Why a text spells no chord. -/
inductive ChordError where
  | empty
  | unsupportedModifier (name : String)
  | notSingleKey (text : String)
  deriving DecidableEq

def ChordError.message : ChordError → String
  | empty => "empty key chord"
  | unsupportedModifier name => s!"unsupported modifier `{name}`"
  | notSingleKey text => s!"`{text}` is not a single key"

namespace Chord

def plain (key : Char) : Chord := ⟨key, false⟩

def shifted (key : Char) : Chord := ⟨key, true⟩

/-- A capital is the shifted small letter; letters outside ASCII keep their own form. -/
def ofTyped (key : Char) (shift : Bool) : Chord :=
  if isUppercase key then shifted (lowerAscii key) else ⟨key, shift⟩

def isSeparator (c : Char) : Bool := c = '-' || c = '+'

def shiftName : List Char := ['s', 'h', 'i', 'f', 't']

/-- The chord of a text that is one character. -/
def ofSingle (shift : Bool) (cs : List Char) : Except ChordError Chord :=
  match cs with
  | [c] => .ok (ofTyped c shift)
  | _ => .error (.notSingleKey (String.ofList cs))

/-- The chord of a trimmed text.  A separator with nothing behind it is itself the key. -/
def ofTrimmed (cs : List Char) : Except ChordError Chord :=
  if cs.isEmpty then .error .empty
  else
    match splitFirst? isSeparator cs with
    | none => ofSingle false cs
    | some (modifier, rest) =>
        let name := modifier.map lowerAscii
        if rest.isEmpty then ofSingle false cs
        else if name = shiftName then ofSingle true rest
        else .error (.unsupportedModifier (String.ofList name))

/-- Reads `u`, `U`, `shift-u` and `shift+u`, with blanks around them. -/
def parse (s : String) : Except ChordError Chord := ofTrimmed (trimChars s.toList)

def chars (c : Chord) : List Char :=
  if c.shift then shiftName ++ ['-', c.key] else [c.key]

def text (c : Chord) : String := String.ofList c.chars

def isDigit (c : Chord) : Bool := !c.shift && c.key.isDigit

/-- The key alone, without shift. -/
def isPlain (c : Chord) (key : Char) : Bool := !c.shift && c.key = key

/-- Digits begin a count, `y` a yank, and `v` opens the view menu: none of them can be bound. -/
def isReserved (c : Chord) : Bool := c.isDigit || c.isPlain 'y' || c.isPlain 'v'

end Chord

end PanelKeys
