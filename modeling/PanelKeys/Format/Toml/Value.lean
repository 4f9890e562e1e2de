import PanelKeys.Format.Toml.Moment
import PanelKeys.Format.Toml.Number
import PanelKeys.Format.Toml.Quoted

/-!
# TOML values

* `TomlValue` — the values.  An array or a table knows how it came about, since that decides what a
  later line may add to it;
* `within` — **the one way into a table**: along a path of keys, making the tables that are missing;
* `keyPath?` — keys joined by points;
* `value?` — a value at the front of a text.
-/

namespace PanelKeys

namespace Toml

/-- How an array or a table came about. -/
inductive Origin where
  /-- written as a value -/
  | inline
  /-- under a header of its own -/
  | header
  /-- on the way to the table of another header -/
  | implied
  /-- on the way of a dotted key -/
  | dotted
  deriving DecidableEq

end Toml

open Toml in
/-- The values of TOML.  Of numbers that are not whole only the kind is kept. -/
inductive TomlValue where
  | string (text : String)
  | integer (value : Int)
  | float
  | boolean (value : Bool)
  | moment (text : String)
  | array (origin : Origin) (items : List TomlValue)
  | table (origin : Origin) (entries : List (String × TomlValue))

namespace Toml

/-! ## Tables -/

/-- The entries of a table; no key occurs twice. -/
abbrev Entries := List (String × TomlValue)

def find? (key : String) (entries : Entries) : Option TomlValue :=
  (entries.find? fun e => e.1 = key).map Prod.snd

def replace (key : String) (value : TomlValue) (entries : Entries) : Entries :=
  entries.map fun e => if e.1 = key then (key, value) else e

/-- Who goes along a path of keys: a header, or a dotted key in front of its value. -/
inductive Way where
  | header
  | dotted
  deriving DecidableEq

/-- What a table is that was made on the way. -/
def Way.origin : Way → Origin
  | header => .implied
  | dotted => .dotted

/-- Headers go through every table that is not a value.  Dotted keys go through tables that have no
header of their own, and end only in tables that dotted keys have made. -/
def Way.enters (way : Way) (last : Bool) : Origin → Bool
  | .inline => false
  | .header => way = .header
  | .implied => way = .header || !last
  | .dotted => true

/-- An array of tables is entered at its last item, and no dotted key ends there. -/
def Way.entersItem (way : Way) (last : Bool) : Bool := way = .header || !last

/-- Goes along a path and makes a change at its end. -/
def within (way : Way) (change : Entries → Option Entries) :
    List String → Entries → Option Entries
  | [], entries => change entries
  | key :: keys, entries =>
      match find? key entries with
      | none =>
          (within way change keys []).map fun sub => entries ++ [(key, .table way.origin sub)]
      | some (.table origin sub) =>
          if way.enters keys.isEmpty origin then
            (within way change keys sub).map fun sub => replace key (.table origin sub) entries
          else none
      | some (.array .header items) =>
          match items.getLast? with
          | some (.table origin sub) =>
              if way.entersItem keys.isEmpty then
                (within way change keys sub).map fun sub =>
                  replace key (.array .header (items.dropLast ++ [.table origin sub])) entries
              else none
          | _ => none
      | some _ => none

/-- A new entry; its key must be free. -/
def insertNew (key : String) (value : TomlValue) (entries : Entries) : Option Entries :=
  match find? key entries with
  | none => some (entries ++ [(key, value)])
  | some _ => none

/-- A path of keys with the last one apart. -/
structure KeyPath where
  way : List String
  key : String

/-- A new entry under a dotted key. -/
def assign (path : KeyPath) (value : TomlValue) (entries : Entries) : Option Entries :=
  within .dotted (insertNew path.key value) path.way entries

/-! ## Keys -/

def isBareKeyChar (c : Char) : Bool := c.isAlphanum || c = '_' || c = '-'

/-- A key: bare, or quoted on one line. -/
def key? (cs : List Char) : Option (String × List Char) :=
  match cs with
  | '"' :: rest => (basic? rest).map fun (text, rest) => (String.ofList text, rest)
  | '\x27' :: rest => (literal? rest).map fun (text, rest) => (String.ofList text, rest)
  | _ =>
      let bare := cs.takeWhile isBareKeyChar
      if bare.isEmpty then none else some (String.ofList bare, cs.dropWhile isBareKeyChar)

/-- Keys joined by points, with blanks around each. -/
def keys? (fuel : Nat) (cs : List Char) : Option (List String × List Char) :=
  match fuel with
  | 0 => none
  | fuel + 1 => do
      let (key, rest) ← key? (dropBlanks cs)
      match dropBlanks rest with
      | '.' :: rest =>
          let (more, rest) ← keys? fuel rest
          some (key :: more, rest)
      | rest => some ([key], rest)

/-- Paths and nested values have fewer than this many levels. -/
def maxLevels : Nat := 80

/-- A path of keys; each takes a character, and long paths are refused, so that the fuel
suffices. -/
def keyPath? (cs : List Char) : Option (KeyPath × List Char) := do
  let (keys, rest) ← keys? (maxLevels - 1) cs
  let key ← keys.getLast?
  some (⟨keys.dropLast, key⟩, rest)

/-! ## Values -/

def number? (cs : List Char) : Option (TomlValue × List Char) :=
  match moment? cs with
  | some (text, rest) => some (.moment text, rest)
  | none =>
      match float? cs with
      | some rest => some (.float, rest)
      | none => (integer? cs).map fun (n, rest) => (.integer n, rest)

mutual

/-- A value at the front of a text, and what follows it.  Each level of nesting takes one of
`levels`. -/
def value? (fuel levels : Nat) (cs : List Char) : Option (TomlValue × List Char) :=
  match fuel with
  | 0 => none
  | fuel + 1 =>
      match cs with
      | 't' :: 'r' :: 'u' :: 'e' :: rest => some (.boolean true, rest)
      | 'f' :: 'a' :: 'l' :: 's' :: 'e' :: rest => some (.boolean false, rest)
      | '[' :: rest =>
          if levels = 0 then none
          else (items? fuel (levels - 1) rest).map fun (items, rest) => (.array .inline items, rest)
      | '{' :: rest =>
          if levels = 0 then none
          else
            match dropBlanks rest with
            | '}' :: rest => some (.table .inline [], rest)
            | rest =>
                (pairs? fuel (levels - 1) [] rest).map fun (entries, rest) =>
                  (.table .inline entries, rest)
      | _ =>
          match quoted? cs with
          | some (text, rest) => some (.string text, rest)
          | none => number? cs

/-- The items of an array up to its closing bracket; a comma may follow the last. -/
def items? (fuel levels : Nat) (cs : List Char) : Option (List TomlValue × List Char) :=
  match fuel with
  | 0 => none
  | fuel + 1 => do
      match ← dropGap? false cs with
      | ']' :: rest => some ([], rest)
      | cs => do
          let (v, rest) ← value? fuel levels cs
          match ← dropGap? false rest with
          | ']' :: rest => some ([v], rest)
          | ',' :: rest =>
              let (more, rest) ← items? fuel levels rest
              some (v :: more, rest)
          | _ => none

/-- The entries of a table in braces, up to the closing one, behind those that stand already; no
comma may follow the last. -/
def pairs? (fuel levels : Nat) (entries : Entries) (cs : List Char) :
    Option (Entries × List Char) :=
  match fuel with
  | 0 => none
  | fuel + 1 => do
      let (path, rest) ← keyPath? cs
      let (v, rest) ← value? fuel levels (dropBlanks (← mark? '=' rest))
      let entries ← assign path v entries
      match dropBlanks rest with
      | '}' :: rest => some (entries, rest)
      | ',' :: rest => pairs? fuel levels entries rest
      | _ => none

end

/-- A value at the front of a text; every step takes a character, so that the fuel suffices. -/
def valueAt? (length : Nat) (cs : List Char) : Option (TomlValue × List Char) :=
  value? (2 * length + 2) (maxLevels - 1) cs

end Toml

end PanelKeys
