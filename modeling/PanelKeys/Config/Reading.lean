import PanelKeys.Config.Settings
import PanelKeys.Format.Toml.Document

/-!
# Settings as text

The settings are written in TOML.  Every one may be left out, and names that are not known are
passed over; a value of the wrong kind spoils the whole text.

* `Settings.ofToml?` — the settings in the entries of a document;
* `Settings.parse` — the settings of a text.  **A text above 64 KiB is refused unread**, and entries
  with overlong texts are dropped from what has been read.
-/

namespace PanelKeys

open PanelKeys.Length

namespace TomlValue

/-! ## Kinds of values -/

def asText? : TomlValue → Option String
  | string text => some text
  | _ => none

def asFlag? : TomlValue → Option Bool
  | boolean value => some value
  | _ => none

/-- A number that is not negative; the format itself holds it below `2^63`. -/
def asCount? : TomlValue → Option Nat
  | integer n => if 0 ≤ n then some n.toNat else none
  | _ => none

/-- A text of one character. -/
def asChar? (v : TomlValue) : Option Char := do
  match (← v.asText?).toList with
  | [c] => some c
  | _ => none

def asItems? : TomlValue → Option (List TomlValue)
  | array _ items => some items
  | _ => none

/-- The key under which the text of a moment stands where a table is wanted. -/
def momentKey : String := "$__toml_private_datetime"

/-- The entries of a table; a moment counts as a table that holds its text. -/
def asEntries? : TomlValue → Option Toml.Entries
  | table _ entries => some entries
  | moment text => some [(momentKey, .string text)]
  | _ => none

/-- Whether nothing stands between the brackets or braces. -/
def isHollow : TomlValue → Bool
  | array _ items => items.isEmpty
  | table _ entries => entries.isEmpty
  | _ => false

def texts? (v : TomlValue) : Option (List String) := do (← v.asItems?).mapM asText?

/-- A table of texts, in the order of the document. -/
def textTable? (v : TomlValue) : Option (Table String String) := do
  let pairs ← (← v.asEntries?).mapM fun (key, v) => v.asText?.map fun text => (key, text)
  some (Table.ofList pairs)

/-- The fields of a record with these names: the entries of a table, or the items of an array in the
order of the names.  What has no name is passed over. -/
def fields? (names : List String) : TomlValue → Option (String → Option TomlValue)
  | array _ items => some fun name => ((names.zip items).find? fun p => p.1 = name).map Prod.snd
  | v => v.asEntries?.map fun entries name => Toml.find? name entries

/-- A field that may be left out. -/
def optional? {α : Type} (read : TomlValue → Option α) : Option TomlValue → Option (Option α)
  | none => some none
  | some v => (read v).map some

/-- A field that has a default where it is left out. -/
def withDefault? {α : Type} (dflt : α) (read : TomlValue → Option α) : Option TomlValue → Option α
  | none => some dflt
  | some v => read v

end TomlValue

namespace Settings

/-! ## The single settings -/

def unitNamed? : String → Option Length.Unit
  | "mm" => some .millimeter
  | "inch" | "in" => some .inch
  | _ => none

/-- The name of a unit, or a table that holds nothing but that name with nothing under it. -/
def unit? : TomlValue → Option Length.Unit
  | .string name => unitNamed? name
  | .table _ [(name, v)] => if v.isHollow then unitNamed? name else none
  | _ => none

def precision? (v : TomlValue) : Option Precision := do
  (Precision.ofDenominator (← v.asCount?)).toOption

def keybinding? (v : TomlValue) : Option KeybindingEntry := do
  let field ← v.fields? ["keys", "action", "label"]
  let keys ← (← field "keys").asText?
  let action ← (← field "action").asText?
  let label ← TomlValue.optional? TomlValue.asText? (field "label")
  some { keys, action, label }

def viewOption? (v : TomlValue) : Option ViewOptionEntry := do
  let field ← v.fields? ["key", "action", "label"]
  let key ← (← field "key").asChar?
  let action ← (← field "action").asText?
  let label ← TomlValue.optional? TomlValue.asText? (field "label")
  some { key, action, label }

/-! ## All settings -/

/-- The settings in the entries of a document, as they are written. -/
def ofToml? (entries : Toml.Entries) : Option Settings := do
  let dflt : Settings := {}
  let field {α : Type} (name : String) (value : α) (read : TomlValue → Option α) : Option α :=
    TomlValue.withDefault? value read (Toml.find? name entries)
  some {
    sequenceTimeoutMs := ← field "sequence-timeout-ms" dflt.sequenceTimeoutMs TomlValue.asCount?
    reconcileIntervalMs :=
      ← field "reconcile-interval-ms" dflt.reconcileIntervalMs TomlValue.asCount?
    defaultUnit := ← field "default-unit" dflt.defaultUnit unit?
    defaultPrecision := ← field "default-precision" dflt.defaultPrecision precision?
    feet := ← field "feet" dflt.feet TomlValue.asFlag?
    actions := ← field "actions" dflt.actions TomlValue.textTable?
    cameraViews := ← field "camera-views" dflt.cameraViews TomlValue.texts?
    keybindings := ← field "keybindings" dflt.keybindings fun v => do
      (← v.asItems?).mapM keybinding?
    viewOptions := ← field "view-options" dflt.viewOptions fun v => do
      (← v.asItems?).mapM viewOption? }

/-- The largest text that is read, in bytes. -/
def maxFileBytes : Nat := 64 * 1024

end Settings

/-- Why a text holds no settings. -/
inductive SettingsError where
  | tooLarge (bytes : Nat)
  | malformed
  deriving DecidableEq

def SettingsError.message : SettingsError → String
  | tooLarge bytes => s!"config file too large ({bytes} bytes)"
  | malformed => "parsing config.toml"

/-- The settings of a text, without overlong entries. -/
def Settings.parse (s : String) : Except SettingsError Settings :=
  if Settings.maxFileBytes < s.utf8ByteSize then .error (.tooLarge s.utf8ByteSize)
  else
    match (Toml.document? s).bind Settings.ofToml? with
    | some settings => .ok settings.sanitized
    | none => .error .malformed

end PanelKeys
