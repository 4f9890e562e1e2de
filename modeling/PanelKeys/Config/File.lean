import PanelKeys.Config.Reading

/-!
# The settings file

The settings are kept in one file.  It is written, with every setting explained, when a session
begins and nothing stands in its place, and it is never changed afterwards.

* `SettingsFile` — what stands in the place of the file;
* `SettingsFile.ensure` — writes the file if nothing stands there;
* `SettingsFile.load` — the settings; **whatever is wrong with the file, there are settings**.
-/

namespace PanelKeys

/-- What stands in the place of the settings file. -/
inductive SettingsFile where
  | absent
  | directory
  | file (content : ByteArray)

namespace SettingsFile

/-- The lines of a new file. -/
def templateLines : List String := [
  "# keylayer configuration",
  "# Changes are applied live; just save this file.",
  "",
  "# How long a partial key sequence (e.g. \"3x\") waits for the next key",
  "sequence-timeout-ms = 1000",
  "",
  "# How often displayed measurement cells are re-checked",
  "reconcile-interval-ms = 250",
  "",
  "# Unit at startup: \"mm\" or \"inch\". Toggle with u, cycle precision with shift-u.",
  "default-unit = \"mm\"",
  "",
  "# Inch fraction precision: 8, 16 or 32",
  "default-precision = 16",
  "",
  "# Show feet for values of 12\" and above (toggle with shift-f)",
  "feet = false",
  "",
  "# Views selected by 1v, 2v, ...",
  "camera-views = [\"view-front\", \"view-back\", \"view-top\", \"view-bottom\", \"view-left\", "
    ++ "\"view-right\", \"view-iso\"]",
  "",
  "# Map symbolic action names to the host's own identifiers",
  "# [actions]",
  "# measure = \"toolbar.measure\"",
  "# view-top = \"camera.top\"",
  "",
  "# Custom keybindings (override defaults). Digits, y and v are reserved.",
  "# [[keybindings]]",
  "# keys = \"shift-m\"",
  "# action = \"tool:markup\"",
  "# label = \"Markup\"",
  "#",
  "# [[keybindings]]",
  "# keys = \"e\"",
  "# action = \"none\"",
  "",
  "# Entries for the v menu",
  "# [[view-options]]",
  "# key = \"s\"",
  "# action = \"option:shadows\"",
  "# label = \"Shadows\""]

/-- The text of a new file: every setting with its default. -/
def template : String := String.join (templateLines.map fun line => line ++ "\n")

def ofText (text : String) : SettingsFile := file text.toUTF8

/-- Writes a new file if nothing stands in its place. -/
def ensure : SettingsFile → SettingsFile
  | absent => ofText template
  | other => other

theorem ensure_ensure (f : SettingsFile) : f.ensure.ensure = f.ensure := by cases f <;> rfl

def isAbsent : SettingsFile → Bool
  | absent => true
  | _ => false

theorem isAbsent_ensure (f : SettingsFile) : f.ensure.isAbsent = false := by cases f <;> rfl

/-- Writing changes a file or makes one, but does not replace a directory. -/
def write (content : ByteArray) : SettingsFile → SettingsFile
  | directory => directory
  | _ => file content

/-- The text of the file, if there is one and it is text. -/
def text? : SettingsFile → Option String
  | file content => String.fromUTF8? content
  | _ => none

/-- The settings in the file, or the standard ones. -/
def load (f : SettingsFile) : Settings :=
  match f.text?.map Settings.parse with
  | some (.ok settings) => settings
  | _ => {}

/-- The file asks for nothing but the standard settings. -/
def isStandard (f : SettingsFile) : Bool := f.load = {}

end SettingsFile

end PanelKeys
