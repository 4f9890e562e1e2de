import PanelKeys.Terminal.Transcript

/-!
# The program

Looks up what a session needs, prints what it says, and writes the settings file if it is new.  What
is printed and how the program ends is decided by `Terminal.respond`.
-/

namespace PanelKeys.Terminal

/-- The name of the settings file in its directory. -/
def settingsFileName : String := "config.toml"

/-- The variable that names the directory of the settings file. -/
def configDirVariable : String := "KEYLAYER_CONFIG_DIR"

def joinPath (dir name : String) : String := dir ++ "/" ++ name

/-- The directory of the settings file: as named, or the platform's place for such files. -/
def configDirectory (a : Arguments) : IO String := do
  match a.configDir, ← IO.getEnv configDirVariable with
  | some dir, _ => return dir
  | none, some dir => return dir
  | none, none =>
      match ← IO.getEnv "XDG_CONFIG_HOME", ← IO.getEnv "HOME" with
      | some dir, _ => return joinPath dir "keylayer"
      | none, some home => return joinPath home ".config/keylayer"
      | none, none => return "keylayer"

/-- The value of an action, if it succeeds. -/
def attempt {α : Type} (action : IO α) : IO (Option α) := do
  try
    return some (← action)
  catch _ =>
    return none

/-- What stands in the place of the settings file; a directory opens but cannot be read. -/
def lookUp (path : String) : IO SettingsFile := do
  match ← attempt (IO.FS.Handle.mk path .read) with
  | none => return .absent
  | some handle =>
      match ← attempt handle.readBinToEnd with
      | some content => return .file content
      | none => return .directory

/-- Writes the settings file if it was not there. -/
def store (dir path : String) (before after : SettingsFile) : IO Unit := do
  if before.isAbsent then
    match after with
    | .file content =>
        IO.FS.createDirAll dir
        IO.FS.writeBinFile path content
    | _ => return

def say (ending : Ending) : IO UInt32 := do
  IO.print ending.output
  unless ending.complaint.isEmpty do IO.eprintln ending.complaint
  return UInt32.ofNat ending.exitCode

/-- A session: the settings file is looked up, the fixture and the keys are read. -/
def session (a : Arguments) : IO UInt32 := do
  let dir ← configDirectory a
  let path := joinPath dir settingsFileName
  let settingsFile ← lookUp path
  store dir path settingsFile settingsFile.ensure
  let fixtureText ← match a.fixture with
    | none => pure none
    | some file => attempt (IO.FS.readFile file)
  let input := (← attempt (← IO.getStdin).readToEnd).getD ""
  say (respond (.ok (.session a)) { settingsFile, fixtureText, input })

end PanelKeys.Terminal

open PanelKeys.Terminal in
def main (arguments : List String) : IO UInt32 := do
  match Arguments.parse arguments with
  | .ok (.session a) => session a
  | request => say (respond request { settingsFile := .absent, fixtureText := none, input := "" })
