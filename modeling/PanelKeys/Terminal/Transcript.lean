import PanelKeys.Config.File
import PanelKeys.Panel.FixtureText
import PanelKeys.Session.EventLoop
import PanelKeys.Terminal.Arguments
import PanelKeys.Terminal.DemoPanel
import PanelKeys.Text.Split

/-!
# Sessions in a terminal

Keys are read one a line, and what the keyboard layer says is printed line by line: messages,
prompts, copied texts, and in the end the panel.

* `transcript` — everything that a session prints whose keys are all there from the start;
* `respond` — what the program prints for a command line, how it ends, and what it leaves in the
  place of the settings file.  **The settings file is made sure of before the fixture is read**, and
  not at all when the command line asks for no session.
-/

namespace PanelKeys.Terminal

open PanelKeys.Text

/-! ## Lines -/

def mark (positive : Bool) : String := if positive then "ok" else "!!"

/-- A prompt on one line. -/
def promptLine (prompt : Prompt) : String :=
  s!"[{prompt.title}] " ++ joinWith " | " (prompt.options.map fun o => s!"{o.keys} {o.label}")

/-- What is printed when the application is asked to do something. -/
def callLine? : HostCall → Option String
  | .notified n => some s!"[{mark n.positive}] {n.message}"
  | .promptShown prompt => some (promptLine prompt)
  | .promptHidden => none
  | .invoked _ _ => none

/-- The clipboard of a terminal is the terminal. -/
def clipboardLines (text : String) : List String :=
  ["--- clipboard ---", text, "-----------------"]

/-- A row with the texts of its cells. -/
def rowLine (h : Host) (row : Row) : String :=
  s!"  {row.label}: " ++ joinWith "  " (row.cells.filterMap h.readText?)

def panelLines (c : Controller) : List String :=
  s!"Panel ({c.session.policy.text}):" :: c.host.snapshot.map (rowLine c.host)

/-! ## A session -/

/-- The keys of a text, one a line; lines that spell none are passed over. -/
def keysOf (input : String) : List KeyPress :=
  (splitAll '\n' input.toList).filterMap fun line => (KeyPress.parse (String.ofList line)).toOption

/-- The loop with every key handled: a first pass, then the keys, all at the same instant. -/
def typeAll (keys : List KeyPress) (l : EventLoop) : EventLoop :=
  (l.step .tick 0).run (keys.map fun press => (.key press, 0))

/-- All texts on their way have been taken by the clipboard. -/
def answerAll (l : EventLoop) : EventLoop := l.finish (l.flights.map fun _ => (0, .ok ())) 0

/-- The lines for what the application was asked between two states of the loop. -/
def callLines (before after : EventLoop) : List String :=
  (after.host.journal.drop before.host.journal.length).filterMap callLine?

/-- Everything that a session prints. -/
def transcriptLines (settings : Settings) (fixture : Fixture) (input : String) : List String :=
  let start := EventLoop.new (Host.ofFixture fixture) settings
  let typed := typeAll (keysOf input) start
  let answered := answerAll typed
  callLines start typed
    ++ typed.flights.flatMap (fun flight => clipboardLines flight.job.text)
    ++ callLines typed answered
    ++ panelLines answered.controller

def lines (ls : List String) : String := String.join (ls.map fun line => line ++ "\n")

def transcript (settings : Settings) (fixture : Fixture) (input : String) : String :=
  lines (transcriptLines settings fixture input)

/-! ## The program -/

def versionText : String := lines ["keylayer 0.1.0"]

def helpText : String := lines [
  "Keyboard sequences over a measurement panel",
  "",
  "Usage: keylayer [OPTIONS]",
  "",
  "Options:",
  "  -f, --fixture <FIXTURE>        JSON panel fixture to load instead of the built-in demo panel",
  "      --config-dir <CONFIG_DIR>  Config directory (defaults to the platform config dir)",
  "      --no-watch                 Do not watch the config file for changes",
  "  -h, --help                     Print help",
  "  -V, --version                  Print version"]

/-- What the program finds around it. -/
structure Surroundings where
  settingsFile : SettingsFile
  /-- the text of the fixture file that was named, if it can be read -/
  fixtureText : Option String
  input : String

/-- How the program ends. -/
structure Ending where
  exitCode : Nat
  output : String := ""
  complaint : String := ""
  settingsFile : SettingsFile

/-- The fixture of a session: the demo panel, or what the named file holds. -/
def fixtureOf (a : Arguments) (fixtureText : Option String) : Except String Fixture :=
  match a.fixture with
  | none => .ok demoPanel
  | some path =>
      match fixtureText with
      | none => .error s!"Failed to read fixture: {path}"
      | some text =>
          match Fixture.parse? text with
          | some fixture => .ok fixture
          | none => .error s!"in {path}: invalid panel fixture"

/-- A session from its arguments. -/
def runSession (a : Arguments) (s : Surroundings) : Ending :=
  let settingsFile := s.settingsFile.ensure
  match fixtureOf a s.fixtureText with
  | .ok fixture =>
      { exitCode := 0, output := transcript settingsFile.load fixture s.input, settingsFile }
  | .error why => { exitCode := 1, complaint := s!"Error: {why}", settingsFile }

/-- What the program does for a command line. -/
def respond (request : Except UsageError Request) (s : Surroundings) : Ending :=
  match request with
  | .ok (.session a) => runSession a s
  | .ok .help => { exitCode := 0, output := helpText, settingsFile := s.settingsFile }
  | .ok .version => { exitCode := 0, output := versionText, settingsFile := s.settingsFile }
  | .error e => { exitCode := 2, complaint := e.message, settingsFile := s.settingsFile }

end PanelKeys.Terminal
