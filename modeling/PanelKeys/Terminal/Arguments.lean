/-!
# The command line

Arguments are read from the left.  Long options take their value behind `=` or as the next argument,
the letter `f` also without anything between; the first argument that makes no sense, or that asks
for nothing but words about the program, ends the reading.

* `Argument.ofText` — how one argument reads;
* `Arguments.parse` — what the command line asks for.  **No option may be given twice, and no value
  may be empty**.
-/

namespace PanelKeys.Terminal

/-- The options. -/
inductive OptionName where
  | fixture
  | configDir
  | noWatch
  | help
  | version
  deriving DecidableEq

namespace OptionName

def text : OptionName → String
  | fixture => "--fixture"
  | configDir => "--config-dir"
  | noWatch => "--no-watch"
  | help => "--help"
  | version => "--version"

def ofName? : String → Option OptionName
  | "fixture" => some fixture
  | "config-dir" => some configDir
  | "no-watch" => some noWatch
  | "help" => some help
  | "version" => some version
  | _ => none

def ofLetter? : Char → Option OptionName
  | 'f' => some fixture
  | 'h' => some help
  | 'V' => some version
  | _ => none

def takesValue : OptionName → Bool
  | fixture => true
  | configDir => true
  | _ => false

end OptionName

/-- How one argument reads. -/
inductive Argument where
  | option (name : OptionName) (value : Option String)
  | unknown (text : String)
  /-- two dashes: options end here -/
  | endOfOptions
  | plain (text : String)
  deriving DecidableEq

namespace Argument

/-- The name of a long option, and its value if one is attached. -/
def cutValue (cs : List Char) : String × Option String :=
  let name := cs.takeWhile (· ≠ '=')
  match cs.drop name.length with
  | [] => (String.ofList name, none)
  | _ :: value => (String.ofList name, some (String.ofList value))

/-- What is attached to a letter. -/
def attached : List Char → Option String
  | [] => none
  | '=' :: value => some (String.ofList value)
  | value => some (String.ofList value)

/-- A single dash is no option, and neither is the empty argument. -/
def ofText (text : String) : Argument :=
  match text.toList with
  | ['-', '-'] => endOfOptions
  | '-' :: '-' :: cs =>
      let (name, value) := cutValue cs
      match OptionName.ofName? name with
      | some name => option name value
      | none => unknown text
  | '-' :: letter :: cs =>
      match OptionName.ofLetter? letter with
      | some name => option name (if name.takesValue then attached cs else none)
      | none => unknown text
  | _ => plain text

end Argument

/-- Why a command line makes no sense. -/
inductive UsageError where
  | unexpected (text : String)
  | missingValue (name : OptionName)
  | needlessValue (name : OptionName)
  | repeated (name : OptionName)
  deriving DecidableEq

def UsageError.message : UsageError → String
  | unexpected text => s!"error: unexpected argument '{text}' found"
  | missingValue name => s!"error: a value is required for '{name.text}' but none was supplied"
  | needlessValue name => s!"error: unexpected value for '{name.text}' found"
  | repeated name => s!"error: the argument '{name.text}' cannot be used multiple times"

/-- What the options of a session say. -/
structure Arguments where
  fixture : Option String := none
  configDir : Option String := none
  noWatch : Bool := false
  deriving DecidableEq

/-- What a command line asks for. -/
inductive Request where
  | session (arguments : Arguments)
  | help
  | version
  deriving DecidableEq

namespace Arguments

/-- A value for an option that has none yet. -/
def newValue (name : OptionName) (old : Option String) (value : String) :
    Except UsageError (Option String) :=
  if value.isEmpty then .error (.missingValue name)
  else if old.isSome then .error (.repeated name)
  else .ok (some value)

def setFixture (a : Arguments) (value : String) : Except UsageError Arguments :=
  (newValue .fixture a.fixture value).map fun fixture => { a with fixture }

def setConfigDir (a : Arguments) (value : String) : Except UsageError Arguments :=
  (newValue .configDir a.configDir value).map fun configDir => { a with configDir }

def setNoWatch (a : Arguments) : Except UsageError Arguments :=
  if a.noWatch then .error (.repeated .noWatch) else .ok { a with noWatch := true }

/-- Stores the value of an option that takes one. -/
def setValue (a : Arguments) (name : OptionName) (value : String) : Except UsageError Arguments :=
  match name with
  | .fixture => a.setFixture value
  | .configDir => a.setConfigDir value
  | name => .error (.needlessValue name)

/-- Reads arguments behind those that have been read. -/
def readFrom (a : Arguments) : List String → Except UsageError Request
  | [] => .ok (.session a)
  | text :: rest =>
      match Argument.ofText text with
      | .plain text | .unknown text => .error (.unexpected text)
      | .endOfOptions =>
          match rest with
          | [] => .ok (.session a)
          | text :: _ => .error (.unexpected text)
      | .option name (some value) => do (← a.setValue name value).readFrom rest
      | .option .help none => .ok .help
      | .option .version none => .ok .version
      | .option .noWatch none => do (← a.setNoWatch).readFrom rest
      | .option name none =>
          match rest with
          | [] => .error (.missingValue name)
          | text :: rest =>
              match Argument.ofText text with
              | .plain value => do (← a.setValue name value).readFrom rest
              | _ => .error (.missingValue name)

/-- What the arguments of the program ask for. -/
def parse (texts : List String) : Except UsageError Request := ({} : Arguments).readFrom texts

end Arguments

example : Arguments.parse ["-f=a", "--no-watch"]
    = .ok (.session { fixture := some "a", noWatch := true }) := rfl

example : Arguments.parse ["--fixture", "--version"] = .error (.missingValue .fixture) := rfl

end PanelKeys.Terminal
