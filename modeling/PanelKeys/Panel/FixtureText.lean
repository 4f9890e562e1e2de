import PanelKeys.Format.Json
import PanelKeys.Panel.Fixture

/-!
# Fixtures as text

A fixture file is JSON.  Every part of it has a default, only the label of a row must be given;
parts that are not known are passed over.

* `Fixture.parse?` — the fixture of a text, if it is one.
-/

namespace PanelKeys

namespace Fixture

/-- Three texts. -/
def vector? (v : JsonValue) : Option (String × String × String) := do
  match ← v.asArray? with
  | [x, y, z] => some (← x.asText?, ← y.asText?, ← z.asText?)
  | _ => none

def texts? (v : JsonValue) : Option (List String) := do (← v.asArray?).mapM JsonValue.asText?

def row? (v : JsonValue) : Option FixtureRow := do
  let field ← v.fields? ["label", "value", "vector"]
  let label ← (← field "label").asText?
  let value ← JsonValue.optional? JsonValue.asText? (field "value")
  let vector ← JsonValue.optional? vector? (field "vector")
  some { label, value, vector }

def rows? (v : JsonValue) : Option (List FixtureRow) := do (← v.asArray?).mapM row?

def ofJson? (v : JsonValue) : Option Fixture := do
  let field ← v.fields? ["rows", "toggles", "commands", "nodes"]
  let rows ← JsonValue.withDefault? [] rows? (field "rows")
  let toggles ← JsonValue.withDefault? [] texts? (field "toggles")
  let commands ← JsonValue.withDefault? [] texts? (field "commands")
  let nodes ← JsonValue.withDefault? 0 JsonValue.asCount? (field "nodes")
  some { rows, toggles, commands, nodes }

/-- The fixture of a text. -/
def parse? (s : String) : Option Fixture := (JsonValue.read? s).bind ofJson?

end Fixture

end PanelKeys
