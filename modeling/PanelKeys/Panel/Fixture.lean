import PanelKeys.Panel.Host

/-!
# Fixtures

A fixture describes an application at the start of a session: its rows, its toggles and commands,
and how many nodes its scene has.
-/

namespace PanelKeys

/-- A row of a fixture: a vector if it has one, else a value, else a header. -/
structure FixtureRow where
  label : String
  value : Option String := none
  vector : Option (String × String × String) := none
  deriving DecidableEq

/-- An application at the start of a session. -/
structure Fixture where
  rows : List FixtureRow := []
  toggles : List String := []
  commands : List String := []
  nodes : Nat := 0
  deriving DecidableEq

namespace Host

def pushFixtureRow (h : Host) (row : FixtureRow) : Host :=
  match row.vector, row.value with
  | some (x, y, z), _ => (h.pushVector row.label x y z).2
  | none, some text => (h.pushScalar row.label text).2
  | none, none => (h.pushHeader row.label).2

/-- Rows first; toggles begin inactive, and a command takes the place of a toggle of its name. -/
def ofFixture (f : Fixture) : Host :=
  let h := f.rows.foldl pushFixtureRow empty
  let h := f.toggles.foldl (fun h id => h.addToggle id false) h
  let h := f.commands.foldl (fun h id => h.addCommand id) h
  h.setNodes f.nodes

end Host

end PanelKeys
