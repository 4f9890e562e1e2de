import PanelKeys.Panel.Fixture

/-!
# The demo panel

What the program shows when no fixture is named.
-/

namespace PanelKeys.Terminal

/-- A length, a vector, an angle and a header, with every action that the standard keys name. -/
def demoPanel : Fixture where
  rows := [
    { label := "Length", value := some "25.4" },
    { label := "Center", vector := some ("12.7", "-6.35", "330.2") },
    { label := "Angle", value := some "45°" },
    { label := "Selection" }]
  toggles := [
    "measure", "section", "inspector", "isolate", "explode", "grid", "edges", "wireframe",
    "perspective", "transparency", "grid-plane-x", "grid-plane-y", "grid-plane-z"]
  commands := [
    "fit", "view-front", "view-back", "view-top", "view-bottom", "view-left", "view-right",
    "view-iso"]
  nodes := 3

end PanelKeys.Terminal
