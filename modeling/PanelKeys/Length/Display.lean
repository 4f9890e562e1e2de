import PanelKeys.Length.Inch
import PanelKeys.Length.Millimeter

/-!
# The text of a length under a policy

`Policy.render` is the one place that decides how a length looks: as a decimal of millimeters, or as
inches with the policy's precision and feet.
-/

namespace PanelKeys.Length.Policy

open PanelKeys.Number

/-- The text of a length. -/
def render (p : Policy) (mm : Double) : String :=
  match p.unit with
  | .millimeter => Millimeter.text mm
  | .inch => (InchParts.ofMillimeters mm p.precision p.feet).text

end PanelKeys.Length.Policy
