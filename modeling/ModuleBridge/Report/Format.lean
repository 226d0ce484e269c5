import ModuleBridge.OutputFormat
import ModuleBridge.Report.Outline

/-!
# Printing reports

Every command reports a value, which is printed in the format that was asked for.
-/

namespace ModuleBridge

/-- The text of a report in a format. Only outlines have colours. Reference: `format_output`. -/
def OutputFormat.print (format : OutputFormat) (isColoured : Bool) (v : Json) : String :=
  match format with
  | .json => v.indented
  | .text => v.compact
  | .pretty => Report.outline isColoured v

end ModuleBridge
