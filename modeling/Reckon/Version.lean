/-!
# Version
-/

namespace Reckon

/-- The version of the calculator. -/
def version : String := "0.1.0"

end Reckon
