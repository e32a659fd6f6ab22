import Sortie.Fault
import Sortie.Text.Search
/-!
# How a program ends

A program ends well and in silence, or with a complaint that names what failed and why.
-/

namespace Sortie

/-- The exit code of a program and what it complains about. -/
structure Exit where
  code : Nat
  complaint : String
  deriving Repr, BEq, Inhabited

namespace Exit

def success : Exit := ⟨0, ""⟩

/-- Something failed for a reason; further lines of the reason are
indented like the first. -/
def failure (what reason : String) : Exit :=
  ⟨1, "Error: " ++ what ++ "\n\nCaused by:\n    " ++ Text.replace reason "\n" "\n    " ++ "\n"⟩

end Exit
end Sortie
