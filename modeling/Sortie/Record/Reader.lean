import Sortie.Json.Number
import Sortie.Record.Writer
/-!
# Reading records

The records that can be read back. Every field must be there exactly once, in any order;
unknown fields are skipped. A list of the fields in their order is a record as well.
-/

namespace Sortie

def Role.ofName? (name : String) : Option Role :=
  [Role.user, .assistant, .system].find? (·.recordName == name)

/-- A role by its name, alone or as a variant without contents. -/
def Role.ofJson? : Json → Option Role
  | .string (some name) => ofName? name
  | .object [(some name, .null)] => ofName? name
  | _ => none

def Message.ofJson? (j : Json) : Option Message := do
  match ← j.exactly? ["role", "content"] with
  | [role, content] => return { role := ← Role.ofJson? role, content := ← content.asText? }
  | _ => none

/-- A region by its bounds. -/
def Region.ofJson? (j : Json) : Option Region := do
  let bounds ← j.exactly? ["xmin", "xmax", "ymin", "ymax", "zmin", "zmax"]
  Region.ofBounds? (← bounds.mapM Json.asReal?)

/-- A state as the list of its components. -/
def State.ofJson? (j : Json) : Option State := do
  State.ofComponents? (← (← j.asArray?).mapM Json.asReal?)

end Sortie
