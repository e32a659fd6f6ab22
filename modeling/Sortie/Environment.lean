import Sortie.Text.Search
import Sortie.Text.Utf8
/-!
# The environment

Variables by name, as a program is started with them.
-/

namespace Sortie

/-- Variables by name. -/
abbrev Environment := List (String × String)

namespace Environment

/-- A name and a value, with an equals sign between them. -/
def assignment? (text : List Char) : Option (String × String) :=
  match text.dropWhile (· ≠ '=') with
  | '=' :: value => some (.ofList (text.takeWhile (· ≠ '=')), .ofList value)
  | _ => none

/-- The variables in a block of memory, where a zero byte ends each of them. -/
def ofBlock (bytes : List UInt8) : Environment :=
  (Text.splitAt '\x00' (Text.Utf8.decodeLossy bytes).toList).filterMap assignment?

end Environment
end Sortie
