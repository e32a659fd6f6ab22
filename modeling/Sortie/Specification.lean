import Sortie.Fault
import Sortie.Text.Search
/-!
# Specifications

The model writes the formal specification of a task between `<` and `>`. The last such pair
counts. What stands in it is opaque here; line breaks become spaces.
-/

namespace Sortie

/-- The formal text of a task. -/
structure Specification where
  text : String
  deriving Repr, BEq, DecidableEq, Inhabited

namespace Specification

/-- Scans for pairs. `inside` holds the characters since an open `<`, last first, and
`best` the content of the last pair that was closed. -/
def scan (inside best : Option (List Char)) : List Char → Option (List Char)
  | [] => best
  | c :: rest =>
    match inside with
    | none => scan (if c = '<' then some [] else none) best rest
    | some done =>
      if c = '>' then scan none (some done.reverse) rest else scan (some (c :: done)) best rest

/-- What stands between the last `<` and `>`: from the first `<` on, each pair ends at the
next `>`, and the scan goes on after it. -/
def lastPair? (text : List Char) : Option (List Char) :=
  scan none none text

/-- A line break becomes a space. -/
def spaceBreak (c : Char) : Char :=
  if c = '\n' then ' ' else c

/-- The specification in a reply. The last pair must not be empty. -/
def extract (reply : String) : Except Fault Specification :=
  match lastPair? reply.toList with
  | some (c :: cs) => .ok ⟨.ofList ((c :: cs).map spaceBreak)⟩
  | _ => .error (.extraction "No specification found in the response.")

end Specification

/-- The word with which a checker accepts. -/
def acceptedToken : String := "<accepted>"

/-- The word with which a checker rejects. -/
def rejectedToken : String := "<rejected>"

/-- What a checker's reply says, if it says anything. Acceptance counts
before rejection. -/
def readVerdict? (reply : String) : Option Bool :=
  if Text.contains reply acceptedToken then some true
  else if Text.contains reply rejectedToken then some false
  else none

/-- A reply that opens a pair. -/
def opensPair (reply : String) : Bool :=
  reply.toList.contains '<'

end Sortie
