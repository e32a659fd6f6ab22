import Sortie.Text.Blank
import Sortie.Text.Case
/-!
# The operator

The operator types a line at each prompt: a task, or `quit`, at one, and the answer
to a question at the other. The end of the input counts as `quit` at the first prompt
and as `n` at the second.
-/

namespace Sortie.Operator

def taskPrompt : String := "User: "

def confirmPrompt : String := "Accept the trajectory? (y/n): "

/-- Asks for an answer once more. -/
def invalidAnswer : String := "Invalid input. Please enter 'y' or 'n'."

/-- The line asks to end the session. -/
def isQuit (line : String) : Bool :=
  Text.equalsIgnoringAsciiCase (Text.trim line) "quit"

/-- The answer that a line gives. -/
def answer? (line : String) : Option Bool :=
  if Text.readsAs "y" (Text.trim line) then some true
  else if Text.readsAs "n" (Text.trim line) then some false
  else none

/-- What comes of asking for a line: a line, the end of the input, or a failure to read. -/
abbrev Line := Except String (Option String)

/-- What is said to a line that is no answer. -/
def remark? : Line → Option String
  | .ok (some line) => if (answer? line).isNone then some invalidAnswer else none
  | _ => none

/-- The next of the lines that remain. -/
def nextLine : List (Except String String) → Line × List (Except String String)
  | [] => (.ok none, [])
  | line :: rest => (line.map some, rest)

/-- Asks until a line is an answer, or the input ends or fails. Gives the answer, the lines
read in order, and the lines that remain. -/
def confirm : List (Except String String) →
    Except String Bool × List Line × List (Except String String)
  | [] => (.ok false, [.ok none], [])
  | .error e :: rest => (.error e, [.error e], rest)
  | .ok line :: rest =>
    match answer? line with
    | some b => (.ok b, [.ok (some line)], rest)
    | none =>
      let (result, read, left) := confirm rest
      (result, .ok (some line) :: read, left)

end Sortie.Operator
