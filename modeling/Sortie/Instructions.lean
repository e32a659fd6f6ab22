import Sortie.Files
import Sortie.Scenario.Basic
import Sortie.Text.Search
/-!
# Instructions for the model

Instructions are templates with two words to fill in: the names of the regions and
the number of time steps. The names go in first, so a name that contains the second
word is filled in as well.
-/

namespace Sortie

/-- What a template is filled with. -/
structure Bindings where
  objects : List String
  steps : Nat
  deriving Repr, BEq, DecidableEq, Inhabited

namespace Bindings

/-- The word that the names of the regions replace. -/
def objectsWord : String := "OBJECTS"

/-- The word that the number of time steps replaces. -/
def stepsWord : String := "T_MAX"

/-- The names as a list of quoted words. -/
def objectsText (b : Bindings) : String :=
  "[" ++ ", ".intercalate (b.objects.map fun name => "'" ++ name ++ "'") ++ "]"

/-- The template with both words filled in. -/
def fill (b : Bindings) (template : String) : String :=
  Text.replace (Text.replace template objectsWord b.objectsText) stepsWord
    (Decimal.digits b.steps)

end Bindings

/-- The instructions of a session: for the conversation and for the two checkers. -/
structure Instructions where
  conversation : String
  repair : String
  judge : String
  deriving Repr, BEq, DecidableEq, Inhabited

namespace Instructions

/-- The file that instructs the checker of specifications. -/
def repairFile : String := "syntax_checker_instructions.txt"

/-- The file that instructs the checker of trajectories. -/
def judgeFile : String := "spec_check_instructions.txt"

/-- One template from a directory, filled in. -/
def loadFile (files : Files) (directory : String) (bindings : Bindings) (name : String) :
    Except Fault String :=
  let path := joinPath directory name
  match files.text path with
  | .ok template => .ok (bindings.fill template)
  | .error fault =>
    .error (.configuration s!"cannot read instruction template {path}: {fault.message}")

/-- Every path that is looked at when instructions are loaded. -/
def pathsTo (directory conversationFile : String) : List String :=
  [conversationFile, repairFile, judgeFile].map (joinPath directory)

/-- The instructions in a directory, read in the order conversation, repair, judge. -/
def load (files : Files) (directory conversationFile : String) (bindings : Bindings) :
    Except Fault Instructions := do
  let conversation ← loadFile files directory bindings conversationFile
  let repair ← loadFile files directory bindings repairFile
  let judge ← loadFile files directory bindings judgeFile
  return { conversation, repair, judge }

end Instructions
end Sortie
