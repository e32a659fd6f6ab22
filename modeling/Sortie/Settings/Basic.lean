import Sortie.Session.Mission
/-!
# Settings

All that can be set about a session, with the usual values. Two presets differ in who takes
part: an operator who confirms each trajectory, or the two checkers alone.
-/

namespace Sortie

structure Settings where
  scenario : String := "reach_avoid"
  dt : Float := 0.7
  maxReplies : Nat := 10
  automated : Bool := false
  promptsDirectory : String := "config/prompts"
  instructionsFile : Option String := none
  printsInstructions : Bool := false
  confirms : Bool := false
  provider : String := "openai"
  model : String := "gpt-4o"
  baseUrl : Option String := none
  temperature : Float32 := 0.3
  /-- Seconds that a reply of the model may take; with `0` it may take any. -/
  requestTimeout : Nat := 60
  repairs : Bool := true
  repairLimit : Nat := 5
  judges : Bool := true
  judgeLimit : Nat := 5
  dynamics : Dynamics := .standard
  command : List String := []
  /-- Seconds that the solver may take; with `0` it may take any. -/
  solverTimeout : Nat := 300

namespace Settings

/-- An operator confirms each trajectory, and nothing is checked. -/
def interactive : Settings :=
  { automated := false, confirms := true, repairs := false, judges := false }

/-- The scenario's own task is flown under both checkers. -/
def oneShot : Settings :=
  { automated := true, confirms := false, repairs := true, judges := true }

/-- The file that instructs the model in conversation. -/
def conversationFile (s : Settings) : String :=
  match s.instructionsFile with
  | some name => name
  | none => if s.automated then "one_shot_instructions.txt" else "instructions.txt"

/-- The rules of a session under these settings. -/
def rules (s : Settings) : Rules :=
  { maxReplies := s.maxReplies, automated := s.automated
    repairs := s.repairs, repairLimit := s.repairLimit
    judges := s.judges, judgeLimit := s.judgeLimit
    confirms := s.confirms, printsInstructions := s.printsInstructions
    dt := s.dt, dynamics := s.dynamics }

/-- The instructions for a scenario under these settings. -/
def instructions (s : Settings) (files : Files) (scenario : Scenario) :
    Except Fault Instructions := do
  let horizon ← scenario.horizon s.dt
  Instructions.load files s.promptsDirectory s.conversationFile
    { objects := scenario.regionNames, steps := horizon.steps }

end Settings
end Sortie
