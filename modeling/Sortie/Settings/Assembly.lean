import Sortie.Scenario.Catalogue
import Sortie.Settings.Basic
import Sortie.Solver.Command
/-!
# From settings to a session

What the settings name is looked up in a fixed order: the scenario, then the instructions,
then the solver. Parts that are given are not looked up.
-/

namespace Sortie.Settings

def mission (s : Settings) (files : Files) (scenario? : Option Scenario)
    (instructions? : Option Instructions) : Except Fault Mission := do
  let scenario ← match scenario? with
    | some scenario => pure scenario
    | none => Catalogue.find s.scenario
  let instructions ← match instructions? with
    | some instructions => pure instructions
    | none => s.instructions files scenario
  return { scenario, instructions, rules := s.rules }

/-- What is said when no solver is named. -/
def noCommand : String :=
  "solver.command is empty; set it in config/default.toml or SKYSPEC__SOLVER__COMMAND"

def solver (s : Settings) : Except Fault CommandSolver :=
  match CommandSolver.ofCommandLine? s.solverTimeout s.command with
  | some solver => .ok solver
  | none => .error (.configuration noCommand)

end Sortie.Settings
