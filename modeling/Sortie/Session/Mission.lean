import Sortie.Instructions
import Sortie.Solver.Request
/-!
# Missions

A mission is all that is settled before a session begins: the scenario, the instructions
for the model and the rules of the session.
-/

namespace Sortie

structure Rules where
  /-- How many replies of the model one turn may take. -/
  maxReplies : Nat
  /-- The scenario's own task is put to the model, and no operator is asked for one. -/
  automated : Bool
  /-- Infeasible specifications are repaired, this many times in all. -/
  repairs : Bool
  repairLimit : Nat
  /-- Trajectories are judged, this many times in all. -/
  judges : Bool
  judgeLimit : Nat
  /-- The operator has the last word on each trajectory. -/
  confirms : Bool
  /-- The instructions are printed when the conversation begins. -/
  printsInstructions : Bool
  /-- The time step in seconds. -/
  dt : Float
  dynamics : Dynamics
  deriving Repr, Inhabited, BEq

/-- What a session is to do. -/
structure Mission where
  scenario : Scenario
  instructions : Instructions
  rules : Rules

end Sortie
