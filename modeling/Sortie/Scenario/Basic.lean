import Sortie.Fault
import Sortie.Trajectory
import Sortie.Decimal.Layout
/-!
# Scenarios

A scenario is a room with named regions, a place to start, a time limit, a task in words
and an objective that says over the regions when the task is done. `Scenario.check` turns a
description into a scenario: names must be distinct, the objective may only refer to
declared regions, and there must be time to fly.
-/

namespace Sortie

/-- When a task is done, by the names of regions. -/
inductive Objective where
  /-- Reach the goal and stay out of the obstacles. -/
  | reachAvoid (goal : String) (obstacles : List String)
  /-- Reach the target, stay out of the walls, and do not pass the gate
  before reaching the key. -/
  | orderedAccess (target : String) (walls : List String) (gate key : String)
  deriving Repr, BEq, DecidableEq, Inhabited

/-- Every region that an objective refers to, in the order in which they are looked for. -/
def Objective.references : Objective → List String
  | reachAvoid goal obstacles => goal :: obstacles
  | orderedAccess target walls gate key => target :: gate :: key :: walls

/-- What a scenario is made of, before it is checked. -/
structure Description where
  name : String
  regions : List NamedRegion
  objective : Objective
  start : State
  /-- The time limit in seconds. -/
  duration : Float
  task : String
  deriving Repr, Inhabited, BEq

/-- The names of the regions, in the order of declaration. -/
def Description.regionNames (d : Description) : List String :=
  d.regions.map NamedRegion.name

def Description.region? (d : Description) (name : String) : Option Region :=
  (d.regions.find? (·.name == name)).map NamedRegion.region

/-- The first name that also stands before. -/
def firstRepeated? : List String → List String → Option String
  | _, [] => none
  | before, name :: rest =>
    if before.contains name then some name else firstRepeated? (name :: before) rest

/-- A description that can be flown. -/
structure Scenario extends Description where
  nodup_names : toDescription.regionNames.Nodup
  declared : ∀ name ∈ objective.references, name ∈ toDescription.regionNames
  duration_pos : 0 < duration

/-- The steps of a scenario in time. -/
structure Horizon where
  steps : Nat
  dt : Float
  deriving Repr, Inhabited, BEq

namespace Scenario

/-- Checks a description. Of several faults the first repeated region is reported before
the first undeclared one, and that before the time limit. -/
def check (d : Description) : Except Fault Scenario :=
  if nodup : d.regionNames.Nodup then
    if declared : ∀ name ∈ d.objective.references, name ∈ d.regionNames then
      if positive : 0 < d.duration then .ok ⟨d, nodup, declared, positive⟩
      else .error <| .configuration
        s!"scenario '{d.name}' has non-positive duration {Decimal.plainText d.duration}"
    else
      let missing := (d.objective.references.find? fun name => !d.regionNames.contains name).getD ""
      .error <| .configuration s!"scenario '{d.name}' has no region named '{missing}'"
  else
    let twice := (firstRepeated? [] d.regionNames).getD ""
    .error <| .configuration s!"scenario '{d.name}' declares region '{twice}' twice"

/-- The number of whole time steps in the scenario's time, at most `2 ^ 64 - 1`. A time
step must be positive. -/
def horizon (s : Scenario) (dt : Float) : Except Fault Horizon :=
  if 0 < dt then .ok ⟨(s.duration / dt).floor.toUInt64.toNat, dt⟩
  else .error <| .configuration s!"time step must be positive, got {Decimal.plainText dt}"

end Scenario
end Sortie
