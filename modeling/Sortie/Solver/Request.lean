import Sortie.Json.Basic
import Sortie.Scenario.Basic
import Sortie.Specification
/-!
# What the solver is asked

A request holds the specification, the regions by name in the order of their bytes, where
the vehicle starts, the time it has and how it may move.
-/

namespace Sortie

/-- How fast the vehicle may go and gain speed. -/
structure Dynamics where
  maxAcceleration : Float
  maxSpeed : Float
  deriving Repr, Inhabited, BEq

/-- The usual limits. -/
def Dynamics.standard : Dynamics := ⟨10, 0.5⟩

structure SolveRequest where
  spec : String
  regions : List (String × Region)
  start : State
  /-- The scenario's time in seconds. -/
  horizon : Float
  dt : Float
  dynamics : Dynamics
  deriving Repr, Inhabited, BEq

namespace SolveRequest

/-- Puts a region in its place among regions that are ordered by name; a region of
the same name gives way. -/
def insert (name : String) (region : Region) :
    List (String × Region) → List (String × Region)
  | [] => [(name, region)]
  | (n, r) :: rest =>
    if name < n then (name, region) :: (n, r) :: rest
    else if name = n then (name, region) :: rest
    else (n, r) :: insert name region rest

/-- Regions by name, in the order of names. -/
def byName (regions : List NamedRegion) : List (String × Region) :=
  regions.foldl (fun done r => insert r.name r.region done) []

/-- The request to solve a specification in a scenario. -/
def new (spec : Specification) (scenario : Scenario) (start : State) (dt : Float)
    (dynamics : Dynamics) : SolveRequest :=
  { spec := spec.text, regions := byName scenario.regions, start
    horizon := scenario.duration, dt, dynamics }

end SolveRequest
end Sortie
