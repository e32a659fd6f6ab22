import Sortie.Scenario.Basic
/-!
# Occupancy

An occupancy has a row for each region, in the order of declaration, and a column for each
time step; a cell says whether the vehicle was inside the region at that step. `evidence`
tells the same in words.
-/

namespace Sortie

/-- For each region, whether it held the vehicle at each step. All rows have one length. -/
structure Occupancy where
  rows : List (String × List Bool)
  aligned : ∀ r ∈ rows, ∀ s ∈ rows, r.2.length = s.2.length

namespace Occupancy

/-- The occupancy of a scenario's regions by a trajectory. -/
def ofTrajectory (regions : List NamedRegion) (t : Trajectory) : Occupancy where
  rows := regions.map fun r => (r.name, t.positions.map r.region.contains)
  aligned := by
    intro r hr s hs
    obtain ⟨_, _, rfl⟩ := List.mem_map.1 hr
    obtain ⟨_, _, rfl⟩ := List.mem_map.1 hs
    simp

/-- The occupancy with given rows, which must have one length. -/
def ofRows (rows : List (String × List Bool)) : Except Fault Occupancy :=
  if aligned : ∀ r ∈ rows, ∀ s ∈ rows, r.2.length = s.2.length then .ok ⟨rows, aligned⟩
  else .error (.configuration "occupancy rows must share one length")

def regionNames (o : Occupancy) : List String :=
  o.rows.map Prod.fst

/-- The number of time steps; none if there is no region. -/
def steps (o : Occupancy) : Nat :=
  match o.rows with
  | [] => 0
  | r :: _ => r.2.length

/-- The first row with a name. -/
def row? (o : Occupancy) (name : String) : Option (List Bool) :=
  o.rows.lookup name

/-- The row of a region that a rule refers to. -/
def row (o : Occupancy) (name : String) : Except Fault (List Bool) :=
  match o.row? name with
  | some r => .ok r
  | none => .error (.configuration s!"region '{name}' is not part of the scenario")

/-- The first step at which a row holds the vehicle. -/
def firstStep? (row : List Bool) : Option Nat :=
  row.findIdx? id

/-- The first step inside a region. -/
def firstEntry (o : Occupancy) (name : String) : Except Fault (Option Nat) :=
  (o.row name).map firstStep?

/-- The vehicle was inside a region at some step. -/
def everInside (o : Occupancy) (name : String) : Except Fault Bool :=
  (o.firstEntry name).map Option.isSome

/-- The steps at which a row holds the vehicle, counted from `step`. -/
def stepsInside (step : Nat) : List Bool → List Nat
  | [] => []
  | true :: rest => step :: stepsInside (step + 1) rest
  | false :: rest => stepsInside (step + 1) rest

/-- One region's row in words. -/
def sentence (name : String) (row : List Bool) : String :=
  let steps := stepsInside 0 row
  if steps.isEmpty then "The drone is never inside the " ++ name ++ ".\n"
  else if steps.length = row.length then "The drone is always inside the " ++ name ++ ".\n"
  else
    "The drone is inside the " ++ name ++ " at times [" ++
      ", ".intercalate (steps.map Decimal.digits) ++ "].\n"

/-- All rows in words. -/
def evidence (o : Occupancy) : String :=
  String.join (o.rows.map fun (name, row) => sentence name row)

end Occupancy

/-- The occupancy of a scenario's regions by a trajectory. -/
def Scenario.occupancy (s : Scenario) (t : Trajectory) : Occupancy :=
  .ofTrajectory s.regions t

end Sortie
