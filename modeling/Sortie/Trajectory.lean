import Sortie.Region
/-!
# States and trajectories

A trajectory samples the vehicle's state at equal time steps. A mission is flown
in legs: each leg starts where the one before it ended, so its first sample is
dropped when it is appended.
-/

namespace Sortie

/-- Position and velocity. -/
structure State where
  x : Float
  y : Float
  z : Float
  vx : Float
  vy : Float
  vz : Float
  deriving Repr, Inhabited, BEq

namespace State

/-- The state without motion at a position. -/
def atRest (x y z : Float) : State :=
  ⟨x, y, z, 0, 0, 0⟩

def position (s : State) : Point :=
  ⟨s.x, s.y, s.z⟩

/-- Position, then velocity. -/
def components (s : State) : List Float :=
  [s.x, s.y, s.z, s.vx, s.vy, s.vz]

def ofComponents? : List Float → Option State
  | [x, y, z, vx, vy, vz] => some ⟨x, y, z, vx, vy, vz⟩
  | _ => none

def isAllNaN (s : State) : Bool :=
  s.components.all Float.isNaN

end State

/-- Samples of the state, the first one at the start. -/
structure Trajectory where
  states : List State
  deriving Repr, Inhabited, BEq

namespace Trajectory

/-- The trajectory of a vehicle that has not yet moved. -/
def startingAt (s : State) : Trajectory :=
  ⟨[s]⟩

/-- Where the vehicle is at each step. -/
def positions (t : Trajectory) : List Point :=
  t.states.map State.position

def length (t : Trajectory) : Nat :=
  t.states.length

def last? (t : Trajectory) : Option State :=
  t.states.getLast?

/-- No sample holds a number; so it is with a trajectory without samples. -/
def isAllInvalid (t : Trajectory) : Bool :=
  t.states.all State.isAllNaN

/-- The trajectory flown on along a leg, whose first sample repeats the last one flown. -/
def append (t leg : Trajectory) : Trajectory :=
  if t.states.isEmpty then leg else ⟨t.states ++ leg.states.tail⟩

theorem append_states {t : Trajectory} (h : t.states ≠ []) (leg : Trajectory) :
    (t.append leg).states = t.states ++ leg.states.tail := by
  simp [append, h]

end Trajectory
end Sortie
