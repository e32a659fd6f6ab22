import Sortie.Occupancy
/-!
# Verdicts

Whether a trajectory does what the scenario asks, read off its occupancy alone. Of
several failures one is reported: the missed goal before a crossed region, and that
before the order of gate and key. Entering gate and key at the same step is no failure,
nor is a gate without a key.
-/

namespace Sortie

/-- Why a task is not done. -/
inductive Failure where
  | goalNotReached
  | obstacleCrossed (name : String)
  | targetNotReached
  | wallCrossed (name : String)
  | gateBeforeKey (gateStep keyStep : Nat)
  deriving Repr, BEq, DecidableEq, Inhabited

/-- What is said about a failure. -/
def Failure.message : Failure → String
  | goalNotReached => "The goal was not reached."
  | obstacleCrossed name => s!"An obstacle was crossed ({name})."
  | targetNotReached => "The target was not reached."
  | wallCrossed name => s!"A wall was crossed ({name})."
  | gateBeforeKey gate key =>
    s!"The gate was crossed at step {gate}, before the key was reached at step {key}."

/-- Whether a task is done. -/
inductive Verdict where
  | accomplished
  | failed (reason : Failure)
  deriving Repr, BEq, DecidableEq, Inhabited

def Verdict.isAccomplished : Verdict → Bool
  | accomplished => true
  | failed _ => false

namespace Occupancy

/-- The first region of a list that was entered. Regions after it are not looked at. -/
def firstEntered (o : Occupancy) : List String → Except Fault (Option String)
  | [] => .ok none
  | name :: rest => do
    if ← o.everInside name then return some name else o.firstEntered rest

/-- The gate was entered before the key, both having been entered. -/
def orderFailure? : Option Nat → Option Nat → Option Failure
  | some gate, some key => if gate < key then some (.gateBeforeKey gate key) else none
  | _, _ => none

/-- Whether the occupancy meets an objective. A region that the objective refers to and
that has no row is a fault, unless it comes after an entered region of the same list. -/
def verdict (o : Occupancy) : Objective → Except Fault Verdict
  | .reachAvoid goal obstacles => do
    let reached ← o.everInside goal
    let crossed ← o.firstEntered obstacles
    if !reached then return .failed .goalNotReached
    match crossed with
    | some name => return .failed (.obstacleCrossed name)
    | none => return .accomplished
  | .orderedAccess target walls gate key => do
    let reached ← o.everInside target
    let crossed ← o.firstEntered walls
    let gateStep ← o.firstEntry gate
    let keyStep ← o.firstEntry key
    if !reached then return .failed .targetNotReached
    match crossed, orderFailure? gateStep keyStep with
    | some name, _ => return .failed (.wallCrossed name)
    | none, some reason => return .failed reason
    | none, none => return .accomplished

end Occupancy

/-- Whether a trajectory does what its scenario asks. -/
def Scenario.verdict (s : Scenario) (t : Trajectory) : Except Fault Verdict :=
  (s.occupancy t).verdict s.objective

end Sortie
