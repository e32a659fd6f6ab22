import Sortie.Trajectory
/-!
# What the solver answers

A solver either gives a trajectory with the controls that fly it, or says why there is
none. A trajectory without any number in it is no trajectory either.
-/

namespace Sortie

/-- An acceleration along the three axes. -/
structure Control where
  ax : Float
  ay : Float
  az : Float
  deriving Repr, Inhabited, BEq

inductive Outcome where
  | feasible (trajectory : Trajectory) (controls : List Control)
  | infeasible (reason : String)
  deriving Repr, Inhabited, BEq

/-- An outcome whose trajectory holds no number is infeasible. -/
def Outcome.checked : Outcome → Outcome
  | feasible t controls =>
    if t.isAllInvalid then .infeasible "The trajectory is infeasible." else .feasible t controls
  | infeasible reason => .infeasible reason

end Sortie
