/-!
# Why a session fails

Each fault carries what is known about its cause; `message` is the one place with the
wording. `remedy` says which faults a session answers and how; all others end it.
-/

namespace Sortie

/-- Why a session, or the preparation of one, fails. -/
inductive Fault where
  /-- A reply holds no specification. -/
  | extraction (detail : String)
  /-- The solver found no trajectory. -/
  | solverInfeasible (detail : String)
  /-- Every permitted repair of a specification has been tried. -/
  | syntaxBudgetExhausted (attempts : Nat)
  /-- The checker turned a trajectory down. -/
  | complianceRejected (reply : String)
  /-- The settings, the scenario or an instruction file cannot be used. -/
  | configuration (detail : String)
  /-- The language model gave no reply. -/
  | llm (detail : String)
  /-- The operator's input could not be read. -/
  | io (detail : String)
  deriving Repr, BEq, DecidableEq, Inhabited

namespace Fault

/-- What is said about a fault. -/
def message : Fault → String
  | extraction detail => "Specification not found: " ++ detail
  | solverInfeasible detail => "The trajectory is infeasible: " ++ detail
  | syntaxBudgetExhausted attempts =>
    s!"Exceeded the maximum number of syntax check iterations ({attempts})"
  | complianceRejected reply => "Trajectory rejected by the specification checker: " ++ reply
  | configuration detail => "Config error: " ++ detail
  | llm detail => "LLM error: " ++ detail
  | io detail => "IO error: " ++ detail

end Fault

/-- What a session does about a fault. -/
inductive Remedy where
  /-- Has the specification repaired and solves the repaired one. -/
  | repairSyntax
  /-- Puts a note into the conversation and asks for a new specification. -/
  | feedBack (note : String)
  /-- Ends the session. -/
  | abort
  deriving Repr, BEq, DecidableEq, Inhabited

/-- The note that tells the model why a trajectory was turned down. -/
def rejectionNote (reply : String) : String :=
  "Specification checker: " ++ reply

/-- Only an infeasible specification and a rejected trajectory are answered. -/
def Fault.remedy : Fault → Remedy
  | solverInfeasible _ => .repairSyntax
  | complianceRejected reply => .feedBack (rejectionNote reply)
  | _ => .abort

end Sortie
