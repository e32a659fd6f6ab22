import Sortie.Budget
import Sortie.Conversation
import Sortie.Solver.Request
import Sortie.Verdict
/-!
# Records as JSON

The JSON form of what a session holds and of what it sends to the solver. Fields
stand in the order of their declaration, and a variant is named by its capitalised
name around its contents.
-/

namespace Sortie

/-- A variant with contents. -/
def Json.variant (name : String) (contents : Json) : Json :=
  .record [(name, contents)]

def Json.texts (items : List String) : Json :=
  .array (items.map .text)

/-- The six bounds by name. -/
def Region.toJson (r : Region) : Json :=
  .record [("xmin", .real r.xmin), ("xmax", .real r.xmax), ("ymin", .real r.ymin),
    ("ymax", .real r.ymax), ("zmin", .real r.zmin), ("zmax", .real r.zmax)]

def NamedRegion.toJson (r : NamedRegion) : Json :=
  .record [("name", .text r.name), ("region", r.region.toJson)]

/-- The six components as a list. -/
def State.toJson (s : State) : Json :=
  .array (s.components.map .real)

def Trajectory.toJson (t : Trajectory) : Json :=
  .record [("states", .array (t.states.map State.toJson))]

/-- An objective by its kind. -/
def Objective.toJson : Objective → Json
  | .reachAvoid goal obstacles =>
    .variant "ReachAvoid" (.record [("goal", .text goal), ("obstacles", .texts obstacles)])
  | .orderedAccess target walls gate key =>
    .variant "OrderedAccess" (.record [("target", .text target), ("walls", .texts walls),
      ("gate", .text gate), ("key", .text key)])

def Description.toJson (d : Description) : Json :=
  .record [("name", .text d.name), ("regions", .array (d.regions.map NamedRegion.toJson)),
    ("kind", d.objective.toJson), ("initial_state", d.start.toJson),
    ("duration_secs", .real d.duration), ("default_task", .text d.task)]

def Horizon.toJson (h : Horizon) : Json :=
  .record [("steps", .nat h.steps), ("dt", .real h.dt)]

/-- The names of the regions, and their rows in the same order. -/
def Occupancy.toJson (o : Occupancy) : Json :=
  .record [("region_names", .texts o.regionNames),
    ("rows", .array (o.rows.map fun r => .array (r.2.map .bool)))]

/-- Why a task is not done. -/
def Failure.toJson : Failure → Json
  | goalNotReached => .text "GoalNotReached"
  | obstacleCrossed name => .variant "ObstacleCrossed" (.text name)
  | targetNotReached => .text "TargetNotReached"
  | wallCrossed name => .variant "WallCrossed" (.text name)
  | gateBeforeKey gate key =>
    .variant "GateBeforeKey" (.record [("gate_step", .nat gate), ("key_step", .nat key)])

def Verdict.toJson : Verdict → Json
  | accomplished => .text "Accomplished"
  | failed reason => .variant "Failed" reason.toJson

/-- A fault by its kind. -/
def Fault.toJson : Fault → Json
  | extraction detail => .variant "Extraction" (.text detail)
  | solverInfeasible detail => .variant "SolverInfeasible" (.text detail)
  | syntaxBudgetExhausted attempts =>
    .variant "SyntaxBudgetExhausted" (.record [("attempts", .nat attempts)])
  | complianceRejected reply => .variant "ComplianceRejected" (.text reply)
  | configuration detail => .variant "Configuration" (.text detail)
  | llm detail => .variant "Llm" (.text detail)
  | io detail => .variant "Io" (.text detail)

/-- How a role is named in a record. -/
def Role.recordName : Role → String
  | user => "User"
  | assistant => "Assistant"
  | system => "System"

def Message.toJson (m : Message) : Json :=
  .record [("role", .text m.role.recordName), ("content", .text m.content)]

def Specification.toJson (s : Specification) : Json :=
  .text s.text

def Dynamics.toJson (d : Dynamics) : Json :=
  .record [("max_acc", .real d.maxAcceleration), ("max_speed", .real d.maxSpeed)]

def Budget.toJson (b : Budget) : Json :=
  .record [("count", .nat b.count), ("limit", .nat b.limit)]

def SolveRequest.toJson (r : SolveRequest) : Json :=
  .record [("spec", .text r.spec),
    ("regions", .record (r.regions.map fun (name, region) => (name, region.toJson))),
    ("initial_state", r.start.toJson), ("horizon_secs", .real r.horizon), ("dt", .real r.dt),
    ("dynamics", r.dynamics.toJson)]

end Sortie
