import Sortie.Session.Basic
/-!
# What a session comes to

The result of a session, and its summary in words. The final verdict is that of the whole
mission flown, whatever was said about its legs.
-/

namespace Sortie

/-- What a session came to. -/
structure SessionResult where
  scenario : String
  status : Status
  messages : List Message
  trajectory : Trajectory
  specification : Option Specification
  verdict : Option Verdict
  fault : Option Fault
  repairs : Nat
  judgements : Nat
  deriving Repr, Inhabited

/-- The result of a session. A fault in the final verdict counts if there is no other. -/
def Session.result (s : Session) : SessionResult :=
  let verdict := s.mission.scenario.verdict s.trajectory
  let ending := s.stage.ending?.bind Ending.fault?
  { scenario := s.mission.scenario.name
    status := s.stage.status
    messages := s.conversation.messages
    trajectory := s.trajectory
    specification := s.specification
    verdict := match verdict with
      | .ok v => some v
      | .error _ => none
    fault := match verdict with
      | .ok _ => ending
      | .error f => ending <|> some f
    repairs := s.repair.budget.count
    judgements := s.judge.budget.count }

namespace SessionResult

def isAccomplished (r : SessionResult) : Bool :=
  match r.verdict with
  | some v => v.isAccomplished
  | none => false

def isAborted (r : SessionResult) : Bool :=
  r.status == .aborted

def flagText (b : Bool) : String :=
  if b then "true" else "false"

/-- Whether the task is done, in words. -/
def verdictText (r : SessionResult) : String :=
  match r.verdict with
  | none => "unknown"
  | some .accomplished => flagText true
  | some (.failed reason) => flagText false ++ " (" ++ reason.message ++ ")"

/-- The summary of a session with a name, line by line. -/
def summary (r : SessionResult) (name : String) : List String :=
  ["", "Session " ++ name ++ " (" ++ r.scenario ++ ")", "Status: " ++ r.status.text] ++
  (match r.specification with
    | some spec => ["Last specification: " ++ spec.text]
    | none => []) ++
  ["Trajectory samples: " ++ Decimal.digits r.trajectory.length,
    "Checker calls: syntax " ++ Decimal.digits r.repairs ++ ", specification " ++
      Decimal.digits r.judgements,
    "Task accomplished: " ++ r.verdictText]

end SessionResult
end Sortie
