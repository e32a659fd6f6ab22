import Sortie.Conversation
import Sortie.Fault
import Sortie.Specification
import Sortie.Trajectory
/-!
# How far a session has come

A session always waits for somebody: for the operator's task, the model's reply, the solver
or a checker. The stage says for whom, together with all that is needed to go on once the
answer is there. What has been achieved so far stands beside it.
-/

namespace Sortie

/-- How a session ends. -/
inductive Ending where
  /-- The operator left. -/
  | exited
  /-- An automated session has flown its task. -/
  | completed
  | aborted (fault : Fault)
  deriving Repr, BEq, DecidableEq, Inhabited

/-- The turn that a reply belongs to, with the number of further
replies that it may take. -/
inductive Turn where
  /-- The model was told why its trajectory was turned down. -/
  | feedback
  /-- The scenario's task was put to the model. -/
  | automated (more : Nat)
  /-- The operator put a task to the model. -/
  | interactive (more : Nat)
  deriving Repr, BEq, DecidableEq, Inhabited

/-- What a session waits for. -/
inductive Stage where
  /-- Nothing yet: the first turn has not begun. -/
  | opening
  /-- A task from the operator; after it, `more` further ones may follow in this turn. -/
  | task (more : Nat)
  /-- The model's reply in the conversation. -/
  | reply (turn : Turn)
  /-- The solver's answer to a specification. -/
  | solving (spec : Specification) (repaired : Bool)
  /-- The model's repair of a specification that the solver could not use. -/
  | repairing (spec : Specification)
  /-- The judgement of a leg. -/
  | judging (leg : Trajectory)
  /-- The operator's word on a leg. -/
  | confirming (leg : Trajectory)
  | ended (ending : Ending)
  deriving Repr, Inhabited

/-- Whether a session goes on, and if not, how it ended. -/
inductive Status where
  | active
  | exited
  | completed
  | aborted
  deriving Repr, BEq, DecidableEq, Inhabited

def Status.text : Status → String
  | active => "Active"
  | exited => "Exited"
  | completed => "Completed"
  | aborted => "Aborted"

/-- The session does not go on. -/
def Status.isTerminal : Status → Bool
  | active => false
  | _ => true

def Status.all : List Status :=
  [.active, .exited, .completed, .aborted]

/-- What a session is busy with. -/
inductive Phase where
  | gatheringInput
  /-- Passed through without a wait, when a reply is read. -/
  | extractingSpecification
  | solving
  | checkingCompliance
  | terminal
  deriving Repr, BEq, DecidableEq, Inhabited

def Phase.text : Phase → String
  | gatheringInput => "gathering-input"
  | extractingSpecification => "extracting-spec"
  | solving => "solving"
  | checkingCompliance => "checking-compliance"
  | terminal => "terminal"

/-- Every phase, in the order of a session. -/
def Phase.all : List Phase :=
  [.gatheringInput, .extractingSpecification, .solving, .checkingCompliance, .terminal]

/-- The status that an ending leaves. -/
def Ending.status : Ending → Status
  | exited => .exited
  | completed => .completed
  | aborted _ => .aborted

/-- Why a session was aborted. -/
def Ending.fault? : Ending → Option Fault
  | aborted fault => some fault
  | _ => none

/-- The ending of a session that is over. -/
def Stage.ending? : Stage → Option Ending
  | ended ending => some ending
  | _ => none

/-- The status of a session at a stage. -/
def Stage.status (stage : Stage) : Status :=
  match stage.ending? with
  | some ending => ending.status
  | none => .active

/-- The phase that a stage belongs to. -/
def Stage.phase : Stage → Phase
  | opening | task _ | reply _ => .gatheringInput
  | solving _ _ | repairing _ => .solving
  | judging _ | confirming _ => .checkingCompliance
  | ended _ => .terminal

/-- What a session has achieved. -/
structure Progress where
  conversation : Conversation
  /-- The mission flown so far. -/
  trajectory : Trajectory
  /-- Where the next leg starts. -/
  start : State
  /-- The last specification that was solved. -/
  specification : Option Specification
  /-- The next turn asks the model to heed why its trajectory was turned down. -/
  feedbackDue : Bool
  stage : Stage
  deriving Repr, Inhabited

namespace Progress

/-- Nothing has been said or flown. -/
def new (start : State) : Progress :=
  { conversation := .empty, trajectory := .startingAt start, start, specification := none
    feedbackDue := false, stage := .opening }

/-- The repaired specification that waits to be solved. -/
def pendingRepair? (p : Progress) : Option Specification :=
  match p.stage with
  | .solving spec true => some spec
  | _ => none

def hasFlown (p : Progress) : Bool :=
  1 < p.trajectory.length

end Progress
end Sortie
