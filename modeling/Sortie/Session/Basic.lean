import Sortie.Judge
import Sortie.Session.Event
import Sortie.Session.Mission
import Sortie.Session.Progress
import Sortie.SyntaxRepair
import Sortie.Verdict
/-!
# Sessions

A session turns a task into a flown mission. The model writes a specification in a
conversation; the solver turns it into a leg, or the model has to repair it; the leg
is judged and perhaps put to the operator; an accepted leg is flown, and the next
turn begins where it ended.

`Session.query` says what the session waits for and `Session.resume` goes on with the
answer. A session is thus its beginning and the answers it was given, one after the other.
-/

namespace Sortie

/-- A session: what it has achieved, its mission, its checkers and all
that has happened. -/
structure Session extends Progress where
  mission : Mission
  repair : SyntaxRepair
  judge : Judge
  /-- Events, oldest first. -/
  log : List Event

namespace Session

/-! ## Words -/

/-- Asks the model to heed why its trajectory was turned down. -/
def feedbackNudge : String :=
  "Please return a new specification directly, based on the feedback."

/-- Asks the model for the specification that its reply did not hold. -/
def specificationNudge : String :=
  "Please provide the specification now."

/-- What the operator is told when a turn begins. -/
def taskNotice : String :=
  "Please specify the task. Type 'quit' to exit conversation and generate the final trajectory."

/-- What the operator is told when the solver found no trajectory. -/
def refineNotice : String :=
  "The trajectory is infeasible. Please refine the task."

/-- What the operator is told on leaving. -/
def exitNotice : String :=
  "Exited conversation"

/-- Where the vehicle is after a leg. -/
def positionNotice (p : Point) : String :=
  "New position after trajectory: [" ++
    ", ".intercalate ([p.x, p.y, p.z].map Decimal.reportText) ++ "]"

/-! ## Single changes -/

/-- A session that has not begun. -/
def new (mission : Mission) : Session :=
  { Progress.new mission.scenario.start with
    mission
    repair := .new mission.instructions.repair mission.rules.repairLimit
    judge := if mission.rules.judges then .new mission.instructions.judge mission.rules.judgeLimit
             else .disabled
    log := [] }

def rules (s : Session) : Rules :=
  s.mission.rules

def record (s : Session) (e : Event) : Session :=
  { s with log := s.log ++ [e] }

def say (s : Session) (line : String) : Session :=
  s.record (.printed line)

/-- Puts a message into the conversation. -/
def push (s : Session) (m : Message) : Session :=
  { s with conversation := s.conversation.push m }

def goTo (s : Session) (stage : Stage) : Session :=
  { s with stage }

def finish (s : Session) (ending : Ending) : Session :=
  s.goTo (.ended ending)

/-- Ends the session for a fault. -/
def abort (s : Session) (fault : Fault) : Session :=
  s.finish (.aborted fault)

/-- Flies a leg: the trajectory grows by it, and the next leg starts where it ends. -/
def fly (s : Session) (leg : Trajectory) : Session :=
  let s := { s with trajectory := s.trajectory.append leg }
  match leg.last? with
  | some last => { s with start := last }.say (positionNotice last.position)
  | none => s

/-! ## Turns -/

/-- Hands a specification to the solver. -/
def solve (s : Session) (spec : Specification) (repaired : Bool) : Session :=
  { s.say ("Extracted specification: " ++ spec.text) with
    specification := some spec, stage := .solving spec repaired }

/-- Reads the specification in the model's last reply and hands it to the solver. -/
def readReply (s : Session) : Session :=
  match Specification.extract (s.conversation.lastReply?.getD "") with
  | .error fault => s.abort fault
  | .ok spec => { s with feedbackDue := false }.solve spec false

/-- Instructs the model, if nothing has been said yet. -/
def instruct (s : Session) : Session :=
  if s.conversation.isEmpty then
    let prompt := s.mission.instructions.conversation
    let s := if s.rules.printsInstructions then s.say ("Instructions: " ++ prompt) else s
    s.push (.system prompt)
  else s

/-- Puts the scenario's own task to the model. -/
def putTask (s : Session) : Session :=
  let task := s.mission.scenario.task
  (s.say ("User: " ++ task)).push (.user task)

/-- Begins a turn. A turn that may take no reply reads the last one there is. -/
def beginTurn (s : Session) : Session :=
  let s := s.instruct
  if s.feedbackDue then (s.push (.system feedbackNudge)).goTo (.reply .feedback)
  else if s.rules.automated then
    match s.rules.maxReplies with
    | 0 => s.putTask.readReply
    | more + 1 => s.putTask.goTo (.reply (.automated more))
  else
    match s.rules.maxReplies with
    | 0 => (s.say taskNotice).readReply
    | more + 1 => (s.say taskNotice).goTo (.task more)

/-- A session that waits for its first answer. -/
def begin (mission : Mission) : Session :=
  (new mission).beginTurn

/-- Goes on after the operator was asked for a task. -/
def heardTask (s : Session) (more : Nat) : Operator.Line → Session
  | .error e => s.abort (.io e)
  | .ok none => (s.say exitNotice).finish .exited
  | .ok (some line) =>
    if Operator.isQuit line then (s.say exitNotice).finish .exited
    else (s.push (.user line)).goTo (.reply (.interactive more))

/-- Goes on after a reply in a turn: if it opens no specification, the turn may go on. -/
def afterReply (s : Session) (reply : String) : Turn → Session
  | .feedback => s.readReply
  | .automated more =>
    if opensPair reply then s.readReply
    else
      let s := s.push (.system specificationNudge)
      match more with
      | 0 => s.readReply
      | more + 1 => s.goTo (.reply (.automated more))
  | .interactive more =>
    if opensPair reply then s.readReply
    else
      match more with
      | 0 => s.readReply
      | more + 1 => s.goTo (.task more)

/-- Goes on after the model was asked in the conversation. -/
def heardReply (s : Session) (turn : Turn) : Except String String → Session
  | .error e => s.abort (.llm e)
  | .ok reply => ((s.say ("Assistant: " ++ reply)).push (.assistant reply)).afterReply reply turn

/-! ## Repairs -/

/-- Has a specification repaired, if an attempt is left. -/
def requestRepair (s : Session) (spec : Specification) : Session :=
  match s.repair.begin with
  | .error fault => s.abort fault
  | .ok repair => { s with repair }.goTo (.repairing spec)

/-- Goes on after the model was asked for a repair. A reply without a specification is
followed by another attempt. -/
def heardRepair (s : Session) (spec : Specification) (reply : Except String String) : Session :=
  let s := match reply with
    | .ok text => s.say (SyntaxRepair.note text)
    | .error _ => s
  match SyntaxRepair.conclude reply with
  | .ok repaired => s.solve repaired true
  | .error (.extraction _) => s.requestRepair spec
  | .error fault => s.abort fault

/-- Goes on after the solver found no trajectory for a specification. -/
def solverFailed (s : Session) (spec : Specification) (reason : String) : Session :=
  if s.rules.repairs then s.requestRepair spec
  else if s.rules.automated then s.abort (.solverInfeasible reason)
  else (s.say refineNotice).beginTurn

/-! ## Legs -/

/-- Flies a leg if it is to be flown, and goes on. An automated session without a judge
flies any leg, and an automated session is complete with the first one. -/
def settle (s : Session) (leg : Trajectory) (accepted : Bool) : Session :=
  if accepted || (s.rules.automated && !s.judge.enabled) then
    if s.rules.automated then (s.fly leg).finish .completed else (s.fly leg).beginTurn
  else s.beginTurn

/-- Goes on with a judged leg: it is put to the operator, or the judgement stands. -/
def afterJudgement (s : Session) (leg : Trajectory) (accepted : Bool) : Session :=
  if s.rules.confirms then s.goTo (.confirming leg) else s.settle leg accepted

/-- Tells the model why its trajectory was turned down; the next turn
will ask it to heed that. -/
def feedBack (s : Session) (note : String) : Session :=
  { s.push (.system note) with feedbackDue := true }

/-- Goes on after the model was asked for a judgement. -/
def heardJudgement (s : Session) (leg : Trajectory) (reply : Except String String) : Session :=
  let s := match reply with
    | .ok text => s.say (Judge.note text)
    | .error _ => s
  match Judge.conclude reply with
  | .error fault => s.abort fault
  | .ok (.rejected why) => (s.feedBack (rejectionNote why)).afterJudgement leg false
  | .ok _ => s.afterJudgement leg true

/-- Has a leg judged, unless the judge is not to be asked. -/
def requestJudgement (s : Session) (leg : Trajectory) : Session :=
  match s.mission.scenario.verdict leg with
  | .error fault => s.abort fault
  | .ok _ =>
    match s.judge.begin? with
    | none => s.afterJudgement leg true
    | some judge => { s with judge }.goTo (.judging leg)

/-- Goes on after the solver was asked. -/
def heardOutcome (s : Session) (spec : Specification) (outcome : Outcome) : Session :=
  match outcome.checked with
  | .feasible leg _ => s.requestJudgement leg
  | .infeasible reason => s.solverFailed spec reason

/-- Goes on after the operator was asked for the last word on a leg. -/
def heardWord (s : Session) (leg : Trajectory) : Operator.Line → Session
  | .error e => s.abort (.io e)
  | .ok none => s.settle leg false
  | .ok (some line) =>
    match Operator.answer? line with
    | some accepted => s.settle leg accepted
    | none => s.say Operator.invalidAnswer

/-! ## Questions and answers -/

/-- What the session waits for; nothing if it is over. -/
def query (s : Session) : Option Query :=
  match s.stage with
  | .opening | .ended _ => none
  | .task _ => some (.operator Operator.taskPrompt)
  | .reply _ => some (.model .conversation s.conversation.messages)
  | .solving spec _ =>
    some (.solver (.new spec s.mission.scenario s.start s.rules.dt s.rules.dynamics))
  | .repairing spec => some (.model .repair (SyntaxRepair.request s.repair.instructions spec))
  | .judging leg =>
    some (.model .judgement
      (Judge.request s.judge.instructions s.conversation.middle (s.mission.scenario.occupancy leg)))
  | .confirming _ => some (.operator Operator.confirmPrompt)

/-- Goes on with an answer; one that does not fit what the session
waits for changes nothing. -/
def hear (s : Session) (answer : Answer) : Session :=
  match s.stage, answer with
  | .task more, .line line => s.heardTask more line
  | .reply turn, .reply reply => s.heardReply turn reply
  | .solving spec _, .outcome outcome => s.heardOutcome spec outcome
  | .repairing spec, .reply reply => s.heardRepair spec reply
  | .judging leg, .reply reply => s.heardJudgement leg reply
  | .confirming leg, .line line => s.heardWord leg line
  | _, _ => s

/-- Records the question with its answer, and goes on. -/
def resume (s : Session) (answer : Answer) : Session :=
  match s.query.bind (·.answered? answer) with
  | some event => (s.record event).hear answer
  | none => s

/-- What has been printed. -/
def console (s : Session) : String :=
  String.join (s.log.map Event.shown)

end Session
end Sortie
