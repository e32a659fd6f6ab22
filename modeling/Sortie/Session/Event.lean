import Sortie.Conversation
import Sortie.Operator
import Sortie.Solver.Outcome
import Sortie.Solver.Request
/-!
# What a session asks and is told

A session asks the model, the solver and the operator. Each question and its answer is an
event, and so is each line that is printed.
-/

namespace Sortie

/-- What the model is asked for. -/
inductive Purpose where
  /-- The next reply of the conversation. -/
  | conversation
  /-- A corrected specification. -/
  | repair
  | judgement
  deriving Repr, BEq, DecidableEq, Inhabited

inductive Query where
  | model (purpose : Purpose) (messages : List Message)
  | solver (request : SolveRequest)
  | operator (prompt : String)
  deriving Inhabited

inductive Answer where
  | reply (reply : Except String String)
  | outcome (outcome : Outcome)
  | line (line : Operator.Line)
  deriving Inhabited

/-- What happens in a session. -/
inductive Event where
  | modelAsked (purpose : Purpose) (messages : List Message) (reply : Except String String)
  | solverAsked (request : SolveRequest) (outcome : Outcome)
  | operatorAsked (prompt : String) (line : Operator.Line)
  | printed (line : String)
  deriving Inhabited

/-- The event of a question and an answer that fits it. -/
def Query.answered? : Query → Answer → Option Event
  | model purpose messages, .reply reply => some (.modelAsked purpose messages reply)
  | solver request, .outcome outcome => some (.solverAsked request outcome)
  | operator prompt, .line line => some (.operatorAsked prompt line)
  | _, _ => none

/-- What an event shows to whoever follows the session: printed lines, and nothing else.
The prompts between them are for the operator. -/
def Event.shown : Event → String
  | printed line => line ++ "\n"
  | _ => ""

end Sortie
