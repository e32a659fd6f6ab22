import Sortie.Conversation
import Sortie.Operator
import Sortie.Solver.Outcome
import Sortie.Solver.Request
/-!
# Scripted parts

A model, a solver and an operator who say what a script tells them, in order, and remember
what they were asked. When the script has run out the model fails, the solver finds no
trajectory, and the operator's input has ended.
-/

namespace Sortie

structure ScriptedModel where
  replies : List (Except String String) := []
  /-- What it was asked, oldest first. -/
  calls : List (List Message) := []

/-- What is said when no reply is left. -/
def ScriptedModel.exhausted : String := "scripted replies exhausted"

def ScriptedModel.ask (m : ScriptedModel) (messages : List Message) :
    Except String String × ScriptedModel :=
  let calls := m.calls ++ [messages]
  match m.replies with
  | [] => (.error exhausted, { m with calls })
  | reply :: replies => (reply, { replies, calls })

structure ScriptedSolver where
  outcomes : List Outcome := []
  /-- What it was asked, oldest first. -/
  requests : List SolveRequest := []

/-- What is said when no outcome is left. -/
def ScriptedSolver.exhausted : String := "scripted outcomes exhausted"

def ScriptedSolver.solve (s : ScriptedSolver) (request : SolveRequest) :
    Outcome × ScriptedSolver :=
  let requests := s.requests ++ [request]
  match s.outcomes with
  | [] => (.infeasible exhausted, { s with requests })
  | outcome :: outcomes => (outcome, { outcomes, requests })

structure ScriptedOperator where
  lines : List (Except String String) := []
  /-- The prompts that were followed by a line or the end of the input, oldest first. -/
  prompts : List String := []

namespace ScriptedOperator

/-- The operator after what came of showing a prompt. -/
def shown (o : ScriptedOperator) (prompt : String) : Operator.Line → ScriptedOperator
  | .ok _ => { o with prompts := o.prompts ++ [prompt] }
  | .error _ => o

def ask (o : ScriptedOperator) (prompt : String) : Operator.Line × ScriptedOperator :=
  let (line, lines) := Operator.nextLine o.lines
  (line, { o with lines }.shown prompt line)

/-- The next answer to a question, and all that was read before it was clear. -/
def confirm (o : ScriptedOperator) :
    Except String Bool × List Operator.Line × ScriptedOperator :=
  let (answer, read, lines) := Operator.confirm o.lines
  (answer, read, read.foldl (fun o line => o.shown Operator.confirmPrompt line) { o with lines })

end ScriptedOperator
end Sortie
