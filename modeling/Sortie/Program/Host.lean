import Sortie.Model.Choice
import Sortie.Record.Writer
import Sortie.Session.World
import Sortie.Solver.Command
/-!
# What a program runs on

A host sends requests, starts solvers, prints, and reads what the operator types. It also
keeps the tally of tokens. With a model and a solver it becomes the world of a session.
-/

namespace Sortie

/-- What a program runs on. -/
structure Host (m : Type → Type) where
  /-- Sends a request to a model, and gives up after so many seconds. -/
  send : ChatRequest → Option Nat → m Exchange
  /-- Runs a solver on a request. -/
  start : CommandSolver → String → m ProcessRun
  /-- Shows a prompt and reads a line. -/
  ask : String → m Operator.Line
  print : String → m Unit
  /-- Adds the tokens of a request and of its reply to the tally. -/
  spend : Nat × Nat → m Unit
  spent : m Usage

namespace Host

variable {m : Type → Type} [Monad m]

/-- The reply of a model; its tokens go into the tally. -/
def reply (host : Host m) (model : Model) (messages : List Message) : m (Except String String) := do
  match ← model.reply host.send messages with
  | .error e => return .error e
  | .ok reply =>
    match reply.tokens with
    | some tokens => host.spend tokens
    | none => pure ()
    return .ok reply.text

def solve (host : Host m) (solver : CommandSolver) (request : SolveRequest) : m Outcome :=
  return solver.outcome (← host.start solver request.toJson.render)

def world (host : Host m) (model : Model) (solver : CommandSolver) : World m :=
  { model := host.reply model, solver := host.solve solver, operator := host.ask }

/-- Prints what a session has printed after the first `shown` events. -/
def printNew (host : Host m) (s : Session) (shown : Nat) : m Unit :=
  host.print (String.join ((s.log.drop shown).map Event.shown))

/-- Runs a session for up to so many questions, and prints what it prints as it goes on. -/
def follow (host : Host m) (w : World m) : Nat → Session → m Session
  | 0, s => return s
  | questions + 1, s =>
    match s.stage.ending? with
    | some _ => return s
    | none => do
      let next ← s.step w
      host.printNew next s.log.length
      host.follow w questions next

/-- More questions than any session puts that goes on without an
operator, whatever its limits. -/
def patience : Nat := 73786976294838206464

/-- Runs a mission from its beginning to its end. -/
def run (host : Host m) (w : World m) (mission : Mission) : m Session := do
  let s := Session.begin mission
  host.printNew s 0
  host.follow w patience s

end Host
end Sortie
