import Sortie.Program.Host
import Sortie.Rehearsal.PlayedSolver
import Sortie.Rehearsal.Script
/-!
# Rehearsals

A rehearsal is a host with nothing outside: scripts speak for the model, the solver and the
operator, a solver is played back in a folder, and no network reaches any address. What
would be on the screen is kept. Tests fly their missions here; no part of the program does.
-/

namespace Sortie

structure Rehearsal where
  model : ScriptedModel := {}
  solver : ScriptedSolver := {}
  operator : ScriptedOperator := {}
  folder : Folder := {}
  playback : Playback := {}
  screen : String := ""
  usage : Usage := {}

namespace Rehearsal

def modelReply (messages : List Message) : StateM Rehearsal (Except String String) :=
  modifyGet fun r =>
    let (reply, model) := r.model.ask messages
    (reply, { r with model })

def solverOutcome (request : SolveRequest) : StateM Rehearsal Outcome :=
  modifyGet fun r =>
    let (outcome, solver) := r.solver.solve request
    (outcome, { r with solver })

def operatorLine (prompt : String) : StateM Rehearsal Operator.Line :=
  modifyGet fun r =>
    let (line, operator) := r.operator.ask prompt
    (line, { r with operator })

/-- What is said about an address that no network reaches. -/
def noNetwork (address : String) : String :=
  "error sending request for url (" ++ address ++ ")"

/-- Puts a text on the screen. -/
def print (text : String) : StateM Rehearsal Unit :=
  modify fun r => { r with screen := r.screen ++ text }

def host : Host (StateM Rehearsal) where
  send request _ := return .unreachable (noNetwork request.address)
  start solver request := modifyGet fun r =>
    let (run, playback) := r.playback.start r.folder.read solver request
    (run, { r with playback })
  ask prompt := do
    print prompt
    operatorLine prompt
  print := print
  spend tokens := modify fun r =>
    { r with usage := r.usage.add (.ofNat tokens.1) (.ofNat tokens.2) }
  spent := return (← get).usage

end Rehearsal
end Sortie
