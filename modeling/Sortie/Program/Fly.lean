import Sortie.Program.Exit
import Sortie.Program.Host
import Sortie.Session.Result
import Sortie.Settings.Assembly
import Sortie.Settings.Load
/-!
# Flying one mission

The program takes the path of a settings file, runs one session with the operator, and
prints its summary. Settings that cannot be loaded are replaced by the usual ones.
-/

namespace Sortie.Program

variable {m : Type → Type} [Monad m]

/-- The settings at a path, or those to use in their place. -/
def settingsOr (usual : Settings) (files : Files) (env : Environment) (path : Option String) :
    Settings :=
  match Settings.load files env path with
  | .ok settings => settings
  | .error _ => usual

/-- The complaint about a session that could not begin. -/
def assemblyFailure (fault : Fault) : Exit :=
  .failure "Failed to assemble session" fault.message

def printLines (host : Host m) (lines : List String) : m Unit :=
  host.print (String.join (lines.map (· ++ "\n")))

/-- How a session with this result ends the program. -/
def exitOf (r : SessionResult) : Exit :=
  match r.fault with
  | some fault =>
    if r.isAborted then .failure "Session aborted" fault.message else .success
  | none => .success

/-- Runs the program for a session that is called `name`. -/
def fly (host : Host m) (files : Files) (env : Environment) (arguments : List String)
    (name : String) : m Exit := do
  let settings := settingsOr {} files env arguments.head?
  let assembled : Except Fault (Mission × CommandSolver) := do
    let mission ← settings.mission files none none
    return (mission, ← settings.solver)
  match assembled with
  | .error fault => return assemblyFailure fault
  | .ok (mission, solver) =>
    let s ← host.run (host.world (.choose settings env) solver) mission
    printLines host (s.result.summary name)
    return exitOf s.result

end Sortie.Program
