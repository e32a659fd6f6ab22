import Sortie.Rehearsal.Shell.Execution
import Sortie.Solver.Command
/-!
# Solvers that are played back

The recorded runs are played by a script. The shell runs it, alone or as a part of a short
script of its own; the shell knows no more commands than such scripts need. Tests have
their solvers run so; this is no part of the program, which leaves it to its host.
-/

namespace Sortie.Playback

/-- What is said about a program that may not be run. -/
def forbidden : String := "Permission denied (os error 13)"

/-- Why a program that is not known does not start: no file may be run, and a
name without a slash is looked for among the programs, where only directories
have the names `.` and `..`. -/
def refusal (files : Files) (program : String) : String :=
  if program.toList.contains '/' then
    match files program with
    | .ok _ | .error .directory => forbidden
    | .error fault => fault.message
  else if program = "." || program = ".." then forbidden
  else if Folder.longestName < program.utf8ByteSize then ReadFault.nameTooLong.message
  else ReadFault.missing.message

/-- What a program does with a request, in a folder. Nothing that is played takes any
time, unless it hangs. -/
def conduct (p : Playback) (files : Files) (solver : CommandSolver) (request : String) :
    Conduct × Playback :=
  let words := solver.program :: solver.arguments
  if words.any fun word => word.toList.contains '\x00' then
    (.notStarted "nul byte found in provided data", p)
  else
    let shell := Shell.runShell files Shell.deepest
    match (Shell.runProgram shell files request words).run.run p with
    | (some (some done), p) =>
      let run := done.run
      (.ends 0 run.ending.code? (run.on Shell.outputStream) (run.on Shell.complaintStream), p)
    | (some none, p) => (.notStarted (refusal files solver.program), p)
    | (none, p) => (.hangs, p)

/-- Runs a solver on a request, in a folder. A playback does not go on for ever: a program
that hangs has overrun even if it may take any time. -/
def start (p : Playback) (files : Files) (solver : CommandSolver) (request : String) :
    ProcessRun × Playback :=
  let (conduct, p) := p.conduct files solver request
  ((solver.watch conduct).getD .overran, p)

end Sortie.Playback
