import Sortie.Solver.Reply
import Sortie.Text.Utf8
/-!
# Solvers that are programs

The solver is a program that reads a request from its input and writes its answer. Here
stands what each way of running it means; starting it is left to whoever can.
-/

namespace Sortie

/-- A program with its arguments, and the seconds that it may take;
with `0` it may take any. -/
structure CommandSolver where
  program : String
  arguments : List String
  timeout : Nat
  deriving Repr, BEq, DecidableEq, Inhabited

/-- What a program does from its start on, whoever waits for it. Times
are in nanoseconds. -/
inductive Conduct where
  /-- It cannot be started. -/
  | notStarted (detail : String)
  /-- It stops taking the request before it has all of it. -/
  | refuses (after : Nat) (detail : String)
  /-- Its end cannot be observed. -/
  | lost (after : Nat) (detail : String)
  /-- It takes the whole request and ends, with a code unless it is killed. -/
  | ends (after : Nat) (code : Option Nat) (output complaints : List UInt8)
  /-- It never ends. -/
  | hangs
  deriving Repr, BEq, DecidableEq, Inhabited

/-- What becomes of running a program. -/
inductive ProcessRun where
  /-- It could not be started. -/
  | notStarted (detail : String)
  /-- It did not take the whole request. -/
  | refusedRequest (detail : String)
  /-- Its end could not be observed. -/
  | lost (detail : String)
  /-- It was still running when its time was up. -/
  | overran
  /-- It ended, with a code unless it was killed. -/
  | finished (code : Option Nat) (output complaints : List UInt8)
  deriving Repr, BEq, DecidableEq, Inhabited

namespace CommandSolver

/-- The solver that a command line names: a program, then its arguments. -/
def ofCommandLine? (timeout : Nat) : List String → Option CommandSolver
  | [] => none
  | program :: arguments => some { program, arguments, timeout }

/-- So many nanoseconds after its start, the program's time is not yet up. -/
def allows (solver : CommandSolver) (after : Nat) : Bool :=
  solver.timeout = 0 || after < solver.timeout * 1000000000

/-- What becomes of a program that is stopped when its time is up. Nothing ever does of one
that hangs and may take any time. -/
def watch (solver : CommandSolver) : Conduct → Option ProcessRun
  | .notStarted detail => some (.notStarted detail)
  | .refuses after detail =>
    some (if solver.allows after then .refusedRequest detail else .overran)
  | .lost after detail => some (if solver.allows after then .lost detail else .overran)
  | .ends after code output complaints =>
    some (if solver.allows after then .finished code output complaints else .overran)
  | .hangs => if solver.timeout = 0 then none else some .overran

/-- An exit code as it stands in a message. -/
def codeText : Option Nat → String
  | some code => "Some(" ++ Decimal.digits code ++ ")"
  | none => "None"

/-- What a run means. Only the output of a program that ended with code `0` is read. -/
def outcome (solver : CommandSolver) : ProcessRun → Outcome
  | .notStarted detail => .infeasible s!"cannot start solver '{solver.program}': {detail}"
  | .refusedRequest detail => .infeasible ("cannot write solve request: " ++ detail)
  | .lost detail => .infeasible ("Solver failed: " ++ detail)
  | .overran => .infeasible ("Solver timed out after " ++ Decimal.digits solver.timeout ++ "s")
  | .finished code output complaints =>
    if code = some 0 then .read (Text.Utf8.decodeLossy output)
    else
      .infeasible <| "Solver failed: exit " ++ codeText code ++ ": " ++
        Text.trim (Text.Utf8.decodeLossy complaints)

end CommandSolver
end Sortie
