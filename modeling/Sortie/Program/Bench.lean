import Sortie.Program.Fly
/-!
# Flying a mission many times

The program flies the scenario's own task a number of times without an operator, and prints
how often it was done. Runs are independent but for the solver and the tally of tokens.
-/

namespace Sortie.Program

variable {m : Type → Type} [Monad m]

/-- How often the mission is flown if no number is given. -/
def usualRuns : Nat := 10

/-- What has come of the runs so far. -/
structure Score where
  accomplished : Nat := 0
  aborted : Nat := 0

/-- The score with one more result. -/
def Score.add (score : Score) (r : SessionResult) : Score :=
  { accomplished := score.accomplished + r.isAccomplished.toNat
    aborted := score.aborted + r.fault.isSome.toNat }

def runLine (number runs : Nat) (r : SessionResult) : String :=
  "Run " ++ Decimal.digits number ++ "/" ++ Decimal.digits runs ++ ": status " ++
    r.status.text ++ ", accomplished " ++ SessionResult.flagText r.isAccomplished

/-- The lines about all runs. -/
def scoreLines (scenario : String) (runs : Nat) (score : Score) (u : Usage) : List String :=
  ["", "Scenario: " ++ scenario,
    "Accomplished: " ++ Decimal.digits score.accomplished ++ "/" ++ Decimal.digits runs ++
      " (aborted: " ++ Decimal.digits score.aborted ++ ")",
    "Tokens: prompt " ++ Decimal.digits u.prompt.toNat ++ ", completion " ++
      Decimal.digits u.completion.toNat ++ ", total " ++ Decimal.digits u.total.toNat]

/-- Flies the last `left` of `runs` runs. A mission that cannot be put
together ends them. -/
def flyRuns (host : Host m) (w : World m) (assemble : Except Fault Mission) (runs : Nat) :
    Nat → Score → m (Except Fault Score)
  | 0, score => return .ok score
  | left + 1, score => do
    match assemble with
    | .error fault => return .error fault
    | .ok mission =>
      let s ← host.run w mission
      printLines host [runLine (runs - left) runs s.result]
      flyRuns host w assemble runs left (score.add s.result)

/-- Nobody is there to type. -/
def noOperator (_ : String) : m Operator.Line :=
  return .ok none

/-- Runs the program: the number of runs, then the path of a settings file. -/
def bench (host : Host m) (files : Files) (env : Environment) (arguments : List String) :
    m Exit := do
  let count := match arguments.head? with
    | some raw => Decimal.readNat Decimal.most64 raw
    | none => .ok usualRuns
  match count with
  | .error fault =>
    return .failure ("invalid run count '" ++ arguments.headD "" ++ "'") fault.message
  | .ok runs =>
    let settings := settingsOr .oneShot files env (arguments.drop 1).head?
    let settings := { settings with automated := true, confirms := false }
    match settings.solver with
    | .error fault => return .failure "Failed to create solver" fault.message
    | .ok solver =>
      let w := { host.world (.choose settings env) solver with operator := noOperator }
      match ← flyRuns host w (settings.mission files none none) runs runs {} with
      | .error fault => return assemblyFailure fault
      | .ok score =>
        printLines host (scoreLines settings.scenario runs score (← host.spent))
        return .success

end Sortie.Program
