import Sortie.Program.Bench
import Sortie.Program.Fly
import Sortie.Text.Lines
/-!
# The command line

Reads files and the environment, talks to the operator, and leaves the rest to
`Program.fly` and `Program.bench`. The program benchmarks if its name ends in
`bench`. It reaches no network and starts no other program, and says so where a
session asks for either.
-/

namespace Sortie.CommandLine

/-- The bytes of a file, or why there are none. -/
def readFile (path : String) : IO (Except ReadFault (List UInt8)) := do
  try
    return .ok (← IO.FS.readBinFile path).toList
  catch e =>
    match e with
    | .noFileOrDirectory .. => return .error .missing
    | .inappropriateType _ code _ =>
      return .error (if code = 21 then .directory else .notDirectory)
    | .invalidArgument _ 36 _ => return .error .nameTooLong
    | e => return .error (.other (toString e))

/-- The files at some paths, as they are now. -/
def readFiles (paths : List String) : IO Files := do
  let found ← paths.mapM fun path => return (path, ← readFile path)
  return fun path => (found.lookup path).getD (.error .missing)

def readEnvironment : IO Environment := do
  match ← readFile "/proc/self/environ" with
  | .ok bytes => return .ofBlock bytes
  | .error _ => return []

/-- Prints a text at once. -/
def print (text : String) : IO Unit := do
  let output ← IO.getStdout
  output.putStr text
  output.flush

/-- Shows a prompt and reads a line. -/
def ask (prompt : String) : IO Operator.Line := do
  print prompt
  try
    match Text.lines (Text.Utf8.encode (← (← IO.getStdin).getLine)) with
    | [] => return .ok none
    | line :: _ => return line.map some
  catch e => return .error (toString e)

def host (tally : IO.Ref Usage) : Host IO where
  send request _ := return .unreachable ("no connection to " ++ request.address)
  start _ _ := return .notStarted "starting programs is not supported"
  ask := ask
  print := print
  spend tokens := tally.modify fun u => u.add (.ofNat tokens.1) (.ofNat tokens.2)
  spent := tally.get

/-- A random name in five groups of hexadecimal digits. -/
def randomName : IO String := do
  let groups ← [8, 4, 4, 4, 12].mapM fun size => do
    let ds ← (List.replicate size ()).mapM fun _ => return Json.hexDigit (← IO.rand 0 15)
    return String.ofList ds
  return "-".intercalate groups

/-- The files that a program may look at: those with its settings, then
those that these name. -/
def filesFor (usual : Settings) (env : Environment) (path : Option String) : IO Files := do
  let first ← readFiles (Settings.pathsTo path)
  let settings := Program.settingsOr usual first env path
  let automated := { settings with automated := true }
  let second ← readFiles
    (Instructions.pathsTo settings.promptsDirectory settings.conversationFile ++
      [joinPath settings.promptsDirectory automated.conversationFile])
  return fun path =>
    match first path with
    | .error .missing => second path
    | found => found

/-- Ends as the program says. -/
def finish (exit : Exit) : IO UInt32 := do
  let complaints ← IO.getStderr
  complaints.putStr exit.complaint
  return .ofNat exit.code

/-- Runs the program that its name asks for. -/
def run (isBench : Bool) (arguments : List String) : IO UInt32 := do
  let env ← readEnvironment
  let host := host (← IO.mkRef {})
  if isBench then
    let files ← filesFor .oneShot env (arguments.drop 1).head?
    finish (← Program.bench host files env arguments)
  else
    let files ← filesFor {} env arguments.head?
    finish (← Program.fly host files env arguments (← randomName))

end Sortie.CommandLine

/-- Flies one mission, or many under the name of the benchmark. -/
def main (arguments : List String) : IO UInt32 := do
  let name := (← IO.appPath).toString.toList
  Sortie.CommandLine.run ("bench".toList.isSuffixOf name) arguments
