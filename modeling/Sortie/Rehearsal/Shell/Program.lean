import Sortie.Decimal.Reading
import Sortie.Rehearsal.Folder
import Sortie.Rehearsal.Playback
import Sortie.Rehearsal.Shell.Printing
import Sortie.Rehearsal.Shell.Word
/-!
# Commands of the shell

The few programs that are known, and the commands that the shell runs itself: as many as a
test needs to play a solver back. None of them is a part of the program.
-/

namespace Sortie.Shell

/-- What the shell knows while it runs a script. -/
structure Scope where
  files : Files
  /-- The name under which it complains. -/
  name : String
  arguments : List String := []
  settings : List (String × String) := []
  line : Nat := 1
  /-- The code with which the command before ended. -/
  last : Nat := 0
  /-- A command that fails ends the shell. -/
  isStrict : Bool := false

/-- A command that has been run: what it came to, what it left of its input, and whether
the shell ends with it. -/
structure Finished where
  run : Run
  input : String
  ended : Bool := false

/-- A way to run the shell under a name, on an input, with arguments. -/
abbrev Runner := String → String → List String → Play Finished

/-- The word that stands for the shell itself where a program is named by a number. -/
def ownNumber : String := "$$"

namespace Scope

/-- A run that ends with a code and a complaint of the shell about a line. -/
def complaint (scope : Scope) (code : Nat) (text : String) : Run :=
  .complaint code (scope.name ++ ": " ++ Decimal.digits scope.line ++ ": " ++ text)

/-- The values that a sign in a word stands for. -/
def values (scope : Scope) : Parameter → List String
  | .lastCode => [Decimal.digits scope.last]
  | .count => [Decimal.digits scope.arguments.length]
  | .itself => [ownNumber]
  | .argument 0 => [scope.name]
  | .argument (n + 1) => [scope.arguments.getD n ""]
  | .allArguments => scope.arguments
  | .named name => [(scope.settings.lookup name).getD ""]

/-- The words that words stand for. -/
def words (scope : Scope) (ws : List Word) : List String :=
  ws.flatMap (Word.fields scope.values)

/-- The text that a word stands for, as one word. -/
def text (scope : Scope) (word : Word) : String :=
  " ".intercalate (word.fields scope.values)

/-- Gives names to values. -/
def assign (scope : Scope) (assignments : List (String × Word)) : Scope :=
  assignments.foldl
    (fun s (name, word) => { s with settings := (name, s.text word) :: s.settings }) scope

/-- Why the shell does not run a command that it does not know; `mark`
stands before its name. -/
def refused (scope : Scope) (mark command : String) : Run :=
  let isForbidden := command.isEmpty ||
    (command.toList.contains '/' && scope.files.holds command)
  if isForbidden then
    let code := if command.isEmpty then 127 else 126
    scope.complaint code (mark ++ command ++ ": Permission denied")
  else if Folder.longestName < command.utf8ByteSize then
    scope.complaint 127 (mark ++ command ++ ": File name too long")
  else scope.complaint 127 (mark ++ command ++ ": not found")

/-- The code with which `exit` ends the shell. -/
def exitRun (scope : Scope) : List String → Run
  | [] => { ending := .code scope.last }
  | code :: _ =>
    match Decimal.readNat (UInt32.size / 2 - 1) code with
    | .ok n => { ending := .code (n % 256) }
    | .error _ => scope.complaint 2 ("exit: Illegal number: " ++ code)

end Scope

/-! ## Tests -/

/-- Why a test is none. -/
inductive TestFault where
  | illegalNumber (word : String)
  | unexpectedOperator (word : String)
  | missingBracket
  deriving Repr, BEq, DecidableEq, Inhabited

/-- What is said about a test that is none. -/
def TestFault.message : TestFault → String
  | illegalNumber word => "Illegal number: " ++ word
  | unexpectedOperator word => word ++ ": unexpected operator"
  | missingBracket => "missing ]"

/-- How two whole numbers are compared. -/
def comparisons : List (String × (Int → Int → Bool)) :=
  [("-eq", (· = ·)), ("-ne", (· ≠ ·)), ("-lt", (· < ·)), ("-le", (· ≤ ·)), ("-gt", (· > ·)),
    ("-ge", (· ≥ ·))]

/-- The whole number that a word of a test writes. -/
def testNumber (word : String) : Except TestFault Int :=
  match Decimal.readInt Decimal.mostSigned64 word with
  | .ok n => .ok n
  | .error _ => .error (.illegalNumber word)

def testOne? (files : Files) (test word : String) : Option Bool :=
  if test = "-n" then some (!word.isEmpty)
  else if test = "-z" then some word.isEmpty
  else if test = "-e" || test = "-r" then some (files.holds word)
  else if test = "-f" then some (files.bytes? word).isSome
  else if test = "-d" then some (files.isDirectory word)
  else if test = "-s" then some ((files.bytes? word).any (!·.isEmpty))
  else none

/-- A test of up to three words, or its opposite. -/
def testWords (files : Files) : List String → Except TestFault Bool
  | [] => .ok false
  | [word] => .ok (!word.isEmpty)
  | [test, word] =>
    if test = "!" then .ok word.isEmpty
    else
      match testOne? files test word with
      | some found => .ok found
      | none => .error (.unexpectedOperator test)
  | [left, test, right] =>
    if test = "=" then .ok (left = right)
    else if test = "!=" then .ok (left ≠ right)
    else
      match comparisons.lookup test with
      | some compare => do return compare (← testNumber left) (← testNumber right)
      | none =>
        if left = "!" then (testWords files [test, right]).map (!·)
        else .error (.unexpectedOperator test)
  | left :: second :: rest =>
    if left = "!" then (testWords files (second :: rest)).map (!·)
    else .error (.unexpectedOperator second)

def testRun (scope : Scope) (command : String) (words : List String) : Run :=
  let isBracket := command = "["
  let tested := if isBracket && words.getLast? ≠ some "]" then .error TestFault.missingBracket
    else testWords scope.files (if isBracket then words.dropLast else words)
  match tested with
  | .ok found => { ending := .code (if found then 0 else 1) }
  | .error fault => scope.complaint 2 (command ++ ": " ++ fault.message)

/-! ## Signals -/

def signals : List (String × Nat) :=
  [("HUP", 1), ("INT", 2), ("QUIT", 3), ("ABRT", 6), ("KILL", 9), ("USR1", 10), ("SEGV", 11),
    ("USR2", 12), ("PIPE", 13), ("ALRM", 14), ("TERM", 15)]

/-- The signal that a word names. -/
def signal? (word : String) : Option Nat :=
  (signals.lookup word).or (Decimal.readNat 64 word).toOption

/-- The signal that the shell sends to itself, if it does. -/
def ownSignal? : List String → Option Nat
  | [number] => if number = ownNumber then some 15 else none
  | ["-s", word, number] => if number = ownNumber then signal? word else none
  | [option, number] =>
    match option.toList with
    | '-' :: word => if number = ownNumber then signal? (.ofList word) else none
    | _ => none
  | _ => none

/-! ## Programs -/

/-- What a program says about a path that gives no text. -/
def faultText : ReadFault → String
  | .directory => "Is a directory"
  | .notDirectory => "Not a directory"
  | .nameTooLong => "File name too long"
  | .missing | .notText | .other _ => "No such file or directory"

/-- The run of `cat`, which prints its input or files. -/
def concatenate (files : Files) (input : String) (paths : List String) : Run :=
  let one (path : String) : Run :=
    if path = "-" then .printed input
    else match files path with
      | .ok bytes => .prints bytes
      | .error fault => .complaint 1 ("cat: " ++ path ++ ": " ++ faultText fault)
  let runs := (if paths.isEmpty then ["-"] else paths).map one
  let run := runs.foldl Run.append {}
  { run with ending := .code (if runs.all (·.ending.status = 0) then 0 else 1) }

/-- The programs that are known. -/
inductive Program where
  | shell
  | cat
  | echo
  | succeed
  | fail
  /-- It runs another program. -/
  | environment
  deriving Repr, BEq, DecidableEq, Inhabited

def programs : List (String × Program) :=
  [("sh", .shell), ("dash", .shell), ("cat", .cat), ("echo", .echo), ("true", .succeed),
    ("false", .fail), ("env", .environment)]

/-- The program with a name, or at a path that leads to one. -/
def program? (path : String) : Option Program :=
  programs.findSome? fun (name, program) =>
    if path = name || path = "/bin/" ++ name || path = "/usr/bin/" ++ name then some program
    else none

/-- Runs a program if it is known. -/
def runProgram (shell : Runner) (files : Files) (input : String) :
    List String → Play (Option Finished)
  | [] => return none
  | path :: arguments => do
    match program? path with
    | none => return none
    | some .shell => return some (← shell path input arguments)
    | some .cat =>
      return some
        { run := concatenate files input arguments
          input := if arguments.isEmpty then "" else input }
    | some .echo => return some { run := .printed (plainEchoText arguments), input }
    | some .succeed => return some { run := {}, input }
    | some .fail => return some { run := { ending := .code 1 }, input }
    | some .environment =>
      match ← runProgram shell files input arguments with
      | some done => return some done
      | none =>
        let text := match arguments with
          | [] => ""
          | word :: _ => "env: '" ++ word ++ "': No such file or directory"
        return some { run := .complaint 127 text, input }

/-- Runs a command: one of the shell's own, or a program. -/
def runWords (shell : Runner) (scope : Scope) (input : String) : List String → Play Finished
  | ["exec"] | [] => return { run := {}, input }
  | "exec" :: words => do
    match ← runProgram shell scope.files input words with
    | some done => return { done with ended := true }
    | none => return { run := scope.refused "exec: " (words.headD ""), input, ended := true }
  | "exit" :: arguments => return { run := scope.exitRun arguments, input, ended := true }
  | "echo" :: words => return { run := .printed (echoText words), input }
  | "printf" :: pattern :: words => return { run := .printed (patternText pattern words), input }
  | ":" :: _ | "wait" :: _ => return { run := {}, input }
  | command :: arguments => do
    if command = "test" || command = "[" then
      return { run := testRun scope command arguments, input }
    else
      match if command = "kill" then ownSignal? arguments else none with
      | some n => return { run := { ending := .signal n }, input, ended := true }
      | none =>
        match ← runProgram shell scope.files input (command :: arguments) with
        | some done => return done
        | none => return { run := scope.refused "" command, input }

end Sortie.Shell
