import Sortie.Rehearsal.Shell.Program
import Sortie.Rehearsal.Shell.Script
/-!
# Running scripts

The shell waits for each command that it runs. Only a shell that is a process of its own,
such as a part of a pipeline, leaves its place to its last command, and whoever waits for
it sees how that command ends. The shell is there to play solvers back in tests; it is no
part of the program.
-/

namespace Sortie.Shell

/-- The shell at work: what it knows, what is left of its input, what it has come to, and
whether it has ended. -/
structure State where
  scope : Scope
  input : String
  done : Run := {}
  ended : Bool := false

namespace State

def after (s : State) (run : Run) : State :=
  { s with done := s.done.append run, scope := { s.scope with last := run.ending.status } }

/-- The state after a command that ends the shell if it is strict and
the command failed. -/
def check (s : State) (isTested : Bool) : State :=
  { s with ended := s.ended || (s.scope.isStrict && !isTested && s.scope.last ≠ 0) }

/-- The state in which a command begins that has streams for its own. -/
def begin (s : State) : State :=
  { s with done := { ending := s.done.ending } }

end State

/-! ## Streams -/

/-- What stands for the output and the complaints of a command: the number of a stream, or
none for what goes nowhere. -/
def targets (rs : List Redirection) : Option Nat × Option Nat :=
  rs.foldl
    (fun (output, complaints) r =>
      let way := match r.target with
        | .stream 1 => output
        | .stream 2 => complaints
        | _ => none
      if r.stream = outputStream then (way, complaints)
      else if r.stream = complaintStream then (output, way)
      else (output, complaints))
    (some outputStream, some complaintStream)

/-- A run with its output and complaints where they are to go. -/
def redirected (run : Run) (rs : List Redirection) : Run :=
  let (output, complaints) := targets rs
  let way (stream : Nat) := if stream = outputStream then output else complaints
  { run with pieces := run.pieces.filterMap fun (n, bytes) => (way n).map fun n => (n, bytes) }

/-- The file that stands for the input of a command. -/
def inputFile? (scope : Scope) (rs : List Redirection) : Option String :=
  rs.reverse.findSome? fun r =>
    match r.stream, r.target with
    | 0, .file path => some (scope.text path)
    | _, _ => none

/-- The input of a command, or the run that complains that there is none. -/
def inputOf (s : State) (rs : List Redirection) : Except Run String :=
  match inputFile? s.scope rs with
  | none => .ok s.input
  | some path =>
    match s.scope.files.text path with
    | .ok text => .ok text
    | .error _ => .error (s.scope.complaint 2 ("cannot open " ++ path ++ ": No such file"))

/-- The state after a command with streams for its own. Input from a file leaves that
of the shell as it was. -/
def State.finish (before after : State) (rs : List Redirection) : State :=
  let isOwnInput := (inputFile? before.scope rs).isNone
  { after with
    input := if isOwnInput then after.input else before.input
    done := before.done.append (redirected after.done rs) }

/-! ## Commands -/

/-- The words of a command without names for values before them, and these. -/
def splitAssignments : List Word → List (String × Word) × List Word
  | [] => ([], [])
  | w :: rest =>
    match w.assignment? with
    | some a =>
      let (assignments, words) := splitAssignments rest
      (a :: assignments, words)
    | none => ([], w :: rest)

/-- A pipeline is run after one that ended with this code. -/
def isDue (last : Nat) : Link → Bool
  | .always => true
  | .ifDone => last = 0
  | .ifFailed => last ≠ 0

/-- What a simple command is when the shell runs it. -/
inductive SimpleTask where
  | assign (assignments : List (String × Word))
  | beStrict (isStrict : Bool)
  | run (words : List String)

/-- What the words of a simple command ask for. -/
def SimpleTask.ofWords (scope : Scope) (ws : List Word) : SimpleTask :=
  let (assignments, words) := splitAssignments ws
  if words.isEmpty && !assignments.isEmpty then .assign assignments
  else
    match scope.words words with
    | ["set", "-e"] => .beStrict true
    | ["set", "+e"] => .beStrict false
    | words => .run words

/-- Runs a simple command with an input. If the shell `leaves` its
place it does not wait. -/
def runSimple (shell : Runner) (leaves : Bool) (s : State) (words : List Word) : Play State :=
  match SimpleTask.ofWords s.scope words with
  | .assign assignments => return { s with scope := s.scope.assign assignments }.after {}
  | .beStrict isStrict => return { s with scope := { s.scope with isStrict } }.after {}
  | .run words => do
    let done ← runWords shell s.scope s.input words
    let run := if leaves || done.ended then done.run else done.run.awaited
    return { s with input := done.input, ended := done.ended }.after run

mutual

/-- Runs sentences one after the other. The shell may leave its place to the last one, and
failures do not count where they are tested. -/
def runSentences (shell : Runner) (leaves isTested : Bool) :
    Nat → State → List (Sentence Command) → Play State
  | 0, s, _ => return s
  | _, s, [] => return s
  | fuel + 1, s, sentence :: rest => do
    if s.ended then return s
    else
      let s ← runSentence shell (leaves && rest.isEmpty) isTested fuel s sentence
      runSentences shell leaves isTested fuel s rest

/-- Runs a sentence. One that nobody waits for has no input and counts as ended well. -/
def runSentence (shell : Runner) (leaves isTested : Bool) :
    Nat → State → Sentence Command → Play State
  | 0, s, _ => return s
  | fuel + 1, s, sentence => do
    if sentence.isBehind then
      let after ← runPipelines shell true isTested fuel
        { s.begin with input := "" } sentence.pipelines
      return s.after { after.done with ending := .code 0 }
    else runPipelines shell leaves isTested fuel s sentence.pipelines

/-- Runs those of some pipelines that are due. -/
def runPipelines (shell : Runner) (leaves isTested : Bool) :
    Nat → State → List (Pipeline Command) → Play State
  | 0, s, _ => return s
  | _, s, [] => return s
  | fuel + 1, s, pipeline :: rest => do
    if s.ended then return s
    else
      let isLast := rest.isEmpty
      let s ←
        if isDue s.scope.last pipeline.link then
          runPipeline shell (leaves && isLast) (isTested || !isLast) fuel s pipeline
        else pure s
      runPipelines shell leaves isTested fuel s rest

def runPipeline (shell : Runner) (leaves isTested : Bool) :
    Nat → State → Pipeline Command → Play State
  | 0, s, _ => return s
  | fuel + 1, s, pipeline => do
    let leaves := leaves && !pipeline.isNegated
    let isTested := isTested || pipeline.isNegated
    let s ← match pipeline.parts with
      | [part] => runPart shell leaves isTested fuel s part
      | parts => do
        let run ← runPiped shell fuel s.begin {} parts
        pure (({ s with input := "" }.after run).check isTested)
    if pipeline.isNegated && !s.ended then
      return s.after { ending := .code (if s.scope.last = 0 then 1 else 0) }
    else return s

/-- Runs commands, each of which is a process of its own and reads what the one before it
prints. The shell waits for each of them. -/
def runPiped (shell : Runner) : Nat → State → Run → List (Part Command) → Play Run
  | 0, _, done, _ => return done
  | _, _, done, [] => return done
  | fuel + 1, s, done, part :: rest => do
    let after ← runPart shell true true fuel s part
    let run := after.done.awaited
    if rest.isEmpty then return done.append run
    else
      let input := Text.Utf8.decodeLossy (run.on outputStream)
      let heard := run.pieces.filter (·.1 ≠ outputStream)
      runPiped shell fuel { s with input } (done.append { run with pieces := heard }) rest

/-- Runs a command with its own files and streams. -/
def runPart (shell : Runner) (leaves isTested : Bool) :
    Nat → State → Part Command → Play State
  | 0, s, _ => return s
  | fuel + 1, s, part => do
    let line := match part.command with
      | .simple line _ => line
      | .group _ | .inner _ | .branch .. => s.scope.line
    let s := { s with scope := { s.scope with line } }
    match inputOf s part.redirections with
    | .error run => return (s.after run).check isTested
    | .ok input =>
      let start := { s.begin with input }
      match part.command with
      | .simple _ words =>
        let after ← runSimple shell leaves start words
        return (s.finish after part.redirections).check isTested
      | .inner body =>
        let inside ← runSentences shell true isTested fuel start body
        let run := redirected inside.done part.redirections
        let run := if leaves then run else run.awaited
        let input := (s.finish inside part.redirections).input
        return ({ s with input }.after run).check isTested
      | .group body =>
        let leaves := leaves && part.redirections.isEmpty
        let after ← runSentences shell leaves isTested fuel start body
        return s.finish after part.redirections
      | .branch test yes no =>
        let leaves := leaves && part.redirections.isEmpty
        let tested ← runSentences shell false true fuel start test
        if tested.ended then return s.finish tested part.redirections
        else
          let isDone := tested.scope.last = 0
          let body := if isDone then yes else no
          let tested := if body.isEmpty then tested.after {} else tested
          let after ← runSentences shell leaves isTested fuel tested body
          return s.finish after part.redirections

end

/-! ## Scripts -/

/-- Runs the script that a text holds. -/
def runText (shell : Runner) (scope : Scope) (input text : String) : Play Finished := do
  let script := Script.ofText text
  let s ← runSentences shell false false (8 * text.length + 8) { scope, input } script.sentences
  match script.flaw, s.ended with
  | some flaw, false =>
    let complaint := { scope with line := flaw.line }.complaint 2 ("Syntax error: " ++ flaw.text)
    return { run := s.done.append complaint, input := s.input }
  | _, _ => return { run := s.done, input := s.input }

/-- The name of the recorded script. -/
def recordedScript : String := "solver.sh"

/-- The recorded script is at this path. -/
def isRecorded (files : Files) (path : String) : Bool :=
  (files.bytes? path).isSome && (Folder.names path).getLast? == some recordedScript

/-- Runs the script at a path. -/
def runScript (shell : Runner) (scope : Scope) (input path : String) : Play Finished := do
  if isRecorded scope.files path then return { run := ← Playback.play input, input := "" }
  else
    match scope.files.text path with
    | .ok text => runText shell { scope with name := path } input text
    | .error .directory => return { run := {}, input }
    | .error _ =>
      let top := { scope with line := 0 }
      return { run := top.complaint 2 ("cannot open " ++ path ++ ": No such file"), input }

/-- The options that change nothing about the scripts that the shell knows how to run. -/
def isIdleOption (word : String) : Bool :=
  ["-u", "-f", "-m", "-b"].contains word

/-- Runs the script among arguments; a name for the shell and the script's
own arguments follow. -/
def runGiven (shell : Runner) (scope : Scope) (input : String) (arguments : List String) :
    Play Finished :=
  let isMark (word : String) : Bool := word = "-" || word = "--"
  match if arguments.head?.any isMark then arguments.drop 1 else arguments with
  | [] => do
    let top := { scope with line := 0 }
    return { run := top.complaint 2 "-c requires an argument", input }
  | text :: rest =>
    runText shell { scope with name := rest.headD scope.name, arguments := rest.drop 1 } input text

/-- Runs the shell with arguments: a script that is given, one in a file, or its input.
Other shells are run by `shell`. -/
def runArguments (shell : Runner) (scope : Scope) (input : String) : List String → Play Finished
  | [] | ["-s"] | ["-"] | ["--"] => runText shell scope "" input
  | "-c" :: rest => runGiven shell scope input rest
  | "-ec" :: rest => runGiven shell { scope with isStrict := true } input rest
  | "-e" :: rest => runArguments shell { scope with isStrict := true } input rest
  | "--" :: path :: arguments => runScript shell { scope with arguments } input path
  | path :: arguments => do
    let top := { scope with line := 0 }
    if isIdleOption path then runArguments shell scope input arguments
    else if path.toList.head? == some '-' then
      return { run := top.complaint 2 ("Illegal option " ++ .ofList (path.toList.take 2)), input }
    else runScript shell { scope with arguments } input path

/-- Runs the shell; of shells in shells there are at most `depth`, and
more than these hang. -/
def runShell (files : Files) : Nat → Runner
  | 0 => fun _ _ _ => Playback.hang
  | depth + 1 => fun name input => runArguments (runShell files depth) { files, name } input

/-- The most shells in shells. -/
def deepest : Nat := 64

end Sortie.Shell
