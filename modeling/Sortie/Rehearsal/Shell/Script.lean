import Sortie.Rehearsal.Shell.Token
/-!
# Scripts

A script is a list of sentences. A sentence is a list of pipelines, each of which may
depend on how the one before it ended; a pipeline is a list of commands, each of which
reads what the one before it prints. A command is a list of words, or a script of its own:
in brackets, or one that depends on how another one ends. Scripts are written for solvers
that are played back in tests; reading them is no part of the program.
-/

namespace Sortie.Shell

/-- What stands for a stream of a command. -/
inductive Target where
  | stream (number : Nat)
  | file (path : Word)
  deriving Repr, BEq, DecidableEq, Inhabited

/-- A stream, and what stands for it. -/
structure Redirection where
  stream : Nat
  target : Target
  deriving Repr, BEq, DecidableEq, Inhabited

/-- A part of a pipeline, with files and streams for its own. -/
structure Part (Command : Type) where
  command : Command
  redirections : List Redirection := []
  deriving Repr, Inhabited

/-- When a pipeline is run. -/
inductive Link where
  | always
  /-- If the pipeline before it ended well. -/
  | ifDone
  /-- If the pipeline before it failed. -/
  | ifFailed
  deriving Repr, BEq, DecidableEq, Inhabited

structure Pipeline (Command : Type) where
  link : Link := .always
  /-- It ends well if its last command does not. -/
  isNegated : Bool := false
  parts : List (Part Command)
  deriving Repr, Inhabited

structure Sentence (Command : Type) where
  pipelines : List (Pipeline Command)
  /-- Nobody waits for it. -/
  isBehind : Bool := false
  deriving Repr, Inhabited

inductive Command where
  | simple (line : Nat) (words : List Word)
  /-- Sentences together. -/
  | group (body : List (Sentence Command))
  /-- Sentences for a shell of their own. -/
  | inner (body : List (Sentence Command))
  /-- Sentences to run if others end well, and those to run if not. -/
  | branch (test yes no : List (Sentence Command))
  deriving Inhabited

/-- What is wrong in a script, and the line on which that is found. -/
structure Flaw where
  line : Nat
  text : String
  deriving Repr, BEq, DecidableEq, Inhabited

/-- A script: the sentences on the lines before a flaw, if there is one. -/
structure Script where
  sentences : List (Sentence Command)
  flaw : Option Flaw := none
  deriving Inhabited

/-! ## Reading -/

/-- The words with a meaning of their own where a command begins. -/
def reserved : List String :=
  ["if", "then", "elif", "else", "fi", "\x7b", "\x7d", "!", "do", "done", "esac"]

/-- The reserved words that end a list of sentences. -/
def enders : List String :=
  ["then", "elif", "else", "fi", "\x7d", "do", "done", "esac"]

/-- The tokens that are left, with their lines. -/
abbrev Tokens := List (Token × Nat)

namespace Tokens

/-- The next token; after the last one the text ends. -/
def next (ts : Tokens) : Token × Nat :=
  ts.headD (.sign .finish, 1)

/-- The reserved word that comes next. -/
def keyword? (ts : Tokens) : Option String :=
  match ts.next.1 with
  | .word w => w.plain?.filter reserved.contains
  | _ => none

/-- The next token is a sign. -/
def isAt (ts : Tokens) (s : Sign) : Bool :=
  ts.next.1 = .sign s

/-- The tokens after the next one. -/
def rest (ts : Tokens) : Tokens :=
  ts.drop 1

def skipLines (ts : Tokens) : Tokens :=
  ts.dropWhile (·.1 = .sign .newline)

/-- The flaw that the next token does not fit, where a certain one is expected or not.
Reserved words are no other words if they `count`. -/
def unexpected (ts : Tokens) (count : Bool) (expected : Option String) : Flaw :=
  let (token, line) := ts.next
  let asked := match expected with
    | some word => " (expecting \"" ++ word ++ "\")"
    | none => ""
  let found := match token with
    | .sign s => s.text
    | .redirect .. => "redirection"
    | .word _ =>
      match count, ts.keyword? with
      | true, some word => "\"" ++ word ++ "\""
      | _, _ => "word"
  if token = .sign .openQuote then ⟨line, "Unterminated quoted string"⟩
  else ⟨line, found ++ " unexpected" ++ asked⟩

end Tokens

/-- Takes a reserved word that must come. -/
def takeKeyword (word : String) (ts : Tokens) : Except Flaw (Unit × Tokens) :=
  if ts.keyword? = some word then .ok ((), ts.rest)
  else .error (ts.unexpected true (some word))

/-- Reads what stands for a stream, after its mark. -/
def readTarget (stream : Nat) (isStream : Bool) (ts : Tokens) :
    Except Flaw (Redirection × Tokens) :=
  match ts.next.1 with
  | .word w =>
    let target := match isStream, w.stream? with
      | true, some n => Target.stream n
      | _, _ => .file w
    .ok (⟨stream, target⟩, ts.rest)
  | _ => .error (ts.unexpected false none)

/-- Reads marks and what they stand for, as long as there are any. -/
def readTargets : Nat → List Redirection → Tokens → Except Flaw (List Redirection × Tokens)
  | 0, done, ts => .ok (done.reverse, ts)
  | fuel + 1, done, ts =>
    match ts.next.1 with
    | .redirect stream isStream => do
      let (r, ts) ← readTarget stream isStream ts.rest
      readTargets fuel (r :: done) ts
    | _ => .ok (done.reverse, ts)

/-- Reads the words of a command, and what stands for its streams. -/
def readSimple (line : Nat) :
    Nat → List Word → List Redirection → Tokens → Except Flaw (Part Command × Tokens)
  | 0, _, _, ts => .error (ts.unexpected false none)
  | fuel + 1, words, rs, ts =>
    match ts.next.1 with
    | .word w => readSimple line fuel (w :: words) rs ts.rest
    | .redirect stream isStream => do
      let (r, ts) ← readTarget stream isStream ts.rest
      readSimple line fuel words (r :: rs) ts
    | .sign s =>
      if s = .openQuote then .error (ts.unexpected false none)
      else if s = .opening && rs.isEmpty && words.length = 1 &&
          words.all (·.assignment?.isNone) then
        .error (ts.rest.unexpected false (if ts.rest.isAt .closing then none else some ")"))
      else .ok (⟨.simple line words.reverse, rs.reverse⟩, ts)

mutual

/-- Reads the sentences inside a command. -/
def readInner (first : Bool) : Nat → Tokens → Except Flaw (List (Sentence Command) × Tokens)
  | 0, ts => .error (ts.unexpected false none)
  | fuel + 1, ts => do
    let ts := ts.skipLines
    let isOver := ts.keyword?.any enders.contains || ts.isAt .closing || ts.isAt .doubleSemicolon
    if ts.isAt .finish || (!first && isOver) then return ([], ts)
    else
      let (pipelines, ts) ← readPipelines .always fuel ts
      let sentence : Sentence Command := ⟨pipelines, ts.isAt .ampersand⟩
      if ts.isAt .semicolon || ts.isAt .ampersand || ts.isAt .newline then
        let (rest, ts) ← readInner false fuel ts.rest
        return (sentence :: rest, ts)
      else return ([sentence], ts)

/-- Reads pipelines with links between them. -/
def readPipelines (link : Link) : Nat → Tokens → Except Flaw (List (Pipeline Command) × Tokens)
  | 0, ts => .error (ts.unexpected false none)
  | fuel + 1, ts => do
    let isNegated := ts.keyword? = some "!"
    let (parts, ts) ← readParts fuel (if isNegated then ts.rest else ts)
    let next : Option Link :=
      if ts.isAt .both then some .ifDone else if ts.isAt .either then some .ifFailed else none
    match next with
    | none => return ([⟨link, isNegated, parts⟩], ts)
    | some next =>
      let (rest, ts) ← readPipelines next fuel ts.rest.skipLines
      return (⟨link, isNegated, parts⟩ :: rest, ts)

/-- Reads commands with pipes between them. -/
def readParts : Nat → Tokens → Except Flaw (List (Part Command) × Tokens)
  | 0, ts => .error (ts.unexpected false none)
  | fuel + 1, ts => do
    let (part, ts) ← readCommand fuel ts
    if ts.isAt .pipe then
      let (rest, ts) ← readParts fuel ts.rest.skipLines
      return (part :: rest, ts)
    else return ([part], ts)

def readCommand : Nat → Tokens → Except Flaw (Part Command × Tokens)
  | 0, ts => .error (ts.unexpected false none)
  | fuel + 1, ts => do
    let (token, line) := ts.next
    match token, ts.keyword? with
    | .sign .opening, _ =>
      let (body, ts) ← readInner true fuel ts.rest
      if ts.isAt .closing then
        let (rs, ts) ← readTargets fuel [] ts.rest
        return (⟨.inner body, rs⟩, ts)
      else throw (ts.unexpected true (some ")"))
    | _, some "\x7b" =>
      let (body, ts) ← readInner true fuel ts.rest
      let (_, ts) ← takeKeyword "\x7d" ts
      let (rs, ts) ← readTargets fuel [] ts
      return (⟨.group body, rs⟩, ts)
    | _, some "if" =>
      let (command, ts) ← readBranch fuel ts.rest
      let (rs, ts) ← readTargets fuel [] ts
      return (⟨command, rs⟩, ts)
    | .word _, none | .redirect .., none => readSimple line fuel [] [] ts
    | _, _ => throw (ts.unexpected true none)

/-- Reads what follows a word that begins a branch, up to the word that ends it. -/
def readBranch : Nat → Tokens → Except Flaw (Command × Tokens)
  | 0, ts => .error (ts.unexpected false none)
  | fuel + 1, ts => do
    let (test, ts) ← readInner true fuel ts
    let (_, ts) ← takeKeyword "then" ts
    let (yes, ts) ← readInner true fuel ts
    match ts.keyword? with
    | some "elif" =>
      let (other, ts) ← readBranch fuel ts.rest
      return (.branch test yes [⟨[⟨.always, false, [⟨other, []⟩]⟩], false⟩], ts)
    | some "else" =>
      let (no, ts) ← readInner true fuel ts.rest
      let (_, ts) ← takeKeyword "fi" ts
      return (.branch test yes no, ts)
    | _ =>
      let (_, ts) ← takeKeyword "fi" ts
      return (.branch test yes [], ts)

end

/-- Reads the sentences of a line, up to a newline or the end of the text. -/
def readLine : Nat → Tokens → Except Flaw (List (Sentence Command) × Tokens)
  | 0, ts => .error (ts.unexpected false none)
  | fuel + 1, ts =>
    if ts.isAt .newline then .ok ([], ts.rest)
    else if ts.isAt .finish then .ok ([], ts)
    else do
      let (pipelines, ts) ← readPipelines .always fuel ts
      let sentence : Sentence Command := ⟨pipelines, ts.isAt .ampersand⟩
      if ts.isAt .semicolon || ts.isAt .ampersand then
        let (rest, ts) ← readLine fuel ts.rest
        return (sentence :: rest, ts)
      else if ts.isAt .newline || ts.isAt .finish then
        let (rest, ts) ← readLine fuel ts
        return (sentence :: rest, ts)
      else throw (ts.unexpected true none)

/-- Reads lines up to a flaw or the end of the text. -/
def readLines : Nat → List (Sentence Command) → Tokens → Script
  | 0, done, _ => { sentences := done }
  | fuel + 1, done, ts =>
    if ts.isAt .finish then { sentences := done }
    else
      match readLine (4 * ts.length + 4) ts with
      | .ok (line, ts) => readLines fuel (done ++ line) ts
      | .error flaw => { sentences := done, flaw := some flaw }

/-- The script that a text holds. -/
def Script.ofText (text : String) : Script :=
  let ts := tokens text
  readLines (ts.length + 1) [] ts

end Sortie.Shell
