import Sortie.Decimal.Reading
import Sortie.Settings.Basic
import Sortie.Settings.Tree
/-!
# Reading settings off a tree

Each setting takes the kinds of value that can be read as one of its own kind: numbers
stand for texts, words for numbers, and so on. A setting that is missing keeps its usual
value; a value that cannot be read makes the whole tree unusable.
-/

namespace Sortie.Settings

/-- The truth value that a word names. -/
def wordFlag? (s : String) : Option Bool :=
  let word := Text.lower s
  if word == "true" || word == "on" || word == "yes" then some true
  else if word == "false" || word == "off" || word == "no" then some false
  else none

def asText? : Tree → Option String
  | .text s => some s
  | .whole n => some ((if n < 0 then "-" else "") ++ Decimal.digits n.natAbs)
  | .real x => some (Decimal.plainText x)
  | .flag b => some (if b then "true" else "false")
  | .nothing | .list _ | .table _ => none

/-- A value as a real number. -/
def asReal? : Tree → Option Float
  | .real x => some x
  | .whole n => some (Float.ofInt n)
  | .flag b => some (if b then 1 else 0)
  | .text s =>
    match wordFlag? s with
    | some b => some (if b then 1 else 0)
    | none => Decimal.readReal s
  | .nothing | .list _ | .table _ => none

/-- A number that is not larger than `most`. -/
def upTo? (most n : Nat) : Option Nat :=
  if n ≤ most then some n else none

/-- A value as a natural number up to `most`. Reals are rounded, a half away from zero, and
cut to the natural numbers of 64 bits. -/
def asNat? (most : Nat) : Tree → Option Nat
  | .whole n => if 0 ≤ n then upTo? most n.toNat else none
  | .real x => upTo? most x.round.toUInt64.toNat
  | .flag b => upTo? most b.toNat
  | .text s =>
    match wordFlag? s with
    | some b => upTo? most b.toNat
    | none => (Decimal.readNat Decimal.most64 s).toOption.bind (upTo? most)
  | .nothing | .list _ | .table _ => none

/-- A value as a truth value. -/
def asFlag? : Tree → Option Bool
  | .flag b => some b
  | .whole n => some (n ≠ 0)
  | .real x => some (x != 0)
  | .text s =>
    if s == "1" then some true else if s == "0" then some false else wordFlag? s
  | .nothing | .list _ | .table _ => none

/-- A value as a list of texts. -/
def asTexts? : Tree → Option (List String)
  | .list items => items.mapM asText?
  | _ => none

/-! ## Sections -/

/-- A group of settings: a table, which names them, or a list, where
each has its position. -/
inductive Section where
  | table (entries : List (String × Tree))
  | list (items : List Tree)

def Section.ofTree? : Tree → Option Section
  | .table entries => some (.table entries)
  | .list items => some (.list items)
  | _ => none

/-- The entry with this name or at this position. -/
def Section.entry? (s : Section) (position : Nat) (name : String) : Option Tree :=
  match s with
  | .table entries => entries.lookup name
  | .list items => items[position]?

/-- A part of a section that is a section itself; a missing one is empty. -/
def Section.section? (s : Section) (position : Nat) (name : String) : Option Section :=
  match s.entry? position name with
  | none => some (.table [])
  | some v => ofTree? v

/-- A setting, or its usual value. -/
def Section.setting? {α : Type} (s : Section) (position : Nat) (name : String)
    (read : Tree → Option α) (usual : α) : Option α :=
  match s.entry? position name with
  | none => some usual
  | some v => read v

/-- A text that need not be set. A list must reach as far as its position, and
may hold nothing there. -/
def Section.optionalText? (s : Section) (position : Nat) (name : String) :
    Option (Option String) :=
  match s, s.entry? position name with
  | .table _, none => some none
  | .list _, none => none
  | _, some .nothing => some none
  | _, some v => (asText? v).map some

/-- The settings in the entries of a tree. -/
def ofEntries? (entries : List (String × Tree)) : Option Settings := do
  let usual : Settings := {}
  let whole := Section.table entries
  let app ← whole.section? 0 "app"
  let llm ← whole.section? 1 "llm"
  let timeouts ← llm.section? 4 "timeouts"
  let checker ← whole.section? 2 "checker"
  let dynamics ← whole.section? 3 "dynamics"
  let solver ← whole.section? 4 "solver"
  return {
    scenario := ← app.setting? 0 "scenario" asText? usual.scenario
    dt := ← app.setting? 1 "dt" asReal? usual.dt
    maxReplies := ← app.setting? 2 "max_inputs" (asNat? Decimal.most64) usual.maxReplies
    automated := ← app.setting? 3 "automated_user" asFlag? usual.automated
    promptsDirectory := ← app.setting? 4 "prompts_dir" asText? usual.promptsDirectory
    instructionsFile := ← app.optionalText? 5 "instructions_file"
    printsInstructions :=
      ← app.setting? 6 "print_instructions" asFlag? usual.printsInstructions
    confirms := ← app.setting? 7 "manual_trajectory_check" asFlag? usual.confirms
    provider := ← llm.setting? 0 "provider" asText? usual.provider
    model := ← llm.setting? 1 "model" asText? usual.model
    baseUrl := ← llm.optionalText? 2 "base_url"
    temperature :=
      ← llm.setting? 3 "temperature" (fun v => (asReal? v).map Float.toFloat32) usual.temperature
    requestTimeout := ← timeouts.setting? 0 "request" (asNat? Decimal.most64) usual.requestTimeout
    repairs := ← checker.setting? 0 "syntax_enabled" asFlag? usual.repairs
    repairLimit := ← checker.setting? 1 "syntax_limit" (asNat? Decimal.most32) usual.repairLimit
    judges := ← checker.setting? 2 "semantic_enabled" asFlag? usual.judges
    judgeLimit := ← checker.setting? 3 "semantic_limit" (asNat? Decimal.most32) usual.judgeLimit
    dynamics := {
      maxAcceleration := ← dynamics.setting? 0 "max_acc" asReal? usual.dynamics.maxAcceleration
      maxSpeed := ← dynamics.setting? 1 "max_speed" asReal? usual.dynamics.maxSpeed }
    command := ← solver.setting? 0 "command" asTexts? usual.command
    solverTimeout :=
      ← solver.setting? 1 "timeout_secs" (asNat? Decimal.most64) usual.solverTimeout }

end Sortie.Settings
