import Sortie.Json.Number
import Sortie.Solver.Outcome
import Sortie.Text.Blank
/-!
# What the solver writes

The solver writes one JSON value: a record with states, controls and perhaps an error, or a
list of these three. A missing part is empty, and a state's component may be `null`, for no
number. An error makes the rest void; else every state must have six components.
-/

namespace Sortie

/-- A solver's answer as it was written. -/
structure SolverReply where
  rows : List (List (Option Float))
  controls : List Control
  error : Option String
  deriving Repr, Inhabited, BEq

namespace SolverReply

/-- A number, or `null`. -/
def component? : Json → Option (Option Float)
  | .null => some none
  | j => j.asReal?.map some

def row? (j : Json) : Option (List (Option Float)) := do
  (← j.asArray?).mapM component?

def rows? (j : Json) : Option (List (List (Option Float))) := do
  (← j.asArray?).mapM row?

/-- An acceleration as a list of three numbers. -/
def control? (j : Json) : Option Control := do
  match ← (← j.asArray?).mapM Json.asReal? with
  | [ax, ay, az] => some ⟨ax, ay, az⟩
  | _ => none

def controls? (j : Json) : Option (List Control) := do
  (← j.asArray?).mapM control?

/-- A text, or `null` for none. -/
def error? : Json → Option (Option String)
  | .null => some none
  | j => j.asText?.map some

/-- The part read by `read`, or `missing` if there is none. -/
def part? {α : Type} (read : Json → Option α) (missing : α) : Option Json → Option α
  | none => some missing
  | some j => read j

/-- The answer in a JSON value. -/
def ofJson? : Json → Option SolverReply
  | .array [states, controls, error] =>
    return { rows := ← rows? states, controls := ← controls? controls, error := ← error? error }
  | .object fields => do
    let found ← Json.fields? ["states", "controls", "error"] fields
    return { rows := ← part? rows? [] (found.lookup "states")
             controls := ← part? controls? [] (found.lookup "controls")
             error := ← part? error? none (found.lookup "error") }
  | _ => none

/-- The answer in a text, with blank characters around it. -/
def read? (text : String) : Option SolverReply := do
  ofJson? (← Json.read? (Text.trim text))

/-- The state in a row of six components. -/
def state? (row : List (Option Float)) : Option State :=
  State.ofComponents? (row.map fun c => c.getD (0.0 / 0.0))

/-- The states in rows, the first of them at step `step`, or what is wrong with the first
row that is no state. -/
def states (step : Nat) : List (List (Option Float)) → Except String (List State)
  | [] => .ok []
  | row :: rest =>
    match state? row with
    | some s => (states (step + 1) rest).map (s :: ·)
    | none =>
      .error <| "state " ++ Decimal.digits step ++ " has " ++ Decimal.digits row.length ++
        " components, expected 6"

/-- What an answer means. -/
def outcome (r : SolverReply) : Outcome :=
  match r.error with
  | some error => .infeasible ("Solver failed: " ++ error)
  | none =>
    match states 0 r.rows with
    | .ok ss => .feasible ⟨ss⟩ r.controls
    | .error reason => .infeasible reason

end SolverReply

/-- How the reason begins for which an unreadable answer is infeasible. -/
def malformedAnswer : String := "malformed solver output: "

/-- The outcome in what a solver wrote. The reason for a text that cannot be read begins
with `malformedAnswer` and ends in words of its own, where the message of a JSON library
would say what is wrong in the text and at which place: such messages are not modelled. -/
def Outcome.read (text : String) : Outcome :=
  match SolverReply.read? text with
  | some r => r.outcome
  | none => .infeasible (malformedAnswer ++ "not a solver's answer")

end Sortie
