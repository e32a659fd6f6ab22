import Sortie.Budget
import Sortie.Conversation
import Sortie.Specification
/-!
# Repairing specifications

A specification that the solver cannot use is sent to the model in a conversation
of its own, with instructions to correct it. The reply is read like any other.
Each attempt is counted.
-/

namespace Sortie

/-- The instructions for repairs and the attempts made. -/
structure SyntaxRepair where
  instructions : String
  budget : Budget
  deriving Repr, DecidableEq

namespace SyntaxRepair

/-- Repairs with a fresh budget. -/
def new (instructions : String) (limit : Nat) : SyntaxRepair :=
  ⟨instructions, .ofLimit limit⟩

/-- The request to correct a specification. -/
def request (instructions : String) (spec : Specification) : List Message :=
  [.system instructions, .user ("Original specification: " ++ spec.text)]

/-- What is printed of a reply. -/
def note (reply : String) : String :=
  "Syntax checker: " ++ reply

/-- Counts one more attempt, if one is left. -/
def begin (r : SyntaxRepair) : Except Fault SyntaxRepair :=
  match r.budget.spend? with
  | none => .error (.syntaxBudgetExhausted r.budget.count)
  | some budget => .ok { r with budget }

/-- The repaired specification, if the model replied with one. -/
def conclude : Except String String → Except Fault Specification
  | .error e => .error (.llm e)
  | .ok reply => Specification.extract reply

/-- What one attempt comes to: the reply, if the model was asked, and the result. -/
structure Attempt where
  after : SyntaxRepair
  reply : Option (Except String String)
  result : Except Fault Specification

/-- One attempt at a specification. `ask` gives the model's reply to a request. -/
def attempt {m : Type → Type} [Monad m] (r : SyntaxRepair)
    (ask : List Message → m (Except String String)) (spec : Specification) : m Attempt :=
  match r.begin with
  | .error fault => return ⟨r, none, .error fault⟩
  | .ok after => do
    let reply ← ask (request r.instructions spec)
    return ⟨after, some reply, conclude reply⟩

end SyntaxRepair
end Sortie
