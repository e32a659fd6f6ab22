import Sortie.Budget
import Sortie.Conversation
import Sortie.Occupancy
import Sortie.Specification
/-!
# Judging trajectories

The model is asked whether a trajectory does what the user meant. It is sent the
conversation without the opening instructions and without the last reply, between
instructions of its own and the occupancy in words. A judge that is switched off, or has no
attempts left, accepts unasked.
-/

namespace Sortie

/-- What a judge says about a trajectory. -/
inductive Judgement where
  | accepted
  | rejected (reply : String)
  /-- The judge was not asked. -/
  | skipped
  deriving Repr, BEq, DecidableEq, Inhabited

/-- The instructions for judging, whether to judge at all, and the attempts made. -/
structure Judge where
  instructions : String
  enabled : Bool
  budget : Budget
  deriving Repr, DecidableEq

namespace Judge

/-- A judge with a fresh budget. -/
def new (instructions : String) (limit : Nat) : Judge :=
  ⟨instructions, true, .ofLimit limit⟩

/-- A judge that is never asked. -/
def disabled : Judge :=
  ⟨"", false, .ofLimit 0⟩

/-- The request to judge a trajectory after the messages `history`. -/
def request (instructions : String) (history : List Message) (o : Occupancy) : List Message :=
  .system instructions :: (history ++ [.system o.evidence])

/-- What is printed of a reply. -/
def note (reply : String) : String :=
  "Specification checker: " ++ reply

/-- Counts one more attempt, if the judge is to be asked. -/
def begin? (j : Judge) : Option Judge :=
  if j.enabled then j.budget.spend?.map fun budget => { j with budget } else none

/-- The judgement in a reply; a reply that does not accept rejects. -/
def read (reply : String) : Judgement :=
  if readVerdict? reply = some true then .accepted else .rejected reply

/-- The judgement, if the model replied. -/
def conclude : Except String String → Except Fault Judgement
  | .error e => .error (.llm e)
  | .ok reply => .ok (read reply)

/-- What judging once comes to: the reply, if the model was asked, and the result. -/
structure Hearing where
  after : Judge
  reply : Option (Except String String)
  result : Except Fault Judgement

/-- Judges one trajectory. `ask` gives the model's reply to a request. -/
def evaluate {m : Type → Type} [Monad m] (j : Judge)
    (ask : List Message → m (Except String String)) (history : List Message) (o : Occupancy) :
    m Hearing :=
  match j.begin? with
  | none => return ⟨j, none, .ok .skipped⟩
  | some after => do
    let reply ← ask (request j.instructions history o)
    return ⟨after, some reply, conclude reply⟩

end Judge
end Sortie
