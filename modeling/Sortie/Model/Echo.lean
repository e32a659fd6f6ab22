import Sortie.Conversation
import Sortie.Specification
import Sortie.Text.Search
/-!
# A model for dry runs

The echo takes the user's words for the specification, and accepts every
trajectory. It needs no network.
-/

namespace Sortie.Echo

/-- What every account of an occupancy says. -/
def evidenceMark : String := "The drone is"

/-- How the echo accepts a trajectory. -/
def acceptance : String := "Mock checker: nothing to object. " ++ acceptedToken

/-- The last message is an account of an occupancy. -/
def isJudgement (messages : List Message) : Bool :=
  match messages.getLast? with
  | some m => m.role == .system && Text.contains m.content evidenceMark
  | none => false

def reply (messages : List Message) : String :=
  if isJudgement messages then acceptance
  else "Echo from Mock: <" ++ (lastSaid? .user messages).getD "(no input)" ++ ">"

end Sortie.Echo
