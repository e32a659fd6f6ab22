/-!
# Conversations

A conversation with the language model only ever grows at its end, and the model is
sent all of it each time.
-/

namespace Sortie

/-- Who says a message. -/
inductive Role where
  | user
  | assistant
  | system
  deriving Repr, BEq, DecidableEq, Inhabited

structure Message where
  role : Role
  content : String
  deriving Repr, BEq, DecidableEq, Inhabited

namespace Message

/-- What the operator says. -/
def user (content : String) : Message := ⟨.user, content⟩

/-- What the model replies. -/
def assistant (content : String) : Message := ⟨.assistant, content⟩

/-- What the model is instructed. -/
def system (content : String) : Message := ⟨.system, content⟩

end Message

/-- The last thing that a role says in a list of messages. -/
def lastSaid? (role : Role) (messages : List Message) : Option String :=
  (messages.reverse.find? (·.role == role)).map Message.content

/-- Messages, oldest first. -/
structure Conversation where
  messages : List Message
  deriving Repr, BEq, DecidableEq, Inhabited

namespace Conversation

/-- The conversation before anything is said. -/
def empty : Conversation := ⟨[]⟩

def isEmpty (c : Conversation) : Bool :=
  c.messages.isEmpty

/-- The conversation with one more message. -/
def push (c : Conversation) (m : Message) : Conversation :=
  ⟨c.messages ++ [m]⟩

def lastReply? (c : Conversation) : Option String :=
  lastSaid? .assistant c.messages

/-- All messages but the first and the last one. -/
def middle (c : Conversation) : List Message :=
  c.messages.tail.dropLast

@[simp] theorem messages_push (c : Conversation) (m : Message) :
    (c.push m).messages = c.messages ++ [m] := rfl

theorem lastReply?_push_assistant (c : Conversation) (reply : String) :
    (c.push (.assistant reply)).lastReply? = some reply := by
  have same : (Role.assistant == Role.assistant) = true := rfl
  simp [lastReply?, lastSaid?, Message.assistant, same]

end Conversation
end Sortie
