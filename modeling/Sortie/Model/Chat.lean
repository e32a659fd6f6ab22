import Sortie.Conversation
import Sortie.Json.Number
import Sortie.Model.Usage
import Sortie.Text.Utf8
/-!
# Models behind a chat interface

A model is asked with one request that carries the whole conversation, and replies with
one message. Here stands what the request says and what each answer to it means; sending
it is left to whoever can.
-/

namespace Sortie

/-- How to ask a model: where, which one, on whose account, how freely it may reply, and
how many seconds it may take. -/
structure ChatClient where
  base : String
  model : String
  key : String
  temperature : Float32 := 0.3
  timeout : Option Nat := none

/-- A request as it is sent. -/
structure ChatRequest where
  address : String
  authorization : String
  body : String
  deriving Repr, BEq, Inhabited

/-- What becomes of a request. -/
inductive Exchange where
  /-- It did not reach its address. -/
  | unreachable (detail : String)
  /-- There was no answer in time. -/
  | overran
  | answered (status : Nat) (body : List UInt8)
  deriving Repr, BEq, Inhabited

/-- A reply, and the tokens of the request and of the reply if they are known. -/
structure ChatReply where
  text : String
  tokens : Option (Nat × Nat)
  deriving Repr, BEq, Inhabited

/-- How a role is named in a request. -/
def Role.chatName : Role → String
  | user => "user"
  | assistant => "assistant"
  | system => "system"

namespace ChatClient

def messageJson (m : Message) : Json :=
  .record [("role", .text m.role.chatName), ("content", .text m.content)]

/-- The request for a reply to some messages. -/
def request (c : ChatClient) (messages : List Message) : ChatRequest :=
  { address := c.base ++ "/chat/completions"
    authorization := "Bearer " ++ c.key
    body := Json.render <| .record [("messages", .array (messages.map messageJson)),
      ("model", .text c.model), ("temperature", .real32 c.temperature)] }

/-- A client that gives up after so many seconds, or with `0` never does. -/
def withTimeout (c : ChatClient) (seconds : Nat) : ChatClient :=
  { c with timeout := if 0 < seconds then some seconds else none }

/-! ## Reading answers -/

/-- A field that may be missing or `null`. -/
def optional? {α : Type} (read : Json → Option α) : Option Json → Option (Option α)
  | none | some .null => some none
  | some j => (read j).map some

/-- A natural number of 32 bits. -/
def word? (j : Json) : Option Nat :=
  j.asNat? Decimal.most32

/-- The text of one of the replies to choose from. -/
def choice? (j : Json) : Option String := do
  let _ ← word? (← j.field? "index")
  let message ← j.field? "message"
  let role ← (← message.field? "role").asText?
  if ["system", "user", "assistant", "tool", "function"].contains role then
    return (← optional? Json.asText? (message.field? "content")).getD ""
  else none

/-- The tokens of a request and of its reply. -/
def tokens? (j : Json) : Option (Nat × Nat) := do
  let prompt ← word? (← j.field? "prompt_tokens")
  let completion ← word? (← j.field? "completion_tokens")
  let _ ← word? (← j.field? "total_tokens")
  return (prompt, completion)

/-- The reply in an answer: the first one to choose from, or an empty one. -/
def reply? (j : Json) : Option ChatReply := do
  let _ ← (← j.field? "id").asText?
  let _ ← word? (← j.field? "created")
  let _ ← (← j.field? "model").asText?
  let _ ← (← j.field? "object").asText?
  let choices ← (← (← j.field? "choices").asArray?).mapM choice?
  return { text := choices.headD "", tokens := ← optional? tokens? (j.field? "usage") }

/-- Why a request was turned down: a kind, a message, a parameter and a
code, where given. -/
def refusal? (j : Json) : Option String := do
  let e ← j.field? "error"
  let message ← (← e.field? "message").asText?
  let kind ← optional? Json.asText? (e.field? "type")
  let param ← optional? Json.asText? (e.field? "param")
  let code ← optional? Json.asText? (e.field? "code")
  return String.join [
    match kind with
    | some kind => kind ++ ": "
    | none => "",
    message,
    match param with
    | some param => " (param: " ++ param ++ ")"
    | none => "",
    match code with
    | some code => " (code: " ++ code ++ ")"
    | none => ""]

/-- What is said about an answer that cannot be read. -/
def unreadable (body : String) : String :=
  "failed to deserialize api response: " ++ body

/-- What becomes of a request, as a reply or as a fault. -/
def conclude (c : ChatClient) : Exchange → Except String ChatReply
  | .unreachable detail => .error ("http error: " ++ detail)
  | .overran =>
    .error ("LLM request timed out after " ++ Decimal.digits (c.timeout.getD 0) ++ "s")
  | .answered status body =>
    let text := Text.Utf8.decodeLossy body
    let read := if 200 ≤ status ∧ status < 300 then
        ((Json.read? text).bind reply?).map .ok
      else ((Json.read? text).bind refusal?).map .error
    read.getD (.error (unreadable text))

end ChatClient
end Sortie
