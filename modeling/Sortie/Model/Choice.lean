import Sortie.Environment
import Sortie.Model.Chat
import Sortie.Model.Echo
import Sortie.Settings.Basic
import Sortie.Text.Case
/-!
# Choosing a model

Which model a session talks to depends on the settings and on the keys in the environment.
Without a key for the wanted provider it is the echo.
-/

namespace Sortie

inductive Model where
  | echo
  | chat (client : ChatClient)

namespace ChatClient

/-- The key where there is none. -/
def placeholderKey : String := "sk-placeholder"

/-- The variable with the key for the first provider. -/
def openAiKey : String := "OPENAI_API_KEY"

/-- The variable with the key for the second provider. -/
def deepSeekKey : String := "DEEPSEEK_API_KEY"

/-- A client of the first provider, or of another one at `base?` with
the same interface. -/
def openAi (env : Environment) (base? : Option String) (model : String) (key? : Option String) :
    ChatClient :=
  { base := base?.getD "https://api.openai.com/v1"
    model
    key := (key? <|> env.lookup openAiKey).getD placeholderKey }

/-- The usual model of the second provider. -/
def deepSeekChat : String := "deepseek-chat"

/-- The model of the second provider for a wanted one, which need not be its own. -/
def deepSeekModel (wanted : String) : String :=
  if "deepseek".toList.isPrefixOf wanted.toList then wanted else deepSeekChat

/-- A client of the second provider. -/
def deepSeek (env : Environment) (model? : Option String) : ChatClient :=
  { base := "https://api.deepseek.com"
    model := (model? <|> env.lookup "DEEPSEEK_MODEL").getD deepSeekChat
    key := (env.lookup deepSeekKey <|> env.lookup openAiKey).getD placeholderKey }

end ChatClient

namespace Model

/-- The model for some settings. The second provider is chosen by name, or if only its key
is there; the first one is chosen by its key under any other name. -/
def choose (s : Settings) (env : Environment) : Model :=
  let hasFirst := (env.lookup ChatClient.openAiKey).isSome
  let hasSecond := (env.lookup ChatClient.deepSeekKey).isSome
  let named := Text.readsAs "deepseek" s.provider
  let client? :=
    if Text.readsAs "mock" s.provider then none
    else if hasSecond && (named || !hasFirst) then
      some (ChatClient.deepSeek env (some (ChatClient.deepSeekModel s.model)))
    else if hasFirst && !named then
      some (ChatClient.openAi env s.baseUrl s.model (env.lookup ChatClient.openAiKey))
    else none
  match client? with
  | none => .echo
  | some c => .chat ({ c with temperature := s.temperature }.withTimeout s.requestTimeout)

/-- The reply to some messages, and the tokens it took if they are known. `send` sends a
request; it knows after how many seconds to give up. -/
def reply {m : Type → Type} [Monad m] (send : ChatRequest → Option Nat → m Exchange)
    (messages : List Message) : Model → m (Except String ChatReply)
  | echo => return .ok { text := Echo.reply messages, tokens := none }
  | chat client => return client.conclude (← send (client.request messages) client.timeout)

end Model
end Sortie
