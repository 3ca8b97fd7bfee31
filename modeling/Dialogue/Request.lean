import Dialogue.Conversation

/-!
# Requests

The body of a chat-completion request: the model, the messages and the parameters of sampling.

## Main definitions

* `Sampling`: the parameters that a chatfile does not give
* `Request.ofConversation`: the request for a conversation
-/

namespace Dialogue

/-- Parameters of sampling, given outside of the chatfile. -/
structure Sampling where
  seed : Option Int64 := none
  temperature : Option Float := none
  /-- The answer is to be sent piece by piece. -/
  stream : Bool := true

/-- A message of a request. -/
structure Message where
  role : Role
  content : String
  deriving DecidableEq, Repr

/-- The message that a turn becomes. -/
def Message.ofTurn (turn : Turn) : Message :=
  ⟨turn.role, turn.message⟩

/-- The body of a request. -/
structure Request where
  model : String
  messages : List Message
  sampling : Sampling

/-- Why a conversation makes no request. -/
inductive RequestError where
  | missingModel
  deriving DecidableEq, Repr

/-- The text of the error. -/
def RequestError.message : RequestError → String
  | .missingModel => "no model selected: add a FROM command"

/-- The request for a conversation. -/
def Request.ofConversation (conversation : Conversation Transcript) (sampling : Sampling) :
    Except RequestError Request :=
  match conversation.model with
  | some model => .ok ⟨model, conversation.history.turns.map Message.ofTurn, sampling⟩
  | none => .error .missingModel

end Dialogue
