import Dialogue.Command.Scanner

/-!
# Conversations

What the commands of a chatfile add up to: the selected model and the turns in order. The turns
go to a sink, which may be any type that turns can be appended to; `Transcript` is the one that
the rest of the library uses.

## Main definitions

* `Sink η`: types that collect turns
* `Conversation η`: a model and a sink
* `Command.apply`: the effect of one command
* `Conversation.load`: applies all commands of a source
* `Conversation.ofText`: the conversation of a text
-/

namespace Dialogue

open TokenSource

/-- Types that collect turns in the order in which they come. -/
class Sink (η : Type) where
  empty : η
  append : η → Turn → η

/-- The turns of a conversation in order. -/
structure Transcript where
  turns : List Turn := []
  deriving DecidableEq, Repr

namespace Transcript

/-- The turns of `header`, then those of `transcript`. -/
def prepend (transcript header : Transcript) : Transcript :=
  ⟨header.turns ++ transcript.turns⟩

instance : Sink Transcript where
  empty := ⟨[]⟩
  append transcript turn := ⟨transcript.turns ++ [turn]⟩

end Transcript

instance : Sink (Array Turn) where
  empty := #[]
  append turns turn := turns.push turn

/-- A selected model, if any, and the turns so far. -/
structure Conversation (η : Type) where
  model : Option String
  history : η
  deriving DecidableEq, Repr

/-- No model and no turns. -/
def Conversation.empty {η : Type} [Sink η] : Conversation η :=
  ⟨none, Sink.empty⟩

/-- The effect of a command: a selection replaces the model, a turn is appended. -/
def Command.apply {η : Type} [Sink η] (command : Command) (conversation : Conversation η) :
    Conversation η :=
  match command with
  | .selectModel name => { conversation with model := some name }
  | .say turn => { conversation with history := Sink.append conversation.history turn }

namespace Conversation

variable {η : Type} [Sink η]

/-- Applies the commands of a source as they are read, and counts them on from `count`. Commands
before an error stay applied. -/
def loadFrom {σ : Type} [TokenSource σ] (source : σ) (count : Nat)
    (conversation : Conversation η) : Except ParseError Nat × Conversation η :=
  match _hparsed : Command.parse source with
  | (.command command, moved) => loadFrom moved (count + 1) (command.apply conversation)
  | (.finished, _) => (.ok count, conversation)
  | (.failed error, _) => (.error error, conversation)
termination_by remaining source
decreasing_by exact Command.remaining_parse _hparsed

/-- Applies the commands of a source of bytes. Gives their number, or the error on which the scan
stopped. -/
def load (deliveries : List Delivery) (conversation : Conversation η) :
    Except ParseError Nat × Conversation η :=
  loadFrom (Lexer.ofDeliveries deliveries) 0 conversation

/-- The conversation of a source of bytes. -/
def ofDeliveries (deliveries : List Delivery) : Except ParseError (Conversation Transcript) :=
  match load deliveries .empty with
  | (.ok _, conversation) => .ok conversation
  | (.error error, _) => .error error

/-- The conversation of a text. -/
def ofText (text : String) : Except ParseError (Conversation Transcript) :=
  match loadFrom (Lexer.ofText text) 0 .empty with
  | (.ok _, conversation) => .ok conversation
  | (.error error, _) => .error error

/-- One turn of a summary. A message of several lines starts on a line of its own. -/
def turnSummary (turn : Turn) : String :=
  if '\n' ∈ turn.message.toList then turn.role.heading ++ ":\n" ++ turn.message ++ "\n"
  else turn.role.heading ++ ": " ++ turn.message ++ "\n"

/-- The model, then the turns, each under its role. -/
def summary (conversation : Conversation Transcript) : String :=
  "Model: " ++ conversation.model.getD "" ++ "\n" ++
    String.join (conversation.history.turns.map turnSummary)

end Conversation

end Dialogue
