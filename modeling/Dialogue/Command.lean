import Dialogue.Token.Source

/-!
# Commands

A command selects a model or adds a turn to the conversation. It is read from two tokens, a
keyword and its companion.

## Main definitions

* `Command`: a selection of a model or a turn
* `ParseError`: why tokens stop being a stream of commands
* `Command.parse source`: reads the next command
-/

namespace Dialogue

/-- One turn of a conversation. -/
structure Turn where
  role : Role
  message : String
  deriving DecidableEq, Repr

/-- The commands of a chatfile. -/
inductive Command where
  /-- Selects the model. -/
  | selectModel (name : String)
  /-- Adds a turn to the conversation. -/
  | say (turn : Turn)
  deriving DecidableEq, Repr

namespace Command

/-- The name under which a command is shown. -/
def heading : Command → String
  | .selectModel _ => "FROM"
  | .say _ => "PROMPT"

/-- The command on one line: a model name as it is, a message quoted after its role. -/
def render : Command → String
  | .selectModel name => "FROM: " ++ name
  | .say turn => "PROMPT: " ++ turn.role.heading ++ " " ++ Text.quote turn.message

end Command

namespace Keyword

/-- The kind of token that completes the keyword. -/
def companion : Keyword → Token.Kind
  | .selectModel => .model
  | .speak _ => .prompt

/-- The command that the keyword makes of the content of its companion. -/
def command (keyword : Keyword) (content : String) : Command :=
  match keyword with
  | .selectModel => .selectModel content
  | .speak role => .say ⟨role, content⟩

end Keyword

/-- Why tokens stop being a stream of commands. -/
inductive ParseError where
  /-- The source of the tokens stopped on an error. -/
  | lexical (error : LexError)
  /-- The tokens end after a keyword. -/
  | incomplete (keyword : Keyword)
  /-- A token that opens no command stands where one should start. -/
  | expectedCommand (found : Token)
  /-- A keyword is followed by a token that does not complete it. No chatfile leads here, only
  tokens that were put together in another way. -/
  | mispaired (expected found : Token.Kind)
  deriving DecidableEq, Repr

namespace ParseError

/-- The text of the error. -/
def message : ParseError → String
  | .lexical error => s!"Lexing error: {error.message}"
  | .incomplete keyword => s!"failed to parse command {keyword.word}: input ended"
  | .expectedCommand found =>
    s!"expected a command keyword, found {found.kind.heading} at {found.position.render}"
  | .mispaired expected found =>
    s!"invalid parsing state: expected {expected.heading}, found {found.heading}"

/-- The error behind the error. -/
def cause? : ParseError → Option LexError
  | .lexical error => some error
  | _ => none

end ParseError

/-- What an attempt to read a command gives. -/
inductive Parsed where
  | command (command : Command)
  /-- The tokens ended before a command started. -/
  | finished
  | failed (error : ParseError)
  deriving DecidableEq, Repr

namespace Command

open TokenSource

variable {σ : Type} [TokenSource σ]

/-- An error of the source goes before one that is found in its tokens. -/
def pendingOr (source : σ) (fallback : ParseError) : ParseError :=
  match error source with
  | some failure => .lexical failure
  | none => fallback

/-- Reads the companion of a keyword. -/
def parseCompanion (keyword : Keyword) (source : σ) : Parsed × σ :=
  match advance source with
  | (false, stopped) => (.failed (pendingOr stopped (.incomplete keyword)), stopped)
  | (true, moved) =>
    if (current moved).kind = keyword.companion then
      (.command (keyword.command (current moved).content), moved)
    else (.failed (.mispaired keyword.companion (current moved).kind), moved)

/-- Reads the next command. -/
def parse (source : σ) : Parsed × σ :=
  match advance source with
  | (false, stopped) =>
    match error stopped with
    | some failure => (.failed (.lexical failure), stopped)
    | none => (.finished, stopped)
  | (true, moved) =>
    match (current moved).kind with
    | .keyword keyword => parseCompanion keyword moved
    | _ => (.failed (pendingOr moved (.expectedCommand (current moved))), moved)

/-- A companion takes up some of the tokens. -/
theorem remaining_parseCompanion {keyword : Keyword} {source moved : σ} {command : Command}
    (hparsed : parseCompanion keyword source = (.command command, moved)) :
    remaining moved < remaining source := by
  have hprogress := remaining_advance source
  unfold parseCompanion at hparsed
  split at hparsed
  · simp at hparsed
  · rename_i next hfound
    split at hparsed
    · simp only [hfound, Prod.mk.injEq] at hprogress hparsed
      exact hparsed.2 ▸ hprogress trivial
    · simp at hparsed

/-- A command takes up some of the tokens. -/
theorem remaining_parse {source moved : σ} {command : Command}
    (hparsed : parse source = (.command command, moved)) :
    remaining moved < remaining source := by
  have hprogress := remaining_advance source
  unfold parse at hparsed
  split at hparsed
  · split at hparsed <;> simp at hparsed
  · rename_i next hfound
    split at hparsed
    · simp only [hfound] at hprogress
      exact Nat.lt_trans (remaining_parseCompanion hparsed) (hprogress trivial)
    · simp at hparsed

end Command

end Dialogue
