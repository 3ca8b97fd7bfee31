import Dialogue.Input.Signal
import Dialogue.Text.Quoted

/-!
# Tokens

A chatfile is a sequence of commands, and a command is a keyword and its companion: `FROM` and
the name of a model, or `SYSTEM`, `ASK` or `ANSWER` and a prompt. Each of the two is one token,
with the position of its first character.

## Main definitions

* `Role`: who speaks
* `Keyword`: what opens a command
* `Token`: a keyword, a model name, a prompt, or one of two tokens that only end a stream
* `LexError`: why a text stops being a stream of tokens
-/

namespace Dialogue

/-- Who speaks in a conversation. -/
inductive Role where
  | system
  | user
  | assistant
  deriving DecidableEq, Repr

/-- The role as it heads a turn. -/
def Role.heading : Role → String
  | .system => "SYSTEM"
  | .user => "USER"
  | .assistant => "ASSISTANT"

/-- The words that open a command. -/
inductive Keyword where
  /-- Selects the model. -/
  | selectModel
  /-- Lets a role speak. -/
  | speak (role : Role)
  deriving DecidableEq, Repr

namespace Keyword

/-- The keyword as it is written in upper case. -/
def word : Keyword → String
  | .selectModel => "FROM"
  | .speak .system => "SYSTEM"
  | .speak .user => "ASK"
  | .speak .assistant => "ANSWER"

/-- All keywords. -/
def all : List Keyword :=
  [.selectModel, .speak .system, .speak .user, .speak .assistant]

/-- The keyword written by exactly this word. -/
def ofWord? (word : String) : Option Keyword :=
  all.find? fun keyword => keyword.word == word

end Keyword

/-- A place in a text: line and column, both from 1. -/
structure Position where
  line : Nat
  column : Nat
  deriving DecidableEq, Repr

namespace Position

/-- Where a text starts. -/
def start : Position := ⟨1, 1⟩

/-- The place after a character: a line feed starts a new line, any other character takes one
column. -/
def step (position : Position) (c : Char) : Position :=
  if c = '\n' then ⟨position.line + 1, 1⟩ else ⟨position.line, position.column + 1⟩

/-- The place after some characters. -/
def after (position : Position) (taken : List Char) : Position :=
  taken.foldl step position

/-- The place as `line:column`. -/
def render (position : Position) : String :=
  s!"{position.line}:{position.column}"

end Position

/-- The kinds of tokens. -/
inductive Token.Kind where
  | endOfInput
  | unknown
  | keyword (opener : Keyword)
  | model
  | prompt
  deriving DecidableEq, Repr

namespace Token.Kind

/-- The kind as it is shown. -/
def heading : Token.Kind → String
  | .endOfInput => "<EOF>"
  | .unknown => "<UNKNOWN>"
  | .keyword opener => opener.word
  | .model => "MODEL"
  | .prompt => "PROMPT"

/-- The kinds that open a command. -/
def isKeyword : Token.Kind → Bool
  | .keyword _ => true
  | _ => false

/-- The kinds that open a command with a prompt. -/
def isPromptKeyword : Token.Kind → Bool
  | .keyword (.speak _) => true
  | _ => false

end Token.Kind

/-- A token and the position of its first character. -/
structure Token where
  kind : Token.Kind
  content : String
  position : Position
  deriving DecidableEq, Repr

namespace Token

/-- The token that stands for the end of the input. -/
def endOfInput (position : Position) : Token :=
  ⟨.endOfInput, "", position⟩

/-- The token that stands for a text that is none. -/
def unknown (word : String) (position : Position) : Token :=
  ⟨.unknown, word, position⟩

/-- The token on one line: its kind, its quoted content and its position, in braces. -/
def render (token : Token) : String :=
  "\x7b" ++ token.kind.heading ++ " " ++ Text.quote token.content ++ " " ++
    token.position.render ++ "\x7d"

end Token

/-- Why a text stops being a stream of tokens. -/
inductive LexError where
  /-- A word that is no keyword stands where a command should start. -/
  | unknownToken (word : String) (position : Position)
  /-- The input ends before a block has any content. -/
  | unexpectedEnd (position : Position)
  /-- A prompt does not start on the line of its keyword, or has no content. -/
  | expectedPrompt (position : Position)
  /-- A model name does not stand on the line of its keyword. -/
  | expectedModel (position : Position)
  /-- The source could not be read. -/
  | unreadable (error : ReadError)
  deriving DecidableEq, Repr

namespace LexError

/-- The text of the error. -/
def message : LexError → String
  | .unknownToken word position => s!"unknown token `{word}` at {position.render}"
  | .unexpectedEnd position => s!"unexpected end of input at {position.render}"
  | .expectedPrompt position =>
    s!"prompt must be on the same line as SYSTEM/ASK/ANSWER ({position.render})"
  | .expectedModel position => s!"model name must be on the same line as FROM ({position.render})"
  | .unreadable error => s!"failed to read input: {error.message}"

/-- Where the error is; a failed read is nowhere in the text. -/
def position? : LexError → Option Position
  | .unknownToken _ position => some position
  | .unexpectedEnd position => some position
  | .expectedPrompt position => some position
  | .expectedModel position => some position
  | .unreadable _ => none

/-- The token at which a stream stops on the error, if it was looking for a token from `start`
on. -/
def stopToken (error : LexError) (start : Position) : Token :=
  match error with
  | .unknownToken word _ => .unknown word start
  | .unexpectedEnd position => .endOfInput position
  | _ => .unknown "" start

end LexError

end Dialogue
