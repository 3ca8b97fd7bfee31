import Dialogue.Command
import Dialogue.Token.Lexer

/-!
# Scanning commands

A scanner reads the commands of a source one after the other and stops for good at the first end
or error.

## Main definitions

* `Scanner σ`: a source of tokens, the last command, and how the scan has stopped
* `Scanner.scan`: moves to the next command
* `Scanner.next?`: the next command or, once, the error that stopped the scan
* `scanAll source`: all commands, the error after them, and the source where it stopped
* `tokensOf text`, `commandsOf text`: the tokens and the commands of a text, and the error after
  them
-/

namespace Dialogue

open TokenSource

/-- A scan in progress. -/
structure Scanner (σ : Type) where
  source : σ
  command : Option Command := none
  error : Option ParseError := none
  finished : Bool := false
  reported : Bool := false

namespace Scanner

variable {σ : Type} [TokenSource σ]

/-- Moves to the next command. `false` means that there is none; the scan then never goes on. -/
def scan (scanner : Scanner σ) : Bool × Scanner σ :=
  if scanner.finished then (false, scanner) else
  match Command.parse scanner.source with
  | (.command command, source) => (true, { scanner with source, command := some command })
  | (.finished, source) => (false, { scanner with source, command := none, finished := true })
  | (.failed error, source) =>
    (false, { scanner with source, command := none, error := some error, finished := true })

/-- The next command or, once, the error that stopped the scan; nothing after that. -/
def next? (scanner : Scanner σ) : Option (Except ParseError Command) × Scanner σ :=
  match scanner.scan with
  | (true, moved) => (moved.command.map .ok, { moved with command := none })
  | (false, stopped) =>
    match stopped.error with
    | some error =>
      if stopped.reported then (none, stopped)
      else (some (.error error), { stopped with reported := true })
    | none => (none, stopped)

end Scanner

/-- The commands of a source, the error after them, and the source where the scan stopped. -/
def scanAll {σ : Type} [TokenSource σ] (source : σ) : List Command × Option ParseError × σ :=
  match _hparsed : Command.parse source with
  | (.command command, moved) =>
    let (commands, stop) := scanAll moved
    (command :: commands, stop)
  | (.finished, stopped) => ([], none, stopped)
  | (.failed error, stopped) => ([], some error, stopped)
termination_by remaining source
decreasing_by exact Command.remaining_parse _hparsed

/-- The tokens of a text, and the error after them. -/
def tokensOf (text : String) : List Token × Option LexError :=
  let (tokens, stopped) := drain (Lexer.ofText text)
  (tokens, stopped.error)

/-- The commands of a text, and the error after them. -/
def commandsOf (text : String) : List Command × Option ParseError :=
  let (commands, error, _) := scanAll (Lexer.ofText text)
  (commands, error)

end Dialogue
