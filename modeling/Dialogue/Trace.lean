import Dialogue.Wire

/-!
# Traces

Everything that a source of tokens or a scan of commands gives, and how it stopped, shown line by
line or as JSON.

## Main definitions

* `TraceFormat`: lines or JSON
* `TokenTrace`, `CommandTrace`: what was given, and the stop
* `TokenTrace.collect`, `CommandTrace.collect`: the trace of a source
* `TokenTrace.render`, `CommandTrace.render`: the trace as text
-/

namespace Dialogue

/-- How a trace is shown. -/
inductive TraceFormat where
  | simple
  | json
  deriving DecidableEq, Repr

/-- A format that is neither of the two. -/
structure InvalidFormat where
  name : String
  deriving DecidableEq, Repr

/-- The text of the error. -/
def InvalidFormat.message (error : InvalidFormat) : String :=
  s!"unknown format '{error.name}' (expected 'simple' or 'json')"

/-- The format with exactly this name. -/
def TraceFormat.ofName (name : String) : Except InvalidFormat TraceFormat :=
  if name = "simple" then .ok .simple
  else if name = "json" then .ok .json
  else .error ⟨name⟩

/-- A text on a line of its own. -/
def line (text : String) : String := text ++ "\n"

/-- Texts on lines of their own. -/
def lines (texts : List String) : String := String.join (texts.map line)

/-- The tokens of a source, the error on which it stopped, and its token there. -/
structure TokenTrace where
  tokens : List Token
  error : Option LexError
  last : Token
  deriving DecidableEq, Repr

namespace TokenTrace

/-- The trace of a source up to its next stop. -/
def collect {σ : Type} [TokenSource σ] (source : σ) : TokenTrace :=
  let (tokens, stopped) := TokenSource.drain source
  ⟨tokens, TokenSource.error stopped, TokenSource.current stopped⟩

/-- A line for each token, an empty line, a line for the error if there is one, and a line for the
last token. -/
def renderSimple (trace : TokenTrace) : String :=
  lines (trace.tokens.map Token.render) ++ line "" ++
    lines (trace.error.toList.map LexError.message) ++ line trace.last.render

/-- The trace as JSON. -/
def toJson (trace : TokenTrace) : Json :=
  .record [("tokens", .array (trace.tokens.map Wire.toJson)),
    ("error", .orNull (trace.error.map fun error => .text error.message)),
    ("last", Wire.toJson trace.last)]

/-- The trace in the given format. -/
def render (trace : TokenTrace) : TraceFormat → String
  | .simple => trace.renderSimple
  | .json => trace.toJson.render .pretty

end TokenTrace

/-- The commands of a source, the error on which the scan stopped, and the token there. -/
structure CommandTrace where
  commands : List Command
  error : Option ParseError
  stoppedAt : Option Token
  deriving DecidableEq, Repr

namespace CommandTrace

/-- The trace of a scan. -/
def collect {σ : Type} [TokenSource σ] (source : σ) : CommandTrace :=
  let (commands, error, stopped) := scanAll source
  ⟨commands, error, error.map fun _ => TokenSource.current stopped⟩

/-- A line for each command and, if there is an error, an empty line, a line for the error and a
line for the token. -/
def renderSimple (trace : CommandTrace) : String :=
  lines (trace.commands.map Command.render) ++
    match trace.error with
    | some error =>
      line "" ++ line error.message ++ lines (trace.stoppedAt.toList.map Token.render)
    | none => ""

/-- The trace as JSON. -/
def toJson (trace : CommandTrace) : Json :=
  .record [("commands", .array (trace.commands.map Wire.toJson)),
    ("error", .orNull (trace.error.map fun error => .text error.message)),
    ("stopped_at", .orNull (trace.stoppedAt.map Wire.toJson))]

/-- The trace in the given format. -/
def render (trace : CommandTrace) : TraceFormat → String
  | .simple => trace.renderSimple
  | .json => trace.toJson.render .pretty

end CommandTrace

end Dialogue
