import Dialogue.CommandLine.Arguments
import Dialogue.Registry
import Dialogue.Settings

/-!
# The program

What the command line prints and how it ends, as a function of the files and the arguments. The
settings are loaded before the chatfile is opened.

## Main definitions

* `Outcome`: what is printed, and how the program ends
* `run files arguments`: the outcome of the program
-/

namespace Dialogue.CommandLine

/-- Why a command fails. -/
inductive Failure where
  | settings (error : SettingsError)
  | opening (path : String) (error : OpenError)
  | loading (error : LoadError)
  | assignment (error : AssignmentError)
  | substitution (error : SubstitutionError)
  | request (error : RequestError)
  deriving DecidableEq, Repr

/-- The text of a failure of the settings, without its cause. -/
def settingsMessage : String := "loading configuration:"

/-- The text of the failure. -/
def Failure.message : Failure → String
  | .settings error => settingsMessage ++ " " ++ error.message
  | .opening path error => s!"opening '{path}': {error.message}"
  | .loading error => error.message
  | .assignment error => error.message
  | .substitution error => error.message
  | .request error => error.message

/-- What is printed, and how the program ends. -/
inductive Outcome where
  | done (output : String)
  /-- The trace is printed in full, but it ends in an error. -/
  | stopped (output : String)
  | failed (failure : Failure)
  | misused (error : UsageError)
  /-- The program breaks off while it loads the settings. -/
  | broken (error : PlaceError)

namespace Outcome

/-- The exit code. -/
def code : Outcome → Nat
  | .done _ => 0
  | .stopped _ => 1
  | .failed _ => 1
  | .misused _ => 2
  | .broken _ => 101

/-- What goes to the standard output. -/
def output : Outcome → String
  | .done output => output
  | .stopped output => output
  | .failed _ => ""
  | .misused _ => ""
  | .broken _ => ""

/-- What goes to the standard error. -/
def errorOutput : Outcome → String
  | .failed failure => line ("Error: " ++ failure.message)
  | .misused error => line ("error: " ++ error.message)
  | .broken error => line error.message
  | _ => ""

end Outcome

/-- The answer to a question for the version. -/
def versionText : String := line "chatfile 0.1.0"

/-- The answer to a question for help. -/
def helpText : String := lines [
  "A tool for inspecting chatfiles and building chat requests from them",
  "",
  "Usage: chatfile [OPTIONS] <COMMAND>",
  "",
  "Commands:",
  "  tokens    Print every token of a chatfile",
  "  commands  Print every command of a chatfile",
  "  dump      Print the model and history a chatfile compiles to",
  "  request   Print the chat-completion request body for a chatfile",
  "  help      Print this message or the help of the given subcommand(s)",
  "",
  "Options:",
  "  -c, --config <config>  Configuration file layered over the defaults and ./chatfile.toml",
  "  -v, --verbose          Log debug output to stderr unless CHATFILE_LOG is set",
  "  -h, --help             Print help",
  "  -V, --version          Print version"]

/-- The layers of settings that an invocation asks for: the file of the working directory, the
configuration file, and the options that stand for settings. -/
def Invocation.layers (invocation : Invocation) : List Layer :=
  let choices := invocation.choices
  [Layer.localFile] ++ (choices.config.map Layer.file).toList ++
    (choices.seed.map fun seed => Layer.override "request.seed" (.integer seed)).toList ++
    (choices.temperature.map fun temperature =>
      Layer.override "request.temperature" (.float temperature)).toList

/-- A text that ends its last line. -/
def withNewline (text : String) : String :=
  if text.toList.getLast? = some '\n' then text else line text

/-- Opens a chatfile for a trace. -/
def openForTrace (files : FileSystem) (path : String) : Except Failure (List Delivery) :=
  (files path).deliveries.mapError (.opening path)

/-- Prints a trace. -/
def printTrace (text : String) (failed : Bool) : Outcome :=
  if failed then .stopped (withNewline text) else .done (withNewline text)

/-- The trace of the tokens of a chatfile. -/
def runTokens (files : FileSystem) (path : String) (format : TraceFormat) : Outcome :=
  match openForTrace files path with
  | .error failure => .failed failure
  | .ok deliveries =>
    let trace := TokenTrace.collect (Lexer.ofDeliveries deliveries)
    printTrace (trace.render format) trace.error.isSome

/-- The trace of the commands of a chatfile. -/
def runCommands (files : FileSystem) (path : String) (format : TraceFormat) : Outcome :=
  match openForTrace files path with
  | .error failure => .failed failure
  | .ok deliveries =>
    let trace := CommandTrace.collect (Lexer.ofDeliveries deliveries)
    printTrace (trace.render format) trace.error.isSome

/-- The conversation of a chatfile. -/
def runDump (files : FileSystem) (path : String) : Outcome :=
  match Conversation.ofFile files path with
  | .error error => .failed (.loading error)
  | .ok conversation => .done conversation.summary

/-- The chatfiles registered by the settings and by assignments on the command line, which come
later and so win. -/
def registryOf (files : FileSystem) (models : List ModelEntry) (assignments : List String) :
    Except AssignmentError Registry :=
  match assignments.mapM parseAssignment with
  | .error error => .error error
  | .ok assigned =>
    .ok (.files files (models.map (fun entry => (entry.name, entry.path)) ++ assigned))

/-- The request that a chatfile asks for. -/
def requestOf (files : FileSystem) (path : String) (settings : Settings)
    (assignments : List String) : Except Failure Request :=
  match Conversation.ofFile files path with
  | .error error => .error (.loading error)
  | .ok conversation =>
    match registryOf files settings.models assignments with
    | .error error => .error (.assignment error)
    | .ok registry =>
      match conversation.substitute registry with
      | (.error error, _) => .error (.substitution error)
      | (.ok _, complete) =>
        (Request.ofConversation complete settings.sampling).mapError .request

/-- The body of the request that a chatfile asks for. -/
def runRequest (files : FileSystem) (path : String) (settings : Settings)
    (assignments : List String) : Outcome :=
  match requestOf files path settings assignments with
  | .error failure => .failed failure
  | .ok request => .done (line (Wire.encode .pretty request))

/-- The outcome of an invocation. -/
def Invocation.run (files : FileSystem) (invocation : Invocation) : Outcome :=
  match Settings.load files invocation.layers with
  | .error (.misplaced error) => .broken error
  | .error error => .failed (.settings error)
  | .ok settings =>
    let format := invocation.choices.format.getD settings.format
    match invocation.verb with
    | .tokens => runTokens files invocation.path format
    | .commands => runCommands files invocation.path format
    | .dump => runDump files invocation.path
    | .request => runRequest files invocation.path settings invocation.choices.assignments

/-- The outcome of the program. -/
def run (files : FileSystem) (arguments : List String) : Outcome :=
  match Invocation.ofArguments arguments with
  | .error (.misused error) => .misused error
  | .error .help => .done helpText
  | .error .version => .done versionText
  | .ok invocation => invocation.run files

end Dialogue.CommandLine
