import Dialogue.Trace

/-!
# Arguments of the command line

`chatfile [options] COMMAND [options] PATH`. The options for configuration and logging may stand
before or after the command, the others after it. The value of a long option follows after an
equals sign or as the next argument, that of a short one directly, after an equals sign or as the
next argument. Two dashes end the options.

## Main definitions

* `Flag`: the options
* `Choices`: what the arguments of one level have set
* `Invocation`: what the program is asked to do
* `Invocation.ofArguments`: reads the arguments
-/

namespace Dialogue.CommandLine

/-- The options. -/
inductive Flag where
  | config
  | verbose
  | format
  | seed
  | temperature
  | loadAsModel
  | help
  | version
  deriving DecidableEq, Repr

namespace Flag

/-- The name of an option after two dashes. -/
def long : Flag → String
  | .config => "config"
  | .verbose => "verbose"
  | .format => "format"
  | .seed => "seed"
  | .temperature => "temperature"
  | .loadAsModel => "load-as-model"
  | .help => "help"
  | .version => "version"

/-- The letter of an option after one dash, if it has one. -/
def short? : Flag → Option Char
  | .config => some 'c'
  | .verbose => some 'v'
  | .format => some 'f'
  | .help => some 'h'
  | .version => some 'V'
  | _ => none

/-- The option is followed by a value. -/
def takesValue : Flag → Bool
  | .verbose => false
  | .help => false
  | .version => false
  | _ => true

end Flag

/-- The commands of the program. -/
inductive Verb where
  | tokens
  | commands
  | dump
  | request
  deriving DecidableEq, Repr

namespace Verb

/-- The name of a command. -/
def name : Verb → String
  | .tokens => "tokens"
  | .commands => "commands"
  | .dump => "dump"
  | .request => "request"

/-- All commands. -/
def all : List Verb := [.tokens, .commands, .dump, .request]

/-- The command with exactly this name. -/
def ofName? (name : String) : Option Verb :=
  all.find? fun verb => verb.name == name

/-- The options that may follow a command. -/
def flags : Verb → List Flag
  | .tokens => [.config, .verbose, .format, .help]
  | .commands => [.config, .verbose, .format, .help]
  | .dump => [.config, .verbose, .help]
  | .request => [.config, .verbose, .seed, .temperature, .loadAsModel, .help]

end Verb

/-- The options that may stand before the command. -/
def leadingFlags : List Flag := [.config, .verbose, .help, .version]

/-- What is wrong with the arguments. -/
inductive UsageError where
  | missingCommand
  | unknownCommand (name : String)
  | unknownOption (written : String)
  | missingValue (flag : Flag)
  | unexpectedValue (flag : Flag)
  | repeated (flag : Flag)
  | invalidValue (flag : Flag) (value : String)
  | missingPath
  | unexpectedArgument (argument : String)
  deriving DecidableEq, Repr

/-- The text of the error. -/
def UsageError.message : UsageError → String
  | .missingCommand => "a subcommand is required (tokens, commands, dump, request)"
  | .unknownCommand name => s!"unrecognized subcommand '{name}'"
  | .unknownOption written => s!"unexpected argument '{written}' found"
  | .missingValue flag => s!"a value is required for '--{flag.long}' but none was supplied"
  | .unexpectedValue flag => s!"unexpected value for '--{flag.long}'"
  | .repeated flag => s!"the argument '--{flag.long}' cannot be used multiple times"
  | .invalidValue flag value => s!"invalid value '{value}' for '--{flag.long}'"
  | .missingPath => "a chatfile path is required"
  | .unexpectedArgument argument => s!"unexpected argument '{argument}' found"

/-- Why reading arguments ends early: a mistake, or a question that is answered at once. -/
inductive Stop where
  | misused (error : UsageError)
  | help
  | version
  deriving DecidableEq, Repr

/-- What the arguments of one level have set. -/
structure Choices where
  config : Option String := none
  verbose : Bool := false
  format : Option TraceFormat := none
  seed : Option Int64 := none
  temperature : Option Float := none
  assignments : List String := []
  path : Option String := none

namespace Choices

/-- An option that has no value. -/
def raise (choices : Choices) : Flag → Except Stop Choices
  | .verbose =>
    if choices.verbose then .error (.misused (.repeated .verbose))
    else .ok { choices with verbose := true }
  | .help => .error .help
  | .version => .error .version
  | flag => .error (.misused (.missingValue flag))

/-- A value that is given at most once. -/
def once {α : Type} (flag : Flag) (old : Option α) (value : Option α) (written : String) :
    Except Stop α :=
  match old, value with
  | some _, _ => .error (.misused (.repeated flag))
  | none, some value => .ok value
  | none, none => .error (.misused (.invalidValue flag written))

/-- An option and its value. -/
def assign (choices : Choices) (flag : Flag) (value : String) : Except Stop Choices :=
  match flag with
  | .config =>
    (once flag choices.config (some value) value).map fun path =>
      { choices with config := some path }
  | .format =>
    (once flag choices.format (TraceFormat.ofName value).toOption value).map fun format =>
      { choices with format := some format }
  | .seed =>
    (once flag choices.seed (Decimal.int64OfText? value.toList) value).map fun seed =>
      { choices with seed := some seed }
  | .temperature =>
    (once flag choices.temperature (Decimal.floatOfText? value.toList) value).map
      fun temperature => { choices with temperature := some temperature }
  | .loadAsModel => .ok { choices with assignments := choices.assignments ++ [value] }
  | flag => .error (.misused (.unexpectedValue flag))

/-- An argument that is no option: the path. -/
def setPath (choices : Choices) (argument : String) : Except Stop Choices :=
  match choices.path with
  | none => .ok { choices with path := some argument }
  | some _ => .error (.misused (.unexpectedArgument argument))

end Choices

/-- The choices so far, and the option that waits for its value. -/
abbrev Progress := Except Stop (Choices × Option Flag)

/-- An option with two dashes, from after them. -/
def readLong (flags : List Flag) (choices : Choices) (written : List Char) : Progress :=
  let name := String.ofList (written.takeWhile (· != '='))
  match flags.find? fun flag => flag.long == name with
  | none => .error (.misused (.unknownOption ("--" ++ name)))
  | some flag =>
    match written.dropWhile (· != '='), flag.takesValue with
    | _ :: value, true =>
      (choices.assign flag (String.ofList value)).map fun choices => (choices, none)
    | _ :: _, false => .error (.misused (.unexpectedValue flag))
    | [], true => .ok (choices, some flag)
    | [], false => (choices.raise flag).map fun choices => (choices, none)

/-- Options with one dash, from after it: letters without values, and at most one with its value at
the end. -/
def readShort (flags : List Flag) (choices : Choices) : List Char → Progress
  | [] => .ok (choices, none)
  | c :: rest =>
    match flags.find? fun flag => flag.short? == some c with
    | none => .error (.misused (.unknownOption (String.ofList ['-', c])))
    | some flag =>
      if flag.takesValue then
        match rest with
        | [] => .ok (choices, some flag)
        | '=' :: value =>
          (choices.assign flag (String.ofList value)).map fun choices => (choices, none)
        | value => (choices.assign flag (String.ofList value)).map fun choices => (choices, none)
      else
        match choices.raise flag with
        | .ok choices => readShort flags choices rest
        | .error stop => .error stop

/-- The kinds of arguments. -/
inductive Argument where
  /-- Two dashes alone. -/
  | endOfOptions
  | long (written : List Char)
  | short (written : List Char)
  | plain

/-- Tells the kinds of arguments apart. A single dash is no option. -/
def Argument.kind (argument : String) : Argument :=
  match argument.toList with
  | ['-', '-'] => .endOfOptions
  | '-' :: '-' :: written => .long written
  | '-' :: c :: written => .short (c :: written)
  | _ => .plain

/-- Reads the arguments after the command. -/
def readRest (flags : List Flag) : Option Flag → Choices → List String → Except Stop Choices
  | none, choices, [] => .ok choices
  | some flag, _, [] => .error (.misused (.missingValue flag))
  | some flag, choices, argument :: rest =>
    match Argument.kind argument with
    | .plain =>
      match choices.assign flag argument with
      | .ok choices => readRest flags none choices rest
      | .error stop => .error stop
    | _ => .error (.misused (.missingValue flag))
  | none, choices, argument :: rest =>
    match Argument.kind argument with
    | .endOfOptions => rest.foldlM Choices.setPath choices
    | .long written =>
      match readLong flags choices written with
      | .ok (choices, pending) => readRest flags pending choices rest
      | .error stop => .error stop
    | .short written =>
      match readShort flags choices written with
      | .ok (choices, pending) => readRest flags pending choices rest
      | .error stop => .error stop
    | .plain =>
      match choices.setPath argument with
      | .ok choices => readRest flags none choices rest
      | .error stop => .error stop

/-- What the program is asked to do: a command, its path, and the options. -/
structure Invocation where
  verb : Verb
  path : String
  choices : Choices

/-- The invocation of a command by the choices before and after it. Of two configuration files the
one after the command counts. -/
def Invocation.ofChoices (verb : Verb) (before after : Choices) : Except Stop Invocation :=
  match after.path with
  | none => .error (.misused .missingPath)
  | some path =>
    let config := after.config.or before.config
    .ok ⟨verb, path, { after with config, verbose := before.verbose || after.verbose }⟩

/-- A question for help about commands. -/
def readHelp : List String → Stop
  | [] => .help
  | [topic] =>
    if topic = "help" || (Verb.ofName? topic).isSome then .help
    else .misused (.unknownCommand topic)
  | topic :: _ => .misused (.unknownCommand topic)

/-- Reads the arguments up to the command, and then the rest. -/
def readLeading : Option Flag → Choices → List String → Except Stop Invocation
  | none, _, [] => .error (.misused .missingCommand)
  | some flag, _, [] => .error (.misused (.missingValue flag))
  | some flag, choices, argument :: rest =>
    match Argument.kind argument with
    | .plain =>
      match choices.assign flag argument with
      | .ok choices => readLeading none choices rest
      | .error stop => .error stop
    | _ => .error (.misused (.missingValue flag))
  | none, choices, argument :: rest =>
    match Argument.kind argument with
    | .endOfOptions => .error (.misused .missingCommand)
    | .long written =>
      match readLong leadingFlags choices written with
      | .ok (choices, pending) => readLeading pending choices rest
      | .error stop => .error stop
    | .short written =>
      match readShort leadingFlags choices written with
      | .ok (choices, pending) => readLeading pending choices rest
      | .error stop => .error stop
    | .plain =>
      if argument = "help" then .error (readHelp rest) else
      match Verb.ofName? argument with
      | none => .error (.misused (.unknownCommand argument))
      | some verb =>
        match readRest verb.flags none {} rest with
        | .ok after => Invocation.ofChoices verb choices after
        | .error stop => .error stop

/-- Reads the arguments. -/
def Invocation.ofArguments (arguments : List String) : Except Stop Invocation :=
  readLeading none {} arguments

end Dialogue.CommandLine
