import Dialogue.Files

/-!
# Registered models

A chatfile may be registered under the name of a model. A conversation that selects such a model
is opened with the turns of that chatfile and goes on with the model that the chatfile selects,
until the selected model is not registered.

## Main definitions

* `Registry`: chatfiles by model names, as texts or as paths
* `Registry.deliveries`: the chatfile registered for a name
* `Conversation.substitute`: opens a conversation with the registered chatfiles
-/

namespace Dialogue

/-- The value that a list of pairs has for a name: that of the last pair with the name. -/
def lastFor {α : Type} (name : String) (entries : List (String × α)) : Option α :=
  entries.reverse.lookup name

/-- Chatfiles by model names; of two entries with one name the last counts. -/
inductive Registry where
  /-- The chatfiles themselves. -/
  | texts (entries : List (String × String))
  /-- Paths of chatfiles. -/
  | files (system : FileSystem) (entries : List (String × String))

/-- Why no chatfile can be opened for a name. -/
inductive RegistryError where
  /-- No text is registered under the name. -/
  | noText (name : String)
  /-- No path is registered under the name. -/
  | noPath (name : String)
  | unopened (error : OpenError)
  deriving DecidableEq, Repr

/-- The text of the error. -/
def RegistryError.message : RegistryError → String
  | .noText name => name
  | .noPath name => s!"no chatfile for {name}"
  | .unopened error => error.message

namespace Registry

/-- A registry without entries. -/
def empty : Registry := .texts []

/-- The registered names. -/
def names : Registry → List String
  | .texts entries => entries.map Prod.fst
  | .files _ entries => entries.map Prod.fst

/-- A chatfile is registered under the name. -/
def contains (registry : Registry) (name : String) : Bool :=
  registry.names.contains name

/-- The path registered under a name. -/
def path? : Registry → String → Option String
  | .texts _, _ => none
  | .files _ entries, name => lastFor name entries

/-- Opens the chatfile registered under a name. -/
def deliveries (registry : Registry) (name : String) : Except RegistryError (List Delivery) :=
  match registry with
  | .texts entries =>
    match lastFor name entries with
    | some text => .ok (deliver (Utf8.encode text))
    | none => .error (.noText name)
  | .files system entries =>
    match lastFor name entries with
    | some path => (system path).deliveries.mapError .unopened
    | none => .error (.noPath name)

end Registry

/-- Why the text registered under a name cannot be had. -/
inductive ContentError where
  | unopened (error : RegistryError)
  | unreadable (message : String)
  deriving DecidableEq, Repr

/-- The text of the error. -/
def ContentError.message : ContentError → String
  | .unopened error => error.message
  | .unreadable message => message

/-- All bytes of a source up to its first end, or the failure before it. -/
def readBytes : List (Signal UInt8) → Except ReadError (List UInt8)
  | [] => .ok []
  | .ended :: _ => .ok []
  | .failed error :: _ => .error error
  | .item b :: rest => (readBytes rest).map (b :: ·)

/-- The text registered under a name. -/
def Registry.content (registry : Registry) (name : String) : Except ContentError String :=
  match registry.deliveries name with
  | .error error => .error (.unopened error)
  | .ok deliveries =>
    match readBytes (byteSignals deliveries) with
    | .error error => .error (.unreadable error.message)
    | .ok bytes =>
      match Utf8.decodeAll? bytes with
      | some text => .ok (String.ofList text)
      | none => .error (.unreadable "stream did not contain valid UTF-8")

/-- An assignment of a path to a model name that is none. -/
structure AssignmentError where
  text : String
  deriving DecidableEq, Repr

/-- The text of the error. -/
def AssignmentError.message (error : AssignmentError) : String :=
  s!"expected MODEL=CHATFILE, got `{error.text}`"

/-- Reads an assignment `NAME=PATH`, divided at the first equals sign; neither side is empty. -/
def parseAssignment (text : String) : Except AssignmentError (String × String) :=
  let name := text.toList.takeWhile (· != '=')
  match text.toList.dropWhile (· != '=') with
  | '=' :: path =>
    if name.isEmpty || path.isEmpty then .error ⟨text⟩
    else .ok (String.ofList name, String.ofList path)
  | _ => .error ⟨text⟩

/-- Why a substitution stops. -/
inductive SubstitutionError where
  /-- The same model has been selected twice. -/
  | circular (model : String)
  /-- The chatfile of a model cannot be opened. -/
  | unopened (model : String) (error : RegistryError)
  /-- The chatfile of a model is no chatfile. -/
  | invalid (model : String) (error : ParseError)
  deriving DecidableEq, Repr

namespace SubstitutionError

/-- The text of the error. -/
def message : SubstitutionError → String
  | .circular model => s!"circular reference detected in model '{model}'"
  | .unopened model error => s!"failed to open chatfile for model '{model}': {error.message}"
  | .invalid model error => s!"failed to process chatfile for model '{model}': {error.message}"

/-- The error behind the error. -/
def cause? : SubstitutionError → Option ParseError
  | .invalid _ error => some error
  | _ => none

end SubstitutionError

/-- The registered names that have not been selected yet. -/
def Registry.unvisited (registry : Registry) (visited : List String) : List String :=
  registry.names.filter (!visited.contains ·)

/-- Selecting a registered name leaves fewer names to select. -/
theorem Registry.length_unvisited_cons {registry : Registry} {visited : List String}
    {name : String} (hregistered : registry.contains name = true)
    (hfresh : visited.contains name = false) :
    (registry.unvisited (name :: visited)).length < (registry.unvisited visited).length := by
  have hfilter : registry.unvisited (name :: visited) =
      (registry.unvisited visited).filter (· != name) := by
    simp only [unvisited, List.filter_filter]
    congr 1
    funext other
    by_cases hsame : other = name <;> simp [hsame]
  rw [hfilter, List.length_filter_lt_length_iff_exists]
  refine ⟨name, ?_, by simp⟩
  simp only [contains] at hregistered
  simp only [unvisited, List.mem_filter, hfresh, Bool.not_false, and_true]
  exact List.contains_iff_mem.mp hregistered

namespace Conversation

/-- Opens a conversation with the chatfile of the model it selects: the turns of the chatfile come
first, and its model takes the place of the conversation's. -/
def opening (conversation parent : Conversation Transcript) : Conversation Transcript :=
  ⟨parent.model, conversation.history.prepend parent.history⟩

/-- Opens the conversation with registered chatfiles until its model is not registered; `visited`
are the models selected so far. -/
def substituteFrom (registry : Registry) (visited : List String)
    (conversation : Conversation Transcript) :
    Except SubstitutionError Nat × Conversation Transcript :=
  match conversation.model with
  | none => (.ok visited.length, conversation)
  | some model =>
    if _hregistered : registry.contains model then
      if _hfresh : visited.contains model then (.error (.circular model), conversation)
      else
        match registry.deliveries model with
        | .error error => (.error (.unopened model error), conversation)
        | .ok deliveries =>
          match Conversation.ofDeliveries deliveries with
          | .error error => (.error (.invalid model error), conversation)
          | .ok parent =>
            substituteFrom registry (model :: visited) (conversation.opening parent)
    else (.ok visited.length, conversation)
termination_by (registry.unvisited visited).length
decreasing_by exact Registry.length_unvisited_cons _hregistered (by simpa using _hfresh)

/-- Opens the conversation with registered chatfiles until its model is not registered. Gives
their number, or the error on which that stopped; what was put in front before it stays. -/
def substitute (registry : Registry) (conversation : Conversation Transcript) :
    Except SubstitutionError Nat × Conversation Transcript :=
  substituteFrom registry [] conversation

end Conversation

end Dialogue
