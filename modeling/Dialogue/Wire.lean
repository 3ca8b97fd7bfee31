import Dialogue.Json.Decode
import Dialogue.Json.Parser
import Dialogue.Request

/-!
# The JSON forms

How tokens, commands, turns and requests are written as JSON and read back.

## Main definitions

* `Wire α`: values with a JSON form
* `encode layout value`, `decode? text`: the JSON text of a value, and the value of a text
-/

namespace Dialogue

/-- Values with a JSON form. -/
class Wire (α : Type) where
  toJson : α → Json
  ofJson? : Json → Option α

namespace Wire

/-- The JSON text of a value. -/
def encode {α : Type} [Wire α] (layout : Json.Layout) (value : α) : String :=
  (toJson value).render layout

/-- The value of a JSON text. -/
def decode? (α : Type) [Wire α] (text : String) : Option α :=
  (Json.parse? text).bind ofJson?

end Wire

open Json (record text)

namespace Role

/-- The role as it is written in JSON. -/
def name : Role → String
  | .system => "system"
  | .user => "user"
  | .assistant => "assistant"

/-- The role with a given name. -/
def ofName? (name : String) : Option Role :=
  [Role.system, .user, .assistant].find? fun role => role.name == name

instance : Wire Role where
  toJson role := text role.name
  ofJson? json := (json.name? Json.isNull).bind ofName?

end Role

namespace Token.Kind

/-- The kind as it is written in JSON. -/
def name : Token.Kind → String
  | .endOfInput => "EndOfInput"
  | .unknown => "Unknown"
  | .keyword .selectModel => "From"
  | .keyword (.speak .system) => "System"
  | .keyword (.speak .user) => "Ask"
  | .keyword (.speak .assistant) => "Answer"
  | .model => "Model"
  | .prompt => "Prompt"

/-- All kinds. -/
def all : List Token.Kind :=
  [.endOfInput, .unknown, .model, .prompt] ++ Keyword.all.map .keyword

/-- The kind with a given name. -/
def ofName? (name : String) : Option Token.Kind :=
  all.find? fun kind => kind.name == name

instance : Wire Token.Kind where
  toJson kind := text kind.name
  ofJson? json := (json.name? Json.isNull).bind ofName?

end Token.Kind

instance : Wire Token where
  toJson token := record [("kind", Wire.toJson token.kind), ("content", text token.content),
    ("line", .ofNat token.position.line), ("column", .ofNat token.position.column)]
  ofJson? json :=
    match json.fields? ["kind", "content", "line", "column"] with
    | some [some kind, some content, some line, some column] =>
      match Wire.ofJson? kind, content.text?, line.nat?, column.nat? with
      | some kind, some content, some line, some column => some ⟨kind, content, ⟨line, column⟩⟩
      | _, _, _, _ => none
    | _ => none

/-- A model name is a string. -/
instance : Wire String where
  toJson := text
  ofJson? := Json.text?

instance : Wire Turn where
  toJson turn := record [("role", Wire.toJson turn.role), ("message", text turn.message)]
  ofJson? json :=
    match json.fields? ["role", "message"] with
    | some [some role, some message] =>
      match Wire.ofJson? role, message.text? with
      | some role, some message => some ⟨role, message⟩
      | _, _ => none
    | _ => none

instance : Wire Transcript where
  toJson transcript := .array (transcript.turns.map Wire.toJson)
  ofJson? json := (json.list? Wire.ofJson?).map Transcript.mk

namespace Command

/-- The key whose value tells the commands apart. -/
def tag : String := "command"

/-- A command by the value of its tag and the fields beside it. The role may be given by an object
without members too, since the fields have been held until the tag was known. -/
def ofTagged? (name : String) (fields : Json) : Option Command :=
  if name = "FROM" then
    match fields.fields? ["model_name"] with
    | some [some model] => model.text?.map .selectModel
    | _ => none
  else if name = "PROMPT" then
    match fields.fields? ["role", "message"] with
    | some [some role, some message] =>
      match (role.name? Json.isVoid).bind Role.ofName?, message.text? with
      | some role, some message => some (.say ⟨role, message⟩)
      | _, _ => none
    | _ => none
  else none

/-- A command by the tag and the fields that stand beside it, all of which are held. -/
def ofHeld? (tagValue : Json) (fields : Json) : Option Command :=
  if fields.isBuffered Json.maxDepth then tagValue.text?.bind (ofTagged? · fields) else none

instance : Wire Command where
  toJson
    | .selectModel name => record [(tag, text "FROM"), ("model_name", text name)]
    | .say turn =>
      record [(tag, text "PROMPT"), ("role", Wire.toJson turn.role), ("message", text turn.message)]
  ofJson?
    | .object members =>
      match Json.member? tag members with
      | some (some tagValue) =>
        ofHeld? tagValue (.object (members.filter fun member => member.1 != some tag))
      | _ => none
    | .array (tagValue :: items) => ofHeld? tagValue (.array items)
    | _ => none

end Command

instance : Wire Message where
  toJson message := record [("role", Wire.toJson message.role), ("content", text message.content)]
  ofJson? json :=
    match json.fields? ["role", "content"] with
    | some [some role, some content] =>
      match Wire.ofJson? role, content.text? with
      | some role, some content => some ⟨role, content⟩
      | _, _ => none
    | _ => none

namespace Sampling

/-- The seed and the temperature read from fields that may be missing. -/
def ofFields? (seed temperature : Option Json) (stream : Json) : Option Sampling :=
  match Json.optional? Json.int64? seed, Json.optional? Json.float? temperature,
    stream.bool? with
  | some seed, some temperature, some stream => some ⟨seed, temperature, stream⟩
  | _, _, _ => none

/-- Absent numbers are written as `null`. -/
instance : Wire Sampling where
  toJson sampling := record [
    ("seed", .orNull (sampling.seed.map .ofInt64)),
    ("temperature", .orNull (sampling.temperature.map .ofFloat)),
    ("stream", .bool sampling.stream)]
  ofJson? json :=
    match json.fields? ["seed", "temperature", "stream"] with
    | some [seed, temperature, some stream] => ofFields? seed temperature stream
    | _ => none

end Sampling

namespace Request

/-- A member that is left out if its value is absent. -/
def optionalMember (name : String) (value : Option Json) : List (String × Json) :=
  (value.map fun json => (name, json)).toList

/-- Absent numbers are left out. -/
instance : Wire Request where
  toJson request := record (
    [("model", text request.model), ("messages", .array (request.messages.map Wire.toJson))] ++
    optionalMember "seed" (request.sampling.seed.map .ofInt64) ++
    optionalMember "temperature" (request.sampling.temperature.map .ofFloat) ++
    [("stream", .bool request.sampling.stream)])
  ofJson? json :=
    match json.fields? ["model", "messages", "seed", "temperature", "stream"] with
    | some [some model, some messages, seed, temperature, some stream] =>
      match model.text?, messages.list? Wire.ofJson?,
        Sampling.ofFields? seed temperature stream with
      | some model, some messages, some sampling => some ⟨model, messages, sampling⟩
      | _, _, _ => none
    | _ => none

end Request

end Dialogue
