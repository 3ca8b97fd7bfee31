import Dialogue.Decimal.Shortest
import Dialogue.Toml.Parser

/-!
# Setting values

The values that settings have before their types are known, how layers of them are merged, and how
they are converted. Keys of tables do not distinguish letter case; they are kept in lower case.

## Main definitions

* `Setting`: a value
* `Setting.setKey`: sets a key of a table, merging tables key by key
* `KeyPath.ofText?`, `Setting.setPath`: sets the value at the end of a path
* `PlaceError`: why an array has no item at a place
* `Setting.bool?`, `Setting.int64?`, `Setting.float?`, `Setting.text?`: conversions
-/

namespace Dialogue

/-- A value of a setting. -/
inductive Setting where
  | nil
  | bool (value : Bool)
  | integer (value : Int64)
  | float (value : Float)
  | string (text : String)
  | array (items : List Setting)
  | table (entries : List (String × Setting))

namespace Setting

mutual

/-- The setting that a TOML value is. Dates and times are texts. -/
def ofToml : Toml.Value → Setting
  | .string text => .string text
  | .integer value => .integer value
  | .float value => .float value
  | .boolean value => .bool value
  | .datetime spelling => .string spelling
  | .array items => .array (ofTomlItems items)
  | .table entries => .table (ofTomlEntries entries)

/-- The settings of the items of an array. -/
def ofTomlItems : List Toml.Value → List Setting
  | [] => []
  | item :: items => ofToml item :: ofTomlItems items

/-- The settings of the entries of a table. -/
def ofTomlEntries : List (String × Toml.Value) → List (String × Setting)
  | [] => []
  | (key, value) :: entries => (key, ofToml value) :: ofTomlEntries entries

end

/-- A key in lower case. The keys that have a meaning are ASCII, and no character beyond ASCII has
one of their letters as its lower case. -/
def foldKey (key : String) : String := key.toLower

/-- The entries of a table; anything else has none. -/
def entries : Setting → List (String × Setting)
  | .table entries => entries
  | _ => []

/-- The items of an array; anything else has none. -/
def items : Setting → List Setting
  | .array items => items
  | _ => []

/-- Puts a value under a key, in the place of the one that was there. -/
def put (key : String) (value : Setting) : List (String × Setting) → List (String × Setting)
  | [] => [(key, value)]
  | (other, old) :: rest =>
    if other = key then (key, value) :: rest else (other, old) :: put key value rest

mutual

/-- Sets a key of a table; anything else becomes a table first. A table is merged into what stands
under the key, any other value takes its place. -/
def setKey (key : String) : Setting → Setting → Setting
  | .table incoming, target =>
    -- A table without entries changes nothing, not even a value that is no table.
    let old := ((entries target).lookup (foldKey key)).getD (.table [])
    .table (put (foldKey key) (setAll incoming old) (entries target))
  | value, target => .table (put (foldKey key) value (entries target))

/-- Sets all the given keys of a table. -/
def setAll : List (String × Setting) → Setting → Setting
  | [], target => target
  | (key, value) :: rest, target => setAll rest (setKey key value target)

end

end Setting

/-- One step from a value to a part of it. -/
inductive PathStep where
  | key (name : String)
  /-- A place in an array; negative places count from its end. -/
  | index (place : Int)
  deriving DecidableEq, Repr

/-- A way from a table to a part of it. -/
structure KeyPath where
  first : String
  steps : List PathStep
  deriving DecidableEq, Repr

namespace KeyPath

/-- Characters of a name in a path. -/
def isNameChar (c : Char) : Bool :=
  c.isAlphanum || c = '_' || c = '-' || c = ' '

/-- A name and what follows it. -/
def parseName (text : List Char) : Option (String × List Char) :=
  match text.takeWhile isNameChar with
  | [] => none
  | name => some (String.ofList name, text.dropWhile isNameChar)

/-- Blanks around a place in an array. -/
def skipBlanks (text : List Char) : List Char :=
  text.dropWhile fun c => c = ' ' || c = '\t'

/-- A minus sign, if there is one, and what follows. -/
def splitMinus : List Char → List Char × List Char
  | '-' :: rest => (['-'], rest)
  | text => ([], text)

/-- A place in an array, up to its closing bracket: an integer of 64 bits with a minus sign or
none. -/
def parsePlace (text : List Char) : Option (Int × List Char) :=
  let (sign, digits) := splitMinus (skipBlanks text)
  match Decimal.int64OfText? (sign ++ digits.takeWhile Char.isDigit),
    skipBlanks (digits.dropWhile Char.isDigit) with
  | some place, ']' :: rest => some (place.toInt, rest)
  | _, _ => none

/-- The steps of a path after its first name, as many as `fuel` allows. -/
def parseSteps : Nat → List Char → Option (List PathStep)
  | _, [] => some []
  | 0, _ => none
  | fuel + 1, '.' :: text =>
    match parseName text with
    | some (name, rest) => (parseSteps fuel rest).map (.key name :: ·)
    | none => none
  | fuel + 1, '[' :: text =>
    match parsePlace text with
    | some (place, rest) => (parseSteps fuel rest).map (.index place :: ·)
    | none => none
  | _, _ => none

/-- A path: names parted by single dots, and places in brackets. -/
def ofText? (text : String) : Option KeyPath :=
  match parseName text.toList with
  | some (first, rest) => (parseSteps rest.length rest).map fun steps => ⟨first, steps⟩
  | none => none

end KeyPath

/-- Why an array has no item at a place and cannot get one. -/
inductive PlaceError where
  /-- The place is the one before the first. -/
  | beforeFirst
  /-- The array would have more items than there can be. A place further before the first counts
  as one far behind the last. -/
  | tooFar
  deriving DecidableEq, Repr

/-- The text of the error. -/
def PlaceError.message : PlaceError → String
  | .beforeFirst => "index out of bounds: the len is 0 but the index is 18446744073709551615"
  | .tooFar => "capacity overflow"

namespace Setting

/-- An array that has to grow has no more items than this. -/
def maxItems : Nat := 0x100000000

/-- The place in an array of the given length, counted from its start. Places at and behind the
end are made, those before the start are not. -/
def placeIn (length : Nat) (place : Int) : Except PlaceError Nat :=
  if 0 ≤ place then
    if place.toNat < length || place.toNat < maxItems then .ok place.toNat else .error .tooFar
  else if place.natAbs ≤ length then .ok (length - place.natAbs)
  else if place.natAbs = length + 1 then .error .beforeFirst
  else .error .tooFar

/-- The items with enough of nothing after them to reach a place. -/
def reach (place : Nat) (items : List Setting) : List Setting :=
  items ++ List.replicate (place + 1 - items.length) .nil

/-- Sets the part of a value at the end of some steps. What is missing on the way is made, and what
is in the way is replaced. -/
def setSteps (value : Setting) : List PathStep → Setting → Except PlaceError Setting
  | [], _ => .ok value
  | [.key name], target => .ok (setKey name value target)
  | .key name :: steps, target =>
    match setSteps value steps (((entries target).lookup (foldKey name)).getD .nil) with
    | .ok inner => .ok (.table (put (foldKey name) inner (entries target)))
    | .error error => .error error
  | .index place :: steps, target =>
    match placeIn (items target).length place with
    | .error error => .error error
    | .ok place =>
      let filled := reach place (items target)
      match setSteps value steps (filled.getD place .nil) with
      | .ok inner => .ok (.array (filled.set place inner))
      | .error error => .error error

/-- Sets the part of a table at the end of a path. -/
def setPath (path : KeyPath) (value target : Setting) : Except PlaceError Setting :=
  setSteps value (.key path.first :: path.steps) target

/-- Adds the entries of a file to a table. Their keys are read as paths where they are some. -/
def merge (target : Setting) : List (String × Setting) → Except PlaceError Setting
  | [] => .ok target
  | (key, value) :: rest =>
    match KeyPath.ofText? key with
    | none => merge (setKey key value target) rest
    | some path =>
      match setPath path value target with
      | .ok changed => merge changed rest
      | .error error => .error error

/-!
### Conversions
-/

/-- Words for yes and no that stand for numbers too. -/
def word? (text : String) : Option Bool :=
  let word := text.toLower
  if word = "true" || word = "on" || word = "yes" then some true
  else if word = "false" || word = "off" || word = "no" then some false
  else none

/-- A truth value: numbers are true unless they are zero, and texts name one. -/
def bool? : Setting → Option Bool
  | .bool value => some value
  | .integer value => some (value != 0)
  | .float value => some (value != 0)
  | .string text =>
    if text = "1" then some true else if text = "0" then some false else word? text
  | _ => none

/-- The integer nearest to a number, away from zero at a half, within 64 bits; zero for a number
that is none. -/
def roundToInt64 (value : Float) : Int64 :=
  value.round.toInt64

/-- An integer. -/
def int64? : Setting → Option Int64
  | .bool value => some (if value then 1 else 0)
  | .integer value => some value
  | .float value => some (roundToInt64 value)
  | .string text =>
    match word? text with
    | some value => some (if value then 1 else 0)
    | none => Decimal.int64OfText? text.toList
  | _ => none

/-- A number with a fraction. -/
def float? : Setting → Option Float
  | .bool value => some (if value then 1 else 0)
  | .integer value => some value.toFloat
  | .float value => some value
  | .string text =>
    match word? text with
    | some value => some (if value then 1 else 0)
    | none => Decimal.floatOfText? text.toList
  | _ => none

/-- The shortest digits of a number, never with an exponent; at a tie the larger ones. -/
def floatText (value : Float) : String :=
  if value.isNaN then "NaN" else
  let sign := if Binary.isNegative value then "-" else ""
  match Binary.ofFloat? value with
  | some size => sign ++ String.ofList ((size.shortest .up).plain false)
  | none => sign ++ "inf"

/-- A text. -/
def text? : Setting → Option String
  | .bool value => some (if value then "true" else "false")
  | .integer value => some (toString value.toInt)
  | .float value => some (floatText value)
  | .string text => some text
  | _ => none

/-- A value that may be absent. -/
def optional? {α : Type} (read : Setting → Option α) : Option Setting → Option (Option α)
  | none => some none
  | some .nil => some none
  | some value => (read value).map some

/-- A required value. -/
def required? {α : Type} (read : Setting → Option α) : Option Setting → Option α
  | none => none
  | some value => read value

/-- The fields of a record: the entries of a table with these keys, or the items of an array in
order. Others do not count, and any may be missing. -/
def fields? (names : List String) : Setting → Option (List (Option Setting))
  | .table entries => some (names.map (entries.lookup ·))
  | .array items => some ((List.range names.length).map (items[·]?))
  | _ => none

end Setting

end Dialogue
