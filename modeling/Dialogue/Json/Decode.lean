import Dialogue.Json.Number

/-!
# Taking JSON apart

The rules by which a document is read as a value of a known shape. A record is an object with
the record's keys, each at most once, among any others, or an array of all its fields in order. A
name from a fixed list is a string, or an object with that one key and the value `null`.

## Main definitions

* `Json.fields? names`: the fields of a record
* `Json.name?`: a name from a fixed list
* `Json.isBuffered`: documents that can be held before it is known what they are
-/

namespace Dialogue

namespace Json

/-- The text of a string. -/
def text? : Json → Option String
  | .string content => content
  | _ => none

/-- A truth value. -/
def bool? : Json → Option Bool
  | .bool value => some value
  | _ => none

/-- A natural number of 64 bits. -/
def nat? : Json → Option Nat
  | .number written => natOfNumber? written
  | _ => none

/-- An integer of 64 bits with sign. -/
def int64? : Json → Option Int64
  | .number written => int64OfNumber? written
  | _ => none

/-- A double. -/
def float? : Json → Option Float
  | .number written => floatOfNumber? written
  | _ => none

/-- A list, each item read by `item`. -/
def list? {α : Type} (item : Json → Option α) : Json → Option (List α)
  | .array items => items.mapM item
  | _ => none

/-- A value that may be missing or `null`. -/
def optional? {α : Type} (read : Json → Option α) : Option Json → Option (Option α)
  | none => some none
  | some .null => some none
  | some json => (read json).map some

/-- The values of the members with a given key. -/
def valuesOf (name : String) (members : List (Option String × Json)) : List Json :=
  (members.filter fun member => member.1 == some name).map Prod.snd

/-- The member with a given key: an error if there are two, nothing if there is none. -/
def member? (name : String) (members : List (Option String × Json)) : Option (Option Json) :=
  match valuesOf name members with
  | [] => some none
  | [value] => some (some value)
  | _ => none

/-- The fields of a record, in the order of their names. In an object a field may be missing; in an
array none may, and there are no others. -/
def fields? (names : List String) : Json → Option (List (Option Json))
  | .object members =>
    if members.all (·.1.isSome) then names.mapM (member? · members) else none
  | .array items => if items.length = names.length then some (items.map some) else none
  | _ => none

/-- A name from a fixed list, as a string or as the one key of an object whose value `unit`
accepts. -/
def name? (unit : Json → Bool) : Json → Option String
  | .string content => content
  | .object [(key, value)] => if unit value then key else none
  | _ => none

/-- The value that goes with a name alone. -/
def isNull : Json → Bool
  | .null => true
  | _ => false

/-- The value that goes with a name alone in a document that has been held: `null`, or an object
without members. -/
def isVoid : Json → Bool
  | .null => true
  | .object [] => true
  | _ => false

/-- How deep documents may be nested that are held before it is known what they are. -/
def maxDepth : Nat := 127

mutual

/-- A document that can be held with `depth` levels left: it is nested no deeper, its strings have
texts, and its numbers are doubles. -/
def isBuffered (depth : Nat) : Json → Bool
  | .string content => content.isSome
  | .number written => (floatOfNumber? written).isSome
  | .array items => depth != 0 && areBuffered (depth - 1) items
  | .object members => depth != 0 && areMembersBuffered (depth - 1) members
  | _ => true

/-- Every item can be held. -/
def areBuffered (depth : Nat) : List Json → Bool
  | [] => true
  | item :: items => isBuffered depth item && areBuffered depth items

/-- Every member can be held. -/
def areMembersBuffered (depth : Nat) : List (Option String × Json) → Bool
  | [] => true
  | (key, value) :: members =>
    key.isSome && isBuffered depth value && areMembersBuffered depth members

end

end Json

end Dialogue
