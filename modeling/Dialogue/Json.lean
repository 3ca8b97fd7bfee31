import Dialogue.Decimal.Shortest

/-!
# JSON

Documents as they are written: numbers keep their digits, objects keep the order and the
repetitions of their members.

## Main definitions

* `Json`: a document
* `Json.render layout`: the text of a document, on one line or indented
* `Json.ofNat`, `Json.ofInt64`, `Json.ofFloat`: numbers
-/

namespace Dialogue

/-- A JSON document. The text of a string or of a key is missing when an escape in it names half
of a surrogate pair without the other half, since no text has such a character. -/
inductive Json where
  | null
  | bool (value : Bool)
  /-- A number, by its digits, point and exponent as they are written. -/
  | number (written : List Char)
  | string (text : Option String)
  | array (items : List Json)
  | object (members : List (Option String × Json))

namespace Json

/-- A string with a text. -/
def text (content : String) : Json := .string (some content)

/-- A natural number. -/
def ofNat (value : Nat) : Json := .number (Nat.toDigits 10 value)

/-- An integer of 64 bits with sign. -/
def ofInt64 (value : Int64) : Json :=
  let digits := Nat.toDigits 10 value.toInt.natAbs
  .number (if value.toInt < 0 then '-' :: digits else digits)

/-- The digits of a finite number. Its exponent is left out if the first digit stands at most five
places after the point and at most sixteen before it, and a fraction of zero is kept. -/
def floatDigits (size : Binary) : List Char :=
  let numeral := size.shortest .toEven
  if -5 ≤ numeral.exponent && numeral.exponent < 16 then numeral.plain true
  else numeral.scientific true

/-- A number with a fraction, by its shortest digits; `null` if it is not finite. -/
def ofFloat (value : Float) : Json :=
  match Binary.ofFloat? value with
  | some size =>
    .number ((if Binary.isNegative value then ['-'] else []) ++ floatDigits size)
  | none => .null

/-- An object with the given members. -/
def record (members : List (String × Json)) : Json :=
  .object (members.map fun member => (some member.1, member.2))

/-- A value that may be absent, as `null`. -/
def orNull (value : Option Json) : Json := value.getD .null

/-- How a document is laid out. -/
inductive Layout where
  /-- All on one line, without blanks. -/
  | compact
  /-- Each item and each member on its own line, two blanks deeper than what holds it. -/
  | pretty
  deriving DecidableEq, Repr

/-- The line break before an item at the given depth. -/
def Layout.lineBreak (layout : Layout) (depth : Nat) : List Char :=
  match layout with
  | .compact => []
  | .pretty => '\n' :: List.replicate (2 * depth) ' '

/-- What parts a key from its value. -/
def Layout.colon : Layout → List Char
  | .compact => [':']
  | .pretty => [':', ' ']

/-- A digit of a hexadecimal number. -/
def hexDigit (value : Nat) : Char :=
  Nat.digitChar (value % 16)

/-- One character of a string. Only quotes, backslashes and controls are escaped. -/
def escape (c : Char) : List Char :=
  if c = '"' then ['\\', '"']
  else if c = '\\' then ['\\', '\\']
  else if c = '\x08' then ['\\', 'b']
  else if c = '\t' then ['\\', 't']
  else if c = '\n' then ['\\', 'n']
  else if c = '\x0c' then ['\\', 'f']
  else if c = '\r' then ['\\', 'r']
  else if c.toNat < 0x20 then
    ['\\', 'u', '0', '0', hexDigit (c.toNat / 16), hexDigit c.toNat]
  else [c]

/-- A string. One without a text is written as half of a surrogate pair. -/
def renderString : Option String → List Char
  | some content => '"' :: (content.toList.flatMap escape ++ ['"'])
  | none => ['"', '\\', 'u', 'd', '8', '0', '0', '"']

mutual

/-- A document at the given depth. -/
def renderAt (layout : Layout) (depth : Nat) : Json → List Char
  | .null => ['n', 'u', 'l', 'l']
  | .bool true => ['t', 'r', 'u', 'e']
  | .bool false => ['f', 'a', 'l', 's', 'e']
  | .number written => written
  | .string content => renderString content
  | .array [] => ['[', ']']
  | .array (item :: items) =>
    ['['] ++ layout.lineBreak (depth + 1) ++ renderAt layout (depth + 1) item ++
      renderItems layout (depth + 1) items ++ layout.lineBreak depth ++ [']']
  | .object [] => ['\x7b', '\x7d']
  | .object (member :: members) =>
    ['\x7b'] ++ layout.lineBreak (depth + 1) ++ renderMember layout (depth + 1) member ++
      renderMembers layout (depth + 1) members ++ layout.lineBreak depth ++ ['\x7d']

/-- The items after the first. -/
def renderItems (layout : Layout) (depth : Nat) : List Json → List Char
  | [] => []
  | item :: items =>
    [','] ++ layout.lineBreak depth ++ renderAt layout depth item ++
      renderItems layout depth items

/-- One member of an object. -/
def renderMember (layout : Layout) (depth : Nat) : Option String × Json → List Char
  | (key, value) => renderString key ++ layout.colon ++ renderAt layout depth value

/-- The members after the first. -/
def renderMembers (layout : Layout) (depth : Nat) : List (Option String × Json) → List Char
  | [] => []
  | member :: members =>
    [','] ++ layout.lineBreak depth ++ renderMember layout depth member ++
      renderMembers layout depth members

end

/-- The text of a document. -/
def render (layout : Layout) (json : Json) : String :=
  String.ofList (renderAt layout 0 json)

end Json

end Dialogue
