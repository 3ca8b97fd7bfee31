import Dialogue.Toml.Scalar
import Dialogue.Toml.Value

/-!
# Reading TOML

A document is a sequence of lines: comments, headers of tables, and keys with values.

## Main definitions

* `Toml.Value.settle?`: tables that stand for dates and times, read as such
* `Toml.parse? text`: the entries of a document, if the text is one
-/

namespace Dialogue

namespace Toml

/-- Values are nested, and keys are dotted, less often than this. -/
def nestingLimit : Nat := 80

/-- Characters of a key without quotes. -/
def isBareKey (c : Char) : Bool :=
  c.isAlphanum || c = '_' || c = '-'

/-- A key without dots. -/
def parseSimpleKey (text : List Char) : Option (String × List Char) :=
  match parseLineString text with
  | some (key, rest) => some (String.ofList key, rest)
  | none =>
    match text.takeWhile isBareKey with
    | [] => none
    | key => some (String.ofList key, text.dropWhile isBareKey)

/-- The parts of a key after the first, as many as `fuel` allows. -/
def parseKeyTail : Nat → List Char → Option (List String × List Char)
  | 0, text => some ([], text)
  | fuel + 1, text =>
    match skipSpace text with
    | '.' :: rest => do
      let (key, rest) ← parseSimpleKey (skipSpace rest)
      let (keys, rest) ← parseKeyTail fuel rest
      some (key :: keys, rest)
    | rest => some ([], rest)

/-- A key that may be dotted: the path of tables, the last part, and what follows its blanks. -/
def parseKey (text : List Char) : Option ((List String × String) × List Char) := do
  let (first, rest) ← parseSimpleKey (skipSpace text)
  let (others, rest) ← parseKeyTail text.length rest
  let keys := first :: others
  if nestingLimit ≤ keys.length then none
  else some ((keys.dropLast, keys.getLastD first), rest)

/-- What follows a comment, up to the line break. Controls are not allowed in it. -/
def skipComment : List Char → Option (List Char)
  | [] => some []
  | '\r' :: '\n' :: rest => some ('\r' :: '\n' :: rest)
  | c :: rest =>
    if c = '\n' then some (c :: rest) else if isPlain c then skipComment rest else none

/-- What follows blanks, line breaks and comments inside an array. -/
def skipLines : Nat → List Char → Option (List Char)
  | 0, text => some text
  | fuel + 1, text =>
    match skipSpace text with
    | '#' :: rest => (skipComment rest).bind (skipLines fuel)
    | rest =>
      match newline? rest with
      | some rest => skipLines fuel rest
      | none => some rest

/-- What follows blanks, line breaks and comments inside an array. -/
def skipGap (text : List Char) : Option (List Char) :=
  skipLines (text.length + 1) text

/-- A value without parts. -/
def parseScalar (text : List Char) : Option (Value × List Char) :=
  match text with
  | 't' :: 'r' :: 'u' :: 'e' :: rest => some (.boolean true, rest)
  | 'f' :: 'a' :: 'l' :: 's' :: 'e' :: rest => some (.boolean false, rest)
  | '"' :: _ =>
    (parseString text).map fun (content, rest) => (.string (String.ofList content), rest)
  | c :: _ =>
    if c = '\x27' then
      (parseString text).map fun (content, rest) => (.string (String.ofList content), rest)
    else
      match parseDatetime text with
      | some (spelling, rest) => some (.datetime spelling, rest)
      | none =>
        match parseNumber text with
        | some (.integer value, rest) => some (.integer value, rest)
        | some (.float value, rest) => some (.float value, rest)
        | none => none
  | [] => none

mutual

/-- A value with at most `depth` levels inside it. -/
def parseValue : Nat → Nat → List Char → Option (Value × List Char)
  | 0, _, _ => none
  | fuel + 1, depth, text =>
    match text with
    | '[' :: rest => do
      if depth = 0 then none else
      let (items, rest) ← parseItems fuel (depth - 1) rest
      some (.array items, rest)
    | '\x7b' :: rest => do
      if depth = 0 then none else
      match skipSpace rest with
      | '\x7d' :: rest => some (.table [], rest)
      | rest =>
        let (entries, rest) ← parsePairs fuel (depth - 1) [] rest
        some (.table (Item.entryValues entries), rest)
    | text => parseScalar text

/-- The items of an array and its closing bracket; a comma may stand after the last. -/
def parseItems : Nat → Nat → List Char → Option (List Value × List Char)
  | 0, _, _ => none
  | fuel + 1, depth, text => do
    let text ← skipGap text
    match text with
    | ']' :: rest => some ([], rest)
    | text =>
      let (item, rest) ← parseValue fuel depth text
      let rest ← skipGap rest
      match rest with
      | ']' :: rest => some ([item], rest)
      | ',' :: rest =>
        let (items, rest) ← parseItems fuel depth rest
        some (item :: items, rest)
      | _ => none

/-- One or more pairs of a table on one line and its closing brace, added to `entries`. -/
def parsePairs : Nat → Nat → Entries → List Char → Option (Entries × List Char)
  | 0, _, _, _ => none
  | fuel + 1, depth, entries, text => do
    let ((path, key), rest) ← parseKey text
    match rest with
    | '=' :: rest =>
      let (value, rest) ← parseValue fuel depth (skipSpace rest)
      let entries ← entries.insert path key value
      match skipSpace rest with
      | '\x7d' :: rest => some (entries, rest)
      | ',' :: rest => parsePairs fuel depth entries rest
      | _ => none
    | _ => none

end

/-- The end of a line: blanks, a comment or none, and a line break or the end of the text. -/
def parseLineEnd (text : List Char) : Option (List Char) := do
  let rest ← match skipSpace text with
    | '#' :: rest => skipComment rest
    | rest => some rest
  if rest = [] then some [] else newline? rest

/-- A document in progress: its entries, and the path of the table opened last. -/
structure Document where
  entries : Entries := []
  header : List String := []

/-- One line of a document that starts with something else than a blank. -/
def parseLine (document : Document) (text : List Char) : Option (Document × List Char) :=
  match text with
  | '#' :: rest => do
    let rest ← skipComment rest
    let rest ← parseLineEnd rest
    some (document, rest)
  | '[' :: '[' :: rest => do
    let ((path, key), rest) ← parseKey rest
    match rest with
    | ']' :: ']' :: rest =>
      let rest ← parseLineEnd rest
      let entries ← document.entries.openElement path key
      some (⟨entries, path ++ [key]⟩, rest)
    | _ => none
  | '[' :: rest => do
    let ((path, key), rest) ← parseKey rest
    match rest with
    | ']' :: rest =>
      let rest ← parseLineEnd rest
      let entries ← document.entries.openTable path key
      some (⟨entries, path ++ [key]⟩, rest)
    | _ => none
  | text =>
    match newline? text with
    | some rest => some (document, rest)
    | none => do
      let ((path, key), rest) ← parseKey text
      match rest with
      | '=' :: rest =>
        let (value, rest) ← parseValue (3 * rest.length + 3) (nestingLimit - 1) (skipSpace rest)
        let rest ← parseLineEnd rest
        let entries ← document.entries.insertUnder document.header path key value
        some ({ document with entries }, rest)
      | _ => none

/-- The lines of a document, as many as `fuel` allows. -/
def parseLines : Nat → Document → List Char → Option Document
  | 0, _, _ => none
  | fuel + 1, document, text =>
    match skipSpace text with
    | [] => some document
    | text => (parseLine document text).bind fun (document, rest) => parseLines fuel document rest

/-- The first key of a table that stands for a date or a time. -/
def datetimeKey : String := "$__toml_private_datetime"

/-- The date or time that a value is written as, under `datetimeKey`. -/
def Value.datetime? : Value → Option Value
  | .string text => (datetimeOfText? text.toList).map .datetime
  | _ => none

mutual

/-- The value with dates and times in the place of all tables that stand for one. -/
def Value.settle? : Value → Option Value
  | .array items => (settleItems? items).map .array
  | .table [] => some (.table [])
  | .table ((key, value) :: entries) =>
    -- What else such a table holds does not count.
    if key = datetimeKey then value.datetime? else
    match value.settle?, settleEntries? entries with
    | some value, some entries => some (.table ((key, value) :: entries))
    | _, _ => none
  | value => some value

/-- The items of an array, settled. -/
def settleItems? : List Value → Option (List Value)
  | [] => some []
  | item :: items =>
    match item.settle?, settleItems? items with
    | some item, some items => some (item :: items)
    | _, _ => none

/-- The entries of a table, settled. -/
def settleEntries? : List (String × Value) → Option (List (String × Value))
  | [] => some []
  | (key, value) :: entries =>
    match value.settle?, settleEntries? entries with
    | some value, some entries => some ((key, value) :: entries)
    | _, _ => none

end

/-- The entries of a table; anything else has none. -/
def Value.entries? : Value → Option (List (String × Value))
  | .table entries => some entries
  | _ => none

/-- The text after a mark of the byte order, if it starts with one. -/
def skipMark : List Char → List Char
  | '\uFEFF' :: rest => rest
  | text => text

/-- The table that a text is written as. Each line takes at least one character, so the text bounds
their number. -/
def parseTable (text : List Char) : Option Value :=
  (parseLines (text.length + 1) {} text).map fun document =>
    .table (Item.entryValues document.entries)

/-- The entries of a document, if the text is one. -/
def parse? (text : List Char) : Option (List (String × Value)) :=
  ((parseTable (skipMark text)).bind Value.settle?).bind Value.entries?

end Toml

end Dialogue
