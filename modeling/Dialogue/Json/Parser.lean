import Dialogue.Json

/-!
# Reading JSON

A strict reader: no comments, no trailing commas, no leading zeros, no raw controls in strings.

## Main definitions

* `Json.parse? text`: the document of a text, if it is one
-/

namespace Dialogue

namespace Json

/-- The blanks that may stand between the parts of a document. -/
def isSpace (c : Char) : Bool :=
  c = ' ' || c = '\n' || c = '\t' || c = '\r'

/-- What follows the blanks. -/
def skipSpace (text : List Char) : List Char :=
  text.dropWhile isSpace

/-- The value of a hexadecimal digit. -/
def hexValue? (c : Char) : Option Nat :=
  if c.isDigit then some (c.toNat - '0'.toNat)
  else if 'a' ≤ c && c ≤ 'f' then some (c.toNat - 'a'.toNat + 10)
  else if 'A' ≤ c && c ≤ 'F' then some (c.toNat - 'A'.toNat + 10)
  else none

/-- The number written by four hexadecimal digits. -/
def hexUnit? (a b c d : Char) : Option Nat :=
  match hexValue? a, hexValue? b, hexValue? c, hexValue? d with
  | some a, some b, some c, some d => some (((a * 16 + b) * 16 + c) * 16 + d)
  | _, _, _, _ => none

/-- The character named by a letter after a backslash. -/
def escaped? (c : Char) : Option Char :=
  if c = '"' || c = '\\' || c = '/' then some c
  else if c = 'b' then some '\x08'
  else if c = 'f' then some '\x0c'
  else if c = 'n' then some '\n'
  else if c = 'r' then some '\r'
  else if c = 't' then some '\t'
  else none

/-- A part of a string: a character, or a number of sixteen bits given by an escape. -/
inductive Piece where
  | char (c : Char)
  | unit (value : Nat)
  deriving DecidableEq, Repr

/-- The parts of a string up to its closing quote, and what follows. -/
def parsePieces : List Char → Option (List Piece × List Char)
  | '"' :: rest => some ([], rest)
  | '\\' :: 'u' :: a :: b :: c :: d :: rest =>
    match hexUnit? a b c d, parsePieces rest with
    | some value, some (pieces, rest) => some (.unit value :: pieces, rest)
    | _, _ => none
  | '\\' :: c :: rest =>
    match escaped? c, parsePieces rest with
    | some c, some (pieces, rest) => some (.char c :: pieces, rest)
    | _, _ => none
  | c :: rest =>
    if c = '\\' || c.toNat < 0x20 then none else
    match parsePieces rest with
    | some (pieces, rest) => some (.char c :: pieces, rest)
    | none => none
  | [] => none

/-- The text of the parts. The two halves of a surrogate pair make one character; half a pair
alone makes none, and then there is no text. -/
def textOfPieces : List Piece → Option (List Char)
  | [] => some []
  | .char c :: pieces => (textOfPieces pieces).map (c :: ·)
  | .unit high :: .unit low :: pieces =>
    if 0xD800 ≤ high && high ≤ 0xDBFF then
      if 0xDC00 ≤ low && low ≤ 0xDFFF then
        (textOfPieces pieces).map
          (Char.ofNat (0x10000 + (high - 0xD800) * 0x400 + (low - 0xDC00)) :: ·)
      else none
    else if 0xDC00 ≤ high && high ≤ 0xDFFF then none
    else (textOfPieces (.unit low :: pieces)).map (Char.ofNat high :: ·)
  | .unit value :: pieces =>
    if 0xD800 ≤ value && value ≤ 0xDFFF then none
    else (textOfPieces pieces).map (Char.ofNat value :: ·)

/-- A string after its opening quote. -/
def parseString (text : List Char) : Option (Option String × List Char) :=
  match parsePieces text with
  | some (pieces, rest) => some ((textOfPieces pieces).map String.ofList, rest)
  | none => none

/-- One or more digits. -/
def parseDigits (text : List Char) : Option (List Char × List Char) :=
  match text.takeWhile Char.isDigit with
  | [] => none
  | digits => some (digits, text.dropWhile Char.isDigit)

/-- The digits before a point: a zero, or digits of which the first is none. -/
def parseWhole (text : List Char) : Option (List Char × List Char) :=
  match parseDigits text with
  | some ('0' :: _ :: _, _) => none
  | whole => whole

/-- A point with digits, or nothing. -/
def parseFraction : List Char → Option (List Char × List Char)
  | '.' :: text => (parseDigits text).map fun (digits, rest) => ('.' :: digits, rest)
  | text => some ([], text)

/-- The sign of an exponent, if there is one. -/
def parseSign : List Char → List Char × List Char
  | '+' :: text => (['+'], text)
  | '-' :: text => (['-'], text)
  | text => ([], text)

/-- An exponent, or nothing. -/
def parseExponent : List Char → Option (List Char × List Char)
  | c :: text =>
    if c = 'e' || c = 'E' then
      let (sign, text) := parseSign text
      (parseDigits text).map fun (digits, rest) => (c :: (sign ++ digits), rest)
    else some ([], c :: text)
  | [] => some ([], [])

/-- A number after its sign. -/
def parseUnsigned (text : List Char) : Option (List Char × List Char) :=
  match parseWhole text with
  | none => none
  | some (whole, text) =>
    match parseFraction text with
    | none => none
    | some (fraction, text) =>
      match parseExponent text with
      | none => none
      | some (exponent, rest) => some (whole ++ fraction ++ exponent, rest)

/-- A number. -/
def parseNumber : List Char → Option (List Char × List Char)
  | '-' :: text => (parseUnsigned text).map fun (written, rest) => ('-' :: written, rest)
  | text => parseUnsigned text

mutual

/-- A document without blanks before it, and what follows it. -/
def parseValue : Nat → List Char → Option (Json × List Char)
  | 0, _ => none
  | fuel + 1, text =>
    match text with
    | 'n' :: 'u' :: 'l' :: 'l' :: rest => some (.null, rest)
    | 't' :: 'r' :: 'u' :: 'e' :: rest => some (.bool true, rest)
    | 'f' :: 'a' :: 'l' :: 's' :: 'e' :: rest => some (.bool false, rest)
    | '"' :: rest => (parseString rest).map fun (content, rest) => (.string content, rest)
    | '[' :: rest =>
      match skipSpace rest with
      | ']' :: rest => some (.array [], rest)
      | rest => (parseItems fuel rest).map fun (items, rest) => (.array items, rest)
    | '\x7b' :: rest =>
      match skipSpace rest with
      | '\x7d' :: rest => some (.object [], rest)
      | rest => (parseMembers fuel rest).map fun (members, rest) => (.object members, rest)
    | text => (parseNumber text).map fun (written, rest) => (.number written, rest)

/-- One or more items and the closing bracket. -/
def parseItems : Nat → List Char → Option (List Json × List Char)
  | 0, _ => none
  | fuel + 1, text =>
    match parseValue fuel text with
    | none => none
    | some (item, rest) =>
      match skipSpace rest with
      | ']' :: rest => some ([item], rest)
      | ',' :: rest =>
        (parseItems fuel (skipSpace rest)).map fun (items, rest) => (item :: items, rest)
      | _ => none

/-- One or more members and the closing brace. -/
def parseMembers : Nat → List Char → Option (List (Option String × Json) × List Char)
  | 0, _ => none
  | fuel + 1, text =>
    match parseMember fuel text with
    | none => none
    | some (member, rest) =>
      match skipSpace rest with
      | '\x7d' :: rest => some ([member], rest)
      | ',' :: rest =>
        (parseMembers fuel (skipSpace rest)).map fun (members, rest) => (member :: members, rest)
      | _ => none

/-- A key, a colon and a document. -/
def parseMember : Nat → List Char → Option ((Option String × Json) × List Char)
  | 0, _ => none
  | fuel + 1, text =>
    match text with
    | '"' :: rest =>
      match parseString rest with
      | none => none
      | some (key, rest) =>
        match skipSpace rest with
        | ':' :: rest =>
          (parseValue fuel (skipSpace rest)).map fun (value, rest) => ((key, value), rest)
        | _ => none
    | _ => none

end

/-- The document of a text, with blanks around it. Each character leads through at most three
levels of the reader, so the text itself bounds the search. -/
def parse? (text : String) : Option Json :=
  match parseValue (3 * text.toList.length + 3) (skipSpace text.toList) with
  | some (json, rest) => if skipSpace rest = [] then some json else none
  | none => none

end Json

end Dialogue
