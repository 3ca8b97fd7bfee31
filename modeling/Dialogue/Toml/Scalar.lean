import Dialogue.Decimal.Nearest

/-!
# TOML strings, numbers and dates

Readers of the values that have no parts. Each takes the characters at the front and gives what
they mean and what follows them.

## Main definitions

* `Toml.parseString`: the four kinds of strings
* `Toml.parseNumber`: integers and numbers with a fraction
* `Toml.parseDatetime`: dates, times and both
* `Toml.datetimeOfText?`: dates, times and both, as texts of their own
-/

namespace Dialogue

namespace Toml

/-- Blanks inside a line. -/
def isSpace (c : Char) : Bool :=
  c = ' ' || c = '\t'

/-- What follows the blanks. -/
def skipSpace (text : List Char) : List Char :=
  text.dropWhile isSpace

/-- A line break: a line feed, with a carriage return before it or without. -/
def newline? : List Char → Option (List Char)
  | '\n' :: rest => some rest
  | '\r' :: '\n' :: rest => some rest
  | _ => none

/-- Characters that stand for themselves in a comment or a string: no controls but the tab. -/
def isPlain (c : Char) : Bool :=
  c = '\t' || (0x20 ≤ c.toNat && c.toNat ≠ 0x7F)

/-!
### Strings
-/

/-- The value of a hexadecimal digit. -/
def hexValue? (c : Char) : Option Nat :=
  if c.isDigit then some (c.toNat - '0'.toNat)
  else if 'a' ≤ c && c ≤ 'f' then some (c.toNat - 'a'.toNat + 10)
  else if 'A' ≤ c && c ≤ 'F' then some (c.toNat - 'A'.toNat + 10)
  else none

/-- The character with a code point given in hexadecimal, if there is one. -/
def hexChar? (digits : List Char) : Option Char := do
  let code ← digits.foldlM (fun code c => (hexValue? c).map (code * 16 + ·)) 0
  if code.isValidChar then some (Char.ofNat code) else none

/-- The character named by a letter after a backslash. -/
def escaped? (c : Char) : Option Char :=
  if c = 'b' then some '\x08'
  else if c = 't' then some '\t'
  else if c = 'n' then some '\n'
  else if c = 'f' then some '\x0c'
  else if c = 'r' then some '\r'
  else if c = '"' || c = '\\' then some c
  else none

/-- Puts a character in front of what a reader gives. -/
def prepend (c : Option Char) (reads : Option (List Char × List Char)) :
    Option (List Char × List Char) :=
  match c, reads with
  | some c, some (text, rest) => some (c :: text, rest)
  | _, _ => none

/-- A string on one line after its opening quote. -/
def parseBasic : List Char → Option (List Char × List Char)
  | '"' :: rest => some ([], rest)
  | '\\' :: 'u' :: a :: b :: c :: d :: rest => prepend (hexChar? [a, b, c, d]) (parseBasic rest)
  | '\\' :: 'U' :: a :: b :: c :: d :: e :: f :: g :: h :: rest =>
    prepend (hexChar? [a, b, c, d, e, f, g, h]) (parseBasic rest)
  | '\\' :: c :: rest => prepend (escaped? c) (parseBasic rest)
  | c :: rest => if c ≠ '\\' && isPlain c then prepend (some c) (parseBasic rest) else none
  | [] => none

/-- A literal string on one line after its opening apostrophe. -/
def parseLiteral : List Char → Option (List Char × List Char)
  | [] => none
  | c :: rest =>
    if c = '\x27' then some ([], rest)
    else if isPlain c then prepend (some c) (parseLiteral rest)
    else none

/-- The blanks up to the end of the line are all that is left of it. -/
def endsLine (text : List Char) : Bool :=
  (newline? (skipSpace text)).isSome

/-- A string of several lines after its opening quotes. Up to two quotes may stand right before
the closing ones. A backslash at the end of a line takes away the line break and all blanks and
line breaks after it; `joining` is set while they are passed over. -/
def parseBasicLines (joining : Bool) : List Char → Option (List Char × List Char)
  | '"' :: '"' :: '"' :: '"' :: '"' :: rest => some (['"', '"'], rest)
  | '"' :: '"' :: '"' :: '"' :: rest => some (['"'], rest)
  | '"' :: '"' :: '"' :: rest => some ([], rest)
  | '\r' :: '\n' :: rest =>
    if joining then parseBasicLines true rest
    else prepend (some '\n') (parseBasicLines false rest)
  | '\\' :: 'u' :: a :: b :: c :: d :: rest =>
    prepend (hexChar? [a, b, c, d]) (parseBasicLines false rest)
  | '\\' :: 'U' :: a :: b :: c :: d :: e :: f :: g :: h :: rest =>
    prepend (hexChar? [a, b, c, d, e, f, g, h]) (parseBasicLines false rest)
  | '\\' :: c :: rest =>
    if endsLine (c :: rest) then parseBasicLines true (c :: rest)
    else prepend (escaped? c) (parseBasicLines false rest)
  | c :: rest =>
    if joining && (isSpace c || c = '\n') then parseBasicLines true rest
    else if c = '\n' || (c ≠ '\\' && isPlain c) then
      prepend (some c) (parseBasicLines false rest)
    else none
  | [] => none

/-- A literal string of several lines after its opening apostrophes. -/
def parseLiteralLines : List Char → Option (List Char × List Char)
  | '\r' :: '\n' :: rest => prepend (some '\n') (parseLiteralLines rest)
  | c :: rest =>
    if (c :: rest).take 5 == List.replicate 5 '\x27' then some (['\x27', '\x27'], rest.drop 4)
    else if (c :: rest).take 4 == List.replicate 4 '\x27' then some (['\x27'], rest.drop 3)
    else if (c :: rest).take 3 == List.replicate 3 '\x27' then some ([], rest.drop 2)
    else if c = '\n' || isPlain c then prepend (some c) (parseLiteralLines rest)
    else none
  | [] => none

/-- A line break right after the opening quotes of several lines does not count. -/
def skipFirstNewline (text : List Char) : List Char :=
  (newline? text).getD text

/-- A string of one line, as it may also stand for a key. -/
def parseLineString : List Char → Option (List Char × List Char)
  | '"' :: rest => parseBasic rest
  | c :: rest => if c = '\x27' then parseLiteral rest else none
  | [] => none

/-- A string of any kind. -/
def parseString (text : List Char) : Option (List Char × List Char) :=
  if text.take 3 == List.replicate 3 '"' then
    parseBasicLines false (skipFirstNewline (text.drop 3))
  else if text.take 3 == List.replicate 3 '\x27' then
    parseLiteralLines (skipFirstNewline (text.drop 3))
  else parseLineString text

/-!
### Numbers
-/

/-- Digits after a first one, with single underscores between digits left out. -/
def moreDigits (isDigit : Char → Bool) : List Char → List Char × List Char
  | '_' :: c :: rest =>
    if isDigit c then
      let (digits, rest) := moreDigits isDigit rest
      (c :: digits, rest)
    else ([], '_' :: c :: rest)
  | c :: rest =>
    if isDigit c then
      let (digits, rest) := moreDigits isDigit rest
      (c :: digits, rest)
    else ([], c :: rest)
  | [] => ([], [])

/-- One or more digits, with single underscores between digits left out. -/
def parseDigits (isDigit : Char → Bool) : List Char → Option (List Char × List Char)
  | c :: rest =>
    if isDigit c then
      let (digits, rest) := moreDigits isDigit rest
      some (c :: digits, rest)
    else none
  | [] => none

/-- The digits of an integer without sign: a zero, or digits of which the first is none. -/
def parseWhole : List Char → Option (List Char × List Char)
  | '0' :: rest => some (['0'], rest)
  | text => parseDigits Char.isDigit text

/-- A point with digits. -/
def parseFraction : List Char → Option (List Char × List Char)
  | '.' :: rest => parseDigits Char.isDigit rest
  | _ => none

/-- An exponent. -/
def parseExponent : List Char → Option (Int × List Char)
  | c :: rest =>
    if c = 'e' || c = 'E' then do
      let (negative, rest) := Decimal.splitSign rest
      let (digits, rest) ← parseDigits Char.isDigit rest
      let value : Int := Decimal.natOfDigits digits
      some (if negative then -value else value, rest)
    else none
  | [] => none

/-- A number. -/
inductive Number where
  | integer (value : Int64)
  | float (value : Float)

/-- A fraction and an exponent after the digits of an integer; at least one of them is there. -/
def parseFloatTail (text : List Char) : Option ((List Char × Int) × List Char) :=
  match parseFraction text with
  | some (fraction, rest) =>
    match parseExponent rest with
    | some (exponent, rest) => some ((fraction, exponent), rest)
    | none => some ((fraction, 0), rest)
  | none => (parseExponent text).map fun (exponent, rest) => (([], exponent), rest)

/-- An integer in the range of 64 bits with sign. -/
def int64? (value : Int) : Option Int64 :=
  if Int64.minValue.toInt ≤ value && value ≤ Int64.maxValue.toInt then some (Int64.ofInt value)
  else none

/-- An integer in another base, after its mark. -/
def parseBase (base : Nat) (text : List Char) : Option (Number × List Char) := do
  let isDigit (c : Char) : Bool := ((hexValue? c).map (decide <| · < base)).getD false
  let (digits, rest) ← parseDigits isDigit text
  let value := digits.foldl (fun value c => value * base + (hexValue? c).getD 0) 0
  (int64? value).map fun value => (.integer value, rest)

/-- A number without sign or with one, in base ten. A number too large for a double is refused, but
one too far below zero is not. -/
def parseDecimal (text : List Char) : Option (Number × List Char) := do
  let (negative, body) := Decimal.splitSign text
  let (whole, rest) ← parseWhole body
  match parseFloatTail rest with
  | some ((fraction, exponent), rest) =>
    let value := Decimal.toFloat
      ⟨negative, Decimal.natOfDigits (whole ++ fraction), exponent - (fraction.length : Int)⟩
    if value.isInf && !negative then none else some (.float value, rest)
  | none =>
    let value : Int := Decimal.natOfDigits whole
    (int64? (if negative then -value else value)).map fun value => (.integer value, rest)

/-- An infinity or a number that is none, after its sign. -/
def parseSpecial (negative : Bool) : List Char → Option (Number × List Char)
  | 'i' :: 'n' :: 'f' :: rest =>
    some (.float (Decimal.floatOfBits negative Decimal.infinityBits), rest)
  | 'n' :: 'a' :: 'n' :: rest =>
    some (.float (Decimal.floatOfBits negative Decimal.nanBits), rest)
  | _ => none

/-- A number. -/
def parseNumber (text : List Char) : Option (Number × List Char) :=
  match text with
  | '0' :: 'x' :: rest => parseBase 16 rest
  | '0' :: 'o' :: rest => parseBase 8 rest
  | '0' :: 'b' :: rest => parseBase 2 rest
  | text =>
    let (negative, body) := Decimal.splitSign text
    match parseSpecial negative body with
    | some special => some special
    | none => parseDecimal text

/-!
### Dates and times
-/

/-- A number of exactly `count` digits that lies between two bounds. -/
def parseField (count low high : Nat) (text : List Char) : Option (Nat × List Char) :=
  let digits := text.take count
  if digits.length = count && digits.all Char.isDigit then
    let value := Decimal.natOfDigits digits
    if low ≤ value && value ≤ high then some (value, text.drop count) else none
  else none

/-- A given character. -/
def parseMark (mark : Char) : List Char → Option (Unit × List Char)
  | c :: rest => if c = mark then some ((), rest) else none
  | [] => none

/-- A number with at least `count` digits. -/
def padded (count value : Nat) : String :=
  let digits := Nat.toDigits 10 value
  String.ofList (List.replicate (count - digits.length) '0' ++ digits)

/-- The number of days of a month. -/
def daysIn (year month : Nat) : Nat :=
  if month = 2 then
    if year % 4 = 0 && (year % 100 ≠ 0 || year % 400 = 0) then 29 else 28
  else if month = 4 || month = 6 || month = 9 || month = 11 then 30
  else 31

/-- A date of the calendar. -/
def parseDate (text : List Char) : Option (String × List Char) := do
  let (year, text) ← parseField 4 0 9999 text
  let (_, text) ← parseMark '-' text
  let (month, text) ← parseField 2 1 12 text
  let (_, text) ← parseMark '-' text
  let (day, text) ← parseField 2 1 (daysIn year month) text
  some (padded 4 year ++ "-" ++ padded 2 month ++ "-" ++ padded 2 day, text)

/-- The normal spelling of a fraction of a second: nine digits at most, without zeros at the
end. -/
def fractionSpelling (digits : List Char) : String :=
  match ((digits.take 9).reverse.dropWhile (· == '0')).reverse with
  | [] => ""
  | kept => String.ofList ('.' :: kept)

/-- A fraction of a second, if there is one. -/
def parseSecondFraction (text : List Char) : String × List Char :=
  match text with
  | '.' :: rest =>
    match rest.takeWhile Char.isDigit with
    | [] => ("", text)
    | digits => (fractionSpelling digits, rest.dropWhile Char.isDigit)
  | text => ("", text)

/-- A time of day. -/
def parseTime (text : List Char) : Option (String × List Char) := do
  let (hour, text) ← parseField 2 0 23 text
  let (_, text) ← parseMark ':' text
  let (minute, text) ← parseField 2 0 59 text
  let (_, text) ← parseMark ':' text
  let (second, text) ← parseField 2 0 60 text
  let (fraction, text) := parseSecondFraction text
  some (padded 2 hour ++ ":" ++ padded 2 minute ++ ":" ++ padded 2 second ++ fraction, text)

/-- A shift from universal time by some minutes. No shift at all is positive. -/
def offsetSpelling (sign : Char) (minutes : Nat) : String :=
  String.singleton (if minutes = 0 then '+' else sign) ++
    padded 2 (minutes / 60) ++ ":" ++ padded 2 (minutes % 60)

/-- A shift from universal time, if there is one. -/
def parseOffset (text : List Char) : Option (String × List Char) :=
  match text with
  | c :: rest =>
    if c = 'Z' || c = 'z' then some ("Z", rest)
    else if c = '+' || c = '-' then do
      let (hour, rest) ← parseField 2 0 23 rest
      let (_, rest) ← parseMark ':' rest
      let (minute, rest) ← parseField 2 0 59 rest
      some (offsetSpelling c (hour * 60 + minute), rest)
    else some ("", text)
  | [] => some ("", [])

/-- The time after a date, if there is one. -/
def parseTimeAfterDate (text : List Char) : Option (String × List Char) :=
  match text with
  | c :: rest =>
    if c = 'T' || c = 't' || c = ' ' then
      match parseTime rest with
      | some (time, rest) => do
        let (offset, rest) ← parseOffset rest
        some ("T" ++ time ++ offset, rest)
      | none => some ("", text)
    else some ("", text)
  | [] => some ("", [])

/-- A date, a time, or both, in its normal spelling. -/
def parseDatetime (text : List Char) : Option (String × List Char) :=
  match parseDate text with
  | some (date, rest) => do
    let (time, rest) ← parseTimeAfterDate rest
    some (date ++ time, rest)
  | none => parseTime text

/-- The date, the time, or both, that a text consists of, in its normal spelling. -/
def datetimeOfText? (text : List Char) : Option String :=
  match parseDatetime text with
  | some (spelling, []) => some spelling
  | _ => none

end Toml

end Dialogue
