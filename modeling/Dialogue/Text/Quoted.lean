import Dialogue.Text.Printable

/-!
# Quoted texts

A text shown on one line, whatever it holds: between double quotes, with a backslash before a
quote or a backslash, short names for the common controls, and the code point in braces for
everything that cannot be seen by itself.

## Main definitions

* `escape c`: how one character is written inside quotes
* `quote text`: the quoted text
-/

namespace Dialogue.Text

/-- A code point in hexadecimal, in braces. -/
def codeEscape (c : Char) : List Char :=
  ['\\', 'u', '\x7b'] ++ Nat.toDigits 16 c.toNat ++ ['\x7d']

/-- One character inside quotes. An apostrophe stands for itself. -/
def escape (c : Char) : List Char :=
  if c = '\x00' then ['\\', '0']
  else if c = '\t' then ['\\', 't']
  else if c = '\r' then ['\\', 'r']
  else if c = '\n' then ['\\', 'n']
  else if c = '\\' then ['\\', '\\']
  else if c = '"' then ['\\', '"']
  else if isExtender c || !isPrintable c then codeEscape c
  else [c]

/-- The text between quotes, each character escaped as it needs. -/
def quote (text : String) : String :=
  String.ofList ('"' :: (text.toList.flatMap escape ++ ['"']))

end Dialogue.Text
