import Dialogue.Input.Signal

/-!
# Characters from bytes

A character is one to four bytes; the first byte says how many. They are read one by one and
judged when the last has arrived, so a sequence that makes no character is gone as a whole, and a
failure or an end in the middle of one loses the bytes before it.

## Main definitions

* `announced b`: the number of bytes that follow the first byte `b`
* `assemble lead tail`: the character that a first byte and its followers make
* `charSignals deliveries`: what a source shows to a reader of characters
* `decodeAll? bytes`, `encode text`: the text of all the bytes, and the bytes of a text
-/

namespace Dialogue

namespace Utf8

/-- How many bytes follow a first byte, if it begins a character at all. -/
def announced (b : UInt8) : Option Nat :=
  if b ≤ 0x7F then some 0
  else if 0xC2 ≤ b && b ≤ 0xDF then some 1
  else if 0xE0 ≤ b && b ≤ 0xEF then some 2
  else if 0xF0 ≤ b && b ≤ 0xF4 then some 3
  else none

/-- Bytes that may stand inside a character. -/
def isFollower (b : UInt8) : Bool :=
  0x80 ≤ b && b ≤ 0xBF

/-- Bytes that may stand second after `lead`: the shortest form is required, and neither
surrogates nor code points above the last one have a form. -/
def mayFollow (lead b : UInt8) : Bool :=
  if lead = 0xE0 then 0xA0 ≤ b && b ≤ 0xBF
  else if lead = 0xED then 0x80 ≤ b && b ≤ 0x9F
  else if lead = 0xF0 then 0x90 ≤ b && b ≤ 0xBF
  else if lead = 0xF4 then 0x80 ≤ b && b ≤ 0x8F
  else isFollower b

/-- How many of the bytes after `lead` can still belong to a character. -/
def fitting (lead : UInt8) : List UInt8 → Nat
  | [] => 0
  | b :: bs => if mayFollow lead b then 1 + (bs.takeWhile isFollower).length else 0

/-- The part of the code point that a first byte holds. -/
def leadBits (lead : UInt8) : Nat :=
  if lead ≤ 0x7F then lead.toNat
  else if lead ≤ 0xDF then lead.toNat % 0x20
  else if lead ≤ 0xEF then lead.toNat % 0x10
  else lead.toNat % 0x08

/-- The code point spelled by a first byte and its followers. -/
def codePoint (lead : UInt8) (tail : List UInt8) : Nat :=
  tail.foldl (fun code b => code * 0x40 + b.toNat % 0x40) (leadBits lead)

/-- The character that a first byte and all of its followers make. -/
def assemble (lead : UInt8) (tail : List UInt8) : Signal Char :=
  if fitting lead tail = tail.length then .item (Char.ofNat (codePoint lead tail))
  else .failed (.malformed (1 + fitting lead tail))

/-- A character of which some bytes have been read: the first byte, the followers so far, and how
many more are to come after the next one. -/
structure Partial where
  lead : UInt8
  tail : List UInt8
  missing : Nat

/-- Reads characters from byte signals, possibly from the middle of a character. -/
def decode : Option Partial → List (Signal UInt8) → List (Signal Char)
  | none, [] => []
  | some _, [] => [.failed .truncated]
  | none, .ended :: rest => .ended :: decode none rest
  | some _, .ended :: rest => .failed .truncated :: decode none rest
  -- The bytes before a failed read are not kept for the next one.
  | _, .failed error :: rest => .failed error :: decode none rest
  | none, .item b :: rest =>
    match announced b with
    | none => .failed .leadingByte :: decode none rest
    | some 0 => .item (Char.ofNat b.toNat) :: decode none rest
    | some (missing + 1) => decode (some ⟨b, [], missing⟩) rest
  | some ⟨lead, tail, 0⟩, .item b :: rest => assemble lead (tail ++ [b]) :: decode none rest
  | some ⟨lead, tail, missing + 1⟩, .item b :: rest =>
    decode (some ⟨lead, tail ++ [b], missing⟩) rest

end Utf8

/-- What a reader of characters sees of a source. -/
def charSignals (deliveries : List Delivery) : List (Signal Char) :=
  Utf8.decode none (byteSignals deliveries)

namespace Utf8

/-- The text of the bytes, if they are valid as a whole. -/
def decodeAll? (bytes : List UInt8) : Option (List Char) :=
  (decode none (bytes.map .item)).mapM fun
    | .item c => some c
    | _ => none

/-- The bytes of a text. -/
def encode (text : String) : List UInt8 :=
  text.toUTF8.toList

end Utf8

end Dialogue
