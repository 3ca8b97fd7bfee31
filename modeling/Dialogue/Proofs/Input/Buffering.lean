import Dialogue.Proofs.Conversation.Loading
import Dialogue.Proofs.Lexer.Pairing

/-!
# Buffering

A source delivers its bytes in pieces. A piece may end within a character, a word or a line, and
between two pieces reads may be interrupted. A reader takes the bytes off the deliveries one by
one, only as it needs them, and holds no more than the character it has looked at.

What such a reader answers is what the signals of its source say, and these are the same however
the bytes are cut into pieces. There is one pair of sources that differ in their signals and not
in what they answer: nothing at all, and one empty piece, which is an end that is reported before
the input has ended for good.

## Main definitions

* `takeByte`, `takeChar`: a byte and a character taken off the deliveries of a source
* `Reader`: a reader on demand, with one character of lookahead
* `Reader.answers`, `Signal.answers`: what a series of calls is answered, by a reader and by signals
* `Pieces deliveries bytes`: the deliveries bring just these bytes, in pieces that are not empty
* `Signal.Alike`: signals that no call can tell apart

## Main results

* `next_charSignals`: taking a character off the deliveries is taking the next signal
* `Reader.answers_eq`: a reader on demand answers what the signals of its source say
* `Pieces.alike`: pieces show what all their bytes show at once
* `buffering_invisible`: no reader, lexer, parser or conversation can tell how bytes were delivered
-/

namespace Dialogue

open Utf8 (announced assemble decode)

/-! ## Taking off bytes and characters -/

/-- Takes one byte off a source. An interrupted read is tried again, and a chunk is gone with its
last byte; a chunk without bytes is an end of the input. -/
def takeByte : List Delivery → Signal UInt8 × List Delivery
  | [] => (.ended, [])
  | .interrupted :: later => takeByte later
  | .failure message :: later => (.failed (.source message), later)
  | .chunk [] :: later => (.ended, later)
  | .chunk [b] :: later => (.item b, later)
  | .chunk (b :: next :: bytes) :: later => (.item b, .chunk (next :: bytes) :: later)

/-- Takes the given number of bytes off a source. The first read without a byte ends it, and the
bytes before are lost. -/
def takeBytes : Nat → List Delivery → Except ReadError (List UInt8) × List Delivery
  | 0, deliveries => (.ok [], deliveries)
  | count + 1, deliveries =>
    match takeByte deliveries with
    | (.ended, later) => (.error .truncated, later)
    | (.failed error, later) => (.error error, later)
    | (.item b, later) => ((takeBytes count later).1.map (b :: ·), (takeBytes count later).2)

/-- The character that a first byte makes with the bytes after it, if these could be read. -/
def completed (lead : UInt8) : Except ReadError (List UInt8) → Signal Char
  | .ok tail => assemble lead tail
  | .error error => .failed error

/-- Takes one character off a source: its first byte, and as many more as that announces. -/
def takeChar (deliveries : List Delivery) : Signal Char × List Delivery :=
  match takeByte deliveries with
  | (.ended, later) => (.ended, later)
  | (.failed error, later) => (.failed error, later)
  | (.item lead, later) =>
    match announced lead with
    | none => (.failed .leadingByte, later)
    | some 0 => (.item (Char.ofNat lead.toNat), later)
    | some (missing + 1) =>
      (completed lead (takeBytes (missing + 1) later).1, (takeBytes (missing + 1) later).2)

/-- A source has nothing more to deliver, or it shows the byte that is taken off it first. -/
theorem byteSignals_takeByte (deliveries : List Delivery) :
    (byteSignals deliveries = [] ∧ takeByte deliveries = (.ended, [])) ∨
      byteSignals deliveries =
        (takeByte deliveries).1 :: byteSignals (takeByte deliveries).2 := by
  induction deliveries with
  | nil => exact Or.inl ⟨rfl, rfl⟩
  | cons delivery later ih =>
    cases delivery with
    | interrupted => exact ih
    | failure message => exact Or.inr rfl
    | chunk bytes =>
      rcases bytes with _ | ⟨b, _ | ⟨next, bytes⟩⟩
      · exact Or.inr rfl
      · exact Or.inr rfl
      · exact Or.inr rfl

/-- Within a character, the end of a source is one of its ends. -/
theorem decode_takeByte (begun : Utf8.Partial) (deliveries : List Delivery) :
    decode (some begun) (byteSignals deliveries) =
      decode (some begun) ((takeByte deliveries).1 :: byteSignals (takeByte deliveries).2) := by
  rcases byteSignals_takeByte deliveries with ⟨hnil, hbyte⟩ | hcons
  · rw [hnil, hbyte]
    rfl
  · rw [hcons]

/-- What is left of a character is read as the bytes that it lacks. -/
theorem decode_takeBytes (lead : UInt8) (tail : List UInt8) (missing : Nat)
    (deliveries : List Delivery) :
    decode (some ⟨lead, tail, missing⟩) (byteSignals deliveries) =
      completed lead ((takeBytes (missing + 1) deliveries).1.map (tail ++ ·)) ::
        charSignals (takeBytes (missing + 1) deliveries).2 := by
  -- Each byte moves from those that are lacking to those that have been read.
  induction missing generalizing tail deliveries with
  | zero =>
    rw [decode_takeByte, takeBytes]
    rcases takeByte deliveries with ⟨_ | _ | _, later⟩ <;> rfl
  | succ missing ih =>
    rw [decode_takeByte, takeBytes]
    rcases takeByte deliveries with ⟨signal, later⟩
    cases signal with
    | ended => rfl
    | failed error => rfl
    | item b =>
      have hstep : decode (some ⟨lead, tail, missing + 1⟩) (.item b :: byteSignals later) =
          decode (some ⟨lead, tail ++ [b], missing⟩) (byteSignals later) := rfl
      rw [hstep, ih]
      dsimp only
      cases (takeBytes (missing + 1) later).1 <;> simp [completed, Except.map]

/-- **Taking a character off the deliveries is taking the next signal.** -/
theorem next_charSignals (deliveries : List Delivery) :
    Signal.next (charSignals deliveries) =
      ((takeChar deliveries).1, charSignals (takeChar deliveries).2) := by
  rcases byteSignals_takeByte deliveries with ⟨hnil, hbyte⟩ | hcons
  · rw [charSignals, hnil, takeChar, hbyte]
    rfl
  · rw [charSignals, hcons, takeChar]
    rcases takeByte deliveries with ⟨signal, later⟩
    cases signal with
    | ended => rfl
    | failed error => rfl
    | item lead =>
      simp only [decode]
      -- The lead byte says how many bytes follow it, and both sides take as many.
      cases announced lead with
      | none => rfl
      | some missing =>
        cases missing with
        | zero => rfl
        | succ missing =>
          dsimp only
          rw [decode_takeBytes]
          cases (takeBytes (missing + 1) later).1 <;> rfl

/-! ## A reader on demand -/

/-- The two ways to ask for a character. -/
inductive Call where
  /-- Looks at the next character, which stays to be taken. -/
  | peek
  /-- Takes the next character. -/
  | next

/-- Looking at the next signal is taking it and, if it is a character, putting it back. -/
theorem Signal.peek_eq (signals : List (Signal Char)) :
    Signal.peek signals =
      match Signal.next signals with
      | (.item c, rest) => (.item c, .item c :: rest)
      | (signal, rest) => (signal, rest) := by
  rcases signals with _ | ⟨signal, rest⟩
  · rfl
  · cases signal <;> rfl

/-- What signals answer to a call, and what is left of them. -/
def Signal.answer : Call → List (Signal Char) → Signal Char × List (Signal Char)
  | .peek => Signal.peek
  | .next => Signal.next

/-- What signals answer to a series of calls. -/
def Signal.answers (signals : List (Signal Char)) : List Call → List (Signal Char)
  | [] => []
  | call :: calls =>
    (Signal.answer call signals).1 :: Signal.answers (Signal.answer call signals).2 calls

/-- A reader that takes bytes off a source only as it needs them: the deliveries to come, and the
character that it has looked at and not yet taken. -/
structure Reader where
  deliveries : List Delivery
  ahead : Option Char := none

namespace Reader

/-- Looks at the next character. Nothing is taken off the source if there has been a look at it
before, and an end or a failure is not kept. -/
def peek (reader : Reader) : Signal Char × Reader :=
  match reader.ahead with
  | some c => (.item c, reader)
  | none =>
    match takeChar reader.deliveries with
    | (.item c, later) => (.item c, ⟨later, some c⟩)
    | (signal, later) => (signal, ⟨later, none⟩)

/-- Takes the next character: the one that has been looked at, or one off the source. -/
def next (reader : Reader) : Signal Char × Reader :=
  match reader.ahead with
  | some c => (.item c, ⟨reader.deliveries, none⟩)
  | none => ((takeChar reader.deliveries).1, ⟨(takeChar reader.deliveries).2, none⟩)

/-- What a reader answers to a call, and the reader after it. -/
def answer : Call → Reader → Signal Char × Reader
  | .peek => peek
  | .next => next

/-- What a reader answers to a series of calls. -/
def answers (reader : Reader) : List Call → List (Signal Char)
  | [] => []
  | call :: calls => (answer call reader).1 :: (answer call reader).2.answers calls

/-- What is still to come: the character that has been looked at, and the signals of the source. -/
def signals (reader : Reader) : List (Signal Char) :=
  match reader.ahead with
  | some c => .item c :: charSignals reader.deliveries
  | none => charSignals reader.deliveries

theorem peek_signals (reader : Reader) :
    Signal.peek reader.signals = (reader.peek.1, reader.peek.2.signals) := by
  obtain ⟨deliveries, ahead⟩ := reader
  cases ahead with
  | some c => rfl
  | none =>
    simp only [signals, peek]
    rw [Signal.peek_eq, next_charSignals]
    rcases takeChar deliveries with ⟨signal, later⟩
    cases signal <;> rfl

theorem next_signals (reader : Reader) :
    Signal.next reader.signals = (reader.next.1, reader.next.2.signals) := by
  obtain ⟨deliveries, ahead⟩ := reader
  cases ahead with
  | some c => rfl
  | none => exact next_charSignals deliveries

/-- Reader and signals answer a call alike, and are then again at the same place. -/
theorem answer_signals (call : Call) (reader : Reader) :
    Signal.answer call reader.signals =
      ((answer call reader).1, (answer call reader).2.signals) := by
  cases call with
  | peek => exact reader.peek_signals
  | next => exact reader.next_signals

/-- **A reader on demand answers what the signals of its source say**, whatever it is asked. -/
theorem answers_eq (reader : Reader) (calls : List Call) :
    reader.answers calls = Signal.answers reader.signals calls := by
  induction calls generalizing reader with
  | nil => rfl
  | cons call calls ih =>
    rw [answers, Signal.answers, answer_signals, ih]

end Reader

/-! ## Bytes in pieces -/

/-- The deliveries bring just these bytes: chunks that are not empty, and interrupted reads. -/
inductive Pieces : List Delivery → List UInt8 → Prop
  | nil : Pieces [] []
  | interrupted {later : List Delivery} {bytes : List UInt8} (pieces : Pieces later bytes) :
      Pieces (.interrupted :: later) bytes
  | chunk {piece : List UInt8} {later : List Delivery} {bytes : List UInt8} (nonempty : piece ≠ [])
      (pieces : Pieces later bytes) : Pieces (.chunk piece :: later) (piece ++ bytes)

/-- Pieces show a reader of bytes all their bytes, and nothing else. -/
theorem Pieces.byteSignals_eq {deliveries : List Delivery} {bytes : List UInt8}
    (h : Pieces deliveries bytes) : byteSignals deliveries = bytes.map .item := by
  induction h with
  | nil => rfl
  | interrupted _ ih => exact ih
  | @chunk piece later bytes hne _ ih =>
    obtain ⟨b, tail, rfl⟩ := List.exists_cons_of_ne_nil hne
    rw [List.map_append, ← ih]
    rfl

namespace Signal

/-- Signals that no call can tell apart: they are the same, or there are none, and only the end that
comes after the last one. -/
def Alike (signals signals' : List (Signal Char)) : Prop :=
  signals = signals' ∨ signals = [] ∧ signals' = [.ended]

variable {signals signals' : List (Signal Char)}

/-- The first call is answered alike, and leaves the same signals. -/
theorem Alike.answer_eq (h : Alike signals signals') (call : Call) :
    answer call signals = answer call signals' := by
  rcases h with rfl | ⟨rfl, rfl⟩
  · rfl
  · cases call <;> rfl

theorem Alike.answers_eq (h : Alike signals signals') (calls : List Call) :
    answers signals calls = answers signals' calls := by
  cases calls with
  | nil => rfl
  | cons call calls => rw [answers, answers, h.answer_eq]

end Signal

/-- **Pieces show what all their bytes show at once.** -/
theorem Pieces.alike {deliveries : List Delivery} {bytes : List UInt8}
    (h : Pieces deliveries bytes) :
    Signal.Alike (charSignals deliveries) (charSignals (deliver bytes)) := by
  by_cases hempty : bytes = []
  · refine Or.inr ⟨?_, ?_⟩
    · rw [charSignals, h.byteSignals_eq, hempty]
      rfl
    · rw [hempty]
      rfl
  · exact Or.inl (by rw [charSignals, charSignals, h.byteSignals_eq, byteSignals_deliver hempty])

/-! ## Whatever reads them -/

/-- Lexers that start on signals alike make the same first move, and are the same after it. -/
theorem Lexer.advance_of_alike {signals signals' : List (Signal Char)}
    (h : Signal.Alike signals signals') :
    ({ signals } : Lexer).advance = ({ signals := signals' } : Lexer).advance := by
  rcases h with rfl | ⟨rfl, rfl⟩
  · rfl
  · rfl

theorem Lexer.advance_after_congr {lexer lexer' : Lexer} (h : lexer.advance = lexer'.advance)
    (n : Nat) : (lexer.after n).advance = (lexer'.after n).advance := by
  induction n with
  | zero => exact h
  | succ n ih => rw [after, after, ih]

section Source

open TokenSource

variable {σ : Type} [TokenSource σ] {source source' : σ}

/-- What an attempt to read a command comes to is decided by the first move. -/
theorem Command.parse_congr (h : advance source = advance source') :
    parse source = parse source' := by
  rw [parse, parse, h]

theorem Command.parse_sourceAfter_congr (h : parse source = parse source') (n : Nat) :
    parse (sourceAfter source n) = parse (sourceAfter source' n) := by
  induction n with
  | zero => exact h
  | succ n ih => rw [sourceAfter, sourceAfter, ih]

theorem scanAll_congr (h : Command.parse source = Command.parse source') :
    scanAll source = scanAll source' := by
  rcases hparse : Command.parse source with ⟨parsed, moved⟩
  have hparse' := h.symm.trans hparse
  cases parsed with
  | command command => rw [scanAll_of_command hparse, scanAll_of_command hparse']
  | finished => rw [scanAll_of_finished hparse, scanAll_of_finished hparse']
  | failed error => rw [scanAll_of_failed hparse, scanAll_of_failed hparse']

end Source

/-- **Buffering is invisible.** However bytes are cut into pieces, and whatever reads are
interrupted between them: a reader on demand and the signals of the source answer every series of
calls, the lexer makes the same moves, with the same tokens and errors, the parser comes to the same
commands and errors, and every conversation is left the same as if all bytes came at once. -/
theorem buffering_invisible {deliveries : List Delivery} {bytes : List UInt8}
    (h : Pieces deliveries bytes) :
    (∀ calls, Reader.answers { deliveries } calls =
      Reader.answers { deliveries := deliver bytes } calls) ∧
    (∀ calls, Signal.answers (charSignals deliveries) calls =
      Signal.answers (charSignals (deliver bytes)) calls) ∧
    (∀ n, ((Lexer.ofDeliveries deliveries).after n).advance =
      ((Lexer.ofDeliveries (deliver bytes)).after n).advance) ∧
    (∀ n, Command.parse (Command.sourceAfter (Lexer.ofDeliveries deliveries) n) =
      Command.parse (Command.sourceAfter (Lexer.ofDeliveries (deliver bytes)) n)) ∧
    scanAll (Lexer.ofDeliveries deliveries) = scanAll (Lexer.ofDeliveries (deliver bytes)) ∧
    ∀ (η : Type) [Sink η] (conversation : Conversation η),
      conversation.load deliveries = conversation.load (deliver bytes) := by
  have hadvance : (Lexer.ofDeliveries deliveries).advance =
      (Lexer.ofDeliveries (deliver bytes)).advance := Lexer.advance_of_alike h.alike
  have hparse : Command.parse (Lexer.ofDeliveries deliveries) =
      Command.parse (Lexer.ofDeliveries (deliver bytes)) := Command.parse_congr hadvance
  have hscan := scanAll_congr hparse
  refine ⟨fun calls => ?_, h.alike.answers_eq, Lexer.advance_after_congr hadvance,
    Command.parse_sourceAfter_congr hparse, hscan, fun η _ conversation => ?_⟩
  · rw [Reader.answers_eq, Reader.answers_eq]
    exact h.alike.answers_eq calls
  · rw [Conversation.load, Conversation.load, Conversation.loadFrom_eq, Conversation.loadFrom_eq,
      hscan]

/-- A prompt in pieces: a cut within the word, a cut within the last character, and there an
interrupted read. -/
def promptInPieces : List Delivery :=
  [.chunk [65, 83], .chunk [75, 32, 0xC3], .interrupted, .chunk [0xA9]]

/-- The pieces of a character are put together. -/
theorem buffering_invisible_promptInPieces :
    Pieces promptInPieces [65, 83, 75, 32, 0xC3, 0xA9] ∧
      Reader.answers { deliveries := promptInPieces }
          [.next, .next, .next, .next, .peek, .next, .peek, .next] =
        [.item 'A', .item 'S', .item 'K', .item ' ', .item 'é', .item 'é', .ended, .ended] ∧
      ((Lexer.ofDeliveries promptInPieces).after 1).advance.2.current =
        ⟨.prompt, "é", ⟨1, 5⟩⟩ := by
  have hpieces : Pieces promptInPieces [65, 83, 75, 32, 0xC3, 0xA9] :=
    .chunk (by decide) (.chunk (by decide) (.interrupted (.chunk (by decide) .nil)))
  obtain ⟨hreader, -, hmoves, -⟩ := buffering_invisible hpieces
  refine ⟨hpieces, ?_, ?_⟩
  · rw [hreader]
    decide
  · rw [hmoves]
    decide

end Dialogue
