/-!
# Reading from a source

A source of bytes is given by what it will deliver: chunks of bytes, interruptions, failures and
early ends, in order. A reader sees it as a finite list of signals; after the last one the source
is at its end for good. Characters are read from such a list with one character of lookahead.

## Main definitions

* `Signal α`: what one read of an `α` gives: an item, the end of the input, or a failure
* `Delivery`: one step of a source
* `byteSignals deliveries`: what a source shows to a reader of bytes
* `peek`, `next`: looking at the next signal and taking it
* `span accept signals`: the longest run of accepted characters, and what stopped it
-/

namespace Dialogue

/-- Why a read failed. -/
inductive ReadError where
  /-- The source itself failed, with a text of its own. -/
  | source (message : String)
  /-- A byte that begins no character stands where one should begin. -/
  | leadingByte
  /-- The input ends inside a character. -/
  | truncated
  /-- The bytes announced by a first byte make no character; the first `length` of them might
  still have begun one. -/
  | malformed (length : Nat)
  deriving DecidableEq, Repr

/-- The text of a failed read. -/
def ReadError.message : ReadError → String
  | .source message => message
  | .leadingByte => "invalid UTF-8 leading byte"
  | .truncated => "truncated UTF-8 sequence"
  | .malformed length => s!"invalid utf-8 sequence of {length} bytes from index 0"

/-- What one read gives. -/
inductive Signal (α : Type) where
  | item (value : α)
  | ended
  | failed (error : ReadError)
  deriving DecidableEq, Repr

/-- One step of a source of bytes. -/
inductive Delivery where
  /-- Bytes; an empty chunk is an end of the input that is reported once. -/
  | chunk (bytes : List UInt8)
  /-- A read that was interrupted and is tried again at once. -/
  | interrupted
  /-- A read that fails once. -/
  | failure (message : String)
  deriving DecidableEq, Repr

/-- What a reader of bytes sees of one delivery. -/
def Delivery.signals : Delivery → List (Signal UInt8)
  | .chunk [] => [.ended]
  | .chunk (b :: bs) => (b :: bs).map .item
  | .interrupted => []
  | .failure message => [.failed (.source message)]

/-- What a reader of bytes sees of a source. -/
def byteSignals (deliveries : List Delivery) : List (Signal UInt8) :=
  deliveries.flatMap Delivery.signals

/-- A source that delivers the given bytes at once. -/
def deliver (bytes : List UInt8) : List Delivery :=
  [.chunk bytes]

/-- The characters of a text as signals. -/
def textSignals (text : String) : List (Signal Char) :=
  text.toList.map .item

namespace Signal

/-- Takes the next signal. Past the last one the input has ended. -/
def next : List (Signal Char) → Signal Char × List (Signal Char)
  | [] => (.ended, [])
  | signal :: rest => (signal, rest)

/-- Looks at the next signal. A character stays to be taken; an end or a failure has been
reported and is gone. -/
def peek : List (Signal Char) → Signal Char × List (Signal Char)
  | [] => (.ended, [])
  | .item c :: rest => (.item c, .item c :: rest)
  | signal :: rest => (signal, rest)

end Signal

/-- What stopped a run of characters. -/
inductive Halt where
  /-- A character that was not accepted; it has not been taken. -/
  | refused
  | ended
  | failed (error : ReadError)
  deriving DecidableEq, Repr

/-- A run of characters, what stopped it, and the signals after it. -/
structure Span where
  taken : List Char
  halt : Halt
  rest : List (Signal Char)
  deriving DecidableEq, Repr

/-- Takes characters as long as they are accepted. -/
def span (accept : Char → Bool) : List (Signal Char) → Span
  | [] => ⟨[], .ended, []⟩
  | .ended :: rest => ⟨[], .ended, rest⟩
  | .failed error :: rest => ⟨[], .failed error, rest⟩
  | .item c :: rest =>
    if accept c then
      let run := span accept rest
      { run with taken := c :: run.taken }
    else ⟨[], .refused, .item c :: rest⟩

@[simp] theorem span_nil (accept : Char → Bool) : span accept [] = ⟨[], .ended, []⟩ := rfl

@[simp] theorem span_ended (accept : Char → Bool) (rest : List (Signal Char)) :
    span accept (.ended :: rest) = ⟨[], .ended, rest⟩ := rfl

@[simp] theorem span_failed (accept : Char → Bool) (error : ReadError)
    (rest : List (Signal Char)) :
    span accept (.failed error :: rest) = ⟨[], .failed error, rest⟩ := rfl

theorem span_of_accept {accept : Char → Bool} {c : Char} (h : accept c = true)
    (rest : List (Signal Char)) :
    span accept (.item c :: rest) =
      { span accept rest with taken := c :: (span accept rest).taken } := by
  simp [span, h]

theorem span_of_refuse {accept : Char → Bool} {c : Char} (h : accept c = false)
    (rest : List (Signal Char)) :
    span accept (.item c :: rest) = ⟨[], .refused, .item c :: rest⟩ := by
  simp [span, h]

/-- A run uses up the signals it has taken. -/
theorem span_length_le (accept : Char → Bool) (signals : List (Signal Char)) :
    (span accept signals).taken.length + (span accept signals).rest.length ≤ signals.length := by
  induction signals with
  | nil => simp
  | cons signal rest ih =>
    cases signal with
    | ended => simp
    | failed error => simp
    | item c =>
      cases h : accept c with
      | true => simp only [span_of_accept h, List.length_cons]; omega
      | false => simp [span_of_refuse h]

/-- What a refused character leaves behind starts with it. -/
theorem span_rest_of_refused {accept : Char → Bool} {signals : List (Signal Char)}
    (h : (span accept signals).halt = .refused) :
    ∃ c rest, accept c = false ∧ (span accept signals).rest = .item c :: rest := by
  induction signals with
  | nil => simp at h
  | cons signal rest ih =>
    cases signal with
    | ended => simp at h
    | failed error => simp at h
    | item c =>
      cases ha : accept c with
      | true =>
        rw [span_of_accept ha] at h ⊢
        exact ih h
      | false => exact ⟨c, rest, ha, by simp [span_of_refuse ha]⟩

end Dialogue
