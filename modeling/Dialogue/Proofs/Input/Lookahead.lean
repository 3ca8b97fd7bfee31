import Dialogue.Proofs.Input.Buffering

/-!
# Lookahead

A look at a character leaves it to be taken; a look at an end of the input or at a failure uses it
up, as taking it would. So every call is one of two things: a look at a character, which moves
nothing, or a step to the next signal, whichever way it was asked for.

Without the looks at characters, the answers to any series of calls are those of a reader that never
looks ahead. This does not depend on what the source delivers, nor on whether it goes on after an
end or a failure.

## Main definitions

* `Call.isLook call answer`: the call has looked at a character
* `taken calls answers`: the answers without the characters that were only looked at

## Main results

* `Signal.answer_cases`: a call looks at a character and moves nothing, or it is a call of `next`
* `Signal.answers_again`: a character that has been looked at is the next answer
* `Signal.taken_isPrefix`: without the looks at characters, only the signals are left, in order
* `lookahead_transparent`: the same of a reader on demand, over every source
-/

namespace Dialogue

/-- The call has looked at a character, which stays to be taken. -/
def Call.isLook : Call → Signal Char → Bool
  | .peek, .item _ => true
  | _, _ => false

/-- The answers to some calls, without the characters that were only looked at. -/
def taken (calls : List Call) (answers : List (Signal Char)) : List (Signal Char) :=
  ((calls.zip answers).filter fun asked => !asked.1.isLook asked.2).map Prod.snd

section Taken

variable {call : Call} {answer : Signal Char}

theorem taken_cons_of_look (h : call.isLook answer = true) (calls : List Call)
    (answers : List (Signal Char)) :
    taken (call :: calls) (answer :: answers) = taken calls answers := by
  simp [taken, h]

theorem taken_cons_of_step (h : call.isLook answer = false) (calls : List Call)
    (answers : List (Signal Char)) :
    taken (call :: calls) (answer :: answers) = answer :: taken calls answers := by
  simp [taken, h]

end Taken

namespace Signal

variable {signals : List (Signal Char)}

/-- **A call looks at a character and moves nothing, or it is a step**, as a call of `next` is. -/
theorem answer_cases (call : Call) (signals : List (Signal Char)) :
    (call.isLook (answer call signals).1 = true ∧ (answer call signals).2 = signals) ∨
      (call.isLook (answer call signals).1 = false ∧ answer call signals = next signals) := by
  cases call with
  | next => exact Or.inr ⟨rfl, rfl⟩
  | peek =>
    rcases signals with _ | ⟨signal, rest⟩
    · exact Or.inr ⟨rfl, rfl⟩
    · cases signal with
      | item c => exact Or.inl ⟨rfl, rfl⟩
      | ended => exact Or.inr ⟨rfl, rfl⟩
      | failed error => exact Or.inr ⟨rfl, rfl⟩

/-- What has been looked at is answered to whatever is asked next. -/
theorem answer_of_look {c : Char} (h : (answer .peek signals).1 = .item c) (call : Call) :
    (answer call (answer .peek signals).2).1 = .item c := by
  rcases signals with _ | ⟨signal, rest⟩
  · cases h
  · cases signal with
    | item d =>
      cases call with
      | peek => exact h
      | next => exact h
    | ended => cases h
    | failed error => cases h

/-- A character that has been looked at is the next answer. -/
theorem answers_again {calls : List Call} {i : Nat} {c : Char} (hnext : i + 1 < calls.length)
    (hpeek : calls[i]? = some .peek) (hlook : (answers signals calls)[i]? = some (.item c)) :
    (answers signals calls)[i + 1]? = some (.item c) := by
  -- On the calls before the look, each of which leaves other signals.
  induction i generalizing signals calls with
  | zero =>
    rcases calls with _ | ⟨call, _ | ⟨later, calls⟩⟩
    · simp at hpeek
    · simp at hnext
    · obtain rfl : call = .peek := by simpa using hpeek
      have hfirst : (answer .peek signals).1 = .item c := by simpa [answers] using hlook
      simpa [answers] using answer_of_look hfirst later
  | succ i ih =>
    rcases calls with _ | ⟨call, calls⟩
    · simp at hpeek
    · rw [answers, List.getElem?_cons_succ] at hlook ⊢
      exact ih (by simpa using hnext) (by simpa using hpeek) hlook

/-- **Without the looks at characters, only the signals are left**, in order: none is skipped and
none comes twice. -/
theorem taken_isPrefix (signals : List (Signal Char)) (calls : List Call) {n : Nat}
    (hn : (taken calls (answers signals calls)).length ≤ n) :
    taken calls (answers signals calls) <+: answers signals (List.replicate n .next) := by
  induction calls generalizing signals n with
  | nil => exact List.nil_prefix
  | cons call calls ih =>
    rw [answers] at hn ⊢
    -- A look leaves the signals as they are, and a call that takes one is a `next`.
    rcases answer_cases call signals with ⟨hlook, hsame⟩ | ⟨hstep, hnext⟩
    · rw [taken_cons_of_look hlook, hsame] at hn ⊢
      exact ih signals hn
    · rw [taken_cons_of_step hstep, hnext] at hn ⊢
      cases n with
      | zero => simp at hn
      | succ n =>
        rw [List.replicate_succ, answers]
        exact List.cons_prefix_cons.mpr ⟨rfl, ih _ (by simpa using hn)⟩

end Signal

/-- **Lookahead is transparent.** Whatever a source delivers, and in whatever order a reader is
asked to look and to take: a character that is answered to a look is answered again to the next
call; and without these looks the answers are the first ones of the same reader if it only takes.
They are the answers that the signals of the source give. -/
theorem lookahead_transparent (reader : Reader) (calls : List Call) :
    (∀ i c, i + 1 < calls.length → calls[i]? = some .peek →
      (reader.answers calls)[i]? = some (.item c) →
        (reader.answers calls)[i + 1]? = some (.item c)) ∧
    (∀ n, (taken calls (reader.answers calls)).length ≤ n →
      taken calls (reader.answers calls) <+: reader.answers (List.replicate n .next)) ∧
    reader.answers calls = Signal.answers reader.signals calls := by
  refine ⟨fun i c hnext hpeek hlook => ?_, fun n hn => ?_, reader.answers_eq calls⟩
  · rw [reader.answers_eq] at hlook ⊢
    exact Signal.answers_again hnext hpeek hlook
  · rw [reader.answers_eq] at hn
    rw [reader.answers_eq, reader.answers_eq]
    exact Signal.taken_isPrefix reader.signals calls hn

/-- A source that goes on after an early end and after a byte that begins no character. -/
def goingOn : List Delivery :=
  [.chunk [97], .chunk [], .chunk [0xFF, 98]]

/-- Looks use up the end and the failure, and leave the characters. -/
theorem lookahead_transparent_goingOn :
    Reader.answers { deliveries := goingOn } [.peek, .peek, .next, .peek, .peek, .peek, .next] =
        [.item 'a', .item 'a', .item 'a', .ended, .failed .leadingByte, .item 'b', .item 'b'] ∧
      [.item 'a', .ended, .failed .leadingByte, .item 'b'] <+:
        Reader.answers { deliveries := goingOn } (List.replicate 6 .next) := by
  have hanswers : Reader.answers { deliveries := goingOn }
      [.peek, .peek, .next, .peek, .peek, .peek, .next] =
        [.item 'a', .item 'a', .item 'a', .ended, .failed .leadingByte, .item 'b', .item 'b'] := by
    decide
  obtain ⟨-, htaken, -⟩ := lookahead_transparent { deliveries := goingOn }
    [.peek, .peek, .next, .peek, .peek, .peek, .next]
  rw [hanswers] at htaken
  exact ⟨hanswers, htaken 6 (by decide)⟩

end Dialogue
