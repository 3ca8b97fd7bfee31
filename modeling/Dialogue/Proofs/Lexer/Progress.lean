import Dialogue.Proofs.Command.Image
import Dialogue.Proofs.Input.Buffering
import Dialogue.Trace

/-!
# Progress

Whatever a source of finitely many deliveries does, the lexer comes to an end with each move, and
so does everything that drives it. Two things are used up. The loops inside a move use up signals:
each round takes the signal that it has looked at, or is the last one. This holds although the
width of an indentation goes back to zero with each line, and although a block has no counter at
all. The loops that drive the lexer use up characters that are no blanks: each token takes at least
one, namely the one at which the blanks before it have ended, so that no word and no prompt is ever
empty.

A loop is written here as its body, which goes on with another state or ends with a result, and is
run for a number of rounds. If these are not enough, it has no result.

## Main definitions

* `repeated body rounds state`: what a loop comes to within so many rounds
* `Computes body value measure`: a loop that works its way to a value and uses up a measure
* `retryBody`, `spanBody`, `indentationBody`, `blockBody`: the loops inside a move
* `tokenBody`, `commandBody`, `loadBody`: the loops that drive a lexer
* `Lexer.solidsLeft`: how many characters that are no blanks a lexer has not taken yet

## Main results

* `Computes.repeated_eq`: such a loop ends, and has the value that no round changes
* `length_charSignals_le`: a source shows no more signals than it delivers bytes, ends and failures
* `Lexer.solidsLeft_lt_of_token`: a token takes a character that is no blank
* `Lexer.length_handedOut_le`: no run has more tokens than there are such characters
* `lexing_ends`: every loop of the lexer, and every loop over it, ends
-/

namespace Dialogue

open TokenSource
open Text (isBlank trimEnd)

/-! ## Loops -/

section Loops

variable {σ ρ : Type}

/-- What a loop comes to if it is run for at most so many rounds. Its body goes on with another
state, or ends with a result. -/
def repeated (body : σ → σ ⊕ ρ) : Nat → σ → Option ρ
  | 0, _ => none
  | rounds + 1, state =>
    match body state with
    | .inl next => repeated body rounds next
    | .inr result => some result

/-- The loop works its way to a value: a round that goes on leaves the value as it is and uses up
some of a measure, and a round that ends has the value as its result. -/
def Computes (body : σ → σ ⊕ ρ) (value : σ → ρ) (measure : σ → Nat) : Prop :=
  ∀ state, match body state with
    | .inl next => measure next < measure state ∧ value next = value state
    | .inr result => result = value state

/-- **A loop that uses up a measure ends**, after at most one round more than the measure. -/
theorem Computes.repeated_eq {body : σ → σ ⊕ ρ} {value : σ → ρ} {measure : σ → Nat}
    (h : Computes body value measure) {rounds : Nat} {state : σ}
    (hrounds : measure state < rounds) : repeated body rounds state = some (value state) := by
  induction rounds generalizing state with
  | zero => exact absurd hrounds (Nat.not_lt_zero _)
  | succ rounds ih =>
    have hround := h state
    rw [repeated]
    cases hbody : body state with
    | inl next =>
      rw [hbody] at hround
      obtain ⟨hless, hsame⟩ := hround
      rw [← hsame]
      exact ih (by omega)
    | inr result =>
      rw [hbody] at hround
      exact congrArg some hround

end Loops

/-! ## The loops inside a move -/

/-- One try to read a byte: an interrupted read is tried again. -/
def retryBody : List Delivery → List Delivery ⊕ (Signal UInt8 × List Delivery)
  | .interrupted :: later => .inl later
  | deliveries => .inr (takeByte deliveries)

/-- One round of a run of characters: a look at the next signal, which is taken if it is a character
that is accepted. -/
def spanBody (accept : Char → Bool) :
    List Char × List (Signal Char) → List Char × List (Signal Char) ⊕ Span
  | (taken, signals) =>
    match Signal.peek signals with
    | (.item c, ahead) =>
      if accept c then .inl (taken ++ [c], (Signal.next ahead).2) else .inr ⟨taken, .refused, ahead⟩
    | (.ended, rest) => .inr ⟨taken, .ended, rest⟩
    | (.failed error, rest) => .inr ⟨taken, .failed error, rest⟩

/-- One round of an indentation: unless it is deep enough, a look at the next signal, which is taken
if it is a blank. -/
def indentationBody :
    Nat × List Char × List (Signal Char) → Nat × List Char × List (Signal Char) ⊕ Indent
  | (width, taken, signals) =>
    if blockDepth ≤ width then .inr ⟨.deep, taken, signals⟩ else
    match Signal.peek signals with
    | (.item c, ahead) =>
      if isBlank c then .inl (widen width c, taken ++ [c], (Signal.next ahead).2)
      else .inr ⟨.shallow, taken, ahead⟩
    | (.ended, rest) => .inr ⟨.ended, taken, rest⟩
    | (.failed error, rest) => .inr ⟨.failed error, taken, rest⟩

/-- One round of a block: an indentation and, if it is deep enough, the rest of its line. -/
def blockBody : List (List Char) × List Char × List (Signal Char) →
    List (List Char) × List Char × List (Signal Char) ⊕ Block
  | (lines, taken, signals) =>
    match indentation 0 signals with
    | ⟨.shallow, margin, rest⟩ => .inr ⟨lines, taken ++ margin, .refused, rest⟩
    | ⟨.ended, margin, rest⟩ => .inr ⟨lines, taken ++ margin, .ended, rest⟩
    | ⟨.failed error, margin, rest⟩ => .inr ⟨lines, taken ++ margin, .failed error, rest⟩
    | ⟨.deep, margin, inner⟩ =>
      match restOfLine inner with
      | ⟨text, .failed error, rest⟩ => .inr ⟨lines, taken ++ (margin ++ text), .failed error, rest⟩
      | ⟨text, _, rest⟩ => .inl (lines ++ [trimEnd text], taken ++ (margin ++ text), rest)

/-- Tries to read a byte end with the interruptions. -/
theorem computes_retryBody : Computes retryBody takeByte List.length := by
  intro deliveries
  rcases deliveries with _ | ⟨_ | _ | message, later⟩
  · rfl
  · rfl
  · exact ⟨Nat.lt_succ_self _, rfl⟩
  · rfl

/-- What a run comes to that has taken some characters. -/
def spanFrom (accept : Char → Bool) (state : List Char × List (Signal Char)) : Span :=
  { span accept state.2 with taken := state.1 ++ (span accept state.2).taken }

theorem computes_spanBody (accept : Char → Bool) :
    Computes (spanBody accept) (spanFrom accept) (fun state => state.2.length) := by
  rintro ⟨taken, signals⟩
  rcases signals with _ | ⟨c | _ | error, rest⟩
  · simp [spanBody, Signal.peek, spanFrom]
  · by_cases hc : accept c = true
    · simp [spanBody, Signal.peek, Signal.next, spanFrom, hc, span_of_accept]
    · have hrefuse : accept c = false := Bool.eq_false_iff.mpr hc
      simp [spanBody, Signal.peek, spanFrom, hrefuse, span_of_refuse]
  · simp [spanBody, Signal.peek, spanFrom]
  · simp [spanBody, Signal.peek, spanFrom]

/-- What an indentation comes to that has passed over some blanks. -/
def indentationFrom (state : Nat × List Char × List (Signal Char)) : Indent :=
  (indentation state.1 state.2.2).after state.2.1

theorem computes_indentationBody :
    Computes indentationBody indentationFrom (fun state => state.2.2.length) := by
  rintro ⟨width, taken, signals⟩
  by_cases hdeep : blockDepth ≤ width
  · simp [indentationBody, indentationFrom, Indent.after, hdeep, indentation_of_deep]
  · have hshort : width < blockDepth := Nat.lt_of_not_le hdeep
    rcases signals with _ | ⟨c | _ | error, rest⟩
    · simp [indentationBody, indentationFrom, Indent.after, hdeep, Signal.peek,
        indentation_nil hshort]
    · by_cases hc : isBlank c = true
      · simp [indentationBody, indentationFrom, Indent.after, hdeep, Signal.peek, Signal.next, hc,
          indentation_blank hshort]
      · have hsolid : isBlank c = false := Bool.eq_false_iff.mpr hc
        simp [indentationBody, indentationFrom, Indent.after, hdeep, Signal.peek, hsolid,
          indentation_solid hshort]
    · simp [indentationBody, indentationFrom, Indent.after, hdeep, Signal.peek, indentation]
    · simp [indentationBody, indentationFrom, Indent.after, hdeep, Signal.peek, indentation]

/-- What a block comes to that has some lines. -/
def blockFrom (state : List (List Char) × List Char × List (Signal Char)) : Block :=
  { readBlock state.2.2 with
    lines := state.1 ++ (readBlock state.2.2).lines
    taken := state.2.1 ++ (readBlock state.2.2).taken }

/-- A round of a block that goes on has taken a blank at least. -/
theorem computes_blockBody :
    Computes blockBody blockFrom (fun state => state.2.2.length) := by
  rintro ⟨lines, taken, signals⟩
  rcases hindent : indentation 0 signals with ⟨margin, blanks, inner⟩
  cases margin with
  | shallow => simp [blockBody, blockFrom, hindent, readBlock_of_shallow hindent]
  | ended => simp [blockBody, blockFrom, hindent, readBlock_of_ended hindent]
  | failed error => simp [blockBody, blockFrom, hindent, readBlock_of_failed hindent]
  -- Only a deep line goes round again, and its margin alone makes the rest shorter.
  | deep =>
    have hmargin : (indentation 0 signals).rest.length < signals.length :=
      indentation_deep_length_lt (by decide) (by rw [hindent])
    rcases hline : restOfLine inner with ⟨text, halt, rest⟩
    have hlength := span_length_le (· != '\n') inner
    rw [← restOfLine, hline] at hlength
    rw [hindent] at hmargin
    have hless : rest.length < signals.length := by
      dsimp only at hlength hmargin
      omega
    by_cases hread : ∀ error, halt ≠ .failed error
    · have hblock := readBlock_of_deep hindent hline hread
      cases halt with
      | failed error => exact absurd rfl (hread error)
      | refused => simp [blockBody, blockFrom, hindent, hline, hblock, Block.addLine, hless]
      | ended => simp [blockBody, blockFrom, hindent, hline, hblock, Block.addLine, hless]
    · obtain ⟨error, rfl⟩ : ∃ error, halt = .failed error := by simpa using hread
      simp [blockBody, blockFrom, hindent, hline, readBlock_of_unreadable hindent hline]

/-- A source shows no more signals than it delivers bytes, ends and failures. -/
theorem length_decode_le (begun : Option Utf8.Partial) (signals : List (Signal UInt8)) :
    (Utf8.decode begun signals).length ≤ signals.length + begun.toList.length := by
  -- A character that has begun makes one signal, however it ends, and so does each byte outside.
  induction signals generalizing begun with
  | nil => cases begun <;> simp [Utf8.decode]
  | cons signal rest ih =>
    have hnone := ih none
    rw [Option.toList_none, List.length_nil, Nat.add_zero] at hnone
    cases signal with
    | ended => cases begun <;> simp only [Utf8.decode, List.length_cons] <;> omega
    | failed error => cases begun <;> simp only [Utf8.decode, List.length_cons] <;> omega
    | item b =>
      rcases begun with _ | ⟨lead, tail, _ | missing⟩
      · simp only [Utf8.decode]
        split
        · simp only [List.length_cons]
          omega
        · simp only [List.length_cons]
          omega
        · exact ih _
      · simp only [Utf8.decode, List.length_cons]
        omega
      · have hsome := ih (some ⟨lead, tail ++ [b], missing⟩)
        simp only [Utf8.decode, List.length_cons, Option.toList_some] at hsome ⊢
        omega

theorem length_charSignals_le (deliveries : List Delivery) :
    (charSignals deliveries).length ≤ (byteSignals deliveries).length :=
  length_decode_le none (byteSignals deliveries)

/-! ## What a token takes -/

theorem Passes.solids_eq {signals rest : List (Signal Char)} {taken : List Char}
    (h : Passes signals taken rest) :
    solids (charsOf signals) = solids taken ++ solids (charsOf rest) := by
  obtain ⟨passed, rfl, rfl⟩ := h
  rw [charsOf_append, solids_append]

theorem solids_ne_nil_of_startsSolid {text : List Char} (h : StartsSolid text) :
    solids text ≠ [] := by
  obtain ⟨c, tail, rfl, hc⟩ := h
  intro hnil
  have hmem : c ∈ solids (c :: tail) :=
    List.mem_filter.mpr ⟨List.mem_cons_self, by rw [hc]; rfl⟩
  rw [hnil] at hmem
  cases hmem

/-- Where blanks have ended before a character, neither the word nor the line is empty. -/
theorem ne_nil_behind_gap {signals : List (Signal Char)} (h : (gap signals).halt = .refused) :
    (word (gap signals).rest).taken ≠ [] ∧ trimEnd (restOfLine (gap signals).rest).taken ≠ [] := by
  obtain ⟨c, rest, hc, hrest⟩ := span_rest_of_refused h
  rw [← gap] at hrest
  constructor
  · obtain ⟨tail, htaken⟩ := span_taken_of_accept (!isBlank ·) hrest (by simp [hc])
    rw [word, htaken]
    exact List.cons_ne_nil c tail
  · obtain ⟨tail, htaken⟩ := span_taken_of_accept (· != '\n') hrest
      (by simpa using ne_newline_of_solid hc)
    rw [restOfLine, htaken]
    intro hnil
    rw [Text.trimEnd_eq_nil_iff.mp hnil c List.mem_cons_self] at hc
    cases hc

namespace Lexer

variable {lexer moved : Lexer}

/-- How many characters that are no blanks have not been taken yet. -/
def solidsLeft (lexer : Lexer) : Nat :=
  (solids (charsOf lexer.signals)).length

theorem solidsLeft_of_passes {taken : List Char}
    (h : Passes lexer.signals taken moved.signals) :
    lexer.solidsLeft = (solids taken).length + moved.solidsLeft := by
  rw [solidsLeft, h.solids_eq, List.length_append, solidsLeft]

/-- **A token takes a character that is no blank**, and has some content. -/
theorem exists_solids_of_token (hadvance : lexer.advance = (true, moved)) :
    (∃ taken, Passes lexer.signals taken moved.signals ∧ solids taken ≠ []) ∧
      moved.current.content ≠ "" := by
  have hwellFormed := wellFormed_of_token hadvance
  have hadvances := lexer.advances
  rw [hadvance] at hadvances
  cases hadvances with
  | @token blanks source signals rest token next _ hblanks hsignals hpasses hsolid hspelled =>
    refine ⟨⟨blanks ++ source, ?_, ?_⟩, ?_⟩
    · rw [hsignals]
      exact (Passes.items blanks signals).trans hpasses
    · rw [solids_append, solids_of_isGap hblanks]
      exact solids_ne_nil_of_startsSolid hsolid
    -- A keyword has its word, and no other content is empty, since all of them are well formed.
    · cases hspelled with
      | @keyword keyword position source hspells =>
        show keyword.word ≠ ""
        rcases keyword with _ | (_ | _ | _) <;> decide
      | model hword =>
        have hcontent : IsWord (String.ofList source).toList := hwellFormed
        intro hempty
        rw [show String.ofList source = "" from hempty] at hcontent
        exact hcontent.1 rfl
      | line hline hbar =>
        have hcontent : IsMessage (String.ofList (trimEnd source)).toList := hwellFormed
        intro hempty
        rw [show String.ofList (trimEnd source) = "" from hempty] at hcontent
        exact absurd hcontent.hasContent (by decide)
      | @block position lines message hholds =>
        have hcontent : IsMessage message.toList := hwellFormed
        intro hempty
        rw [show message = "" from hempty] at hcontent
        exact absurd hcontent.hasContent (by decide)

theorem solidsLeft_lt_of_token (hadvance : lexer.advance = (true, moved)) :
    moved.solidsLeft < lexer.solidsLeft := by
  obtain ⟨⟨taken, hpasses, hne⟩, -⟩ := exists_solids_of_token hadvance
  have hlength := List.length_pos_of_ne_nil hne
  rw [solidsLeft_of_passes hpasses]
  omega

theorem solidsLeft_advance_le (lexer : Lexer) : lexer.advance.2.solidsLeft ≤ lexer.solidsLeft := by
  obtain ⟨taken, hpasses, -⟩ := lexer.passes_advance
  rw [solidsLeft_of_passes hpasses]
  exact Nat.le_add_left _ _

/-- **No run has more tokens than there are characters that are no blanks**, however often the lexer
is asked to go on. -/
theorem length_handedOut_le (lexer : Lexer) (n : Nat) :
    (lexer.handedOut n).length + (lexer.after n).solidsLeft ≤ lexer.solidsLeft := by
  -- A token costs a solid character at least, and without a token none comes back.
  induction n with
  | zero => exact Nat.le_of_eq (Nat.zero_add _)
  | succ n ih =>
    rcases hadvance : (lexer.after n).advance with ⟨more, moved⟩
    rw [after_succ_of_advance hadvance]
    cases more with
    | false =>
      have hle := (lexer.after n).solidsLeft_advance_le
      rw [hadvance] at hle
      rw [handedOut_of_none hadvance]
      dsimp only at hle
      omega
    | true =>
      have hless := solidsLeft_lt_of_token hadvance
      rw [handedOut_of_token hadvance, List.length_append, List.length_singleton]
      omega

end Lexer

/-! ## The loops over a lexer -/

/-- One round of the loop that collects tokens. -/
def tokenBody : List Token × Lexer → List Token × Lexer ⊕ (List Token × Lexer)
  | (tokens, lexer) =>
    match lexer.advance with
    | (true, moved) => .inl (tokens ++ [moved.current], moved)
    | (false, stopped) => .inr (tokens, stopped)

/-- One round of the loop that collects commands. -/
def commandBody : List Command × Lexer →
    List Command × Lexer ⊕ (List Command × Option ParseError × Lexer)
  | (commands, lexer) =>
    match Command.parse lexer with
    | (.command command, moved) => .inl (commands ++ [command], moved)
    | (.finished, stopped) => .inr (commands, none, stopped)
    | (.failed error, stopped) => .inr (commands, some error, stopped)

/-- One round of the loop that applies commands to a conversation, and counts them. -/
def loadBody {η : Type} [Sink η] : Nat × Conversation η × Lexer →
    Nat × Conversation η × Lexer ⊕ (Except ParseError Nat × Conversation η)
  | (count, conversation, lexer) =>
    match Command.parse lexer with
    | (.command command, moved) => .inl (count + 1, command.apply conversation, moved)
    | (.finished, _) => .inr (.ok count, conversation)
    | (.failed error, _) => .inr (.error error, conversation)

theorem computes_tokenBody :
    Computes tokenBody (fun state => (state.1 ++ (drain state.2).1, (drain state.2).2))
      (fun state => state.2.solidsLeft) := by
  rintro ⟨tokens, lexer⟩
  rcases hadvance : lexer.advance with ⟨more, moved⟩
  cases more with
  | true =>
    have hless := Lexer.solidsLeft_lt_of_token hadvance
    have hdrain : drain lexer = (moved.current :: (drain moved).1, (drain moved).2) :=
      drain_of_token hadvance
    simp [tokenBody, hadvance, hdrain, hless]
  | false =>
    have hdrain : drain lexer = ([], moved) := drain_of_stop hadvance
    simp [tokenBody, hadvance, hdrain]

/-- A command is read by two moves. -/
theorem Command.exists_opened_of_parse {σ : Type} [TokenSource σ] {source moved : σ}
    {command : Command} (h : parse source = (.command command, moved)) :
    ∃ opened, advance source = (true, opened) ∧ advance opened = (true, moved) := by
  unfold parse at h
  split at h
  · split at h <;> cases h
  · rename_i opened hopened
    split at h
    · unfold parseCompanion at h
      split at h
      · cases h
      · rename_i completed hcompleted
        split at h
        · cases h
          exact ⟨opened, hopened, hcompleted⟩
        · cases h
    · cases h

/-- A command takes two characters that are no blanks. -/
theorem Lexer.solidsLeft_of_command {lexer moved : Lexer} {command : Command}
    (h : Command.parse lexer = (.command command, moved)) :
    moved.solidsLeft + 2 ≤ lexer.solidsLeft := by
  obtain ⟨opened, hopened, hcompleted⟩ := Command.exists_opened_of_parse h
  have hfirst := solidsLeft_lt_of_token hopened
  have hsecond := solidsLeft_lt_of_token hcompleted
  omega

theorem computes_commandBody :
    Computes commandBody (fun state => (state.1 ++ (scanAll state.2).1, (scanAll state.2).2))
      (fun state => state.2.solidsLeft / 2) := by
  rintro ⟨commands, lexer⟩
  rcases hparse : Command.parse lexer with ⟨parsed, moved⟩
  cases parsed with
  | command command =>
    have hless := Lexer.solidsLeft_of_command hparse
    have hhalf : moved.solidsLeft / 2 < lexer.solidsLeft / 2 := by omega
    simp [commandBody, hparse, scanAll_of_command hparse, hhalf]
  | finished => simp [commandBody, hparse, scanAll_of_finished hparse]
  | failed error => simp [commandBody, hparse, scanAll_of_failed hparse]

theorem computes_loadBody {η : Type} [Sink η] :
    Computes loadBody
      (fun state : Nat × Conversation η × Lexer =>
        Conversation.loadFrom state.2.2 state.1 state.2.1)
      (fun state => state.2.2.solidsLeft / 2) := by
  rintro ⟨count, conversation, lexer⟩
  rcases hparse : Command.parse lexer with ⟨parsed, moved⟩
  cases parsed with
  | command command =>
    have hless := Lexer.solidsLeft_of_command hparse
    have hhalf : moved.solidsLeft / 2 < lexer.solidsLeft / 2 := by omega
    simp [loadBody, hparse, Conversation.loadFrom_of_command hparse, hhalf]
  | finished => simp [loadBody, hparse, Conversation.loadFrom_of_finished hparse]
  | failed error => simp [loadBody, hparse, Conversation.loadFrom_of_failed hparse]

/-- **Lexing ends, and moves on as it does.** Let a source have finitely many deliveries, of
whatever kind and in whatever order.

Tries to read a byte end with the interruptions. Any number of moves of the lexer come to a place
among the signals of the source, and from no such place do the loops inside a move need more rounds
than there are bytes, ends and failures, and one. A move that hands out a token has taken a
character that is no blank, and the token has content; behind the blanks before it neither a word
nor a line is empty. So no run has more tokens than the source has such characters, and this also
bounds the rounds of all loops over the lexer: two of these characters go into each command. -/
theorem lexing_ends (deliveries : List Delivery) :
    let lexer := Lexer.ofDeliveries deliveries
    let rounds := (byteSignals deliveries).length + 1
    let solid := (solids (charsOf (charSignals deliveries))).length
    (∀ later, repeated retryBody (later.length + 1) later = some (takeByte later)) ∧
    (∀ n, (lexer.after n).signals <:+ charSignals deliveries) ∧
    (∀ signals, signals <:+ charSignals deliveries →
      (∀ accept, repeated (spanBody accept) rounds ([], signals) = some (span accept signals)) ∧
      repeated indentationBody rounds (0, [], signals) = some (indentation 0 signals) ∧
      repeated blockBody rounds ([], [], signals) = some (readBlock signals)) ∧
    (∀ n moved, (lexer.after n).advance = (true, moved) →
      (∃ taken, Passes (lexer.after n).signals taken moved.signals ∧ solids taken ≠ []) ∧
      moved.current.content ≠ "") ∧
    (∀ n, (gap (lexer.after n).signals).halt = .refused →
      (word (gap (lexer.after n).signals).rest).taken ≠ [] ∧
      trimEnd (restOfLine (gap (lexer.after n).signals).rest).taken ≠ []) ∧
    (∀ n, (lexer.handedOut n).length ≤ solid) ∧
    (∃ tokens stopped, repeated tokenBody (solid + 1) ([], lexer) = some (tokens, stopped) ∧
      drain lexer = (tokens, stopped) ∧
      TokenTrace.collect lexer = ⟨tokens, stopped.error, stopped.current⟩) ∧
    (∃ commands stop stopped,
      repeated commandBody (solid / 2 + 1) ([], lexer) = some (commands, stop, stopped) ∧
      scanAll lexer = (commands, stop, stopped) ∧
      CommandTrace.collect lexer = ⟨commands, stop, stop.map fun _ => stopped.current⟩) ∧
    ∀ (η : Type) [Sink η] (conversation : Conversation η),
      repeated loadBody (solid / 2 + 1) (0, conversation, lexer) =
        some (conversation.load deliveries) := by
  intro lexer rounds solid
  refine ⟨?_, ?_, ?_, ?_, ?_, ?_, ?_, ?_, ?_⟩
  · intro later
    exact computes_retryBody.repeated_eq (Nat.lt_succ_self _)
  · intro n
    obtain ⟨taken, ⟨passed, hpassed, -⟩, -⟩ := lexer.passes_after n
    exact ⟨passed, hpassed.symm⟩
  -- Each round takes a signal, and there are no more of them than the bytes that are read.
  · intro signals hsuffix
    have hrounds : signals.length < rounds := by
      have hshorter := hsuffix.length_le
      have hshown := length_charSignals_le deliveries
      exact Nat.lt_succ_of_le (hshorter.trans hshown)
    exact ⟨fun accept => (computes_spanBody accept).repeated_eq hrounds,
      computes_indentationBody.repeated_eq hrounds, computes_blockBody.repeated_eq hrounds⟩
  · intro n moved hadvance
    exact Lexer.exists_solids_of_token hadvance
  · intro n hhalt
    exact ne_nil_behind_gap hhalt
  · intro n
    exact (Nat.le_add_right _ _).trans (lexer.length_handedOut_le n)
  · exact ⟨_, _, computes_tokenBody.repeated_eq (Nat.lt_succ_self _), rfl, rfl⟩
  · exact ⟨_, _, _, computes_commandBody.repeated_eq (Nat.lt_succ_self _), rfl, rfl⟩
  · intro η _ conversation
    exact computes_loadBody.repeated_eq (Nat.lt_succ_self _)

/-- A source that is interrupted after `ASK` and a blank, reports an end, goes on with `a` and a
word that is no keyword, and fails. -/
def haltingSource : List Delivery :=
  [.chunk [65, 83, 75, 32], .interrupted, .chunk [], .chunk [97, 10, 78, 79], .failure "gone"]

/-- The prompt comes with the third move, and six characters that are no blanks allow for seven
rounds of the loop that collects tokens. -/
theorem lexing_ends_halting :
    let lexer := Lexer.ofDeliveries haltingSource
    (gap (lexer.after 2).signals).halt = .refused ∧
      (word (gap (lexer.after 2).signals).rest).taken ≠ [] ∧
      (lexer.after 2).advance = (true, lexer.after 3) ∧
      (lexer.after 3).current = ⟨.prompt, "a", ⟨1, 5⟩⟩ ∧
      (∃ taken, Passes (lexer.after 2).signals taken (lexer.after 3).signals ∧ solids taken ≠ []) ∧
      lexer.signals <:+ charSignals haltingSource ∧
      repeated blockBody 11 ([], [], lexer.signals) = some (readBlock lexer.signals) ∧
      repeated tokenBody 7 ([], lexer) = some (drain lexer) := by
  intro lexer
  obtain ⟨-, hsuffix, hloops, htokens, hgap, -, ⟨tokens, stopped, hround, hdrain, -⟩, -⟩ :=
    lexing_ends haltingSource
  have hhalt : (gap (lexer.after 2).signals).halt = .refused := by decide
  have hadvance : (lexer.after 2).advance = (true, lexer.after 3) := by decide
  have hcurrent : (lexer.after 3).current = ⟨.prompt, "a", ⟨1, 5⟩⟩ := by decide
  obtain ⟨hword, -⟩ := hgap 2 hhalt
  obtain ⟨htaken, -⟩ := htokens 2 _ hadvance
  obtain ⟨-, -, hblock⟩ := hloops lexer.signals (hsuffix 0)
  refine ⟨hhalt, hword, hadvance, hcurrent, htaken, hsuffix 0, hblock, ?_⟩
  rw [hdrain]
  exact hround

end Dialogue
