import Dialogue.Proofs.Input.Buffering
import Dialogue.Proofs.Text.Utf8Exact

/-!
# Reading bytes that may be no text

Who takes characters off some bytes is answered the longest text with which the bytes start, and a
failure after it if they go on. What reads these characters in turn may stop anywhere, but not past
a failure: every run, every block and every move without an error has passed readable signals only.
So what is loaded without an error has been read to its end, and was a text.

## Main definitions

* `firstAnswers bytes n`: what the first `n` characters taken off some bytes are
* `Smooth signals rest`: no read fails on the way from `signals` to `rest`

## Main results

* `firstAnswers_of_append`, `firstAnswers_of_text`: what is read first is answered first, and ends
  after it
* `smooth_span`, `smooth_readBlock`, `Lexer.smoothly_advance`: without an error no failure is passed
* `Lexer.read_to_end`, `Conversation.read_to_end`: what is scanned or loaded without an error is
  read to its end
* `bytes_read_as_text`: bytes are read as the longest text with which they start, and are loaded
  only if they are a text
-/

namespace Dialogue

/-! ## Taking characters only -/

/-- A reader that only takes characters is answered the signals one by one, and then ends. -/
theorem Signal.answers_next (signals : List (Signal Char)) (n : Nat) :
    answers signals (List.replicate n .next) =
      signals.take n ++ List.replicate (n - signals.length) .ended := by
  induction n generalizing signals with
  | zero => simp [answers]
  | succ n ih =>
    rw [List.replicate_succ, answers]
    cases signals with
    | nil =>
      change .ended :: answers [] _ = _
      rw [ih]
      simp [List.replicate_succ]
    | cons signal rest =>
      change signal :: answers rest _ = _
      rw [ih]
      simp

/-- Bytes that are delivered at once show what they are read as. -/
theorem alike_deliver (bytes : List UInt8) :
    Signal.Alike (Utf8.decode none (bytes.map .item)) (charSignals (deliver bytes)) := by
  by_cases hempty : bytes = []
  · rw [hempty]
    exact Or.inr ⟨rfl, rfl⟩
  · rw [charSignals, byteSignals_deliver hempty]
    exact Or.inl rfl

/-- What the first `n` calls are answered over some bytes, if each takes a character. -/
def firstAnswers (bytes : List UInt8) (n : Nat) : List (Signal Char) :=
  Signal.answers (charSignals (deliver bytes)) (List.replicate n .next)

section FirstAnswers

variable {bytes : List UInt8} {text : List Char}

theorem firstAnswers_eq (bytes : List UInt8) (n : Nat) :
    firstAnswers bytes n =
      (Utf8.decode none (bytes.map .item)).take n ++
        List.replicate (n - (Utf8.decode none (bytes.map .item)).length) .ended := by
  rw [firstAnswers, ← (alike_deliver bytes).answers_eq, Signal.answers_next]

/-- What is read first is answered first. -/
theorem firstAnswers_of_append {first rest : List (Signal Char)}
    (h : Utf8.decode none (bytes.map .item) = first ++ rest) :
    firstAnswers bytes first.length = first := by
  rw [firstAnswers_eq, h, List.take_left, List.length_append,
    Nat.sub_eq_zero_of_le (Nat.le_add_right _ _)]
  exact List.append_nil first

/-- After a text the end is answered, as often as it is asked for. -/
theorem firstAnswers_of_text (h : Utf8.decode none (bytes.map .item) = text.map .item) (m : Nat) :
    firstAnswers bytes (text.length + m) = text.map .item ++ List.replicate m .ended := by
  rw [firstAnswers_eq, h, List.length_map, Nat.add_sub_cancel_left,
    List.take_of_length_le (by rw [List.length_map]; exact Nat.le_add_right _ _)]

/-- After a text the failure is answered that comes there. -/
theorem firstAnswers_of_failed {error : ReadError} {later : List (Signal Char)}
    (h : Utf8.decode none (bytes.map .item) = text.map .item ++ .failed error :: later) :
    firstAnswers bytes (text.length + 1) = text.map .item ++ [.failed error] := by
  have hcut : Utf8.decode none (bytes.map .item) =
      (text.map .item ++ [.failed error]) ++ later := by
    rw [h, List.append_cons]
  simpa using firstAnswers_of_append hcut

/-- A reader of a text is never answered a failure. -/
theorem not_failed_of_text (h : Utf8.decode none (bytes.map .item) = text.map .item) (n : Nat)
    (error : ReadError) : .failed error ∉ firstAnswers bytes n := by
  rw [firstAnswers_eq, h, ← List.map_take]
  simp [List.mem_replicate, -List.map_take]

end FirstAnswers

/-! ## Reading without a failure -/

/-- On the way from `signals` to `rest` no read fails. -/
def Smooth (signals rest : List (Signal Char)) : Prop :=
  ∃ passed, signals = passed ++ rest ∧ ∀ error, .failed error ∉ passed

namespace Smooth

variable {signals middle rest : List (Signal Char)}

theorem refl (signals : List (Signal Char)) : Smooth signals signals :=
  ⟨[], rfl, nofun⟩

theorem trans (h : Smooth signals middle) (h' : Smooth middle rest) : Smooth signals rest := by
  obtain ⟨passed, rfl, hpassed⟩ := h
  obtain ⟨passed', rfl, hpassed'⟩ := h'
  refine ⟨passed ++ passed', by rw [List.append_assoc], fun error hmem => ?_⟩
  rcases List.mem_append.mp hmem with hmem | hmem
  · exact hpassed error hmem
  · exact hpassed' error hmem

/-- One more signal that is no failure. -/
theorem cons (h : Smooth signals rest) {signal : Signal Char}
    (hsignal : ∀ error, signal ≠ .failed error) : Smooth (signal :: signals) rest := by
  obtain ⟨passed, rfl, hpassed⟩ := h
  refine ⟨signal :: passed, rfl, fun error hmem => ?_⟩
  rcases List.mem_cons.mp hmem with heq | hmem
  · exact hsignal error heq.symm
  · exact hpassed error hmem

/-- What has not been passed yet was there before. -/
theorem not_mem (h : Smooth signals rest) {signal : Signal Char} (hsignal : signal ∉ signals) :
    signal ∉ rest := by
  obtain ⟨passed, rfl, -⟩ := h
  exact fun hmem => hsignal (List.mem_append_right passed hmem)

/-- What is read smoothly to its end has no failure. -/
theorem not_failed (h : Smooth signals []) (error : ReadError) : .failed error ∉ signals := by
  obtain ⟨passed, rfl, hpassed⟩ := h
  simpa using hpassed error

end Smooth

theorem smooth_span {accept : Char → Bool} {signals : List (Signal Char)}
    (hread : ∀ error, (span accept signals).halt ≠ .failed error) :
    Smooth signals (span accept signals).rest := by
  have hcovers := span_covers accept signals
  unfold Span.Covers at hcovers
  split at hcovers
  · exact ⟨_, hcovers, by simp⟩
  · rcases hcovers with ⟨hsignals, hrest⟩ | hsignals
    · exact ⟨signals, by rw [hrest, List.append_nil], by rw [hsignals]; simp⟩
    · exact ⟨_ ++ [.ended], by simpa using hsignals, by simp⟩
  · exact absurd ‹_› (hread _)

theorem smooth_gap {signals : List (Signal Char)}
    (hread : ∀ error, (gap signals).halt ≠ .failed error) : Smooth signals (gap signals).rest :=
  smooth_span hread

theorem smooth_indentation {width : Nat} {signals : List (Signal Char)}
    (hread : ∀ error, (indentation width signals).margin ≠ .failed error) :
    Smooth signals (indentation width signals).rest := by
  induction signals generalizing width with
  | nil =>
    unfold indentation
    split <;> exact Smooth.refl _
  | cons signal rest ih =>
    unfold indentation at hread ⊢
    split
    · exact Smooth.refl _
    · rename_i hwidth
      rw [if_neg hwidth] at hread
      cases signal with
      | ended => exact (Smooth.refl rest).cons (by simp)
      | failed error => exact absurd rfl (hread error)
      | item c =>
        dsimp only at hread ⊢
        split
        · rename_i hblank
          rw [if_pos hblank] at hread
          exact (ih hread).cons (by simp)
        · exact Smooth.refl _

theorem smooth_readBlock {signals : List (Signal Char)}
    (hread : ∀ error, (readBlock signals).halt ≠ .failed error) :
    Smooth signals (readBlock signals).rest := by
  fun_induction readBlock signals with
  | case1 signals taken rest hindent | case2 signals taken rest hindent =>
    have hmargin : Smooth signals (indentation 0 signals).rest :=
      smooth_indentation (by simp [hindent])
    rwa [hindent] at hmargin
  | case3 signals error => exact absurd rfl (hread error)
  | case4 signals margin inner hindent text error => exact absurd rfl (hread error)
  | case5 signals margin inner hindent text halt rest hreadable hline ih =>
    have hmargin : Smooth signals (indentation 0 signals).rest :=
      smooth_indentation (by simp [hindent])
    have htext : Smooth inner (restOfLine inner).rest :=
      smooth_span fun error hfailed => by
        rw [← restOfLine, hline] at hfailed
        exact hreadable error hfailed
    rw [hindent] at hmargin
    rw [hline] at htext
    exact (hmargin.trans htext).trans (ih hread)

namespace Lexer

variable {lexer moved : Lexer}

/-- If no error is met, no failure has been passed. -/
def Smoothly (lexer : Lexer) (outcome : Bool × Lexer) : Prop :=
  outcome.2.error = none → Smooth lexer.signals outcome.2.signals

theorem smoothly_fail (lexer stopped : Lexer) (error : LexError) (start : Position) :
    Smoothly lexer (stopped.fail error start) :=
  nofun

theorem smoothly_emit {taken : List Char} {rest : List (Signal Char)}
    (h : Smooth lexer.signals rest) (token : Token) (next : Expecting) :
    Smoothly lexer ((lexer.consume taken rest).emit token next) :=
  fun _ => h

theorem Smoothly.consume {taken : List Char} {rest : List (Signal Char)} {outcome : Bool × Lexer}
    (hrest : Smooth lexer.signals rest) (h : Smoothly (lexer.consume taken rest) outcome) :
    Smoothly lexer outcome :=
  fun herror => hrest.trans (h herror)

theorem smoothly_readKeyword (lexer : Lexer) : Smoothly lexer lexer.readKeyword := by
  unfold readKeyword
  dsimp only
  split
  · exact smoothly_fail _ _ _ _
  · rename_i hread
    split
    · exact smoothly_emit (smooth_span hread) _ _
    · exact smoothly_fail _ _ _ _

theorem smoothly_readModel (lexer : Lexer) : Smoothly lexer lexer.readModel := by
  unfold readModel
  dsimp only
  split
  · exact smoothly_fail _ _ _ _
  · rename_i hread
    exact smoothly_emit (smooth_span hread) _ _

theorem smoothly_readBlockPrompt (lexer : Lexer) (start : Position) :
    Smoothly lexer (lexer.readBlockPrompt start) := by
  unfold readBlockPrompt
  dsimp only
  split
  · exact smoothly_fail _ _ _ _
  · rename_i hhalt
    split
    · exact smoothly_fail _ _ _ _
    · exact smoothly_emit (smooth_readBlock (by simp [hhalt])) _ _
  · rename_i hhalt
    split
    · exact smoothly_fail _ _ _ _
    · exact smoothly_emit (smooth_readBlock (by simp [hhalt])) _ _

theorem smoothly_readPrompt (lexer : Lexer) : Smoothly lexer lexer.readPrompt := by
  unfold readPrompt
  dsimp only
  split
  · exact smoothly_fail _ _ _ _
  · rename_i hread
    have hline : Smooth lexer.signals (restOfLine lexer.signals).rest := smooth_span hread
    split
    · exact smoothly_fail _ _ _ _
    · exact (smoothly_readBlockPrompt _ _).consume hline
    · exact smoothly_emit hline _ _

theorem smoothly_readExpected (lexer : Lexer) : Smoothly lexer lexer.readExpected := by
  unfold readExpected
  split
  · exact smoothly_readKeyword lexer
  · exact smoothly_readModel lexer
  · exact smoothly_readPrompt lexer

/-- **A move that meets no error passes no failure.** -/
theorem smoothly_advance (lexer : Lexer) : Smoothly lexer lexer.advance := by
  unfold advance
  split
  · exact fun _ => Smooth.refl _
  · dsimp only
    split
    · exact smoothly_fail _ _ _ _
    · rename_i hhalt
      have hgap : Smooth lexer.signals (gap lexer.signals).rest := smooth_gap (by simp [hhalt])
      split
      · exact smoothly_fail _ _ _ _
      · exact fun _ => hgap
    · rename_i hhalt
      have hgap : Smooth lexer.signals (gap lexer.signals).rest := smooth_gap (by simp [hhalt])
      split
      · exact smoothly_fail _ _ _ _
      · exact (smoothly_readExpected _).consume hgap

theorem smooth_of_running {more : Bool} (hadvance : lexer.advance = (more, moved))
    (herror : moved.error = none) : Smooth lexer.signals moved.signals := by
  have hsmoothly := smoothly_advance lexer
  rw [hadvance] at hsmoothly
  exact hsmoothly herror

end Lexer

/-! ## Reading to the end -/

theorem Command.advance_of_finished {σ : Type} [TokenSource σ] {source moved : σ}
    (h : parse source = (.finished, moved)) :
    TokenSource.advance source = (false, moved) ∧ TokenSource.error moved = none := by
  unfold parse at h
  split at h
  · rename_i stopped hadvance
    split at h
    · cases h
    · rename_i herror
      cases h
      exact ⟨hadvance, herror⟩
  · rename_i first hadvance
    split at h
    · unfold parseCompanion at h
      split at h
      · cases h
      · split at h <;> cases h
    · cases h

namespace Lexer

variable {lexer moved : Lexer}

/-- A command is read without a failure: so is its keyword, and so is the companion. -/
theorem smooth_of_command {command : Command}
    (h : Command.parse lexer = (.command command, moved)) :
    Smooth lexer.signals moved.signals := by
  unfold Command.parse at h
  split at h
  · split at h <;> cases h
  · rename_i first hadvance
    have hfirst : Smooth lexer.signals first.signals :=
      smooth_of_running hadvance (running_of_token hadvance).2.1
    split at h
    · unfold Command.parseCompanion at h
      split at h
      · cases h
      · rename_i second hadvance'
        have hsecond : Smooth first.signals second.signals :=
          smooth_of_running hadvance' (running_of_token hadvance').2.1
        split at h
        · cases h
          exact hfirst.trans hsecond
        · cases h
    · cases h

/-- **A scan without an error reads smoothly to the end of the input**, if the end is reported only
when it has come. -/
theorem read_to_end (lexer : Lexer) (hwhole : .ended ∉ lexer.signals)
    (hstop : (scanAll lexer).2.1 = none) :
    (scanAll lexer).2.2.signals = [] ∧ Smooth lexer.signals [] := by
  -- On the signals that are left, of which each command uses up some.
  induction hleft : lexer.signals.length using Nat.strongRecOn generalizing lexer with
  | ind left ih =>
    rcases hparse : Command.parse lexer with ⟨parsed, moved⟩
    cases parsed with
    | command command =>
      have hless : moved.signals.length < lexer.signals.length := Command.remaining_parse hparse
      have hsmooth := smooth_of_command hparse
      rw [scanAll_of_command hparse] at hstop ⊢
      obtain ⟨hend, hrest⟩ := ih _ (hleft ▸ hless) moved (hsmooth.not_mem hwhole) hstop rfl
      exact ⟨hend, hsmooth.trans hrest⟩
    | finished =>
      obtain ⟨hadvance, herror⟩ := Command.advance_of_finished hparse
      have hsmooth := smooth_of_running hadvance herror
      have hend : moved.signals = [] := by
        rcases (halts_of_end hadvance herror).2 with hend | ⟨passed, hpassed⟩
        · exact hend
        · exact absurd (by rw [hpassed]; simp) hwhole
      rw [scanAll_of_finished hparse]
      exact ⟨hend, hend ▸ hsmooth⟩
    | failed error =>
      rw [scanAll_of_failed hparse] at hstop
      cases hstop

end Lexer

theorem Utf8.assemble_ne_ended (lead : UInt8) (tail : List UInt8) :
    assemble lead tail ≠ .ended := by
  unfold assemble
  split <;> nofun

/-- An end is read only where one is reported. -/
theorem Utf8.ended_not_mem_decode {begun : Option Partial} {signals : List (Signal UInt8)}
    (h : .ended ∉ signals) : .ended ∉ decode begun signals := by
  fun_induction decode begun signals with
  | case1 => exact List.not_mem_nil
  | case2 => simp
  | case3 | case4 => simp at h
  -- A sequence is a character or a failure; all other signals are passed on or are failures.
  | case9 lead tail b rest ih =>
    rw [List.mem_cons, not_or] at h ⊢
    exact ⟨(assemble_ne_ended _ _).symm, ih h.2⟩
  | _ => simp_all

/-! ## Bytes and texts -/

theorem scanAll_deliver (bytes : List UInt8) :
    scanAll (Lexer.ofDeliveries (deliver bytes)) =
      scanAll ({ signals := Utf8.decode none (bytes.map .item) } : Lexer) :=
  (scanAll_congr (Command.parse_congr (Lexer.advance_of_alike (alike_deliver bytes)))).symm

/-- **What is loaded without an error has been read to its end**, and no read has failed. -/
theorem Conversation.read_to_end {η : Type} [Sink η] {conversation result : Conversation η}
    {bytes : List UInt8} {count : Nat}
    (h : conversation.load (deliver bytes) = (.ok count, result)) :
    (scanAll (Lexer.ofDeliveries (deliver bytes))).2.2.signals = [] ∧
      Smooth (Utf8.decode none (bytes.map .item)) [] := by
  have hstop : (scanAll (Lexer.ofDeliveries (deliver bytes))).2.1 = none := by
    rw [load, loadFrom_eq] at h
    cases herror : (scanAll (Lexer.ofDeliveries (deliver bytes))).2.1 with
    | none => rfl
    | some error =>
      rw [herror] at h
      cases h
  rw [scanAll_deliver] at hstop ⊢
  exact Lexer.read_to_end _ (Utf8.ended_not_mem_decode (by simp)) hstop

/-- Where a read fails, nothing is loaded without an error. -/
theorem Conversation.load_ne_ok {η : Type} [Sink η] {bytes : List UInt8} {error : ReadError}
    (h : .failed error ∈ Utf8.decode none (bytes.map .item))
    (conversation result : Conversation η) (count : Nat) :
    conversation.load (deliver bytes) ≠ (.ok count, result) := by
  intro hload
  obtain ⟨-, hsmooth⟩ := read_to_end hload
  exact hsmooth.not_failed error h

/-- Bytes that are read as a text are loaded as it is, with an error or without. -/
theorem Conversation.load_of_text {η : Type} [Sink η] {bytes : List UInt8} {text : String}
    (h : Utf8.decode none (bytes.map .item) = text.toList.map .item)
    (conversation : Conversation η) :
    conversation.load (deliver bytes) = loadFrom (Lexer.ofText text) 0 conversation := by
  rw [load, loadFrom_eq, loadFrom_eq, scanAll_deliver, h]
  rfl

/-- **Bytes are read as the longest text with which they start.** A reader that takes characters
off them is answered that text; then the end, as often as it asks, if they are valid, and a failure
if they are not. What is loaded without an error was valid, has been read to its end, and is loaded
as the text is. -/
theorem bytes_read_as_text (bytes : List UInt8) :
    ∃ text, Utf8.LongestText bytes text ∧
      firstAnswers bytes text.toList.length = text.toList.map .item ∧
      (bytes.toByteArray.IsValidUTF8 ↔ ∀ m, firstAnswers bytes (text.toList.length + m) =
        text.toList.map .item ++ List.replicate m .ended) ∧
      (¬bytes.toByteArray.IsValidUTF8 ↔ ∃ error,
        firstAnswers bytes (text.toList.length + 1) =
          text.toList.map .item ++ [.failed error]) ∧
      (¬bytes.toByteArray.IsValidUTF8 ↔ ∃ n error, .failed error ∈ firstAnswers bytes n) ∧
      (∀ (η : Type) [Sink η] (conversation result : Conversation η) (count : Nat),
        conversation.load (deliver bytes) = (.ok count, result) →
          bytes.toByteArray.IsValidUTF8 ∧ Utf8.encode text = bytes ∧
          (scanAll (Lexer.ofDeliveries (deliver bytes))).2.2.signals = [] ∧
          Conversation.loadFrom (Lexer.ofText text) 0 conversation = (.ok count, result)) ∧
      ∀ (result : Conversation Transcript) (count : Nat),
        Conversation.empty.load (deliver bytes) = (.ok count, result) →
          Conversation.ofText text = .ok result := by
  obtain ⟨text, hlongest, hread⟩ := Utf8.exists_longestText bytes
  refine ⟨text, hlongest, ?_⟩
  rw [hlongest.isValid_iff]
  rcases hread with ⟨hbytes, hdecode⟩ | ⟨hbytes, error, later, hdecode⟩
  · -- The text is all that there is, and the end comes after it for good.
    have hanswers := firstAnswers_of_text hdecode
    have hnever := not_failed_of_text hdecode
    refine ⟨by simpa using hanswers 0, iff_of_true hbytes hanswers, ?_, ?_, ?_, ?_⟩
    · refine iff_of_false (not_not.mpr hbytes) ?_
      rintro ⟨error, hfailed⟩
      exact hnever _ error (by rw [hfailed]; simp)
    · refine iff_of_false (not_not.mpr hbytes) ?_
      rintro ⟨n, error, hmem⟩
      exact hnever n error hmem
    · intro η _ conversation result count hload
      refine ⟨hbytes, hbytes, (Conversation.read_to_end hload).1, ?_⟩
      rw [← hload, Conversation.load_of_text hdecode]
    · intro result count hload
      rw [Conversation.load_of_text hdecode] at hload
      rw [Conversation.ofText, hload]
  · -- The failure keeps all of them from being loaded, wherever the lexer is when it comes.
    have htext : firstAnswers bytes text.toList.length = text.toList.map .item := by
      simpa using firstAnswers_of_append hdecode
    have hfailed := firstAnswers_of_failed hdecode
    have hmem : .failed error ∈ Utf8.decode none (bytes.map .item) := by
      rw [hdecode]
      simp
    refine ⟨htext, ?_, iff_of_true hbytes ⟨error, hfailed⟩, ?_, ?_, ?_⟩
    · refine iff_of_false hbytes fun hended => ?_
      have hone := hfailed.symm.trans (hended 1)
      simp at hone
    · exact iff_of_true hbytes ⟨_, error, by rw [hfailed]; simp⟩
    · intro η _ conversation result count hload
      exact absurd hload (Conversation.load_ne_ok hmem conversation result count)
    · intro result count hload
      exact absurd hload (Conversation.load_ne_ok hmem .empty result count)

/-- A prompt whose last character takes two bytes. -/
def promptBytes : List UInt8 :=
  [65, 83, 75, 32, 0xC3, 0xA9]

/-- A letter, and then what would be half of a pair of surrogates. -/
def surrogateBytes : List UInt8 :=
  [65, 0xED, 0xA0, 0x80]

/-- The bytes of a prompt are valid, and those of a surrogate are not. -/
theorem bytes_read_as_text_surrogate :
    Conversation.empty.load (deliver promptBytes) =
        (.ok 1, (⟨none, ⟨[⟨.user, "é"⟩]⟩⟩ : Conversation Transcript)) ∧
      promptBytes.toByteArray.IsValidUTF8 ∧
      (∃ text, Utf8.encode text = promptBytes ∧
        Conversation.ofText text = .ok ⟨none, ⟨[⟨.user, "é"⟩]⟩⟩) ∧
      ¬surrogateBytes.toByteArray.IsValidUTF8 := by
  have hload : Conversation.empty.load (deliver promptBytes) =
      (.ok 1, (⟨none, ⟨[⟨.user, "é"⟩]⟩⟩ : Conversation Transcript)) := by
    rw [Conversation.load, Conversation.loadFrom_eq]
    decide +kernel
  obtain ⟨text, -, -, -, -, -, hany, hempty⟩ := bytes_read_as_text promptBytes
  obtain ⟨hvalid, hbytes, -⟩ := hany Transcript _ _ _ hload
  obtain ⟨-, -, -, -, -, hfailed, -⟩ := bytes_read_as_text surrogateBytes
  refine ⟨hload, hvalid, ⟨text, hbytes, hempty _ _ hload⟩, hfailed.mpr ?_⟩
  exact ⟨2, .malformed 1, by decide⟩

end Dialogue
