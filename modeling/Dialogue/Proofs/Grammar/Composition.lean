import Dialogue.Proofs.Conversation.Loading
import Dialogue.Proofs.Grammar.RoundTrip
import Mathlib.Data.List.Basic

/-!
# Texts put together

Nothing is carried over from one command to the next but the place in the text. So what a text
yields can be put together from its parts: blanks before a text do nothing but move it, and two
texts yield what the first one yields and then what the second one yields further down, if the
first one ends with its last line and the second one does not start with blanks.

A block is where this is not plain. At the end of a text it takes the last line feed, as an empty
line of its own; before another command it leaves it.

## Main definitions

* `Yields text commands error?`: the commands of a text, and the error after them by the place
  where the text starts
* `Position.down`, `ParseError.down`: a place and an error some lines further down

## Main results

* `Yields.gap`, `Yields.of_gap`: blanks in front only move a text
* `Yields.append`: what two texts yield together
* `scan_and_load_append`: to scan or to load two texts together is to do so one after the other
-/

namespace Dialogue

open Text (isBlank trimEnd)

/-! ## What a text yields -/

/-- The commands of the text, and the error after them if the text starts at the given place. -/
def Yields (text : List Char) (commands : List Command)
    (error? : Position → Option ParseError) : Prop :=
  ∃ (steps : List Step) (closing : Closing), Opens text steps closing.write ∧
    commands = commandsOfSteps steps ∧
    error? = fun position => closing.error? (position.after (writeSteps steps))

theorem exists_yields (text : List Char) : ∃ commands error?, Yields text commands error? := by
  obtain ⟨steps, closing, hopens⟩ := exists_opens text
  exact ⟨_, _, steps, closing, hopens, rfl, rfl⟩

theorem commandsOf_of_yields {text : String} {commands : List Command}
    {error? : Position → Option ParseError} (h : Yields text.toList commands error?) :
    commandsOf text = (commands, error? .start) := by
  obtain ⟨steps, closing, hopens, rfl, rfl⟩ := h
  exact commandsOf_of_opens hopens

theorem yields_closing (closing : Closing) : Yields closing.write [] closing.error? :=
  ⟨[], closing, rfl, rfl, rfl⟩

namespace Yields

variable {text blanks : List Char} {commands commands' : List Command}
  {error? error?' : Position → Option ParseError}

theorem unique (h : Yields text commands error?) (h' : Yields text commands' error?') :
    commands = commands' ∧ error? = error?' := by
  obtain ⟨steps, closing, hopens, rfl, rfl⟩ := h
  obtain ⟨steps', closing', hopens', rfl, rfl⟩ := h'
  obtain ⟨rfl, rfl⟩ := hopens.unique hopens'
  exact ⟨rfl, rfl⟩

/-- A phrase before a text puts its command in front. -/
theorem phrase {phrase : Phrase} (hends : phrase.EndsBefore text)
    (h : Yields text commands error?) :
    Yields (phrase.write ++ text) (phrase.command :: commands)
      (fun position => error? (position.after phrase.write)) := by
  obtain ⟨steps, closing, hopens, rfl, rfl⟩ := h
  refine ⟨⟨[], isGap_nil, phrase⟩ :: steps, closing, ⟨text, rfl, hends, hopens⟩, rfl, ?_⟩
  funext position
  rw [writeSteps_cons, Position.after_append]
  rfl

/-- **Blanks before a text do nothing but move it.** -/
theorem gap (hblanks : IsGap blanks) (h : Yields text commands error?) :
    Yields (blanks ++ text) commands (fun position => error? (position.after blanks)) := by
  -- The blanks go to those of the first step or, if there is none, to those of the closing.
  obtain ⟨steps, closing, hopens, rfl, rfl⟩ := h
  cases steps with
  | nil =>
    obtain rfl : text = closing.write := hopens
    cases closing with
    | clean blanks' hblanks' =>
      exact ⟨[], .clean (blanks ++ blanks') (isGap_append.mpr ⟨hblanks, hblanks'⟩), rfl, rfl, rfl⟩
    | faulty blanks' hblanks' fault =>
      refine ⟨[], .faulty (blanks ++ blanks') (isGap_append.mpr ⟨hblanks, hblanks'⟩) fault, ?_, rfl,
        ?_⟩
      · exact (List.append_assoc blanks blanks' fault.write).symm
      · funext position
        exact congrArg (fun place => some (fault.error place))
          (Position.after_append position blanks blanks').symm
  | cons step steps =>
    obtain ⟨tail, rfl, hends, hopens⟩ := hopens
    obtain ⟨blanks', hblanks', phrase⟩ := step
    refine ⟨⟨blanks ++ blanks', isGap_append.mpr ⟨hblanks, hblanks'⟩, phrase⟩ :: steps, closing,
      ⟨tail, ?_, hends, hopens⟩, rfl, ?_⟩
    · simp only [Step.write, List.append_assoc]
    · funext position
      simp only [writeSteps_cons, Step.write, List.append_assoc, Position.after_append]

/-- The blanks before a text can be taken away. -/
theorem of_gap (hblanks : IsGap blanks) (h : Yields (blanks ++ text) commands error?) :
    ∃ error?', Yields text commands error?' ∧
      ∀ position : Position, error?' (position.after blanks) = error? position := by
  -- The text yields something, and with the blanks in front that is what `h` says.
  obtain ⟨commands', error?', h'⟩ := exists_yields text
  obtain ⟨rfl, rfl⟩ := h.unique (h'.gap hblanks)
  exact ⟨error?', h', fun _ => rfl⟩

end Yields

/-! ## Two texts -/

/-- A phrase that ends before some text ends before a longer one. -/
theorem Phrase.EndsBefore.append {phrase : Phrase} {tail : List Char} (h : phrase.EndsBefore tail)
    (htail : tail ≠ []) (rest : List Char) : phrase.EndsBefore (tail ++ rest) := by
  obtain ⟨keyword, spelling, padding, hpadding, companion⟩ := phrase
  cases companion with
  | name word hword => exact Refuses.append h htail rest
  | line text hline hsolid hbar => exact Refuses.append h htail rest
  | block trailing body htrailing hcontent =>
    -- A block is ended by a character of the next line, which is still there.
    rcases endsBody_iff.mp h with rfl | ⟨blanks, c, more, rfl, hblanks, hshort, hc⟩
    · exact absurd rfl htail
    · exact endsBody_iff.mpr (Or.inr ⟨blanks, c, more ++ rest, by simp, hblanks, hshort, hc⟩)

/-- A text that ends with a line feed does not end within a line. -/
theorem IsLine.ne_append_newline {line : List Char} (h : IsLine line) (front : List Char) :
    line ≠ front ++ ['\n'] := by
  rintro rfl
  exact h '\n' (by simp) rfl

/-- A body that ends with a line feed ends with an empty line. -/
theorem exists_body_of_newline {body : List BodyLine} {before front : List Char}
    (hbefore : IsLine before) (h : before ++ writeBody body = front ++ ['\n']) :
    ∃ body', body = body' ++ [.last] ∧ before ++ writeBody body' = front := by
  rcases List.eq_nil_or_concat body with rfl | ⟨body', line, rfl⟩
  · rw [writeBody_nil, List.append_nil] at h
    exact absurd h (hbefore.ne_append_newline front)
  · rw [List.concat_eq_append, writeBody_append, writeBody_cons, writeBody_nil,
      List.append_nil] at h
    rcases List.eq_nil_or_concat line.write with hline | ⟨more, c, hline⟩
    · obtain rfl : line = .last := BodyLine.write_injective hline
      rw [hline, ← List.append_assoc] at h
      exact ⟨body', List.concat_eq_append, (List.append_inj' h rfl).1⟩
    · -- Otherwise the last character of the text is on the last line, and is no line feed.
      rw [List.concat_eq_append] at hline
      rw [hline, ← List.cons_append, ← List.append_assoc, ← List.append_assoc] at h
      obtain rfl : c = '\n' := List.singleton_inj.mp (List.append_inj' h rfl).2
      exact absurd hline (line.isLine_write.ne_append_newline more)

/-- **A phrase that ends with a line feed can leave it to the next command**: the phrase is a
block, and the line feed opens an empty line that is not part of the message. -/
theorem Phrase.exists_of_newline {phrase : Phrase} {front : List Char}
    (h : phrase.write = front ++ ['\n']) :
    ∃ phrase' : Phrase, phrase'.write = front ∧ phrase'.command = phrase.command ∧
      ∀ rest, StartsSolid rest → phrase'.EndsBefore ('\n' :: rest) := by
  obtain ⟨keyword, spelling, padding, hpadding, companion⟩ := phrase
  have hopening : IsLine (spelling.letters ++ padding) :=
    spelling.isWord.isLine.append hpadding.2.isLine
  rw [Phrase.write, ← List.append_assoc] at h
  cases companion with
  | name word hword =>
    exact absurd h ((hopening.append hword.isLine).ne_append_newline front)
  | line text hline hsolid hbar => exact absurd h ((hopening.append hline).ne_append_newline front)
  | block trailing body htrailing hcontent =>
    rw [Companion.write, ← List.cons_append, ← List.append_assoc] at h
    obtain ⟨body, rfl, hfront⟩ :=
      exists_body_of_newline (hopening.append htrailing.isLine_bar) h
    -- The line with content is not the empty one.
    have hcontent' : ∃ line ∈ body, line.HasContent := by
      obtain ⟨line, hmem, hline⟩ := hcontent
      rcases List.mem_append.mp hmem with hmem | hmem
      · exact ⟨line, hmem, hline⟩
      · rw [List.mem_singleton.mp hmem] at hline
        exact hline.elim
    refine ⟨⟨_, spelling, padding, hpadding, .block trailing body htrailing hcontent'⟩, ?_, ?_,
      fun rest hrest => endsBody_newline hrest⟩
    · rw [← hfront]
      simp [Phrase.write, Companion.write]
    · simp only [Phrase.command, Companion.content, contents_append, BodyLine.contents_last,
        List.append_nil]

theorem Phrase.exists_write_eq_concat (phrase : Phrase) :
    ∃ front c, phrase.write = front ++ [c] := by
  obtain ⟨c, tail, hwrite, -⟩ := phrase.startsSolid_write
  rcases List.eq_nil_or_concat phrase.write with hnil | ⟨front, last, hconcat⟩
  · rw [hnil] at hwrite
    cases hwrite
  · exact ⟨front, last, hconcat.trans List.concat_eq_append⟩

/-- There is no step in nothing. -/
theorem Opens.eq_nil {steps : List Step} {rest : List Char} (h : Opens [] steps rest) :
    steps = [] := by
  cases steps with
  | nil => rfl
  | cons step steps =>
    obtain ⟨tail, hwrite, -⟩ := h
    exact absurd (List.append_eq_nil_iff.mp hwrite.symm).1 step.write_ne_nil

/-- What two texts yield together, if the second one is more than nothing. -/
theorem Yields.append_of_startsSolid {first second blanks : List Char} {steps : List Step}
    {commands : List Command} {error? : Position → Option ParseError}
    (hopens : Opens first steps blanks) (hblanks : IsGap blanks)
    (hfirst : ∀ c ∈ first.getLast?, c = '\n') (hsecond : StartsSolid second)
    (h : Yields second commands error?) :
    Yields (first ++ second) (commandsOfSteps steps ++ commands)
      (fun position => error? (position.after first)) := by
  -- One step after the other; only the last one meets the second text.
  induction steps generalizing first with
  | nil =>
    obtain rfl : first = blanks := hopens
    exact h.gap hblanks
  | cons step steps ih =>
    obtain ⟨tail, rfl, hends, hopens⟩ := hopens
    obtain ⟨lead, hlead, phrase⟩ := step
    simp only [Step.write] at hfirst ⊢
    by_cases htail : tail = []
    · -- The first text ends with this phrase, which is a block and leaves its last line feed.
      subst htail
      obtain rfl : steps = [] := hopens.eq_nil
      obtain ⟨front, c, hwrite⟩ := phrase.exists_write_eq_concat
      rw [List.append_nil, hwrite, ← List.append_assoc, List.getLast?_concat] at hfirst
      obtain rfl : c = '\n' := hfirst c rfl
      obtain ⟨phrase', rfl, hcommand, hends'⟩ := Phrase.exists_of_newline hwrite
      have hyields := ((h.gap (show IsGap ['\n'] by decide)).phrase
        (hends' second hsecond)).gap hlead
      rw [hcommand] at hyields
      simpa [hwrite, Position.after_append, commandsOfSteps] using hyields
    · -- The phrase ends before the rest of the first text, and what is after it is no matter.
      rw [List.getLast?_append_of_ne_nil _ htail] at hfirst
      have hyields := ((ih hopens hfirst).phrase (hends.append htail second)).gap hlead
      simpa [Position.after_append, commandsOfSteps] using hyields

/-- **Two texts yield what the first one yields, and then what the second one yields** where the
first one ends. The first one has no error and ends with its last line, and the second one does
not start with a blank. -/
theorem Yields.append {first second blanks : List Char} {steps : List Step}
    {commands : List Command} {error? : Position → Option ParseError}
    (hopens : Opens first steps blanks) (hblanks : IsGap blanks)
    (hfirst : ∀ c ∈ first.getLast?, c = '\n') (hsecond : AtSolid second)
    (h : Yields second commands error?) :
    Yields (first ++ second) (commandsOfSteps steps ++ commands)
      (fun position => error? (position.after first)) := by
  cases second with
  | nil =>
    -- Nothing yields nothing, and the first text stays as it is.
    obtain ⟨rfl, rfl⟩ := h.unique (yields_closing (.clean [] isGap_nil))
    rw [List.append_nil, List.append_nil]
    exact ⟨steps, .clean blanks hblanks, hopens, rfl, rfl⟩
  | cons c tail =>
    exact append_of_startsSolid hopens hblanks hfirst ⟨c, tail, rfl, refuses_cons.mp hsecond⟩ h

/-! ## Further down -/

namespace Position

/-- The place some lines further down. -/
def down (lines : Nat) (position : Position) : Position :=
  ⟨position.line + lines, position.column⟩

theorem after_down (lines : Nat) (position : Position) (taken : List Char) :
    (position.down lines).after taken = (position.after taken).down lines := by
  induction taken generalizing position with
  | nil => rfl
  | cons c taken ih =>
    have hstep : (position.down lines).step c = (position.step c).down lines := by
      by_cases hc : c = '\n'
      · simp only [step, hc, if_true, down, Nat.add_right_comm]
      · simp only [step, hc, if_false, down]
    simp only [after, List.foldl_cons, hstep]
    exact ih (position.step c)

/-- After whole lines a text goes on in the first column. -/
theorem start_after_lines {lines : List Char} (h : ∀ c ∈ lines.getLast?, c = '\n') :
    start.after lines = start.down (lines.count '\n') := by
  rcases List.eq_nil_or_concat lines with rfl | ⟨front, c, rfl⟩
  · rfl
  · rw [List.concat_eq_append] at h ⊢
    obtain rfl : c = '\n' := h c (by rw [List.getLast?_concat]; rfl)
    rw [after_append, List.count_append]
    have hline := line_after start front
    simp only [after, List.foldl_cons, List.foldl_nil, step, if_true] at hline ⊢
    rw [hline]
    rfl

end Position

/-- The error some lines further down; what is wrong stays the same. -/
def LexError.down (lines : Nat) : LexError → LexError
  | .unknownToken word position => .unknownToken word (position.down lines)
  | .unexpectedEnd position => .unexpectedEnd (position.down lines)
  | .expectedPrompt position => .expectedPrompt (position.down lines)
  | .expectedModel position => .expectedModel (position.down lines)
  | .unreadable error => .unreadable error

@[inherit_doc LexError.down]
def ParseError.down (lines : Nat) : ParseError → ParseError
  | .lexical error => .lexical (error.down lines)
  | .incomplete keyword => .incomplete keyword
  | .expectedCommand found =>
    .expectedCommand { found with position := found.position.down lines }
  | .mispaired expected found => .mispaired expected found

theorem Lack.error_down {keyword : Keyword} (lack : Lack keyword) (lines : Nat)
    (place : Position) : lack.error (place.down lines) = (lack.error place).down lines := by
  cases lack with
  | bare => rfl
  | misplaced blanks rest hblanks hrest =>
    cases keyword <;> simp only [error, Position.after_down, ParseError.down, LexError.down]
  | hollow trailing body rest htrailing hempty hended =>
    cases rest <;> simp only [error, Position.after_down, ParseError.down, LexError.down]

theorem Fault.error_down (fault : Fault) (lines : Nat) (start : Position) :
    fault.error (start.down lines) = (fault.error start).down lines := by
  cases fault with
  | unknown word rest hword hforeign hended => rfl
  | lacking keyword spelling padding lack hpadding hended =>
    rw [error, Position.after_down, Lack.error_down, error]

/-- The error of a text that starts further down is further down. -/
theorem Yields.error?_down {text : List Char} {commands : List Command}
    {error? : Position → Option ParseError} (h : Yields text commands error?) (lines : Nat)
    (start : Position) : error? (start.down lines) = (error? start).map (·.down lines) := by
  obtain ⟨steps, closing, -, -, rfl⟩ := h
  cases closing with
  | clean blanks hblanks => rfl
  | faulty blanks hblanks fault =>
    simp only [Closing.error?, Position.after_down, Fault.error_down, Option.map_some]

/-! ## Scanning and loading -/

theorem commandsOf_append {first second : String} (hfirst : ∀ c ∈ first.toList.getLast?, c = '\n')
    (hclean : (commandsOf first).2 = none) (hsecond : AtSolid second.toList) :
    commandsOf (first ++ second) =
      ((commandsOf first).1 ++ (commandsOf second).1,
        (commandsOf second).2.map (·.down (first.toList.count '\n'))) := by
  obtain ⟨steps, closing, hopens⟩ := exists_opens first.toList
  obtain ⟨commands, error?, hyields⟩ := exists_yields second.toList
  rw [commandsOf_of_opens hopens] at hclean ⊢
  cases closing with
  | clean blanks hblanks =>
    have happend := Yields.append hopens hblanks hfirst hsecond hyields
    rw [← String.toList_append] at happend
    rw [commandsOf_of_yields happend, commandsOf_of_yields hyields,
      Position.start_after_lines hfirst, hyields.error?_down]
  | faulty blanks hblanks fault => cases hclean

/-- **To scan two texts together is to scan one after the other**, and so is to load them. The
commands of the first text come before those of the second one, whose error is as many lines
further down as the first text has; any conversation is left the same, also if there is such an
error. -/
theorem scan_and_load_append {first second : String}
    (hfirst : first = "" ∨ first.toList.getLast? = some '\n')
    (hclean : (commandsOf first).2 = none)
    (hsecond : second = "" ∨ StartsSolid second.toList) :
    commandsOf (first ++ second) =
        ((commandsOf first).1 ++ (commandsOf second).1,
          (commandsOf second).2.map (·.down (first.toList.count '\n'))) ∧
      ∀ {η : Type} [Sink η] (conversation : Conversation η),
        (Conversation.load (deliver (Utf8.encode (first ++ second))) conversation).2 =
          (Conversation.load (deliver (Utf8.encode second))
            (Conversation.load (deliver (Utf8.encode first)) conversation).2).2 := by
  have hlines : ∀ c ∈ first.toList.getLast?, c = '\n' := by
    rcases hfirst with rfl | hlast
    · simp
    · simp [hlast]
  have hsolid : AtSolid second.toList := by
    rcases hsecond with rfl | hsolid
    · simp
    · exact hsolid.atSolid
  have hscan := commandsOf_append hlines hclean hsolid
  refine ⟨hscan, fun conversation => ?_⟩
  simp only [Conversation.load_deliver_encode, hscan, Command.applyAll_append]

/-- A block that the first text ends with, and a second text that stops at its second line. -/
theorem scan_and_load_append_block :
    commandsOf ("ASK |\n    hi\n" ++ "FROM m\n oops") =
        ([.say ⟨.user, "hi"⟩, .selectModel "m"],
          some (.lexical (.unknownToken "oops" ⟨4, 2⟩))) ∧
      (Conversation.load (deliver (Utf8.encode ("ASK |\n    hi\n" ++ "FROM m\n oops")))
        (Conversation.empty : Conversation Transcript)).2 = ⟨some "m", ⟨[⟨.user, "hi"⟩]⟩⟩ := by
  have hfirst : commandsOf "ASK |\n    hi\n" = ([.say ⟨.user, "hi"⟩], none) := by decide +kernel
  have hsecond : commandsOf "FROM m\n oops" =
      ([.selectModel "m"], some (.lexical (.unknownToken "oops" ⟨2, 2⟩))) := by decide +kernel
  obtain ⟨hscan, hload⟩ := @scan_and_load_append "ASK |\n    hi\n" "FROM m\n oops"
    (Or.inr (by decide)) (by rw [hfirst])
    (Or.inr ⟨'F', "ROM m\n oops".toList, by decide, by decide⟩)
  constructor
  · rw [hscan, hfirst, hsecond]
    rfl
  · rw [hload]
    simp only [Conversation.load_deliver_encode, hfirst, hsecond]
    rfl

end Dialogue
