import Dialogue.Proofs.Grammar.Reading

/-!
# The grammar of chatfiles

A text falls into phrases with blanks before them and a closing, which is nothing but blanks if the
text is a chatfile, and a fault after blanks if it is none. Each text falls apart in exactly one
way, and the scanner finds it: the commands of a text are those of its phrases, and the error after
them is that of its fault.

## Main definitions

* `Step`: a phrase and the blanks before it
* `Opens text steps rest`: the text starts with these steps, and `rest` comes after them
* `Closing`: what comes after all phrases of a text
* `Chatfile`, `Rejection`: the parts of a text that the scanner accepts, and of one that it rejects

## Main results

* `exists_opens`, `Opens.unique`: every text falls apart in exactly one way
* `commandsOf_of_opens`: the scanner finds it
* `accepts_chatfiles`: exactly the chatfiles are accepted, with the commands of their phrases
* `rejects_faults`: every other text is rejected with the error of its fault, after the commands of
  as many phrases as it starts with
-/

namespace Dialogue

open Text (isBlank trimEnd upper)

/-- A phrase and the blanks before it. -/
structure Step where
  blanks : List Char
  isGap : IsGap blanks
  phrase : Phrase

namespace Step

/-- The step as it is written. -/
def write (step : Step) : List Char :=
  step.blanks ++ step.phrase.write

/-- A text starts with only one step. -/
theorem write_inj {step step' : Step} {rest rest' : List Char}
    (hrest : step.phrase.EndsBefore rest) (hrest' : step'.phrase.EndsBefore rest')
    (h : step.write ++ rest = step'.write ++ rest') : step = step' ∧ rest = rest' := by
  obtain ⟨blanks, hblanks, phrase⟩ := step
  obtain ⟨blanks', hblanks', phrase'⟩ := step'
  simp only [write, List.append_assoc] at h
  obtain ⟨rfl, hphrase⟩ := append_inj_of_refuses hblanks
    (phrase.startsSolid_write.append rest).atSolid hblanks'
    (phrase'.startsSolid_write.append rest').atSolid h
  obtain ⟨rfl, rfl⟩ := Phrase.write_inj hrest hrest' hphrase
  exact ⟨rfl, rfl⟩

theorem write_ne_nil (step : Step) : step.write ≠ [] := by
  obtain ⟨c, tail, hwrite, -⟩ := step.phrase.startsSolid_write
  simp [write, hwrite]

end Step

/-- The text of some steps. -/
def writeSteps (steps : List Step) : List Char :=
  steps.flatMap Step.write

@[simp] theorem writeSteps_cons (step : Step) (steps : List Step) :
    writeSteps (step :: steps) = step.write ++ writeSteps steps := rfl

/-- The text starts with these steps, each of which ends where it has to, and `rest` comes after
them. -/
def Opens (text : List Char) (steps : List Step) (rest : List Char) : Prop :=
  match steps with
  | [] => text = rest
  | step :: steps =>
    ∃ tail, text = step.write ++ tail ∧ step.phrase.EndsBefore tail ∧ Opens tail steps rest

/-- What comes after all phrases of a text. -/
inductive Closing where
  /-- Blanks up to the end. -/
  | clean (blanks : List Char) (isGap : IsGap blanks)
  /-- Something that is no phrase. -/
  | faulty (blanks : List Char) (isGap : IsGap blanks) (fault : Fault)

namespace Closing

/-- The closing as it is written. -/
def write : Closing → List Char
  | .clean blanks _ => blanks
  | .faulty blanks _ fault => blanks ++ fault.write

/-- The error of the closing, if it starts at the given place. -/
def error? (start : Position) : Closing → Option ParseError
  | .clean .. => none
  | .faulty blanks _ fault => some (fault.error (start.after blanks))

end Closing

/-! ## Every text falls apart in one way -/

/-- Every text starts with a step or is a closing. -/
theorem step_or_closing (text : List Char) :
    (∃ step rest, text = Step.write step ++ rest ∧ step.phrase.EndsBefore rest) ∨
      ∃ closing, text = Closing.write closing := by
  obtain ⟨blanks, rest, rfl, hblanks, hrest⟩ := exists_gap text
  cases rest with
  | nil => exact Or.inr ⟨.clean blanks hblanks, List.append_nil blanks⟩
  | cons c tail =>
    have hsolid : StartsSolid (c :: tail) := ⟨c, tail, rfl, by simpa using hrest⟩
    rcases phrase_or_fault hsolid with ⟨phrase, rest, heq, hends⟩ | ⟨fault, heq⟩
    · exact Or.inl ⟨⟨blanks, hblanks, phrase⟩, rest, by rw [heq, Step.write, List.append_assoc],
        hends⟩
    · exact Or.inr ⟨.faulty blanks hblanks fault, by rw [heq, Closing.write]⟩

/-- **Every text falls into steps and a closing.** -/
theorem exists_opens (text : List Char) :
    ∃ steps closing, Opens text steps (Closing.write closing) := by
  -- On the length of the text, which each step makes shorter.
  induction hlen : text.length using Nat.strongRecOn generalizing text with
  | ind length ih =>
    rcases step_or_closing text with ⟨step, rest, rfl, hends⟩ | ⟨closing, rfl⟩
    · have hpos := List.length_pos_iff.mpr step.write_ne_nil
      obtain ⟨steps, closing, hopens⟩ := ih rest.length (by
        rw [← hlen, List.length_append]
        omega) rest rfl
      exact ⟨step :: steps, closing, rest, rfl, hends, hopens⟩
    · exact ⟨[], closing, rfl⟩

/-- A text that starts with a step is no closing. -/
theorem Step.write_ne_closing {step : Step} {rest : List Char}
    (hrest : step.phrase.EndsBefore rest) (closing : Closing) :
    step.write ++ rest ≠ closing.write := by
  intro h
  obtain ⟨blanks, hblanks, phrase⟩ := step
  have hsolid := phrase.startsSolid_write.append rest
  rw [write, List.append_assoc] at h
  cases closing with
  | clean blanks' hblanks' =>
    -- The phrase would be nothing.
    obtain ⟨-, hnil⟩ := append_inj_of_refuses hblanks hsolid.atSolid hblanks' (refuses_nil isBlank)
      (h.trans (List.append_nil blanks').symm)
    obtain ⟨c, tail, hcons, -⟩ := hsolid
    rw [hnil] at hcons
    cases hcons
  | faulty blanks' hblanks' fault =>
    obtain ⟨-, h⟩ := append_inj_of_refuses hblanks hsolid.atSolid hblanks'
      fault.startsSolid_write.atSolid h
    exact phrase.write_ne_fault hrest fault h

theorem Closing.write_injective {closing closing' : Closing} (h : closing.write = closing'.write) :
    closing = closing' := by
  -- A fault does not consist of blanks.
  have hne : ∀ {blanks blanks' : List Char} {fault : Fault}, IsGap blanks → IsGap blanks' →
      blanks ≠ blanks' ++ fault.write := by
    rintro _ blanks' fault hblanks hblanks' rfl
    obtain ⟨c, tail, hwrite, hc⟩ := fault.startsSolid_write
    rw [hwrite] at hblanks
    rw [hblanks c (by simp)] at hc
    cases hc
  cases closing with
  | clean blanks hblanks =>
    cases closing' with
    | clean blanks' hblanks' =>
      obtain rfl : blanks = blanks' := h
      rfl
    | faulty blanks' hblanks' fault' => exact absurd h (hne hblanks hblanks')
  | faulty blanks hblanks fault =>
    cases closing' with
    | clean blanks' hblanks' => exact absurd h.symm (hne hblanks' hblanks)
    | faulty blanks' hblanks' fault' =>
      obtain ⟨rfl, hfault⟩ := append_inj_of_refuses hblanks fault.startsSolid_write.atSolid
        hblanks' fault'.startsSolid_write.atSolid h
      obtain rfl := Fault.write_injective hfault
      rfl

namespace Opens

variable {text rest rest' : List Char} {steps steps' : List Step} {closing closing' : Closing}

/-- The steps and the rest make up the text. -/
theorem eq_append (h : Opens text steps rest) : text = writeSteps steps ++ rest := by
  induction steps generalizing text with
  | nil => exact h
  | cons step steps ih =>
    obtain ⟨tail, rfl, -, h⟩ := h
    rw [ih h, writeSteps_cons, List.append_assoc]

/-- **The steps before a closing are the longest ones**: all other steps that the text starts with
are some of these. -/
theorem isPrefix (h : Opens text steps closing.write) (h' : Opens text steps' rest') :
    steps' <+: steps := by
  induction steps generalizing text steps' with
  | nil =>
    cases steps' with
    | nil => exact List.nil_prefix
    | cons step' steps' =>
      -- A text that starts with one more step is no closing.
      obtain ⟨tail, heq, hends, -⟩ := h'
      exact absurd (heq.symm.trans h) (step'.write_ne_closing hends closing)
  | cons step steps ih =>
    cases steps' with
    | nil => exact List.nil_prefix
    | cons step' steps' =>
      obtain ⟨tail, rfl, hends, h⟩ := h
      obtain ⟨tail', heq, hends', h'⟩ := h'
      -- Both start with the same step.
      obtain ⟨rfl, rfl⟩ := Step.write_inj hends hends' heq
      exact List.cons_prefix_cons.mpr ⟨rfl, ih h h'⟩

/-- **A text falls apart in only one way.** -/
theorem unique (h : Opens text steps closing.write) (h' : Opens text steps' closing'.write) :
    steps = steps' ∧ closing = closing' := by
  obtain rfl : steps = steps' := (h'.isPrefix h).eq_of_length_le (h.isPrefix h').length_le
  have hwrite := h.eq_append.symm.trans h'.eq_append
  exact ⟨rfl, Closing.write_injective (List.append_cancel_left hwrite)⟩

end Opens

/-! ## The scanner -/

section Scan

variable {σ : Type} [TokenSource σ] {source moved : σ}

theorem scanAll_of_command {command : Command}
    (h : Command.parse source = (.command command, moved)) :
    scanAll source = (command :: (scanAll moved).1, (scanAll moved).2) := by
  rw [scanAll]
  split <;> simp_all

theorem scanAll_of_finished (h : Command.parse source = (.finished, moved)) :
    scanAll source = ([], none, moved) := by
  rw [scanAll]
  split <;> simp_all

theorem scanAll_of_failed {error : ParseError}
    (h : Command.parse source = (.failed error, moved)) :
    scanAll source = ([], some error, moved) := by
  rw [scanAll]
  split <;> simp_all

end Scan

/-- The commands of some steps. -/
def commandsOfSteps (steps : List Step) : List Command :=
  steps.map (·.phrase.command)

/-- A scan from the closing on finds no command, and its error if it has one. -/
theorem scanAll_closing {lexer : Lexer} {position : Position} {closing : Closing}
    (h : lexer.Before position closing.write) :
    ∃ stopped, scanAll lexer = ([], closing.error? position, stopped) := by
  cases closing with
  | clean blanks hblanks =>
    obtain ⟨ended, hparse⟩ := Lexer.parse_gap h hblanks
    exact ⟨ended, scanAll_of_finished hparse⟩
  | faulty blanks hblanks fault =>
    obtain ⟨failed, hparse⟩ := Lexer.parse_fault h hblanks
    exact ⟨failed, scanAll_of_failed hparse⟩

/-- A scan goes through the steps of a text and stops at its closing. -/
theorem scanAll_opens {lexer : Lexer} {position : Position} {text : List Char}
    {steps : List Step} {closing : Closing} (h : lexer.Before position text)
    (hopens : Opens text steps closing.write) :
    ∃ stopped, scanAll lexer =
      (commandsOfSteps steps, closing.error? (position.after (writeSteps steps)), stopped) := by
  -- Between two steps the lexer is before the text that is left.
  induction steps generalizing lexer position text with
  | nil =>
    obtain rfl : text = closing.write := hopens
    exact scanAll_closing h
  | cons step steps ih =>
    obtain ⟨tail, rfl, hends, hopens⟩ := hopens
    rw [Step.write, List.append_assoc] at h
    obtain ⟨moved, hparse, hbefore⟩ := Lexer.parse_phrase h step.isGap hends
    obtain ⟨stopped, hscan⟩ := ih hbefore hopens
    refine ⟨stopped, ?_⟩
    rw [scanAll_of_command hparse, hscan, writeSteps_cons,
      Position.after_append position step.write]
    rfl

/-- **The scanner finds the parts of a text**: the commands of its steps, and then the error of its
closing. -/
theorem commandsOf_of_opens {text : String} {steps : List Step} {closing : Closing}
    (h : Opens text.toList steps closing.write) :
    commandsOf text =
      (commandsOfSteps steps, closing.error? (Position.start.after (writeSteps steps))) := by
  obtain ⟨stopped, hscan⟩ := scanAll_opens (Lexer.at_ofText text).before h
  rw [commandsOf, hscan]

/-! ## Acceptance -/

/-- The parts of a text that is a chatfile: phrases with blanks before them, and blanks after the
last one. -/
structure Chatfile where
  steps : List Step
  blanks : List Char
  isGap : IsGap blanks

namespace Chatfile

/-- The text falls into the parts of the chatfile. -/
def Derives (chatfile : Chatfile) (text : List Char) : Prop :=
  Opens text chatfile.steps chatfile.blanks

/-- The commands of the phrases, in order. -/
def commands (chatfile : Chatfile) : List Command :=
  commandsOfSteps chatfile.steps

/-- Where a chatfile closes there are only blanks. -/
def closing (chatfile : Chatfile) : Closing :=
  .clean chatfile.blanks chatfile.isGap

variable {chatfile other : Chatfile} {text : List Char}

theorem Derives.opens (h : chatfile.Derives text) :
    Opens text chatfile.steps chatfile.closing.write := h

theorem Derives.unique (h : chatfile.Derives text) (hother : other.Derives text) :
    other = chatfile := by
  obtain ⟨hsteps, hclosing⟩ := h.opens.unique hother.opens
  cases chatfile
  cases other
  simp_all [closing]

end Chatfile

/-- **Exactly the chatfiles are accepted.** The scanner reports no error exactly for the texts that
fall into phrases and blanks; they do so in one way, and the commands are those of the phrases. -/
theorem accepts_chatfiles (text : String) :
    ((commandsOf text).2 = none ↔ ∃ chatfile : Chatfile, chatfile.Derives text.toList) ∧
      ∀ chatfile : Chatfile, chatfile.Derives text.toList →
        (commandsOf text).1 = chatfile.commands ∧
          ∀ other : Chatfile, other.Derives text.toList → other = chatfile := by
  refine ⟨⟨fun hnone => ?_, ?_⟩, fun chatfile h => ⟨?_, fun other hother => h.unique hother⟩⟩
  · -- The text falls apart somehow, and without an error its closing is clean.
    obtain ⟨steps, closing, hopens⟩ := exists_opens text.toList
    rw [commandsOf_of_opens hopens] at hnone
    cases closing with
    | clean blanks hblanks => exact ⟨⟨steps, blanks, hblanks⟩, hopens⟩
    | faulty blanks hblanks fault => cases hnone
  · rintro ⟨chatfile, h⟩
    rw [commandsOf_of_opens h.opens]
    rfl
  · rw [commandsOf_of_opens h.opens]
    rfl

/-- A name on the line of its keyword, and a block that runs to the end of the text: the line feed
at the end opens an empty line of it. -/
theorem accepts_chatfiles_block :
    commandsOf "from m\nASK |\n    hi\n" = ([.selectModel "m", .say ⟨.user, "hi"⟩], none) := by
  let name : Phrase := ⟨.selectModel, ⟨"from".toList, by decide⟩, [' '], by decide,
    .name ['m'] (by decide)⟩
  let line : BodyLine := .deep "    ".toList "hi".toList (by decide) (by decide) (by decide)
  let block : Phrase := ⟨.speak .user, ⟨"ASK".toList, by decide⟩, [' '], by decide,
    .block [] [line, .shallow [] (by decide) (by decide)] (by decide)
      ⟨line, by simp, 'h', by simp, by decide⟩⟩
  let chatfile : Chatfile := ⟨[⟨[], by decide, name⟩, ⟨['\n'], by decide, block⟩], [], by decide⟩
  have hderives : chatfile.Derives "from m\nASK |\n    hi\n".toList :=
    ⟨"\nASK |\n    hi\n".toList, by decide, refuses_cons.mpr rfl, [], by decide,
      endsBody_iff.mpr (Or.inl rfl), rfl⟩
  obtain ⟨haccepts, hcommands⟩ := accepts_chatfiles "from m\nASK |\n    hi\n"
  exact Prod.ext (hcommands chatfile hderives).1 (haccepts.mpr ⟨chatfile, hderives⟩)

/-! ## Rejection -/

/-- The parts of a text that is no chatfile: phrases with blanks before them, and then a fault. -/
structure Rejection where
  steps : List Step
  blanks : List Char
  isGap : IsGap blanks
  fault : Fault

namespace Rejection

/-- The text falls into the parts of the rejection. -/
def Explains (rejection : Rejection) (text : List Char) : Prop :=
  Opens text rejection.steps (rejection.blanks ++ rejection.fault.write)

/-- The commands of the phrases, in order. -/
def commands (rejection : Rejection) : List Command :=
  commandsOfSteps rejection.steps

/-- The error of the fault, at the place where it stands. -/
def error (rejection : Rejection) : ParseError :=
  rejection.fault.error (Position.start.after (writeSteps rejection.steps ++ rejection.blanks))

/-- Where a rejection closes there is its fault. -/
def closing (rejection : Rejection) : Closing :=
  .faulty rejection.blanks rejection.isGap rejection.fault

variable {rejection other : Rejection} {text : List Char}

theorem Explains.opens (h : rejection.Explains text) :
    Opens text rejection.steps rejection.closing.write := h

theorem Explains.unique (h : rejection.Explains text) (hother : other.Explains text) :
    other = rejection := by
  obtain ⟨hsteps, hclosing⟩ := h.opens.unique hother.opens
  cases rejection
  cases other
  simp_all [closing]

theorem error?_closing (rejection : Rejection) :
    rejection.closing.error? (Position.start.after (writeSteps rejection.steps)) =
      some rejection.error := by
  rw [error, Position.after_append]
  rfl

end Rejection

/-- A fault is in the text, not in how it is read or put into tokens. -/
theorem Fault.error_inText (fault : Fault) (start : Position) :
    (∀ failure, fault.error start ≠ .lexical (.unreadable failure)) ∧
      (∀ found, fault.error start ≠ .expectedCommand found) ∧
      ∀ expected found, fault.error start ≠ .mispaired expected found := by
  cases fault with
  | unknown => simp [error]
  | lacking keyword spelling padding lack =>
    cases lack with
    | bare => simp [error, Lack.error]
    | misplaced => cases keyword <;> simp [error, Lack.error]
    | hollow trailing body rest => cases rest <;> simp [error, Lack.error]

/-- **Every other text is rejected with the error of its fault.** The fault comes after as many
phrases as the text starts with, whose commands are returned; there is only one such fault, and no
error has another cause. -/
theorem rejects_faults (text : String) :
    (∀ error, (commandsOf text).2 = some error →
      (∃ rejection : Rejection, rejection.Explains text.toList ∧ rejection.error = error) ∧
        (∀ failure, error ≠ .lexical (.unreadable failure)) ∧
        (∀ found, error ≠ .expectedCommand found) ∧
        ∀ expected found, error ≠ .mispaired expected found) ∧
      ∀ rejection : Rejection, rejection.Explains text.toList →
        commandsOf text = (rejection.commands, some rejection.error) ∧
          (∀ steps rest, Opens text.toList steps rest → steps <+: rejection.steps) ∧
          ∀ other : Rejection, other.Explains text.toList → other = rejection := by
  refine ⟨fun error herror => ?_, fun rejection h => ⟨?_, fun steps rest hopens => ?_,
    fun other hother => h.unique hother⟩⟩
  · -- The text falls apart somehow, and with an error its closing is a fault.
    obtain ⟨steps, closing, hopens⟩ := exists_opens text.toList
    rw [commandsOf_of_opens hopens] at herror
    cases closing with
    | clean blanks hblanks => cases herror
    | faulty blanks hblanks fault =>
      let rejection : Rejection := ⟨steps, blanks, hblanks, fault⟩
      obtain rfl : rejection.error = error := by
        rw [← Option.some_inj, ← rejection.error?_closing]
        exact herror
      exact ⟨⟨rejection, hopens, rfl⟩, fault.error_inText _⟩
  · rw [commandsOf_of_opens h.opens, rejection.error?_closing]
    rfl
  · exact h.opens.isPrefix hopens

/-- A block without content, ended by a line that is not deep, is reported at its bar. -/
theorem rejects_faults_hollow :
    commandsOf "FROM m\nask |\n \nhi" =
      ([.selectModel "m"], some (.lexical (.expectedPrompt ⟨2, 5⟩))) := by
  let name : Phrase := ⟨.selectModel, ⟨"FROM".toList, by decide⟩, [' '], by decide,
    .name ['m'] (by decide)⟩
  let line : BodyLine := .shallow [' '] (by decide) (by decide)
  have hends : EndsBody "\nhi".toList :=
    endsBody_iff.mpr (Or.inr ⟨[], 'h', ['i'], rfl, by decide, by decide, by decide⟩)
  let fault : Fault := .lacking (.speak .user) ⟨"ask".toList, by decide⟩ [' ']
    (.hollow [] [line] "\nhi".toList (by decide) (by simp [line, BodyLine.HasContent]) hends)
    (by decide) (refuses_cons.mpr rfl)
  let rejection : Rejection := ⟨[⟨[], by decide, name⟩], ['\n'], by decide, fault⟩
  have hexplains : rejection.Explains "FROM m\nask |\n \nhi".toList :=
    ⟨"\nask |\n \nhi".toList, by decide, refuses_cons.mpr rfl, rfl⟩
  exact ((rejects_faults "FROM m\nask |\n \nhi").2 rejection hexplains).1

end Dialogue
