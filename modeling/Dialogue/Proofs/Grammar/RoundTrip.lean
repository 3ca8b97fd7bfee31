import Dialogue.Proofs.Grammar.Chatfile

/-!
# Written chatfiles

A list of commands written one after the other, each on lines of its own, is a chatfile, and the
scanner gives the commands back. The line feed after a command is not a part of its phrase, with
one exception: after a block at the end of the text it opens an empty line, which the block takes
as its last one.

## Main definitions

* `WrittenLine`: a line of a block, and how it is indented
* `Written`: a command as it is written; the fields keep what its text must not contain
* `Written.write`, `Written.command`: the text and the command

## Main results

* `Written.exists_phrase`: each written command is a phrase
* `commandsOf_write`: the scanner gives back the written commands
-/

namespace Dialogue

open Text (isBlank trimEnd upper)

/-- There is no blank at the end of the text. -/
def IsTrimmed (text : List Char) : Prop :=
  ∀ c ∈ text.getLast?, isBlank c = false

instance (text : List Char) : Decidable (IsTrimmed text) :=
  Option.decidableForallMem text.getLast?

theorem IsTrimmed.exists_solid {text : List Char} (h : IsTrimmed text) (hne : text ≠ []) :
    ∃ c ∈ text, isBlank c = false :=
  ⟨text.getLast hne, List.getLast_mem hne, h _ (List.getLast_mem_getLast? hne)⟩

/-- The two ways to indent a line of a block. -/
inductive Indentation where
  | tab
  | spaces

/-- A tab, or four spaces. -/
def Indentation.write : Indentation → List Char
  | .tab => ['\t']
  | .spaces => [' ', ' ', ' ', ' ']

theorem Indentation.isPadding_write (indentation : Indentation) : IsPadding indentation.write := by
  cases indentation <;> decide

theorem Indentation.reaches_write (indentation : Indentation) : Reaches indentation.write := by
  cases indentation <;> decide

/-- A line of a block, which may be empty. -/
structure WrittenLine where
  indentation : Indentation
  text : List Char
  isLine : IsLine text
  isTrimmed : IsTrimmed text

namespace WrittenLine

/-- The line as it is written, without its line feed. -/
def write (line : WrittenLine) : List Char :=
  line.indentation.write ++ line.text

/-- The line is deep, however it is indented. -/
def bodyLine (line : WrittenLine) : BodyLine :=
  .deep line.indentation.write line.text line.indentation.isPadding_write
    line.indentation.reaches_write line.isLine

theorem content?_bodyLine (line : WrittenLine) : line.bodyLine.content? = some line.text := by
  rw [bodyLine, BodyLine.content?, Text.trimEnd_eq_self line.isTrimmed]

theorem hasContent_bodyLine {line : WrittenLine} (h : line.text ≠ []) :
    line.bodyLine.HasContent :=
  line.isTrimmed.exists_solid h

end WrittenLine

/-- A command as it is written. -/
inductive Written where
  /-- A keyword and the name of a model. -/
  | model (spelling : Spelling .selectModel) (name : List Char) (isWord : IsWord name)
  /-- A keyword and a message on its line. -/
  | inline {role : Role} (spelling : Spelling (.speak role)) (message : List Char)
      (isLine : IsLine message) (startsSolid : StartsSolid message) (isTrimmed : IsTrimmed message)
      (noBar : message ≠ ['|'])
  /-- A keyword, a bar, and the lines of a message. -/
  | block {role : Role} (spelling : Spelling (.speak role)) (lines : List WrittenLine)
      (hasContent : ∃ line ∈ lines, line.text ≠ [])

namespace Written

/-- The command as it is written. -/
def write : Written → List Char
  | .model spelling name _ => spelling.letters ++ ' ' :: name ++ ['\n']
  | .inline spelling message .. => spelling.letters ++ ' ' :: message ++ ['\n']
  | .block spelling lines _ =>
    spelling.letters ++ [' ', '|', '\n'] ++ lines.flatMap fun line => line.write ++ ['\n']

/-- The command that is written. -/
def command : Written → Command
  | .model _ name _ => .selectModel (String.ofList name)
  | @inline role _ message .. => .say ⟨role, String.ofList message⟩
  | @block role _ lines _ =>
    .say ⟨role, String.ofList (['\n'].intercalate (lines.map WrittenLine.text))⟩

theorem startsSolid_write (written : Written) : StartsSolid written.write := by
  cases written with
  | model spelling name =>
    rw [write, List.append_assoc]
    exact spelling.isWord.startsSolid.append _
  | inline spelling message =>
    rw [write, List.append_assoc]
    exact spelling.isWord.startsSolid.append _
  | block spelling lines =>
    rw [write, List.append_assoc]
    exact spelling.isWord.startsSolid.append _

end Written

/-! ## Blocks -/

/-- Lines with a line feed after each are the same text as lines with a line feed before each, but
for the line feeds at both ends. -/
theorem newline_cons_flatMap (lines : List WrittenLine) :
    '\n' :: (lines.flatMap fun line => line.write ++ ['\n']) =
      writeBody (lines.map WrittenLine.bodyLine) ++ ['\n'] := by
  induction lines with
  | nil => rfl
  | cons line lines ih =>
    rw [List.flatMap_cons, List.append_assoc, List.singleton_append, ih, List.map_cons,
      writeBody_cons, List.cons_append, List.append_assoc]
    rfl

theorem contents_map_bodyLine (lines : List WrittenLine) :
    contents (lines.map WrittenLine.bodyLine) = lines.map WrittenLine.text := by
  have hcontent : BodyLine.content? ∘ WrittenLine.bodyLine = some ∘ WrittenLine.text := by
    funext line
    exact line.content?_bodyLine
  rw [contents, List.filterMap_map, hcontent, List.filterMap_eq_map]

theorem exists_hasContent {lines : List WrittenLine} (h : ∃ line ∈ lines, line.text ≠ []) :
    ∃ line ∈ lines.map WrittenLine.bodyLine, line.HasContent := by
  obtain ⟨line, hmem, hne⟩ := h
  exact ⟨line.bodyLine, List.mem_map_of_mem hmem, WrittenLine.hasContent_bodyLine hne⟩

/-- The line of a body after the last line feed of the text. -/
def BodyLine.last : BodyLine :=
  .shallow [] (by decide) (by decide)

theorem BodyLine.contents_last : contents [.last] = [] := rfl

/-- What starts with no blank ends a body. -/
theorem endsBody_newline {rest : List Char} (h : StartsSolid rest) : EndsBody ('\n' :: rest) := by
  obtain ⟨c, tail, rfl, hc⟩ := h
  exact endsBody_iff.mpr (Or.inr ⟨[], c, tail, rfl, by decide, by decide, hc⟩)

/-- A written block is a phrase: with an empty line at its end if no other command comes after
it. -/
theorem exists_phrase_of_block {role : Role} (spelling : Spelling (.speak role))
    {lines : List WrittenLine} (hcontent : ∃ line ∈ lines, line.text ≠ []) {rest : List Char}
    (hrest : rest = [] ∨ StartsSolid rest) :
    ∃ phrase lead, Phrase.command phrase = (Written.block spelling lines hcontent).command ∧
      IsGap lead ∧ (Written.block spelling lines hcontent).write ++ rest =
        phrase.write ++ (lead ++ rest) ∧ phrase.EndsBefore (lead ++ rest) := by
  have hdeep := exists_hasContent hcontent
  have hwrite : (Written.block spelling lines hcontent).write =
      spelling.letters ++ [' ', '|'] ++ (writeBody (lines.map WrittenLine.bodyLine) ++ ['\n']) := by
    rw [← newline_cons_flatMap]
    simp [Written.write]
  rcases hrest with rfl | hrest
  · -- At the end of the text the line feed opens a line that the block takes.
    have hlast : ∃ line ∈ lines.map WrittenLine.bodyLine ++ [.last], line.HasContent := by
      obtain ⟨line, hmem, hline⟩ := hdeep
      exact ⟨line, List.mem_append_left _ hmem, hline⟩
    refine ⟨⟨_, spelling, [' '], by decide, .block [] _ (by decide) hlast⟩, [], ?_, isGap_nil, ?_,
      ?_⟩
    · rw [Phrase.command, Companion.content, contents_append, contents_map_bodyLine,
        BodyLine.contents_last, List.append_nil]
      rfl
    · rw [hwrite, Phrase.write, Companion.write, writeBody_append]
      simp [BodyLine.last, BodyLine.write]
    · exact endsBody_iff.mpr (Or.inl rfl)
  · -- Before another command it is left, and the command ends the block.
    refine ⟨⟨_, spelling, [' '], by decide, .block [] _ (by decide) hdeep⟩, ['\n'], ?_, by decide,
      ?_, ?_⟩
    · rw [Phrase.command, Companion.content, contents_map_bodyLine]
      rfl
    · rw [hwrite, Phrase.write, Companion.write]
      simp
    · exact endsBody_newline hrest

/-! ## Written commands -/

/-- **Each written command is a phrase**, with at most its line feed left after it. -/
theorem Written.exists_phrase (written : Written) {rest : List Char}
    (hrest : rest = [] ∨ StartsSolid rest) :
    ∃ phrase lead, Phrase.command phrase = written.command ∧ IsGap lead ∧
      written.write ++ rest = phrase.write ++ (lead ++ rest) ∧
      phrase.EndsBefore (lead ++ rest) := by
  cases written with
  | model spelling name hname =>
    refine ⟨⟨_, spelling, [' '], by decide, .name name hname⟩, ['\n'], rfl, by decide, ?_, ?_⟩
    · simp [write, Phrase.write, Companion.write]
    · exact refuses_cons.mpr rfl
  | @inline role spelling message hline hsolid htrimmed hbar =>
    have htrim : trimEnd message = message := Text.trimEnd_eq_self htrimmed
    refine ⟨⟨.speak role, spelling, [' '], by decide, .line message hline hsolid ?_⟩, ['\n'], ?_,
      by decide, ?_, ?_⟩
    · rwa [htrim]
    · rw [Phrase.command, Companion.content, htrim]
      rfl
    · simp [write, Phrase.write, Companion.write]
    · exact refuses_cons.mpr rfl
  | block spelling lines hcontent => exact exists_phrase_of_block spelling hcontent hrest

/-- Written commands start where a gap has ended. -/
theorem flatMap_write_eq_nil_or (commands : List Written) :
    commands.flatMap Written.write = [] ∨ StartsSolid (commands.flatMap Written.write) := by
  cases commands with
  | nil => exact Or.inl rfl
  | cons written commands => exact Or.inr (written.startsSolid_write.append _)

/-- Written commands after blanks fall into steps, one for each of them. -/
theorem exists_opens_of_written (commands : List Written) {lead : List Char} (hlead : IsGap lead) :
    ∃ steps blanks, IsGap blanks ∧
      Opens (lead ++ commands.flatMap Written.write) steps blanks ∧
      commandsOfSteps steps = commands.map Written.command := by
  -- The line feed after each command is one of the blanks before the next one.
  induction commands generalizing lead with
  | nil => exact ⟨[], lead, hlead, List.append_nil lead, rfl⟩
  | cons written commands ih =>
    obtain ⟨phrase, lead', hcommand, hlead', hwrite, hends⟩ :=
      written.exists_phrase (flatMap_write_eq_nil_or commands)
    obtain ⟨steps, blanks, hblanks, hopens, hcommands⟩ := ih hlead'
    refine ⟨⟨lead, hlead, phrase⟩ :: steps, blanks, hblanks, ⟨_, ?_, hends, hopens⟩, ?_⟩
    · rw [List.flatMap_cons, hwrite, Step.write, List.append_assoc]
    · rw [commandsOfSteps, List.map_cons, ← commandsOfSteps, hcommands, hcommand, List.map_cons]

/-- **The scanner gives back written commands**, all of them, in order and without an error. -/
theorem commandsOf_write (commands : List Written) :
    commandsOf (String.ofList (commands.flatMap Written.write)) =
      (commands.map Written.command, none) := by
  obtain ⟨steps, blanks, hblanks, hopens, hcommands⟩ :=
    exists_opens_of_written commands isGap_nil
  have hclosing : Opens (String.ofList (commands.flatMap Written.write)).toList steps
      (Closing.clean blanks hblanks).write := by
    rw [String.toList_ofList]
    exact hopens
  rw [commandsOf_of_opens hclosing, hcommands]
  rfl

/-- Lines that look like commands or like a bar are lines of the block, and a long s in a keyword
is an S in upper case. -/
theorem commandsOf_write_lookalikes :
    commandsOf "From m\na\u017fk |\n\tFROM x\n    \n\t  |\nanswer |x\n" =
      ([.selectModel "m", .say ⟨.user, "FROM x\n\n  |"⟩, .say ⟨.assistant, "|x"⟩], none) := by
  let first : WrittenLine := ⟨.tab, "FROM x".toList, by decide, by decide⟩
  let second : WrittenLine := ⟨.spaces, [], by decide, by decide⟩
  let third : WrittenLine := ⟨.tab, "  |".toList, by decide, by decide⟩
  let ask : Spelling (.speak .user) := ⟨"a\u017fk".toList, by decide⟩
  let answer : Spelling (.speak .assistant) := ⟨"answer".toList, by decide⟩
  exact commandsOf_write [.model ⟨"From".toList, by decide⟩ ['m'] (by decide),
    .block ask [first, second, third] ⟨first, by simp, List.cons_ne_nil _ _⟩,
    .inline answer "|x".toList (by decide) ⟨'|', ['x'], rfl, rfl⟩ (by decide) (by decide)]

end Dialogue
