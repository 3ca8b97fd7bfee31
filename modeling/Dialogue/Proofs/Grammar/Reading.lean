import Dialogue.Command.Scanner
import Dialogue.Proofs.Grammar.Phrase

/-!
# Reading phrases

What the lexer and the parser make of a text that starts with a phrase or is a fault. Between two
commands the lexer holds nothing but its place: it expects a keyword, and all it can have done
ahead is to pass over blanks, which it does at the end of a block.

## Main definitions

* `Lexer.At`: the lexer has not failed and stands at a place before a text
* `Lexer.Before`: the same between two commands, up to blanks that the lexer has passed over

## Main results

* `parse_phrase`: a phrase is read as the command it stands for, and leaves the lexer before the
  text after it
* `parse_fault`: a fault is reported with its error
* `parse_gap`: blanks up to the end of the text are its end
-/

namespace Dialogue

open Text (isBlank trimEnd upper)

namespace Lexer

/-- The lexer has not failed, stands at a place before a text, and expects the given thing. -/
structure At (lexer : Lexer) (expecting : Expecting) (position : Position) (text : List Char) :
    Prop where
  signals_eq : lexer.signals = text.map .item
  position_eq : lexer.position = position
  expecting_eq : lexer.expecting = expecting
  error_eq : lexer.error = none

theorem at_ofText (text : String) : (ofText text).At .keyword .start text.toList :=
  ⟨rfl, rfl, rfl, rfl⟩

variable {lexer : Lexer} {expecting : Expecting} {position : Position}

theorem At.consume {run rest : List Char} (h : lexer.At expecting position (run ++ rest)) :
    (lexer.consume run (rest.map .item)).At expecting (position.after run) rest :=
  ⟨rfl, by rw [Lexer.consume, h.position_eq], h.expecting_eq, h.error_eq⟩

theorem At.emit {text : List Char} (h : lexer.At expecting position text) (token : Token)
    (next : Expecting) : (lexer.emit token next).2.At next position text :=
  ⟨h.signals_eq, h.position_eq, rfl, h.error_eq⟩

/-! ## The place of a companion -/

theorem misplaced?_of_keyword (h : lexer.expecting = .keyword) (start : Position) :
    lexer.misplaced? start = none := by
  unfold misplaced?
  split
  · rfl
  · simp [h]

theorem misplaced?_of_isLine {blanks : List Char} (h : IsLine blanks) :
    lexer.misplaced? (lexer.position.after blanks) = none := by
  rw [misplaced?, if_pos ((Position.line_after_eq_iff _ _).mpr h)]

/-- The error of a keyword whose companion is on another line. -/
def misplacedError (start : Position) : Keyword → LexError
  | .selectModel => .expectedModel start
  | .speak _ => .expectedPrompt start

theorem misplaced?_of_not_isLine {blanks : List Char} (h : ¬ IsLine blanks) {keyword : Keyword}
    (hexpecting : lexer.expecting = keyword.expecting) :
    lexer.misplaced? (lexer.position.after blanks) =
      some (misplacedError (lexer.position.after blanks) keyword) := by
  rw [misplaced?, if_neg (mt (Position.line_after_eq_iff _ _).mp h), hexpecting]
  cases keyword <;> rfl

/-! ## Passing over blanks -/

/-- Before something else than a blank, the blanks are passed over and it is read. -/
theorem advance_of_solid {blanks rest : List Char}
    (h : lexer.At expecting position (blanks ++ rest)) (hblanks : IsGap blanks)
    (hrest : StartsSolid rest) (hplace : lexer.misplaced? (position.after blanks) = none) :
    lexer.advance = (lexer.consume blanks (rest.map .item)).readExpected := by
  have hgap : gap lexer.signals = ⟨blanks, haltBefore rest, rest.map .item⟩ := by
    rw [h.signals_eq]
    exact gap_items hblanks hrest.atSolid
  obtain ⟨c, tail, rfl, hc⟩ := hrest
  rw [← h.position_eq] at hplace
  simp only [advance, h.error_eq, hgap, haltBefore]
  simp only [Lexer.consume, hplace]

/-- A companion on another line stops the lexer, and so does the lack of one. -/
theorem advance_of_misplaced {blanks rest : List Char} {error : LexError}
    (h : lexer.At expecting position (blanks ++ rest)) (hblanks : IsGap blanks)
    (hrest : AtSolid rest) (hplace : lexer.misplaced? (position.after blanks) = some error) :
    lexer.advance =
      (lexer.consume blanks (rest.map .item)).fail error (position.after blanks) := by
  have hgap : gap lexer.signals = ⟨blanks, haltBefore rest, rest.map .item⟩ := by
    rw [h.signals_eq]
    exact gap_items hblanks hrest
  rw [← h.position_eq] at hplace ⊢
  cases rest with
  | nil =>
    simp only [advance, h.error_eq, hgap, haltBefore]
    simp only [Lexer.consume, hplace]
  | cons c tail =>
    simp only [advance, h.error_eq, hgap, haltBefore]
    simp only [Lexer.consume, hplace]

/-- Where nothing is left, the lexer ends without an error. -/
theorem advance_of_end {blanks : List Char} (h : lexer.At expecting position blanks)
    (hblanks : IsGap blanks) (hplace : lexer.misplaced? (position.after blanks) = none) :
    ∃ ended, lexer.advance = (false, ended) ∧ ended.error = none := by
  have hgap : gap lexer.signals = ⟨blanks, .ended, []⟩ := by
    have := gap_items hblanks (refuses_nil isBlank)
    rw [List.append_nil] at this
    rw [h.signals_eq, this]
    rfl
  rw [← h.position_eq] at hplace
  simp only [advance, h.error_eq, hgap]
  simp only [Lexer.consume, hplace]
  exact ⟨_, rfl, h.error_eq⟩

/-! ## Reading a token -/

theorem At.readExpected_keyword {text : List Char} (h : lexer.At .keyword position text) :
    lexer.readExpected = lexer.readKeyword := by
  rw [readExpected, h.expecting_eq]

theorem At.readExpected_model {text : List Char} (h : lexer.At .model position text) :
    lexer.readExpected = lexer.readModel := by
  rw [readExpected, h.expecting_eq]

theorem At.readExpected_prompt {text : List Char} (h : lexer.At .prompt position text) :
    lexer.readExpected = lexer.readPrompt := by
  rw [readExpected, h.expecting_eq]

theorem readKeyword_of_spelling {keyword : Keyword} (spelling : Spelling keyword)
    {rest : List Char} (h : lexer.At .keyword position (spelling.letters ++ rest))
    (hrest : AtBlank rest) :
    lexer.readKeyword = (lexer.consume spelling.letters (rest.map .item)).emit
      ⟨.keyword keyword, keyword.word, position⟩ keyword.expecting := by
  have hword : word lexer.signals = ⟨spelling.letters, haltBefore rest, rest.map .item⟩ := by
    rw [h.signals_eq]
    exact word_items spelling.isWord hrest
  simp only [readKeyword, hword, h.position_eq]
  split
  · exact absurd ‹_› (haltBefore_ne_failed _ _)
  · rw [spelling.ofWord?]

theorem readKeyword_of_foreign {run rest : List Char}
    (h : lexer.At .keyword position (run ++ rest)) (hrun : IsWord run) (hrest : AtBlank rest)
    (hforeign : ∀ keyword : Keyword, upper run ≠ keyword.word.toList) :
    lexer.readKeyword = (lexer.consume run (rest.map .item)).fail
      (.unknownToken (String.ofList run) position) position := by
  have hword : word lexer.signals = ⟨run, haltBefore rest, rest.map .item⟩ := by
    rw [h.signals_eq]
    exact word_items hrun hrest
  have hnone : Keyword.ofWord? (String.ofList (upper run)) = none := by
    refine Keyword.ofWord?_eq_none_iff.mpr fun keyword hkeyword => hforeign keyword ?_
    rw [← hkeyword, String.toList_ofList]
  simp only [readKeyword, hword, h.position_eq]
  split
  · exact absurd ‹_› (haltBefore_ne_failed _ _)
  · rw [hnone]

theorem readModel_of_word {run rest : List Char} (h : lexer.At .model position (run ++ rest))
    (hrun : IsWord run) (hrest : AtBlank rest) :
    lexer.readModel = (lexer.consume run (rest.map .item)).emit
      ⟨.model, String.ofList run, position⟩ .keyword := by
  have hword : word lexer.signals = ⟨run, haltBefore rest, rest.map .item⟩ := by
    rw [h.signals_eq]
    exact word_items hrun hrest
  simp only [readModel, hword, h.position_eq]
  split
  · exact absurd ‹_› (haltBefore_ne_failed _ _)
  · rfl

theorem readPrompt_of_line {line rest : List Char} (h : lexer.At .prompt position (line ++ rest))
    (hline : IsLine line) (hrest : AtLineEnd rest) (hsolid : StartsSolid line)
    (hbar : trimEnd line ≠ ['|']) :
    lexer.readPrompt = (lexer.consume line (rest.map .item)).emit
      ⟨.prompt, String.ofList (trimEnd line), position⟩ .keyword := by
  have hrun : restOfLine lexer.signals = ⟨line, haltBefore rest, rest.map .item⟩ := by
    rw [h.signals_eq]
    exact restOfLine_items hline hrest
  -- The line starts with something else than a blank, so something is left of it.
  have hne : trimEnd line ≠ [] := by
    obtain ⟨c, tail, rfl, hc⟩ := hsolid
    intro hnil
    rw [Text.trimEnd_eq_nil_iff.mp hnil c (by simp)] at hc
    cases hc
  simp only [readPrompt, hrun, h.position_eq]
  split
  · exact absurd ‹_› (haltBefore_ne_failed _ _)
  · rfl

theorem readPrompt_of_bar {trailing rest : List Char}
    (h : lexer.At .prompt position ('|' :: trailing ++ rest)) (htrailing : IsPadding trailing)
    (hrest : AtLineEnd rest) :
    lexer.readPrompt =
      (lexer.consume ('|' :: trailing) (rest.map .item)).readBlockPrompt position := by
  have hrun : restOfLine lexer.signals = ⟨'|' :: trailing, haltBefore rest, rest.map .item⟩ := by
    rw [h.signals_eq]
    exact restOfLine_items htrailing.isLine_bar hrest
  have hbar : trimEnd ('|' :: trailing) = ['|'] :=
    Text.trimEnd_eq_bar_iff.mpr ⟨trailing, rfl, htrailing.isGap⟩
  simp only [readPrompt, hrun, hbar, h.position_eq]
  split
  · exact absurd ‹_› (haltBefore_ne_failed _ _)
  · rfl

theorem readBlockPrompt_of_content {body : List BodyLine} {rest : List Char}
    (h : lexer.At .prompt position (writeBody body ++ rest)) (hrest : EndsBody rest)
    (hcontent : ∃ line ∈ body, line.HasContent) (start : Position) :
    ∃ lead landing, rest = lead ++ landing ∧ IsGap lead ∧
      lexer.readBlockPrompt start =
        (lexer.consume (writeBody body ++ lead) (landing.map .item)).emit
          ⟨.prompt, String.ofList (['\n'].intercalate (contents body)), start⟩ .keyword := by
  obtain ⟨lead, landing, hsplit, hlead, hblock⟩ := readBlock_items body hrest
  refine ⟨lead, landing, hsplit, hlead, ?_⟩
  rw [← h.signals_eq] at hblock
  have hbare : (contents body).all List.isEmpty = false := by
    rw [Bool.eq_false_iff, Ne, all_isEmpty_contents_iff]
    obtain ⟨line, hmem, hline⟩ := hcontent
    exact fun hall => hall line hmem hline
  cases rest with
  | nil => simp [readBlockPrompt, hblock, haltBefore, Block.isBare, hbare, Block.message]
  | cons c tail => simp [readBlockPrompt, hblock, haltBefore, Block.isBare, hbare, Block.message]

/-- A block without content is an error: at the end of the text that this end came too early, and
otherwise that there is no prompt where it started. -/
theorem readBlockPrompt_of_hollow {body : List BodyLine} {rest : List Char}
    (h : lexer.At .prompt position (writeBody body ++ rest)) (hrest : EndsBody rest)
    (hempty : ∀ line ∈ body, ¬ line.HasContent) (start : Position) :
    ∃ failed, lexer.readBlockPrompt start = (false, failed) ∧
      failed.error = some (if rest = [] then .unexpectedEnd (position.after (writeBody body))
        else .expectedPrompt start) := by
  obtain ⟨lead, landing, hsplit, hlead, hblock⟩ := readBlock_items body hrest
  rw [← h.signals_eq] at hblock
  have hbare : (contents body).all List.isEmpty = true := (all_isEmpty_contents_iff body).mpr hempty
  cases rest with
  | nil =>
    -- The body runs to the end of the text, where nothing else is passed over.
    obtain ⟨rfl, rfl⟩ := List.append_eq_nil_iff.mp hsplit.symm
    rw [readBlockPrompt, hblock]
    simp only [haltBefore, Block.isBare, hbare, if_true, List.append_nil]
    exact ⟨_, rfl, by simp [Lexer.consume, h.position_eq]⟩
  | cons c tail =>
    rw [readBlockPrompt, hblock]
    simp only [haltBefore, Block.isBare, hbare, if_true]
    exact ⟨_, rfl, by simp⟩

/-- What completes a keyword is read to its end and gives its content. -/
theorem readExpected_of_companion {keyword : Keyword} {companion : Companion keyword}
    {rest : List Char} (h : lexer.At keyword.expecting position (companion.write ++ rest))
    (hrest : companion.EndsBefore rest) :
    ∃ lead landing moved, rest = lead ++ landing ∧ IsGap lead ∧
      lexer.readExpected = (true, moved) ∧
      moved.current = ⟨keyword.companion, String.ofList companion.content, position⟩ ∧
      moved.At .keyword (position.after (companion.write ++ lead)) landing := by
  cases companion with
  | name run hrun =>
    have hread := h.readExpected_model.trans (readModel_of_word h hrun hrest)
    refine ⟨[], rest, _, rfl, isGap_nil, hread, rfl, ?_⟩
    rw [List.append_nil]
    exact h.consume.emit _ _
  | line text hline hsolid hbar =>
    have hread := h.readExpected_prompt.trans (readPrompt_of_line h hline hrest hsolid hbar)
    refine ⟨[], rest, _, rfl, isGap_nil, hread, rfl, ?_⟩
    rw [List.append_nil]
    exact h.consume.emit _ _
  | block trailing body htrailing hcontent =>
    rw [Companion.write, ← List.cons_append, List.append_assoc] at h
    -- After the bar the lexer is before the body, and it stops in the blanks that end the body.
    have hbar := readPrompt_of_bar h htrailing (atLineEnd_writeBody_append body hrest.1)
    obtain ⟨lead, landing, rfl, hlead, hblock⟩ :=
      readBlockPrompt_of_content h.consume hrest hcontent position
    have hread := h.readExpected_prompt.trans (hbar.trans hblock)
    refine ⟨lead, landing, _, rfl, hlead, hread, rfl, ?_⟩
    rw [Companion.write, ← List.cons_append, List.append_assoc, Position.after_append]
    rw [← List.append_assoc (writeBody body)] at h
    exact h.consume.consume.emit _ _

/-- A keyword is read in whatever case it is spelled. -/
theorem advance_of_spelling {keyword : Keyword} {spelling : Spelling keyword}
    {blanks rest : List Char}
    (h : lexer.At .keyword position (blanks ++ (spelling.letters ++ rest)))
    (hblanks : IsGap blanks) (hrest : AtBlank rest) :
    ∃ moved, lexer.advance = (true, moved) ∧ moved.current.kind = .keyword keyword ∧
      moved.At keyword.expecting (position.after (blanks ++ spelling.letters)) rest := by
  have hread := advance_of_solid h hblanks (spelling.isWord.startsSolid.append rest)
    (misplaced?_of_keyword h.expecting_eq _)
  rw [h.consume.readExpected_keyword, readKeyword_of_spelling spelling h.consume hrest] at hread
  refine ⟨_, hread, rfl, ?_⟩
  rw [Position.after_append]
  exact h.consume.consume.emit _ _

end Lexer

/-! ## Reading a command -/

namespace Command

open TokenSource

variable {σ : Type} [TokenSource σ] {source moved : σ}

theorem parse_of_keyword {keyword : Keyword} (h : advance source = (true, moved))
    (hkind : (current moved).kind = .keyword keyword) :
    parse source = parseCompanion keyword moved := by
  simp only [parse, h, hkind]

theorem parse_of_failure {failure : LexError} (h : advance source = (false, moved))
    (herror : error moved = some failure) :
    parse source = (.failed (.lexical failure), moved) := by
  simp only [parse, h, herror]

theorem parse_of_end (h : advance source = (false, moved)) (herror : error moved = none) :
    parse source = (.finished, moved) := by
  simp only [parse, h, herror]

theorem parseCompanion_of_companion {keyword : Keyword} (h : advance source = (true, moved))
    (hkind : (current moved).kind = keyword.companion) :
    parseCompanion keyword source =
      (.command (keyword.command (current moved).content), moved) := by
  simp only [parseCompanion, h, hkind, if_true]

theorem parseCompanion_of_failure {keyword : Keyword} {failure : LexError}
    (h : advance source = (false, moved)) (herror : error moved = some failure) :
    parseCompanion keyword source = (.failed (.lexical failure), moved) := by
  simp only [parseCompanion, h, pendingOr, herror]

theorem parseCompanion_of_end {keyword : Keyword} (h : advance source = (false, moved))
    (herror : error moved = none) :
    parseCompanion keyword source = (.failed (.incomplete keyword), moved) := by
  simp only [parseCompanion, h, pendingOr, herror]

end Command

theorem Phrase.command_eq (phrase : Phrase) :
    phrase.command = phrase.keyword.command (String.ofList phrase.companion.content) := by
  rcases phrase with ⟨_ | _, _, _, _, _⟩ <;> rfl

namespace Lexer

variable {lexer : Lexer} {position : Position}

/-- The lexer is between two commands, before the text but for blanks that it has passed over. -/
def Before (lexer : Lexer) (position : Position) (text : List Char) : Prop :=
  ∃ lead landing, text = lead ++ landing ∧ IsGap lead ∧
    lexer.At .keyword (position.after lead) landing

theorem At.before {text : List Char} (h : lexer.At .keyword position text) :
    lexer.Before position text :=
  ⟨[], text, rfl, isGap_nil, h⟩

/-- Before anything else than blanks, the lexer is somewhere in the blanks. -/
theorem Before.exists_at {blanks rest : List Char} (h : lexer.Before position (blanks ++ rest))
    (hblanks : IsGap blanks) (hrest : StartsSolid rest) :
    ∃ lead more, blanks = lead ++ more ∧ IsGap more ∧
      lexer.At .keyword (position.after lead) (more ++ rest) := by
  obtain ⟨lead, landing, heq, hlead, hat⟩ := h
  obtain ⟨more, solid, rfl, hmore, hsolid⟩ := exists_gap landing
  -- What the lexer has passed over and what it has not are together all the blanks.
  rw [← List.append_assoc] at heq
  obtain ⟨rfl, rfl⟩ := append_inj_of_refuses hblanks hrest.atSolid
    (isGap_append.mpr ⟨hlead, hmore⟩) hsolid heq
  exact ⟨lead, more, rfl, hmore, hat⟩

/-- **A phrase is read as its command**, and leaves the lexer before the text after it. -/
theorem parse_phrase {phrase : Phrase} {blanks rest : List Char}
    (h : lexer.Before position (blanks ++ (phrase.write ++ rest))) (hblanks : IsGap blanks)
    (hrest : phrase.EndsBefore rest) :
    ∃ moved, Command.parse lexer = (.command phrase.command, moved) ∧
      moved.Before (position.after (blanks ++ phrase.write)) rest := by
  obtain ⟨lead, more, rfl, hmore, hat⟩ :=
    h.exists_at hblanks (phrase.startsSolid_write.append rest)
  rw [phrase.command_eq]
  obtain ⟨keyword, spelling, padding, hpadding, companion⟩ := phrase
  simp only [Phrase.write, List.append_assoc] at hat ⊢
  have hopen := hpadding.opening (companion.startsSolid_write.append rest)
  -- The first advance reads the keyword ...
  obtain ⟨opened, hadvance, hkind, hat⟩ := advance_of_spelling hat hmore hopen.ended
  have hplace : opened.misplaced? (opened.position.after padding) = none :=
    misplaced?_of_isLine hpadding.2.isLine
  rw [hat.position_eq] at hplace
  -- ... and the second one its companion, which is on the same line.
  have hread := advance_of_solid hat hpadding.2.isGap
    (companion.startsSolid_write.append rest) hplace
  obtain ⟨lead', landing, moved, rfl, hlead', hmoved, hcurrent, hat⟩ :=
    readExpected_of_companion hat.consume hrest
  rw [hmoved] at hread
  refine ⟨moved, ?_, lead', landing, rfl, hlead', ?_⟩
  · rw [Command.parse_of_keyword hadvance hkind,
      Command.parseCompanion_of_companion hread (congrArg Token.kind hcurrent)]
    rw [show TokenSource.current moved = moved.current from rfl, hcurrent]
  · simpa only [Position.after_append, List.append_assoc] using hat

/-- Blanks up to the end of the text are its end. -/
theorem parse_gap {blanks : List Char} (h : lexer.Before position blanks)
    (hblanks : IsGap blanks) : ∃ ended, Command.parse lexer = (.finished, ended) := by
  obtain ⟨lead, landing, rfl, -, hat⟩ := h
  obtain ⟨ended, hadvance, herror⟩ := advance_of_end hat (isGap_append.mp hblanks).2
    (misplaced?_of_keyword hat.expecting_eq _)
  exact ⟨ended, Command.parse_of_end hadvance herror⟩

/-- A keyword that nothing completes is reported for what is lacking. -/
theorem parseCompanion_of_lack {keyword : Keyword} {lack : Lack keyword} {padding : List Char}
    (h : lexer.At keyword.expecting position (padding ++ lack.write))
    (hpadding : IsPadding padding) :
    ∃ failed, Command.parseCompanion keyword lexer =
      (.failed (lack.error (position.after padding)), failed) := by
  have hplace : lexer.misplaced? (lexer.position.after padding) = none :=
    misplaced?_of_isLine hpadding.isLine
  rw [h.position_eq] at hplace
  cases lack with
  | bare =>
    rw [Lack.write, List.append_nil] at h
    obtain ⟨ended, hadvance, herror⟩ := advance_of_end h hpadding.isGap hplace
    exact ⟨ended, Command.parseCompanion_of_end hadvance herror⟩
  | misplaced blanks rest hblanks hrest =>
    rw [Lack.write, ← List.cons_append, ← List.append_assoc] at h
    -- The blanks up to the next token hold a line feed, whether or not there is such a token.
    have hline : ¬ IsLine (padding ++ '\n' :: blanks) := fun hline => hline '\n' (by simp) rfl
    have herror := misplaced?_of_not_isLine hline h.expecting_eq
    rw [h.position_eq] at herror
    have hadvance := advance_of_misplaced h
      (isGap_append.mpr ⟨hpadding.isGap, by simpa using hblanks⟩) hrest herror
    rw [Position.after_append] at hadvance
    cases keyword with
    | selectModel => exact ⟨_, Command.parseCompanion_of_failure hadvance rfl⟩
    | speak role => exact ⟨_, Command.parseCompanion_of_failure hadvance rfl⟩
  | hollow trailing body rest htrailing hempty hrest =>
    rw [Lack.write, ← List.cons_append] at h
    -- The bar is on the line of its keyword, so it is the block that is read.
    have hadvance := advance_of_solid h hpadding.isGap ⟨'|', _, rfl, rfl⟩ hplace
    have hat := h.consume
    rw [hat.readExpected_prompt,
      readPrompt_of_bar hat htrailing (atLineEnd_writeBody_append body hrest.1)] at hadvance
    obtain ⟨failed, hfailed, herror⟩ :=
      readBlockPrompt_of_hollow hat.consume hrest hempty (position.after padding)
    rw [hfailed] at hadvance
    refine ⟨failed, (Command.parseCompanion_of_failure hadvance herror).trans ?_⟩
    cases rest with
    | nil => rw [if_pos rfl, ← Position.after_append]; rfl
    | cons c tail => rw [if_neg (by simp)]; rfl

/-- **A fault is reported with its error.** -/
theorem parse_fault {fault : Fault} {blanks : List Char}
    (h : lexer.Before position (blanks ++ fault.write)) (hblanks : IsGap blanks) :
    ∃ failed, Command.parse lexer =
      (.failed (fault.error (position.after blanks)), failed) := by
  obtain ⟨lead, more, rfl, hmore, hat⟩ := h.exists_at hblanks fault.startsSolid_write
  cases fault with
  | unknown run rest hrun hforeign hrest =>
    have hadvance := advance_of_solid hat hmore (hrun.startsSolid.append rest)
      (misplaced?_of_keyword hat.expecting_eq _)
    rw [hat.consume.readExpected_keyword,
      readKeyword_of_foreign hat.consume hrun hrest hforeign, ← Position.after_append] at hadvance
    exact ⟨_, Command.parse_of_failure hadvance rfl⟩
  | lacking keyword spelling padding lack hpadding hended =>
    obtain ⟨opened, hadvance, hkind, hat⟩ := advance_of_spelling hat hmore hended
    obtain ⟨failed, hfailed⟩ := parseCompanion_of_lack hat hpadding
    refine ⟨failed, ?_⟩
    rw [Command.parse_of_keyword hadvance hkind, hfailed]
    simp only [Fault.error, Position.after_append]

end Lexer

end Dialogue
