import Dialogue.Command
import Dialogue.Proofs.Grammar.Block

/-!
# Phrases and faults

A chatfile is a sequence of phrases, each a command as it is written, with blanks around them.
Where a phrase ends is decided by what follows it: a model name runs to the next blank, an inline
prompt to the end of its line, and a block takes all the lines it can get.

A text that does not start with a phrase starts with a fault. There are four of them: a word that
is no keyword, a keyword without a companion at the end of the text, a keyword with a companion on
another line, and a block without content.

## Main definitions

* `Spelling keyword`: the letters of a keyword, in whatever case
* `Companion keyword`: what completes a keyword: a name, the rest of a line, or a block
* `Phrase`, `Phrase.EndsBefore`: a command as it is written, and what may follow it
* `Lack keyword`, `Fault`: what stands in place of a companion, and a text that starts with no
  phrase

## Main results

* `phrase_or_fault`: what starts with no blank starts with a phrase or is a fault
* `Phrase.write_inj`, `Fault.write_injective`, `Phrase.write_ne_fault`: no text can be cut up in
  two ways
-/

namespace Dialogue

open Text (isBlank trimEnd upper)

/-- Letters that are the keyword in upper case. -/
structure Spelling (keyword : Keyword) where
  letters : List Char
  spells : upper letters = keyword.word.toList

namespace Spelling

variable {keyword keyword' : Keyword}

theorem isWord (spelling : Spelling keyword) : IsWord spelling.letters :=
  Keyword.isWord_of_upper spelling.spells

theorem ofWord? (spelling : Spelling keyword) :
    Keyword.ofWord? (String.ofList (upper spelling.letters)) = some keyword := by
  rw [spelling.spells, String.ofList_toList, Keyword.ofWord?_eq_some_iff]

/-- Letters spell only one keyword. -/
theorem keyword_eq (spelling : Spelling keyword) (spelling' : Spelling keyword')
    (h : spelling.letters = spelling'.letters) : keyword = keyword' := by
  have := spelling.ofWord?
  rw [h, spelling'.ofWord?] at this
  exact (Option.some.inj this).symm

@[ext] theorem ext {spelling spelling' : Spelling keyword}
    (h : spelling.letters = spelling'.letters) : spelling = spelling' := by
  cases spelling
  cases spelling'
  cases h
  rfl

end Spelling

/-- Blanks that part two words of a line. -/
def IsParting (text : List Char) : Prop :=
  text ≠ [] ∧ IsPadding text

instance (text : List Char) : Decidable (IsParting text) :=
  inferInstanceAs (Decidable (text ≠ [] ∧ IsPadding text))

/-- The first character is there and is no blank. -/
def StartsSolid (text : List Char) : Prop :=
  ∃ c tail, text = c :: tail ∧ isBlank c = false

theorem StartsSolid.atSolid {text : List Char} (h : StartsSolid text) : AtSolid text := by
  obtain ⟨c, tail, rfl, hc⟩ := h
  simpa using hc

theorem StartsSolid.append {text : List Char} (h : StartsSolid text) (rest : List Char) :
    StartsSolid (text ++ rest) := by
  obtain ⟨c, tail, rfl, hc⟩ := h
  exact ⟨c, tail ++ rest, rfl, hc⟩

theorem IsWord.startsSolid {text : List Char} (h : IsWord text) : StartsSolid text := by
  obtain ⟨hne, hsolid⟩ := h
  obtain ⟨c, tail, rfl⟩ := List.exists_cons_of_ne_nil hne
  exact ⟨c, tail, rfl, hsolid c (by simp)⟩

/-- What parts a word from the rest of its line ends the word. -/
theorem IsParting.atBlank {padding : List Char} (h : IsParting padding) (rest : List Char) :
    AtBlank (padding ++ rest) := by
  obtain ⟨c, tail, rfl⟩ := List.exists_cons_of_ne_nil h.1
  simpa using (h.2 c (by simp)).1

theorem IsPadding.isLine_bar {trailing : List Char} (h : IsPadding trailing) :
    IsLine ('|' :: trailing) := by
  intro c hc
  rcases List.mem_cons.mp hc with rfl | hc
  · decide
  · exact (h c hc).2

/-! ## Phrases -/

/-- What completes a keyword, as it is written. -/
inductive Companion : Keyword → Type where
  /-- The name of a model. -/
  | name (word : List Char) (isWord : IsWord word) : Companion .selectModel
  /-- A prompt on the line of its keyword: the rest of the line, unless that is a lone bar. -/
  | line {role : Role} (text : List Char) (isLine : IsLine text) (startsSolid : StartsSolid text)
      (noBar : trimEnd text ≠ ['|']) : Companion (.speak role)
  /-- A prompt on the lines after a lone bar. -/
  | block {role : Role} (trailing : List Char) (body : List BodyLine)
      (isTrailing : IsPadding trailing) (hasContent : ∃ line ∈ body, line.HasContent) :
      Companion (.speak role)

namespace Companion

variable {keyword : Keyword}

/-- The companion as it is written. -/
def write : Companion keyword → List Char
  | .name word _ => word
  | .line text .. => text
  | .block trailing body .. => '|' :: (trailing ++ writeBody body)

/-- The text after the companion does not belong to it. -/
def EndsBefore (companion : Companion keyword) (rest : List Char) : Prop :=
  match companion with
  | .name .. => AtBlank rest
  | .line .. => AtLineEnd rest
  | .block .. => EndsBody rest

/-- The name or the message that is meant. -/
def content : Companion keyword → List Char
  | .name word _ => word
  | .line text .. => trimEnd text
  | .block _ body .. => ['\n'].intercalate (contents body)

theorem startsSolid_write (companion : Companion keyword) : StartsSolid companion.write := by
  cases companion with
  | name word hword => exact hword.startsSolid
  | line text _ hsolid _ => exact hsolid
  | block trailing body _ _ => exact ⟨'|', trailing ++ writeBody body, rfl, rfl⟩

end Companion

/-- A command as it is written: a keyword, blanks, and what completes the keyword. -/
structure Phrase where
  keyword : Keyword
  spelling : Spelling keyword
  padding : List Char
  isParting : IsParting padding
  companion : Companion keyword

namespace Phrase

/-- The phrase as it is written. -/
def write (phrase : Phrase) : List Char :=
  phrase.spelling.letters ++ (phrase.padding ++ phrase.companion.write)

/-- The text after the phrase does not belong to it. -/
def EndsBefore (phrase : Phrase) (rest : List Char) : Prop :=
  phrase.companion.EndsBefore rest

/-- The command that the phrase stands for. -/
def command : Phrase → Command
  | ⟨.selectModel, _, _, _, companion⟩ => .selectModel (String.ofList companion.content)
  | ⟨.speak role, _, _, _, companion⟩ => .say ⟨role, String.ofList companion.content⟩

theorem startsSolid_write (phrase : Phrase) : StartsSolid phrase.write :=
  phrase.spelling.isWord.startsSolid.append _

end Phrase

/-! ## Faults -/

/-- What stands after a keyword and the blanks of its line, if nothing completes the keyword. -/
inductive Lack : Keyword → Type where
  /-- The end of the text. -/
  | bare {keyword : Keyword} : Lack keyword
  /-- The end of the line; `blanks` lead to whatever comes on a later line. -/
  | misplaced {keyword : Keyword} (blanks rest : List Char) (isGap : IsGap blanks)
      (solid : AtSolid rest) : Lack keyword
  /-- A lone bar, and a block without content. -/
  | hollow {role : Role} (trailing : List Char) (body : List BodyLine) (rest : List Char)
      (isTrailing : IsPadding trailing) (empty : ∀ line ∈ body, ¬ line.HasContent)
      (ended : EndsBody rest) : Lack (.speak role)

namespace Lack

variable {keyword : Keyword}

/-- The text in place of a companion. -/
def write : Lack keyword → List Char
  | .bare => []
  | .misplaced blanks rest .. => '\n' :: (blanks ++ rest)
  | .hollow trailing body rest .. => '|' :: (trailing ++ (writeBody body ++ rest))

/-- The error, if the companion should start at the given place. A companion on a later line is
reported where it starts, a block without content at its bar, unless the text ends with it. -/
def error (place : Position) : {keyword : Keyword} → Lack keyword → ParseError
  | keyword, .bare => .incomplete keyword
  | .selectModel, .misplaced blanks .. =>
    .lexical (.expectedModel (place.after ('\n' :: blanks)))
  | .speak _, .misplaced blanks .. => .lexical (.expectedPrompt (place.after ('\n' :: blanks)))
  | _, .hollow trailing body [] .. =>
    .lexical (.unexpectedEnd (place.after ('|' :: (trailing ++ writeBody body))))
  | _, .hollow _ _ (_ :: _) .. => .lexical (.expectedPrompt place)

end Lack

/-- A text that starts with no phrase, from its first character on. -/
inductive Fault where
  /-- A word that is no keyword. -/
  | unknown (word rest : List Char) (isWord : IsWord word)
      (foreign : ∀ keyword : Keyword, upper word ≠ keyword.word.toList) (ended : AtBlank rest)
  /-- A keyword that nothing completes. -/
  | lacking (keyword : Keyword) (spelling : Spelling keyword) (padding : List Char)
      (lack : Lack keyword) (isPadding : IsPadding padding)
      (ended : AtBlank (padding ++ lack.write))

namespace Fault

/-- The text of the fault. -/
def write : Fault → List Char
  | .unknown word rest .. => word ++ rest
  | .lacking _ spelling padding lack .. => spelling.letters ++ (padding ++ lack.write)

/-- The error of the fault, if it starts at the given place. -/
def error (start : Position) : Fault → ParseError
  | .unknown word .. => .lexical (.unknownToken (String.ofList word) start)
  | .lacking _ spelling padding lack .. => lack.error (start.after (spelling.letters ++ padding))

theorem startsSolid_write (fault : Fault) : StartsSolid fault.write := by
  cases fault with
  | unknown word rest hword => exact hword.startsSolid.append _
  | lacking keyword spelling => exact spelling.isWord.startsSolid.append _

end Fault

/-! ## Every text starts with a phrase or is a fault -/

/-- What stands after a prompt keyword on its line is an inline prompt, a block or a block without
content. -/
theorem phrase_or_fault_of_line {role : Role} (spelling : Spelling (.speak role))
    {padding text : List Char} (hpadding : IsParting padding) (htext : StartsSolid text) :
    (∃ phrase rest, spelling.letters ++ (padding ++ text) = Phrase.write phrase ++ rest ∧
      phrase.EndsBefore rest) ∨
    ∃ fault, spelling.letters ++ (padding ++ text) = Fault.write fault := by
  obtain ⟨line, rest, rfl, hline, hrest⟩ := exists_line text
  -- The first character is not the line feed, so it is on the line.
  have hsolid : StartsSolid line := by
    obtain ⟨c, tail, heq, hc⟩ := htext
    cases line with
    | nil =>
      obtain rfl : rest = c :: tail := heq
      exact absurd (by simpa using hrest) (ne_newline_of_solid hc)
    | cons d line =>
      obtain ⟨rfl, -⟩ := List.cons.inj heq
      exact ⟨d, line, rfl, hc⟩
  by_cases hbar : trimEnd line = ['|']
  · -- A lone bar: the body after it decides.
    obtain ⟨trailing, rfl, htrailing⟩ := Text.trimEnd_eq_bar_iff.mp hbar
    have htrailing : IsPadding trailing :=
      fun c hc => ⟨htrailing c hc, hline c (by simp [hc])⟩
    obtain ⟨body, after, rfl, hafter⟩ := exists_body rest hrest
    by_cases hcontent : ∃ line ∈ body, line.HasContent
    · exact Or.inl ⟨⟨_, spelling, padding, hpadding, .block trailing body htrailing hcontent⟩,
        after, by simp [Phrase.write, Companion.write], hafter⟩
    · exact Or.inr ⟨.lacking _ spelling padding (.hollow trailing body after htrailing
        (fun line hmem hline => hcontent ⟨line, hmem, hline⟩) hafter) hpadding.2
        (hpadding.atBlank _), by simp [Fault.write, Lack.write]⟩
  · exact Or.inl ⟨⟨_, spelling, padding, hpadding, .line line hline hsolid hbar⟩, rest,
      by simp [Phrase.write, Companion.write], hrest⟩

/-- **A text that starts with no blank starts with a phrase or is a fault.** -/
theorem phrase_or_fault {text : List Char} (htext : StartsSolid text) :
    (∃ phrase rest, text = Phrase.write phrase ++ rest ∧ phrase.EndsBefore rest) ∨
      ∃ fault, text = Fault.write fault := by
  obtain ⟨c, tail, rfl, hc⟩ := htext
  obtain ⟨letters, rest, heq, hletters, hrest⟩ := exists_word tail hc
  rw [heq]
  by_cases hkeyword : ∃ keyword : Keyword, upper letters = keyword.word.toList
  · obtain ⟨keyword, hspells⟩ := hkeyword
    -- The blanks after the keyword stop at the end of the text, at a line feed or at a companion.
    obtain ⟨padding, core, rfl, hpadding, hcore⟩ := exists_padding rest
    cases core with
    | nil => exact Or.inr ⟨.lacking keyword ⟨letters, hspells⟩ padding .bare hpadding hrest, rfl⟩
    | cons d core =>
      by_cases hd : d = '\n'
      · subst hd
        obtain ⟨blanks, after, rfl, hblanks, hafter⟩ := exists_gap core
        exact Or.inr ⟨.lacking keyword ⟨letters, hspells⟩ padding
          (.misplaced blanks after hblanks hafter) hpadding hrest, rfl⟩
      · have hd : isBlank d = false := by simpa [isPad, hd] using hcore
        -- The keyword is a word, so there is a blank between it and its companion.
        have hparting : IsParting padding := by
          refine ⟨?_, hpadding⟩
          rintro rfl
          simp [hd] at hrest
        cases keyword with
        | selectModel =>
          obtain ⟨name, after, hname, hword, hafter⟩ := exists_word core hd
          rw [hname]
          exact Or.inl ⟨⟨_, ⟨letters, hspells⟩, padding, hparting, .name name hword⟩, after,
            by simp [Phrase.write, Companion.write], hafter⟩
        | speak role =>
          exact phrase_or_fault_of_line ⟨letters, hspells⟩ hparting ⟨d, core, rfl, hd⟩
  · exact Or.inr ⟨.unknown letters rest hletters
      (fun keyword hspells => hkeyword ⟨keyword, hspells⟩) hrest, rfl⟩

/-! ## No text can be cut up in two ways -/

/-- What follows a keyword: the blanks of its line, and something else than these. -/
structure Opening (padding core : List Char) : Prop where
  isPadding : IsPadding padding
  ended : AtBlank (padding ++ core)
  refuses : Refuses isPad core

theorem IsParting.opening {padding core : List Char} (h : IsParting padding)
    (hcore : StartsSolid core) : Opening padding core :=
  ⟨h.2, h.atBlank core, hcore.atSolid.refuses_isPad⟩

/-- A text starts with only one word. -/
theorem word_inj {word word' rest rest' : List Char} (hword : IsWord word) (hrest : AtBlank rest)
    (hword' : IsWord word') (hrest' : AtBlank rest') (h : word ++ rest = word' ++ rest') :
    word = word' ∧ rest = rest' :=
  append_inj_of_refuses (fun c hc => by simp [hword.2 c hc]) hrest
    (fun c hc => by simp [hword'.2 c hc]) hrest' h

/-- The rest of a line is only one text. -/
theorem line_inj {line line' rest rest' : List Char} (hline : IsLine line) (hrest : AtLineEnd rest)
    (hline' : IsLine line') (hrest' : AtLineEnd rest') (h : line ++ rest = line' ++ rest') :
    line = line' ∧ rest = rest' :=
  append_inj_of_refuses (fun c hc => by simpa using hline c hc) hrest
    (fun c hc => by simpa using hline' c hc) hrest' h

/-- A text starts with only one keyword and its blanks. -/
theorem opening_inj {keyword keyword' : Keyword} {spelling : Spelling keyword}
    {spelling' : Spelling keyword'} {padding padding' core core' : List Char}
    (hopen : Opening padding core) (hopen' : Opening padding' core')
    (h : spelling.letters ++ (padding ++ core) = spelling'.letters ++ (padding' ++ core')) :
    keyword = keyword' ∧ spelling.letters = spelling'.letters ∧ padding = padding' ∧
      core = core' := by
  obtain ⟨hletters, h⟩ := word_inj spelling.isWord hopen.ended spelling'.isWord hopen'.ended h
  obtain ⟨hpadding, hcore⟩ := append_inj_of_refuses (isPadding_iff.mp hopen.isPadding)
    hopen.refuses (isPadding_iff.mp hopen'.isPadding) hopen'.refuses h
  exact ⟨spelling.keyword_eq spelling' hletters, hletters, hpadding, hcore⟩

/-- The blanks after a bar, and the body after them, are only one text. -/
theorem body_inj {trailing trailing' rest rest' : List Char} {body body' : List BodyLine}
    (htrailing : IsPadding trailing) (hrest : EndsBody rest) (htrailing' : IsPadding trailing')
    (hrest' : EndsBody rest')
    (h : trailing ++ (writeBody body ++ rest) = trailing' ++ (writeBody body' ++ rest')) :
    trailing = trailing' ∧ body = body' ∧ rest = rest' := by
  obtain ⟨rfl, hbody⟩ := line_inj htrailing.isLine (atLineEnd_writeBody_append body hrest.1)
    htrailing'.isLine (atLineEnd_writeBody_append body' hrest'.1) h
  exact ⟨rfl, writeBody_inj hrest hrest' hbody⟩

/-- The rest of a line that is no lone bar is no block. -/
theorem line_ne_bar {text trailing rest rest' : List Char} {body : List BodyLine}
    (hline : IsLine text) (hbar : trimEnd text ≠ ['|']) (hrest : AtLineEnd rest)
    (htrailing : IsPadding trailing) (hrest' : EndsBody rest') :
    text ++ rest ≠ '|' :: (trailing ++ (writeBody body ++ rest')) := by
  intro h
  obtain ⟨rfl, -⟩ := line_inj hline hrest htrailing.isLine_bar
    (atLineEnd_writeBody_append body hrest'.1) h
  exact hbar (Text.trimEnd_eq_bar_iff.mpr ⟨trailing, rfl, htrailing.isGap⟩)

/-- A text starts with only one companion of a keyword. -/
theorem Companion.write_inj {keyword : Keyword} {companion companion' : Companion keyword}
    {rest rest' : List Char} (hrest : companion.EndsBefore rest)
    (hrest' : companion'.EndsBefore rest')
    (h : companion.write ++ rest = companion'.write ++ rest') :
    companion = companion' ∧ rest = rest' := by
  -- What is read on the line is no lone bar, and a block begins with one.
  cases companion with
  | name word hword =>
    cases companion' with
    | name word' hword' =>
      obtain ⟨rfl, rfl⟩ := word_inj hword hrest hword' hrest' h
      exact ⟨rfl, rfl⟩
  | line text hline hsolid hbar =>
    cases companion' with
    | line text' hline' hsolid' hbar' =>
      obtain ⟨rfl, rfl⟩ := line_inj hline hrest hline' hrest' h
      exact ⟨rfl, rfl⟩
    | block trailing body htrailing hcontent =>
      exact absurd (by simpa [write] using h) (line_ne_bar hline hbar hrest htrailing hrest')
  | block trailing body htrailing hcontent =>
    cases companion' with
    | line text' hline' hsolid' hbar' =>
      exact absurd (by simpa [write] using h.symm)
        (line_ne_bar hline' hbar' hrest' htrailing hrest)
    | block trailing' body' htrailing' hcontent' =>
      obtain ⟨rfl, rfl, rfl⟩ := body_inj htrailing hrest htrailing' hrest'
        (by simpa [write] using h)
      exact ⟨rfl, rfl⟩

/-- **A text starts with only one phrase.** -/
theorem Phrase.write_inj {phrase phrase' : Phrase} {rest rest' : List Char}
    (hrest : phrase.EndsBefore rest) (hrest' : phrase'.EndsBefore rest')
    (h : phrase.write ++ rest = phrase'.write ++ rest') : phrase = phrase' ∧ rest = rest' := by
  obtain ⟨keyword, spelling, padding, hpadding, companion⟩ := phrase
  obtain ⟨keyword', spelling', padding', hpadding', companion'⟩ := phrase'
  simp only [write, List.append_assoc] at h
  obtain ⟨rfl, hletters, rfl, hcore⟩ := opening_inj
    (hpadding.opening (companion.startsSolid_write.append rest))
    (hpadding'.opening (companion'.startsSolid_write.append rest')) h
  obtain rfl := Spelling.ext hletters
  obtain ⟨rfl, rfl⟩ := Companion.write_inj hrest hrest' hcore
  exact ⟨rfl, rfl⟩

namespace Lack

variable {keyword : Keyword}

theorem refuses_isPad_write (lack : Lack keyword) : Refuses isPad lack.write := by
  cases lack with
  | bare => simp [write]
  | misplaced blanks rest _ _ => simp [write, isPad]
  | hollow trailing body rest _ _ _ => exact refuses_cons.mpr (isPad_eq_false_of_solid rfl)

theorem write_injective {lack lack' : Lack keyword} (h : lack.write = lack'.write) :
    lack = lack' := by
  cases lack with
  | bare => cases lack' <;> first | rfl | simp [write] at h
  | misplaced blanks rest hblanks hrest =>
    cases lack' with
    | bare => simp [write] at h
    | misplaced blanks' rest' hblanks' hrest' =>
      obtain ⟨rfl, rfl⟩ := append_inj_of_refuses hblanks hrest hblanks' hrest' (List.cons.inj h).2
      rfl
    | hollow trailing' body' rest' _ _ _ => simp [write] at h
  | hollow trailing body rest htrailing hempty hrest =>
    cases lack' with
    | bare => simp [write] at h
    | misplaced blanks' rest' _ _ => simp [write] at h
    | hollow trailing' body' rest' htrailing' hempty' hrest' =>
      obtain ⟨rfl, rfl, rfl⟩ := body_inj htrailing hrest htrailing' hrest' (List.cons.inj h).2
      rfl

end Lack

/-- **A text is only one fault.** -/
theorem Fault.write_injective {fault fault' : Fault} (h : fault.write = fault'.write) :
    fault = fault' := by
  -- The first word tells the two faults apart: one is a keyword, the other is none.
  cases fault with
  | unknown word rest hword hforeign hrest =>
    cases fault' with
    | unknown word' rest' hword' hforeign' hrest' =>
      obtain ⟨rfl, rfl⟩ := word_inj hword hrest hword' hrest' h
      rfl
    | lacking keyword' spelling' padding' lack' hpadding' hended' =>
      obtain ⟨rfl, -⟩ := word_inj hword hrest spelling'.isWord hended' h
      exact absurd spelling'.spells (hforeign keyword')
  | lacking keyword spelling padding lack hpadding hended =>
    cases fault' with
    | unknown word' rest' hword' hforeign' hrest' =>
      obtain ⟨rfl, -⟩ := word_inj hword' hrest' spelling.isWord hended h.symm
      exact absurd spelling.spells (hforeign' keyword)
    | lacking keyword' spelling' padding' lack' hpadding' hended' =>
      obtain ⟨rfl, hletters, rfl, hlack⟩ := opening_inj
        ⟨hpadding, hended, lack.refuses_isPad_write⟩
        ⟨hpadding', hended', lack'.refuses_isPad_write⟩ h
      obtain rfl := Spelling.ext hletters
      obtain rfl := Lack.write_injective hlack
      rfl

/-- What completes a keyword leaves it in no want of it. -/
theorem Companion.write_ne_lack {keyword : Keyword} (companion : Companion keyword)
    {rest : List Char} (hrest : companion.EndsBefore rest) (lack : Lack keyword) :
    companion.write ++ rest ≠ lack.write := by
  intro h
  obtain ⟨c, tail, hcompanion, hc⟩ := companion.startsSolid_write.append rest
  cases lack with
  | bare => simp [Lack.write, hcompanion] at h
  | misplaced blanks more _ _ =>
    rw [hcompanion, Lack.write, List.cons.injEq] at h
    exact ne_newline_of_solid hc h.1
  | hollow trailing body more htrailing hempty hmore =>
    cases companion with
    | line text hline hsolid hbar =>
      exact line_ne_bar hline hbar hrest htrailing hmore h
    | block trailing' body' htrailing' hcontent =>
      -- It would be the same body, once with content and once without.
      obtain ⟨rfl, rfl, rfl⟩ := body_inj htrailing' hrest htrailing hmore
        (by simpa [write, Lack.write] using h)
      obtain ⟨line, hmem, hline⟩ := hcontent
      exact hempty line hmem hline

/-- **No text starts with a phrase and is a fault.** -/
theorem Phrase.write_ne_fault (phrase : Phrase) {rest : List Char}
    (hrest : phrase.EndsBefore rest) (fault : Fault) : phrase.write ++ rest ≠ fault.write := by
  intro h
  obtain ⟨keyword, spelling, padding, hpadding, companion⟩ := phrase
  simp only [write, List.append_assoc] at h
  have hopen := hpadding.opening (companion.startsSolid_write.append rest)
  cases fault with
  | unknown word more hword hforeign hmore =>
    obtain ⟨rfl, -⟩ := word_inj hword hmore spelling.isWord hopen.ended h.symm
    exact hforeign keyword spelling.spells
  | lacking keyword' spelling' padding' lack hpadding' hended =>
    obtain ⟨rfl, -, -, hlack⟩ := opening_inj hopen
      ⟨hpadding', hended, lack.refuses_isPad_write⟩ h
    exact companion.write_ne_lack hrest lack hlack

end Dialogue
