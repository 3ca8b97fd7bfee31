import Dialogue.Proofs.Grammar.Composition

/-!
# Line endings

The lines of a text end with a line feed, or with a carriage return and a line feed. A carriage
return is a blank: between commands it is passed over, after a name it ends the name, and at the
end of a line of a message it is dropped.

There is one place where it counts. Within a block the blanks that a line starts with are measured
up to the depth of a block, and a carriage return is a column like any other. A blank line that
lacks just this column is not part of the message before a line feed alone, and is an empty line of
it before a carriage return and a line feed.

## Main definitions

* `withReturns`: a text with a carriage return before each line feed
* `BodyLine.IsNarrow`: a blank line of a block that lacks one column
* `HasNarrowLine text`: some block of the text has such a line, and a line feed after it

## Main results

* `Yields.exists_withReturns`: what a text yields with carriage returns
* `withReturns_agrees_iff`: with carriage returns a text has the same error; it has the same
  commands and is the same conversation exactly if it has no narrow line
-/

namespace Dialogue

open Text (isBlank trimEnd)

/-- The text with a carriage return before each line feed. -/
def withReturns (text : List Char) : List Char :=
  text.flatMap fun c => if c = '\n' then ['\r', '\n'] else [c]

theorem withReturns_append (first second : List Char) :
    withReturns (first ++ second) = withReturns first ++ withReturns second :=
  List.flatMap_append

theorem withReturns_newline (text : List Char) :
    withReturns ('\n' :: text) = '\r' :: '\n' :: withReturns text := rfl

theorem withReturns_cons {c : Char} (hc : c ≠ '\n') (text : List Char) :
    withReturns (c :: text) = c :: withReturns text := by
  simp [withReturns, hc]

theorem withReturns_of_isLine {text : List Char} (h : IsLine text) : withReturns text = text := by
  induction text with
  | nil => rfl
  | cons c text ih =>
    rw [withReturns_cons (h c List.mem_cons_self), ih fun d hd => h d (List.mem_cons_of_mem c hd)]

theorem IsGap.withReturns {text : List Char} (h : IsGap text) : IsGap (withReturns text) := by
  intro c hc
  obtain ⟨d, hd, hmem⟩ := List.mem_flatMap.mp hc
  by_cases hnewline : d = '\n'
  · rw [if_pos hnewline] at hmem
    rcases List.mem_pair.mp hmem with rfl | rfl <;> rfl
  · rw [if_neg hnewline, List.mem_singleton] at hmem
    rw [hmem]
    exact h d hd

/-- A reader that does not tell a carriage return from a line feed stops at the same place. -/
theorem Refuses.withReturns {accept : Char → Bool} (haccept : accept '\r' = accept '\n')
    {text : List Char} (h : Refuses accept text) : Refuses accept (withReturns text) := by
  cases text with
  | nil => exact h
  | cons c text =>
    by_cases hc : c = '\n'
    · subst hc
      exact refuses_cons.mpr (haccept.trans (refuses_cons.mp h))
    · rw [withReturns_cons hc]
      exact refuses_cons.mpr (refuses_cons.mp h)

/-- **Carriage returns move nothing**: each is on the line that ends right after it. -/
theorem Position.after_withReturns (position : Position) (text : List Char) :
    position.after (withReturns text) = position.after text := by
  induction text generalizing position with
  | nil => rfl
  | cons c text ih =>
    by_cases hc : c = '\n'
    · subst hc
      have hstep : (position.step '\r').step '\n' = position.step '\n' := rfl
      rw [withReturns_newline, after, List.foldl_cons, List.foldl_cons, hstep]
      exact ih (position.step '\n')
    · rw [withReturns_cons hc]
      exact ih (position.step c)

/-- The carriage return that ends a line, if text comes after the line. -/
def returnBefore (rest : List Char) : List Char :=
  if rest = [] then [] else ['\r']

theorem isPadding_returnBefore (rest : List Char) : IsPadding (returnBefore rest) := by
  by_cases hrest : rest = []
  · rw [returnBefore, if_pos hrest]
    decide
  · rw [returnBefore, if_neg hrest]
    decide

/-- The text after a line is still after it, but for its carriage return. -/
theorem exists_withReturns_of_atLineEnd {rest : List Char} (h : AtLineEnd rest) :
    ∃ rest', withReturns rest = returnBefore rest ++ rest' ∧ AtLineEnd rest' := by
  cases rest with
  | nil => exact ⟨[], rfl, h⟩
  | cons c rest =>
    obtain rfl : c = '\n' := by simpa using h
    exact ⟨'\n' :: withReturns rest, rfl, refuses_cons.mpr rfl⟩

/-- What ends a block still ends it after the carriage return. -/
theorem exists_withReturns_of_endsBody {rest : List Char} (h : EndsBody rest) :
    ∃ rest', withReturns rest = returnBefore rest ++ rest' ∧ EndsBody rest' ∧
      (rest' = [] ↔ rest = []) := by
  rcases endsBody_iff.mp h with rfl | ⟨blanks, c, tail, rfl, hblanks, hshort, hc⟩
  · exact ⟨[], rfl, h, Iff.rfl⟩
  · refine ⟨'\n' :: (blanks ++ c :: withReturns tail), ?_, endsBody_iff.mpr
      (Or.inr ⟨blanks, c, withReturns tail, rfl, hblanks, hshort, hc⟩), by simp⟩
    rw [withReturns_newline, withReturns_append, withReturns_of_isLine hblanks.isLine,
      withReturns_cons (ne_newline_of_solid hc)]
    rfl

/-! ## Lines of a block -/

namespace BodyLine

/-- The line has nothing but blanks, and lacks one column of being deep. -/
def IsNarrow : BodyLine → Prop
  | .deep .. => False
  | .shallow blanks .. => columns blanks + 1 = blockDepth

instance (line : BodyLine) : Decidable line.IsNarrow :=
  match line with
  | .deep .. => inferInstanceAs (Decidable False)
  | .shallow blanks .. => inferInstanceAs (Decidable (columns blanks + 1 = blockDepth))

/-- The line with a carriage return at its end, which is deep if the line is narrow. -/
def withReturn : BodyLine → BodyLine
  | .deep margin content hmargin hreach hline =>
    .deep margin (content ++ ['\r']) hmargin hreach (hline.append (by decide))
  | .shallow blanks hblanks hshort =>
    have hcolumns : columns (blanks ++ ['\r']) = columns blanks + 1 := columns_append blanks ['\r']
    if hnarrow : columns blanks + 1 = blockDepth then
      .deep (blanks ++ ['\r']) [] (hblanks.append (by decide))
        ⟨by rwa [List.dropLast_concat], by omega⟩ (by decide)
    else .shallow (blanks ++ ['\r']) (hblanks.append (by decide)) (by omega)

theorem write_withReturn (line : BodyLine) : line.withReturn.write = line.write ++ ['\r'] := by
  cases line with
  | deep margin content => exact (List.append_assoc margin content ['\r']).symm
  | shallow blanks =>
    rw [withReturn]
    split <;> simp [write]

/-- A carriage return adds nothing to a line, but makes an empty one of a narrow line. -/
theorem content?_withReturn (line : BodyLine) :
    line.withReturn.content? = if line.IsNarrow then some [] else line.content? := by
  cases line with
  | deep margin content =>
    rw [if_neg (by simp [IsNarrow])]
    exact congrArg some (Text.trimEnd_append_gap content (by decide))
  | shallow blanks =>
    rw [withReturn]
    split
    · rename_i hnarrow
      exact (if_pos hnarrow).symm
    · rename_i hnarrow
      exact (if_neg hnarrow).symm

theorem content?_eq_none_of_isNarrow {line : BodyLine} (h : line.IsNarrow) :
    line.content? = none := by
  cases line with
  | deep => cases h
  | shallow => rfl

/-- The line as it is before some text: with a carriage return unless the text has ended. -/
def returnedBefore (line : BodyLine) (rest : List Char) : BodyLine :=
  if rest = [] then line else line.withReturn

theorem write_returnedBefore (line : BodyLine) (rest : List Char) :
    (line.returnedBefore rest).write = line.write ++ returnBefore rest := by
  by_cases hrest : rest = []
  · rw [returnedBefore, returnBefore, if_pos hrest, if_pos hrest, List.append_nil]
  · rw [returnedBefore, returnBefore, if_neg hrest, if_neg hrest, write_withReturn]

theorem content?_returnedBefore (line : BodyLine) (rest : List Char) :
    (line.returnedBefore rest).content? =
      if line.IsNarrow ∧ rest ≠ [] then some [] else line.content? := by
  by_cases hrest : rest = []
  · rw [returnedBefore, if_pos hrest, if_neg fun h => h.2 hrest]
  · rw [returnedBefore, if_neg hrest, content?_withReturn]
    simp only [hrest, ne_eq, not_false_eq_true, and_true]

theorem hasContent_returnedBefore (line : BodyLine) (rest : List Char) :
    (line.returnedBefore rest).HasContent ↔ line.HasContent := by
  rw [hasContent_iff, hasContent_iff, content?_returnedBefore]
  by_cases hnarrow : line.IsNarrow ∧ rest ≠ []
  · -- What a narrow line becomes is empty, and so has no content either.
    rw [if_pos hnarrow, content?_eq_none_of_isNarrow hnarrow.1]
    simp
  · rw [if_neg hnarrow]

end BodyLine

/-- The body with a carriage return at the end of each line that has text after it. -/
def returnedBody (rest : List Char) : List BodyLine → List BodyLine
  | [] => []
  | line :: body => line.returnedBefore (writeBody body ++ rest) :: returnedBody rest body

/-- Some line of the body is narrow and has text after it. -/
def NarrowBefore (rest : List Char) : List BodyLine → Prop
  | [] => False
  | line :: body => line.IsNarrow ∧ writeBody body ++ rest ≠ [] ∨ NarrowBefore rest body

/-- Each carriage return of a body is at the end of a line: the first one is before the body, and
the one after the body is on its last line. -/
theorem writeBody_returnedBody (rest : List Char) (body : List BodyLine) :
    withReturns (writeBody body) ++ returnBefore rest =
      returnBefore (writeBody body ++ rest) ++ writeBody (returnedBody rest body) := by
  induction body with
  | nil => exact (List.append_nil _).symm
  | cons line body ih =>
    rw [writeBody_cons, withReturns_newline, withReturns_append,
      withReturns_of_isLine line.isLine_write, returnedBody, writeBody_cons,
      BodyLine.write_returnedBefore]
    simp only [List.cons_append, List.append_assoc, ih]
    rfl

theorem hasContent_returnedBody (rest : List Char) (body : List BodyLine) :
    (∃ line ∈ returnedBody rest body, line.HasContent) ↔ ∃ line ∈ body, line.HasContent := by
  induction body with
  | nil => rfl
  | cons line body ih =>
    rw [returnedBody, List.exists_mem_cons_iff, List.exists_mem_cons_iff, ih,
      BodyLine.hasContent_returnedBefore]

/-- Carriage returns take no line from the message, and add one for each narrow line. -/
theorem contents_returnedBody (rest : List Char) (body : List BodyLine) :
    (contents body).Sublist (contents (returnedBody rest body)) ∧
      ((contents (returnedBody rest body)).length = (contents body).length ↔
        ¬ NarrowBefore rest body) := by
  induction body with
  | nil => exact ⟨List.Sublist.refl _, iff_of_true rfl id⟩
  | cons line body ih =>
    obtain ⟨hsublist, hlength⟩ := ih
    rw [returnedBody, contents_cons, contents_cons, BodyLine.content?_returnedBefore, NarrowBefore]
    by_cases hnarrow : line.IsNarrow ∧ writeBody body ++ rest ≠ []
    · -- The line was not part of the message, and is an empty line of it now.
      rw [if_pos hnarrow, BodyLine.content?_eq_none_of_isNarrow hnarrow.1]
      have hle := hsublist.length_le
      refine ⟨hsublist.cons [], iff_of_false ?_ (fun h => h (Or.inl hnarrow))⟩
      simp only [Option.toList_some, Option.toList_none, List.length_append, List.length_singleton,
        List.length_nil]
      omega
    · rw [if_neg hnarrow]
      refine ⟨hsublist.append_left _, ?_⟩
      simp only [List.length_append, Nat.add_left_cancel_iff, hlength, hnarrow, false_or]

/-! ## The message of a block -/

theorem isLine_of_mem_contents {body : List BodyLine} {text : List Char}
    (h : text ∈ contents body) : IsLine text := by
  obtain ⟨line, -, hline⟩ := List.mem_filterMap.mp h
  cases line with
  | deep margin content hmargin hreach hcontent =>
    obtain ⟨blanks, heq, -⟩ := Text.exists_append_gap content
    obtain rfl : trimEnd content = text := Option.some.inj hline
    intro c hc
    refine hcontent c ?_
    rw [heq]
    exact List.mem_append_left _ hc
  | shallow blanks => cases hline

/-- The line feeds of a message tell how many lines it has. -/
theorem count_intercalate {lines : List (List Char)} (hne : lines ≠ [])
    (hlines : ∀ line ∈ lines, IsLine line) :
    (['\n'].intercalate lines).count '\n' + 1 = lines.length := by
  induction lines with
  | nil => exact absurd rfl hne
  | cons line lines ih =>
    have hcount : line.count '\n' = 0 :=
      List.count_eq_zero.mpr fun hmem => hlines line List.mem_cons_self '\n' hmem rfl
    cases lines with
    | nil => simp [List.intercalate, hcount]
    | cons next lines =>
      have hrest := ih (List.cons_ne_nil next lines) fun line hline =>
        hlines line (List.mem_cons_of_mem _ hline)
      rw [List.intercalate_cons_cons, List.count_append, List.count_append, hcount,
        List.length_cons, ← hrest]
      simp only [List.count_singleton_self]
      omega

/-- **The message of a block is the same exactly if no line of it is narrow.** -/
theorem intercalate_returnedBody {body : List BodyLine}
    (hcontent : ∃ line ∈ body, line.HasContent) (rest : List Char) :
    ['\n'].intercalate (contents (returnedBody rest body)) = ['\n'].intercalate (contents body) ↔
      ¬ NarrowBefore rest body := by
  obtain ⟨hsublist, hlength⟩ := contents_returnedBody rest body
  rw [← hlength]
  constructor
  · -- The same message has as many line feeds, and so as many lines.
    intro h
    have hne : contents body ≠ [] := by
      obtain ⟨line, hmem, hline⟩ := hcontent
      obtain ⟨text, htext, -⟩ := line.hasContent_iff.mp hline
      exact List.ne_nil_of_mem (List.mem_filterMap.mpr ⟨line, hmem, htext⟩)
    have hne' : contents (returnedBody rest body) ≠ [] := by
      intro hnil
      rw [hnil, List.sublist_nil] at hsublist
      exact hne hsublist
    rw [← count_intercalate hne fun _ => isLine_of_mem_contents,
      ← count_intercalate hne' fun _ => isLine_of_mem_contents, h]
  · intro h
    rw [hsublist.eq_of_length h.symm]

/-! ## Phrases and faults -/

/-- Some line of a block is narrow and has text after it. -/
def Companion.HasNarrowLine {keyword : Keyword} (companion : Companion keyword)
    (rest : List Char) : Prop :=
  match companion with
  | .name .. => False
  | .line .. => False
  | .block _ body .. => NarrowBefore rest body

theorem AtBlank.withReturns {text : List Char} (h : AtBlank text) : AtBlank (withReturns text) :=
  Refuses.withReturns rfl h

/-- A bar and a body with carriage returns, of which the first one is after the bar. -/
theorem withReturns_block {trailing : List Char} (htrailing : IsPadding trailing)
    (body : List BodyLine) (rest : List Char) :
    withReturns ('|' :: (trailing ++ writeBody body)) ++ returnBefore rest =
      '|' :: ((trailing ++ returnBefore (writeBody body ++ rest)) ++
        writeBody (returnedBody rest body)) := by
  rw [← List.cons_append, withReturns_append, withReturns_of_isLine htrailing.isLine_bar,
    List.append_assoc, writeBody_returnedBody]
  simp

/-- A companion with carriage returns is a companion, which may take the one before the text after
it. It has the same content exactly if it has no narrow line. -/
theorem Companion.exists_withReturns {keyword : Keyword} {companion : Companion keyword}
    {rest : List Char} (h : companion.EndsBefore rest) :
    ∃ (companion' : Companion keyword) (taken rest' : List Char),
      companion'.write = withReturns companion.write ++ taken ∧ withReturns rest = taken ++ rest' ∧
      IsGap taken ∧ companion'.EndsBefore rest' ∧
      (companion'.content = companion.content ↔ ¬ companion.HasNarrowLine rest) := by
  cases companion with
  | name word hword =>
    -- The carriage return after a name is a blank, which ends it.
    refine ⟨.name word hword, [], withReturns rest, ?_, rfl, isGap_nil, AtBlank.withReturns h,
      iff_of_true rfl id⟩
    rw [List.append_nil, write, withReturns_of_isLine hword.isLine]
  | line text hline hsolid hbar =>
    -- The one after an inline prompt is at the end of its line, where it is dropped.
    obtain ⟨rest', hrest', hends⟩ := exists_withReturns_of_atLineEnd h
    have hreturn := isPadding_returnBefore rest
    have htrim := Text.trimEnd_append_gap text hreturn.isGap
    refine ⟨.line (text ++ returnBefore rest) (hline.append hreturn.isLine) (hsolid.append _)
      (htrim ▸ hbar), returnBefore rest, rest', ?_, hrest', hreturn.isGap, hends,
      iff_of_true htrim id⟩
    rw [write, write, withReturns_of_isLine hline]
  | block trailing body htrailing hcontent =>
    -- Those of a block are after its bar and at the end of its lines, where they may make a line
    -- deep.
    obtain ⟨rest', hrest', hends, -⟩ := exists_withReturns_of_endsBody h
    refine ⟨.block (trailing ++ returnBefore (writeBody body ++ rest)) (returnedBody rest body)
      (htrailing.append (isPadding_returnBefore _))
      ((hasContent_returnedBody rest body).mpr hcontent), returnBefore rest, rest', ?_, hrest',
      (isPadding_returnBefore rest).isGap, hends, intercalate_returnedBody hcontent rest⟩
    exact (withReturns_block htrailing body rest).symm

theorem Keyword.command_inj {keyword : Keyword} {content content' : List Char} :
    keyword.command (String.ofList content) = keyword.command (String.ofList content') ↔
      content = content' := by
  have hofList : String.ofList content = String.ofList content' ↔ content = content' := by
    rw [← String.toList_inj, String.toList_ofList, String.toList_ofList]
  cases keyword <;> simp [command, hofList]

/-- **A phrase with carriage returns is a phrase**, which stands for the same command exactly if it
has no narrow line. -/
theorem Phrase.exists_withReturns {phrase : Phrase} {rest : List Char}
    (h : phrase.EndsBefore rest) :
    ∃ (phrase' : Phrase) (taken rest' : List Char),
      phrase'.write = withReturns phrase.write ++ taken ∧ withReturns rest = taken ++ rest' ∧
      IsGap taken ∧ phrase'.EndsBefore rest' ∧
      (phrase'.command = phrase.command ↔ ¬ phrase.companion.HasNarrowLine rest) := by
  obtain ⟨keyword, spelling, padding, hpadding, companion⟩ := phrase
  obtain ⟨companion', taken, rest', hwrite, hrest', htaken, hends, hcontent⟩ :=
    Companion.exists_withReturns h
  refine ⟨⟨keyword, spelling, padding, hpadding, companion'⟩, taken, rest', ?_, hrest', htaken,
    hends, ?_⟩
  · simp only [write, hwrite, withReturns_append, withReturns_of_isLine spelling.isWord.isLine,
      withReturns_of_isLine hpadding.2.isLine, List.append_assoc]
  · rw [command_eq, command_eq, Keyword.command_inj]
    exact hcontent

/-- A block without content and with carriage returns is a block without content. -/
theorem exists_withReturns_of_hollow {role : Role} {trailing rest : List Char}
    {body : List BodyLine} {lack : Lack (.speak role)} (htrailing : IsPadding trailing)
    (hempty : ∀ line ∈ body, ¬ line.HasContent) (hended : EndsBody rest)
    (hlack : lack = .hollow trailing body rest htrailing hempty hended) :
    ∃ lack' : Lack (.speak role), lack'.write = withReturns lack.write ∧
      ∀ place, lack'.error place = lack.error place := by
  subst hlack
  obtain ⟨rest', hrest', hends, hnil⟩ := exists_withReturns_of_endsBody hended
  have hblock := withReturns_block htrailing body rest
  have hempty' : ∀ line ∈ returnedBody rest body, ¬ line.HasContent := by
    intro line hmem hline
    obtain ⟨line, hmem, hline⟩ := (hasContent_returnedBody rest body).mp ⟨line, hmem, hline⟩
    exact hempty line hmem hline
  refine ⟨.hollow (trailing ++ returnBefore (writeBody body ++ rest)) (returnedBody rest body)
    rest' (htrailing.append (isPadding_returnBefore _)) hempty' hends, ?_, fun place => ?_⟩
  · have hwrite : '|' :: (trailing ++ (writeBody body ++ rest)) =
        '|' :: (trailing ++ writeBody body) ++ rest := by simp
    rw [Lack.write, Lack.write, hwrite, withReturns_append, hrest',
      ← List.append_assoc (withReturns _), hblock]
    simp
  · cases rest with
    | nil =>
      -- The error is at the end of the text, which carriage returns do not move.
      obtain rfl : rest' = [] := hnil.mpr rfl
      have hafter := Position.after_withReturns place ('|' :: (trailing ++ writeBody body))
      rw [returnBefore, if_pos rfl, List.append_nil] at hblock
      rw [hblock] at hafter
      exact congrArg (fun place => ParseError.lexical (.unexpectedEnd place)) hafter
    | cons c tail =>
      -- The error is at the bar.
      obtain ⟨d, tail', rfl⟩ := List.exists_cons_of_ne_nil (mt hnil.mp (List.cons_ne_nil c tail))
      rfl

/-- What stands in place of a companion, with carriage returns: the one of the line of the keyword
is among its blanks. -/
theorem Lack.exists_withReturns {keyword : Keyword} (lack : Lack keyword) :
    ∃ (lack' : Lack keyword) (taken : List Char), IsPadding taken ∧
      withReturns lack.write = taken ++ lack'.write ∧
      ∀ place : Position, lack'.error (place.after taken) = lack.error place := by
  cases lack with
  | bare => exact ⟨.bare, [], by decide, rfl, fun _ => rfl⟩
  | misplaced blanks rest hblanks hrest =>
    refine ⟨.misplaced (withReturns blanks) (withReturns rest) hblanks.withReturns
      (Refuses.withReturns rfl hrest), ['\r'], by decide, ?_, fun place => ?_⟩
    · rw [write, write, withReturns_newline, withReturns_append]
      rfl
    · have hafter : (place.after ['\r']).after ('\n' :: withReturns blanks) =
          place.after ('\n' :: blanks) := by
        rw [← Position.after_append]
        exact Position.after_withReturns place ('\n' :: blanks)
      cases keyword <;> simp only [error, hafter]
  | hollow trailing body rest htrailing hempty hended =>
    obtain ⟨lack', hwrite, herror⟩ := exists_withReturns_of_hollow htrailing hempty hended rfl
    exact ⟨lack', [], by decide, hwrite.symm, herror⟩

/-- **A fault with carriage returns is a fault with the same error.** -/
theorem Fault.exists_withReturns (fault : Fault) :
    ∃ fault' : Fault, fault'.write = withReturns fault.write ∧
      ∀ start, fault'.error start = fault.error start := by
  cases fault with
  | unknown word rest hword hforeign hended =>
    refine ⟨.unknown word (withReturns rest) hword hforeign hended.withReturns, ?_, fun _ => rfl⟩
    rw [write, write, withReturns_append, withReturns_of_isLine hword.isLine]
  | lacking keyword spelling padding lack hpadding hended =>
    obtain ⟨lack', taken, htaken, hwrite, herror⟩ := lack.exists_withReturns
    -- The keyword may be ended by the carriage return alone.
    have hblank : AtBlank (padding ++ taken ++ lack'.write) := by
      rw [List.append_assoc, ← hwrite, ← withReturns_of_isLine hpadding.isLine,
        ← withReturns_append]
      exact hended.withReturns
    refine ⟨.lacking keyword spelling (padding ++ taken) lack' (hpadding.append htaken) hblank, ?_,
      fun start => ?_⟩
    · simp only [write, withReturns_append, hwrite, withReturns_of_isLine spelling.isWord.isLine,
        withReturns_of_isLine hpadding.isLine, List.append_assoc]
    · rw [error, error, ← List.append_assoc, Position.after_append, herror]

/-! ## Texts -/

/-- Some block of the text has a narrow line, and text after this line. -/
def HasNarrowLine (text : List Char) : Prop :=
  ∃ (steps : List Step) (step : Step) (rest : List Char),
    Opens text (steps ++ [step]) rest ∧ step.phrase.companion.HasNarrowLine rest

/-- A closing has no block. -/
theorem Closing.not_hasNarrowLine (closing : Closing) : ¬ HasNarrowLine closing.write := by
  rintro ⟨steps, step, rest, hopens, -⟩
  cases steps with
  | nil =>
    obtain ⟨tail, heq, hends, -⟩ := hopens
    exact step.write_ne_closing hends closing heq.symm
  | cons first steps =>
    obtain ⟨tail, heq, hends, -⟩ := hopens
    exact first.write_ne_closing hends closing heq.symm

/-- A narrow line is in the first phrase of a text or after it. -/
theorem hasNarrowLine_step {step : Step} {rest : List Char} (hends : step.phrase.EndsBefore rest) :
    HasNarrowLine (step.write ++ rest) ↔
      step.phrase.companion.HasNarrowLine rest ∨ HasNarrowLine rest := by
  constructor
  -- A text opens with one step only, so the narrow line is in that step or behind it.
  · rintro ⟨steps, last, rest', hopens, hnarrow⟩
    cases steps with
    | nil =>
      obtain ⟨tail, heq, hends', rfl⟩ := hopens
      obtain ⟨rfl, rfl⟩ := Step.write_inj hends hends' heq
      exact Or.inl hnarrow
    | cons first steps =>
      obtain ⟨tail, heq, hends', hopens⟩ := hopens
      obtain ⟨rfl, rfl⟩ := Step.write_inj hends hends' heq
      exact Or.inr ⟨steps, last, rest', hopens, hnarrow⟩
  · rintro (hnarrow | ⟨steps, last, rest', hopens, hnarrow⟩)
    · exact ⟨[], step, rest, ⟨rest, rfl, hends, rfl⟩, hnarrow⟩
    · exact ⟨step :: steps, last, rest', ⟨rest, rfl, hends, hopens⟩, hnarrow⟩

/-- A closing with carriage returns has the same error. -/
theorem Closing.yields_withReturns (closing : Closing) :
    Yields (withReturns closing.write) [] closing.error? := by
  cases closing with
  | clean blanks hblanks =>
    exact yields_closing (.clean (withReturns blanks) hblanks.withReturns)
  | faulty blanks hblanks fault =>
    obtain ⟨fault', hwrite, herror⟩ := fault.exists_withReturns
    have hyields := yields_closing (.faulty (withReturns blanks) hblanks.withReturns fault')
    simpa only [write, error?, hwrite, herror, withReturns_append, Position.after_withReturns]
      using hyields

/-- **With carriage returns a text yields the same error wherever it starts**, and the same
commands exactly if it has no narrow line. -/
theorem Yields.exists_withReturns {text : List Char} {commands : List Command}
    {error? : Position → Option ParseError} (h : Yields text commands error?) :
    ∃ commands', Yields (withReturns text) commands' error? ∧
      (commands' = commands ↔ ¬ HasNarrowLine text) := by
  obtain ⟨steps, closing, hopens, rfl, rfl⟩ := h
  -- On the steps of the text: each is read as before, with the carriage returns that are its own.
  induction steps generalizing text with
  | nil =>
    obtain rfl : text = closing.write := hopens
    exact ⟨[], closing.yields_withReturns, iff_of_true rfl closing.not_hasNarrowLine⟩
  | cons step steps ih =>
    obtain ⟨tail, rfl, hends, hopens⟩ := hopens
    obtain ⟨commands, hyields, hcommands⟩ := ih hopens
    obtain ⟨phrase, taken, rest, hwrite, hrest, htaken, hends', hcommand⟩ :=
      Phrase.exists_withReturns hends
    -- The phrase may take the carriage return that the text after it starts with.
    rw [hrest] at hyields
    obtain ⟨error?, hyields, herror⟩ := hyields.of_gap htaken
    refine ⟨phrase.command :: commands, ?_, ?_⟩
    · have hall := (hyields.phrase hends').gap step.isGap.withReturns
      simpa only [Step.write, withReturns_append, hwrite, hrest, List.append_assoc,
        Position.after_append, Position.after_withReturns, herror, writeSteps_cons] using hall
    · rw [hasNarrowLine_step hends, not_or, ← hcommand, ← hcommands]
      exact List.cons_eq_cons

/-- **With carriage returns a text has the same error**; it has the same commands and is the same
conversation exactly if it has no narrow line. -/
theorem withReturns_agrees_iff (text : String) :
    (commandsOf (String.ofList (withReturns text.toList))).2 = (commandsOf text).2 ∧
      (commandsOf (String.ofList (withReturns text.toList)) = commandsOf text ∧
          Conversation.ofText (String.ofList (withReturns text.toList)) =
            Conversation.ofText text ↔
        ¬ HasNarrowLine text.toList) := by
  obtain ⟨commands, error?, hyields⟩ := exists_yields text.toList
  obtain ⟨commands', hyields', hcommands⟩ := hyields.exists_withReturns
  rw [← String.toList_ofList (l := withReturns text.toList)] at hyields'
  rw [Conversation.ofText_eq, Conversation.ofText_eq, commandsOf_of_yields hyields,
    commandsOf_of_yields hyields', ← hcommands]
  -- The errors are the same, so all depends on the commands.
  refine ⟨rfl, ⟨fun h => (Prod.mk.inj h.1).1, ?_⟩⟩
  rintro rfl
  exact ⟨rfl, rfl⟩

/-- A blank line of three columns is no part of the message, and is an empty line of it if carriage
returns end the lines. -/
theorem withReturns_disagrees_narrow :
    '\r' ∉ "ASK |\n    a\n   \n    b\n".toList ∧
      commandsOf "ASK |\n    a\n   \n    b\n" = ([.say ⟨.user, "a\nb"⟩], none) ∧
      commandsOf (String.ofList (withReturns "ASK |\n    a\n   \n    b\n".toList)) =
        ([.say ⟨.user, "a\n\nb"⟩], none) ∧
      Conversation.ofText (String.ofList (withReturns "ASK |\n    a\n   \n    b\n".toList)) ≠
        Conversation.ofText "ASK |\n    a\n   \n    b\n" := by
  have hfeeds : commandsOf "ASK |\n    a\n   \n    b\n" = ([.say ⟨.user, "a\nb"⟩], none) := by
    decide +kernel
  have hreturns : commandsOf (String.ofList (withReturns "ASK |\n    a\n   \n    b\n".toList)) =
      ([.say ⟨.user, "a\n\nb"⟩], none) := by
    decide +kernel
  refine ⟨by decide, hfeeds, hreturns, ?_⟩
  rw [Conversation.ofText_eq, Conversation.ofText_eq, hfeeds, hreturns]
  intro h
  have hturns := congrArg (fun conversation => conversation.history.turns) (Except.ok.inj h)
  exact absurd hturns (by decide)

end Dialogue
