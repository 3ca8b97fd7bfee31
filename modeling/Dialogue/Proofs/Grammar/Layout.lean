import Dialogue.Proofs.Grammar.Composition

/-!
# Layout

Some blanks of a text mean nothing: an empty line does not, wherever it stands, and neither do the
blanks at the end of a line that has something else on it. Putting them in or taking them out moves
what comes after them and changes nothing else.

Other blanks count. A deep blank line of a block is an empty line of its message, so blanks at the
end of a line count there if nothing else is on the line.

Which part of a text the blanks fall into is decided by the text before them. They cannot fall into
a word, and within a line they are at its end. They go to the gap before a command, to the blanks
after a keyword or after a bar, to the end of a line of a message, or they make one more empty line
of a block; or they are after the phrase, and then the same can be said of the rest of the text.

## Main definitions

* `Reformats text text'`: one empty line has been put into the text, or blanks at the end of one
  line that has something else on it
* `Idle front blanks after`: blanks that mean nothing where they stand
* `ParseError.unplaced`: what is wrong, wherever it is

## Main results

* `Idle.past`: blanks that mean nothing are not within a run of a line
* `Phrase.exists_relaid`, `Fault.exists_relaid`: a phrase with such blanks in it is a phrase for the
  same command, and a fault is the same fault
* `Yields.exists_relaid`, `layout_insignificant`: a text with such blanks in it yields the same
-/

namespace Dialogue

open Text (isBlank trimEnd)

/-- The text with one more empty line, or with blanks at the end of a line that has something else
on it. -/
inductive Reformats : List Char → List Char → Prop
  | emptyLine {before : List Char} (after : List Char)
      (lineStart : ∀ c ∈ before.getLast?, c = '\n') :
      Reformats (before ++ after) (before ++ '\n' :: after)
  | trailing {before line blanks after : List Char} (lineStart : ∀ c ∈ before.getLast?, c = '\n')
      (isLine : IsLine line) (solid : ∃ c ∈ line, isBlank c = false)
      (isPadding : IsPadding blanks) (lineEnd : AtLineEnd after) :
      Reformats (before ++ (line ++ after)) (before ++ (line ++ (blanks ++ after)))

/-! ## What is wrong, wherever it is -/

/-- The error without its place. -/
def LexError.unplaced : LexError → LexError
  | .unknownToken word _ => .unknownToken word .start
  | .unexpectedEnd _ => .unexpectedEnd .start
  | .expectedPrompt _ => .expectedPrompt .start
  | .expectedModel _ => .expectedModel .start
  | .unreadable error => .unreadable error

@[inherit_doc LexError.unplaced]
def ParseError.unplaced : ParseError → ParseError
  | .lexical error => .lexical error.unplaced
  | .incomplete keyword => .incomplete keyword
  | .expectedCommand found => .expectedCommand { found with position := .start }
  | .mispaired expected found => .mispaired expected found

theorem Lack.unplaced_error {keyword : Keyword} (lack : Lack keyword) (place place' : Position) :
    (lack.error place).unplaced = (lack.error place').unplaced := by
  cases lack with
  | bare => rfl
  | misplaced => cases keyword <;> rfl
  | hollow trailing body rest => cases rest <;> rfl

theorem Fault.unplaced_error (fault : Fault) (start start' : Position) :
    (fault.error start).unplaced = (fault.error start').unplaced := by
  cases fault with
  | unknown => rfl
  | lacking keyword spelling padding lack => exact lack.unplaced_error _ _

/-- What is wrong with a text does not depend on where the text starts. -/
theorem Closing.unplaced_error? (closing : Closing) (start start' : Position) :
    (closing.error? start).map ParseError.unplaced =
      (closing.error? start').map ParseError.unplaced := by
  cases closing with
  | clean => rfl
  | faulty blanks hblanks fault => exact congrArg some (fault.unplaced_error _ _)

/-! ## Blanks that mean nothing -/

/-- Blanks between two parts of a text that mean nothing there: a line feed at the start of a line,
or blanks at the end of one. In the second case there is something else on the line, unless it is
the first line of the front: what comes before the front may be on it, too. -/
inductive Idle (front blanks after : List Char) : Prop
  | emptyLine {lines : List Char} (lineStart : front = lines ++ ['\n'])
      (newline : blanks = ['\n'])
  | trailing (isPadding : IsPadding blanks) (lineEnd : AtLineEnd after)
      (solid : ∀ lines line, front = lines ++ '\n' :: line → ∃ c ∈ line, isBlank c = false)

namespace Idle

variable {front blanks after run tail : List Char}

theorem isGap (h : Idle front blanks after) : IsGap blanks := by
  cases h with
  | emptyLine _ hnewline => rw [hnewline]; decide
  | trailing hpadding _ _ => exact hpadding.isGap

/-- Where nothing is before them, they are at the end of a line. -/
theorem of_nil (h : Idle [] blanks after) : IsPadding blanks ∧ AtLineEnd after := by
  cases h with
  | emptyLine hstart _ => exact absurd hstart.symm (List.append_ne_nil_of_right_ne_nil _ (by simp))
  | trailing hpadding hend _ => exact ⟨hpadding, hend⟩

/-- They still mean nothing if only a part of the text before them is looked at. -/
theorem drop {more : List Char} (h : Idle (run ++ more) blanks after) (hmore : more ≠ []) :
    Idle more blanks after := by
  cases h with
  | @emptyLine lines hstart hnewline =>
    obtain ⟨more', c, rfl⟩ := (List.eq_nil_or_concat more).resolve_left hmore
    rw [List.concat_eq_append] at hstart ⊢
    rw [← List.append_assoc] at hstart
    obtain ⟨-, hc⟩ := List.append_inj' hstart rfl
    exact .emptyLine (congrArg (more' ++ ·) hc) hnewline
  | trailing hpadding hend hsolid =>
    refine .trailing hpadding hend fun lines line heq => ?_
    exact hsolid (run ++ lines) line (by rw [heq, List.append_assoc])

/-- **They are not within a run of a line**, so they come after it. -/
theorem past (h : Idle front blanks after) (hrun : IsLine run)
    (heq : run ++ tail = front ++ after) :
    ∃ more, front = run ++ more ∧ tail = more ++ after ∧ Idle more blanks after := by
  cases h with
  | @emptyLine lines hstart hnewline =>
    rcases List.append_eq_append_iff.mp heq with ⟨more, hfront, htail⟩ | ⟨more, hwithin, -⟩
    · -- The line feed before them is not in the run.
      subst hfront
      have hidle : Idle (run ++ more) blanks after := .emptyLine hstart hnewline
      refine ⟨more, rfl, htail, hidle.drop ?_⟩
      rintro rfl
      rw [List.append_nil] at hstart
      exact hrun.ne_append_newline lines hstart
    · exact absurd rfl (hrun '\n' (by simp [hwithin, hstart]))
  | trailing hpadding hend hsolid =>
    have hfront : ∃ more, front = run ++ more ∧ tail = more ++ after := by
      rcases List.append_eq_append_iff.mp heq with hpast | ⟨more, hwithin, hafter⟩
      · exact hpast
      · -- Where they stand the line ends, so nothing of the run is left there.
        cases more with
        | nil => exact ⟨[], by simpa using hwithin.symm, hafter.symm⟩
        | cons c more =>
          rw [hafter] at hend
          exact absurd (by simpa using hend) (hrun c (by simp [hwithin]))
    obtain ⟨more, rfl, htail⟩ := hfront
    refine ⟨more, rfl, htail, .trailing hpadding hend fun lines line heq => ?_⟩
    exact hsolid (run ++ lines) line (by rw [heq, List.append_assoc])

/-- After a line feed they are one more line feed, or what is before them is on the next line. -/
theorem past_newline (h : Idle ('\n' :: front) blanks after) :
    front = [] ∧ blanks = ['\n'] ∨ front ≠ [] ∧ Idle front blanks after := by
  by_cases hfront : front = []
  · subst hfront
    cases h with
    | emptyLine _ hnewline => exact Or.inl ⟨rfl, hnewline⟩
    | trailing _ _ hsolid =>
      obtain ⟨c, hc, -⟩ := hsolid [] [] rfl
      cases hc
  · rw [← List.singleton_append] at h
    exact Or.inr ⟨hfront, h.drop hfront⟩

/-- At the end of a line that has a line feed before it there is something else on the line. -/
theorem exists_solid {line : List Char} (h : Idle ('\n' :: line) blanks after)
    (hblanks : IsPadding blanks) : ∃ c ∈ line, isBlank c = false := by
  cases h with
  | emptyLine _ hnewline => exact absurd rfl (hblanks '\n' (by simp [hnewline])).2
  | trailing _ _ hsolid => exact hsolid [] line rfl

/-- They go to the gap before a text, or they are in the text. -/
theorem gap {gap core : List Char} (h : Idle front blanks after) (hgap : IsGap gap)
    (heq : gap ++ core = front ++ after) :
    (∃ gap', front ++ (blanks ++ after) = gap' ++ core ∧ IsGap gap') ∨
      ∃ more, front = gap ++ more ∧ core = more ++ after ∧ Idle more blanks after := by
  rcases List.append_eq_append_iff.mp heq with ⟨more, rfl, rfl⟩ | ⟨more, rfl, rfl⟩
  · by_cases hmore : more = []
    · subst hmore
      exact Or.inl ⟨gap ++ blanks, by simp, isGap_append.mpr ⟨hgap, h.isGap⟩⟩
    · exact Or.inr ⟨more, rfl, rfl, h.drop hmore⟩
  · obtain ⟨hfront, hmore⟩ := isGap_append.mp hgap
    exact Or.inl ⟨front ++ (blanks ++ more), by simp,
      isGap_append.mpr ⟨hfront, isGap_append.mpr ⟨h.isGap, hmore⟩⟩⟩

end Idle

/-- Blanks put into a text do not keep it from ending a word. -/
theorem AtBlank.insert {front blanks after : List Char} (h : AtBlank (front ++ after))
    (hblanks : IsGap blanks) : AtBlank (front ++ (blanks ++ after)) := by
  cases front with
  | cons c front => exact h
  | nil =>
    cases blanks with
    | nil => exact h
    | cons c blanks => exact refuses_cons.mpr (by simp [(isGap_cons.mp hblanks).1])

/-- The text, or the text with blanks in it that mean nothing where they stand. -/
inductive Relaid : List Char → List Char → Prop
  | same (text : List Char) : Relaid text text
  | insert {front blanks after : List Char} (idle : Idle front blanks after) :
      Relaid (front ++ after) (front ++ (blanks ++ after))

/-! ## In a block -/

/-- Blanks at the end of a line of a block add nothing to what the line contributes, if something
else is on the line. -/
theorem BodyLine.exists_append {line : BodyLine} {blanks : List Char}
    (hsolid : ∃ c ∈ line.write, isBlank c = false) (hblanks : IsPadding blanks) :
    ∃ line' : BodyLine, line'.write = line.write ++ blanks ∧ line'.content? = line.content? := by
  cases line with
  | deep margin content hmargin hreach hcontent =>
    exact ⟨.deep margin (content ++ blanks) hmargin hreach (hcontent.append hblanks.isLine),
      (List.append_assoc margin content blanks).symm,
      congrArg some (Text.trimEnd_append_gap content hblanks.isGap)⟩
  | shallow spaces hspaces hshort =>
    obtain ⟨c, hc, hsolid⟩ := hsolid
    rw [(hspaces c hc).1] at hsolid
    cases hsolid

/-- **Blanks in a body or after it leave a body that contributes the same lines**, and the end of
the text or a line that ends it. -/
theorem Idle.exists_body {body : List BodyLine} {rest front blanks after : List Char}
    (h : Idle front blanks after) (hfront : front ≠ []) (hrest : EndsBody rest)
    (heq : writeBody body ++ rest = front ++ after) :
    ∃ body' rest', front ++ (blanks ++ after) = writeBody body' ++ rest' ∧
      contents body' = contents body ∧ EndsBody rest' ∧ (rest' = [] ↔ rest = []) ∧
      Relaid rest rest' := by
  -- On the lines of the body: the blanks are before the next line, at its end, or further on.
  obtain ⟨c, front, rfl⟩ := List.exists_cons_of_ne_nil hfront
  induction body generalizing c front with
  | nil =>
    rcases endsBody_iff.mp hrest with rfl | ⟨spaces, d, tail, rfl, hspaces, hshort, hd⟩
    · cases heq
    · obtain ⟨rfl, htail⟩ := List.cons.inj heq
      rcases h.past_newline with ⟨rfl, rfl⟩ | ⟨-, hnext⟩
      · obtain rfl : spaces ++ d :: tail = after := htail
        exact ⟨[.last], _, rfl, BodyLine.contents_last, hrest, Iff.rfl, .same _⟩
      · -- The line that ends the body is still there.
        have hline : IsLine (spaces ++ [d]) :=
          hspaces.isLine.append (by simpa [IsLine] using ne_newline_of_solid hd)
        rw [List.append_cons] at htail
        obtain ⟨more, rfl, rfl, -⟩ := hnext.past hline htail
        have hends : EndsBody ('\n' :: (spaces ++ d :: (more ++ (blanks ++ after)))) :=
          endsBody_iff.mpr (Or.inr ⟨spaces, d, _, rfl, hspaces, hshort, hd⟩)
        have hrelaid := Relaid.insert h
        simp only [List.cons_append, List.append_assoc, List.nil_append] at hrelaid ⊢
        exact ⟨[], _, rfl, rfl, hends, by simp, hrelaid⟩
  | cons line body ih =>
    rw [writeBody_cons, List.cons_append, List.append_assoc] at heq
    obtain ⟨rfl, htail⟩ := List.cons.inj heq
    rcases h.past_newline with ⟨rfl, rfl⟩ | ⟨-, hnext⟩
    · obtain rfl : line.write ++ (writeBody body ++ rest) = after := htail
      refine ⟨.last :: line :: body, rest, ?_, ?_, hrest, Iff.rfl, .same _⟩
      · simp [BodyLine.last, BodyLine.write]
      · rfl
    · obtain ⟨more, rfl, htail, hmore⟩ := hnext.past line.isLine_write htail
      cases more with
      | nil =>
        rw [List.append_nil] at h ⊢
        obtain ⟨hblanks, -⟩ := hmore.of_nil
        obtain ⟨line', hwrite, hcontent⟩ := BodyLine.exists_append (h.exists_solid hblanks) hblanks
        obtain rfl : writeBody body ++ rest = after := htail
        refine ⟨line' :: body, rest, ?_, ?_, hrest, Iff.rfl, .same _⟩
        · simp [hwrite]
        · rw [contents_cons, contents_cons, hcontent]
      | cons d more =>
        obtain ⟨body', rest', htext, hcontents, hends⟩ := ih d more hmore (by simp) htail
        refine ⟨line :: body', rest', ?_, ?_, hends⟩
        · simp only [List.cons_append, List.append_assoc, writeBody_cons] at htext ⊢
          rw [htext]
        · rw [contents_cons, contents_cons, hcontents]

/-! ## In a phrase -/

/-- A companion with such blanks in it or after it is a companion with the same content. -/
theorem Companion.exists_relaid {keyword : Keyword} {companion : Companion keyword}
    {rest front blanks after : List Char} (hrest : companion.EndsBefore rest)
    (h : Idle front blanks after) (heq : companion.write ++ rest = front ++ after) :
    ∃ (companion' : Companion keyword) (rest' : List Char),
      front ++ (blanks ++ after) = companion'.write ++ rest' ∧ companion'.EndsBefore rest' ∧
      companion'.content = companion.content ∧ Relaid rest rest' := by
  cases companion with
  | name word hword =>
    -- A name may be ended by one of the blanks.
    obtain ⟨more, rfl, rfl, hmore⟩ := h.past hword.isLine heq
    exact ⟨.name word hword, more ++ (blanks ++ after), List.append_assoc _ _ _,
      AtBlank.insert hrest hmore.isGap, rfl, .insert hmore⟩
  | line text hline hsolid hbar =>
    obtain ⟨more, rfl, rfl, hmore⟩ := h.past hline heq
    cases more with
    | nil =>
      -- The blanks are at the end of the prompt, where they are dropped.
      obtain ⟨hblanks, hend⟩ := hmore.of_nil
      have htrim := Text.trimEnd_append_gap text hblanks.isGap
      exact ⟨.line (text ++ blanks) (hline.append hblanks.isLine) (hsolid.append blanks)
        (htrim ▸ hbar), after, by simp [write], hend, htrim, .same after⟩
    | cons c more =>
      exact ⟨.line text hline hsolid hbar, _, List.append_assoc _ _ _, hrest, rfl, .insert hmore⟩
  | block trailing body htrailing hcontent =>
    rw [write, ← List.cons_append, List.append_assoc] at heq
    obtain ⟨more, rfl, hbody, hmore⟩ := h.past htrailing.isLine_bar heq
    by_cases hfirst : more = []
    · -- The blanks are after the bar.
      subst hfirst
      obtain ⟨hblanks, -⟩ := hmore.of_nil
      obtain rfl : writeBody body ++ rest = after := hbody
      exact ⟨.block (trailing ++ blanks) body (htrailing.append hblanks) hcontent, rest,
        by simp [write], hrest, rfl, .same rest⟩
    · obtain ⟨body', rest', htext, hcontents, hends, -, hrelaid⟩ :=
        hmore.exists_body hfirst hrest hbody
      -- The message is the same, so it is still more than empty lines.
      have hcontent' : ∃ line ∈ body', line.HasContent := by
        by_contra hempty
        push Not at hempty
        rw [← all_isEmpty_contents_iff, hcontents, all_isEmpty_contents_iff] at hempty
        obtain ⟨line, hmem, hline⟩ := hcontent
        exact hempty line hmem hline
      refine ⟨.block trailing body' htrailing hcontent', rest', ?_, hends, ?_, hrelaid⟩
      · rw [List.append_assoc, htext]
        simp [write]
      · exact congrArg (['\n'].intercalate ·) hcontents

/-- **A phrase with blanks that mean nothing in it or after it is a phrase for the same
command.** -/
theorem Phrase.exists_relaid {phrase : Phrase} {rest front blanks after : List Char}
    (hrest : phrase.EndsBefore rest) (h : Idle front blanks after)
    (heq : phrase.write ++ rest = front ++ after) :
    ∃ (phrase' : Phrase) (rest' : List Char),
      front ++ (blanks ++ after) = phrase'.write ++ rest' ∧ phrase'.EndsBefore rest' ∧
      phrase'.command = phrase.command ∧ Relaid rest rest' := by
  obtain ⟨keyword, spelling, padding, hpadding, companion⟩ := phrase
  have hopening : IsLine (spelling.letters ++ padding) :=
    spelling.isWord.isLine.append hpadding.2.isLine
  rw [write, ← List.append_assoc, List.append_assoc] at heq
  obtain ⟨more, rfl, hcompanion, hmore⟩ := h.past hopening heq
  obtain ⟨companion', rest', htext, hends, hcontent, hrelaid⟩ :=
    Companion.exists_relaid hrest hmore hcompanion
  refine ⟨⟨keyword, spelling, padding, hpadding, companion'⟩, rest', ?_, hends, ?_, hrelaid⟩
  · rw [List.append_assoc, htext]
    simp only [write, List.append_assoc]
  · rw [command_eq, command_eq, hcontent]

/-! ## In a fault -/

/-- What stands in place of a companion lacks the same with such blanks in it, which may go to the
blanks after the keyword. -/
theorem Lack.exists_relaid {keyword : Keyword} {lack : Lack keyword}
    {front blanks after : List Char} (h : Idle front blanks after)
    (heq : lack.write = front ++ after) :
    ∃ (padding : List Char) (lack' : Lack keyword), IsPadding padding ∧
      front ++ (blanks ++ after) = padding ++ lack'.write ∧
      ∀ place, (lack'.error place).unplaced = (lack.error place).unplaced := by
  by_cases hfirst : front = []
  · subst hfirst
    exact ⟨blanks, lack, h.of_nil.1, by rw [heq]; rfl, fun _ => rfl⟩
  · cases lack with
    | bare => exact absurd (List.append_eq_nil_iff.mp heq.symm).1 hfirst
    | misplaced gap rest hgap hsolid =>
      -- Whatever comes after the line feed is on another line.
      obtain ⟨c, front, rfl⟩ := List.exists_cons_of_ne_nil hfirst
      obtain ⟨rfl, -⟩ := List.cons.inj heq
      obtain ⟨gap', rest', htext, hgap', hsolid'⟩ := exists_gap (front ++ (blanks ++ after))
      refine ⟨[], .misplaced gap' rest' hgap' hsolid', by decide, ?_, fun place => ?_⟩
      · rw [write, ← htext]
        rfl
      · cases keyword <;> rfl
    | hollow trailing body rest htrailing hempty hended =>
      rw [write, ← List.cons_append] at heq
      obtain ⟨more, rfl, hbody, hmore⟩ := h.past htrailing.isLine_bar heq
      by_cases hnext : more = []
      · subst hnext
        obtain ⟨hblanks, -⟩ := hmore.of_nil
        obtain rfl : writeBody body ++ rest = after := hbody
        refine ⟨[], .hollow (trailing ++ blanks) body rest (htrailing.append hblanks) hempty hended,
          by decide, by simp [write], fun place => ?_⟩
        cases rest <;> rfl
      · obtain ⟨body', rest', htext, hcontents, hends, hnil, -⟩ :=
          hmore.exists_body hnext hended hbody
        have hempty' : ∀ line ∈ body', ¬ line.HasContent := by
          rw [← all_isEmpty_contents_iff, hcontents, all_isEmpty_contents_iff]
          exact hempty
        refine ⟨[], .hollow trailing body' rest' htrailing hempty' hends, by decide, ?_,
          fun place => ?_⟩
        · rw [List.append_assoc, htext]
          simp [write]
        · -- Both blocks run to the end of the text, or none does.
          cases rest with
          | nil =>
            obtain rfl := hnil.mpr rfl
            rfl
          | cons c tail =>
            obtain ⟨d, tail', rfl⟩ :=
              List.exists_cons_of_ne_nil (mt hnil.mp (List.cons_ne_nil c tail))
            rfl

/-- **A fault with blanks that mean nothing in it is the same fault.** -/
theorem Fault.exists_relaid {fault : Fault} {front blanks after : List Char}
    (h : Idle front blanks after) (heq : fault.write = front ++ after) :
    ∃ fault' : Fault, front ++ (blanks ++ after) = fault'.write ∧
      ∀ start, (fault'.error start).unplaced = (fault.error start).unplaced := by
  -- Blanks go in where a line begins or ends, so the word and its padding stand before them.
  cases fault with
  | unknown word rest hword hforeign hended =>
    obtain ⟨more, rfl, rfl, hmore⟩ := h.past hword.isLine heq
    exact ⟨.unknown word (more ++ (blanks ++ after)) hword hforeign (hended.insert hmore.isGap),
      List.append_assoc _ _ _, fun _ => rfl⟩
  | lacking keyword spelling padding lack hpadding hended =>
    rw [write, ← List.append_assoc] at heq
    obtain ⟨more, rfl, hlack, hmore⟩ :=
      h.past (spelling.isWord.isLine.append hpadding.isLine) heq
    obtain ⟨padding', lack', hpadding', htext, herror⟩ := Lack.exists_relaid hmore hlack
    have hended' : AtBlank (padding ++ padding' ++ lack'.write) := by
      rw [hlack, ← List.append_assoc] at hended
      rw [List.append_assoc, ← htext, ← List.append_assoc]
      exact hended.insert hmore.isGap
    refine ⟨.lacking keyword spelling (padding ++ padding') lack' (hpadding.append hpadding')
      hended', ?_, fun start => ?_⟩
    · rw [List.append_assoc, htext]
      simp only [write, List.append_assoc]
    · rw [error, error, herror]
      exact lack.unplaced_error _ _

/-! ## In a text -/

theorem Closing.exists_relaid {closing : Closing} {front blanks after : List Char}
    (h : Idle front blanks after) (heq : closing.write = front ++ after) :
    ∃ closing' : Closing, front ++ (blanks ++ after) = closing'.write ∧
      ∀ start start', (closing'.error? start).map ParseError.unplaced =
        (closing.error? start').map ParseError.unplaced := by
  cases closing with
  | clean gap hgap =>
    obtain rfl : gap = front ++ after := heq
    obtain ⟨hfront, hafter⟩ := isGap_append.mp hgap
    exact ⟨.clean (front ++ (blanks ++ after)) (isGap_append.mpr
      ⟨hfront, isGap_append.mpr ⟨h.isGap, hafter⟩⟩), rfl, fun _ _ => rfl⟩
  | faulty gap hgap fault =>
    rcases h.gap hgap heq with ⟨gap', htext, hgap'⟩ | ⟨more, rfl, hfault, hmore⟩
    · exact ⟨.faulty gap' hgap' fault, htext,
        fun _ _ => congrArg some (fault.unplaced_error _ _)⟩
    · obtain ⟨fault', htext, herror⟩ := Fault.exists_relaid hmore hfault
      refine ⟨.faulty gap hgap fault', ?_, fun _ _ => congrArg some ?_⟩
      · rw [List.append_assoc, htext, write]
      · exact (herror _).trans (fault.unplaced_error _ _)

/-- **A text with blanks in it that mean nothing yields the same commands**, and the same error but
for its place. -/
theorem Opens.exists_relaid {text text' : List Char} {steps : List Step} {closing : Closing}
    (hopens : Opens text steps closing.write) (hrelaid : Relaid text text') :
    ∃ error?, Yields text' (commandsOfSteps steps) error? ∧
      ∀ start start', (error? start).map ParseError.unplaced =
        (closing.error? start').map ParseError.unplaced := by
  -- On the steps of the text: the blanks are in the first one, or in the text after it.
  induction steps generalizing text text' with
  | nil =>
    obtain rfl : text = closing.write := hopens
    generalize htext : closing.write = text at hrelaid
    cases hrelaid with
    | same => exact ⟨_, htext ▸ yields_closing closing, closing.unplaced_error?⟩
    | insert hidle =>
      obtain ⟨closing', htext', herror⟩ := Closing.exists_relaid hidle htext
      exact ⟨_, htext' ▸ yields_closing closing', herror⟩
  | cons step steps ih =>
    obtain ⟨tail, htext, hends, hopens⟩ := hopens
    obtain ⟨gap, hgap, phrase⟩ := step
    rw [Step.write, List.append_assoc] at htext
    cases hrelaid with
    | same =>
      obtain ⟨error?, hyields, herror⟩ := ih hopens (.same tail)
      exact ⟨_, htext ▸ (hyields.phrase hends).gap hgap, fun _ => herror _⟩
    | insert hidle =>
      rcases hidle.gap hgap htext.symm with ⟨gap', htext', hgap'⟩ | ⟨more, rfl, hmore, hidle⟩
      · obtain ⟨error?, hyields, herror⟩ := ih hopens (.same tail)
        exact ⟨_, htext' ▸ (hyields.phrase hends).gap hgap', fun _ => herror _⟩
      · obtain ⟨phrase', tail', htext', hends', hcommand, hrelaid⟩ :=
          Phrase.exists_relaid hends hidle hmore
        obtain ⟨error?, hyields, herror⟩ := ih hopens hrelaid
        have hall := (hyields.phrase hends').gap hgap
        rw [hcommand, ← htext', ← List.append_assoc] at hall
        exact ⟨_, hall, fun _ => herror _⟩

/-- An empty line, and blanks at the end of a line that has something else on it, mean nothing. -/
theorem Reformats.yields {text text' : List Char} (h : Reformats text text') {steps : List Step}
    {closing : Closing} (hopens : Opens text steps closing.write) :
    ∃ error?, Yields text' (commandsOfSteps steps) error? ∧
      ∀ start start', (error? start).map ParseError.unplaced =
        (closing.error? start').map ParseError.unplaced := by
  cases h with
  | @emptyLine before after hstart =>
    rcases List.eq_nil_or_concat before with rfl | ⟨lines, c, rfl⟩
    · -- At the start of the text the line feed is a gap.
      have hyields : Yields after _ _ := ⟨steps, closing, hopens, rfl, rfl⟩
      have hall := hyields.gap (show IsGap ['\n'] by decide)
      exact ⟨_, hall, fun _ => closing.unplaced_error? _⟩
    · rw [List.concat_eq_append] at hstart hopens ⊢
      obtain rfl : c = '\n' := hstart c (by rw [List.getLast?_concat]; rfl)
      exact hopens.exists_relaid (.insert (.emptyLine rfl rfl))
  | @trailing before line blanks after hstart hline hsolid hblanks hend =>
    rw [← List.append_assoc] at hopens ⊢
    refine hopens.exists_relaid (.insert (.trailing hblanks hend fun lines rest heq => ?_))
    -- A line feed before the blanks is before the line, so all of the line comes after it.
    rcases List.append_eq_append_iff.mp heq with ⟨more, -, hwithin⟩ | ⟨more, -, hrest⟩
    · exact absurd rfl (hline '\n' (by simp [hwithin]))
    · cases more with
      | nil =>
        obtain rfl : '\n' :: rest = line := hrest
        exact absurd rfl (hline '\n' List.mem_cons_self)
      | cons c more =>
        obtain ⟨c, hc, hsolid⟩ := hsolid
        obtain ⟨-, rfl⟩ := List.cons.inj hrest
        exact ⟨c, List.mem_append_right more hc, hsolid⟩

/-- **An empty line means nothing, and neither do blanks at the end of a line that has something
else on it.** With them a text has the same commands, and the same error but for its place, or none
in both cases. -/
theorem layout_insignificant {text text' : String} (h : Reformats text.toList text'.toList) :
    (commandsOf text').1 = (commandsOf text).1 ∧
      (commandsOf text').2.map ParseError.unplaced =
        (commandsOf text).2.map ParseError.unplaced := by
  obtain ⟨steps, closing, hopens⟩ := exists_opens text.toList
  obtain ⟨error?, hyields, herror⟩ := h.yields hopens
  rw [commandsOf_of_opens hopens, commandsOf_of_yields hyields]
  exact ⟨rfl, herror _ _⟩

/-- An empty line in the middle of a block, before a word that is no keyword. -/
theorem layout_insignificant_block :
    commandsOf "ASK |\n    a\n    b\n oops" =
        ([.say ⟨.user, "a\nb"⟩], some (.lexical (.unknownToken "oops" ⟨4, 2⟩))) ∧
      (commandsOf "ASK |\n    a\n\n    b\n oops").1 = [.say ⟨.user, "a\nb"⟩] ∧
      (commandsOf "ASK |\n    a\n\n    b\n oops").2.map ParseError.unplaced =
        some (.lexical (.unknownToken "oops" .start)) := by
  have hscan : commandsOf "ASK |\n    a\n    b\n oops" =
      ([.say ⟨.user, "a\nb"⟩], some (.lexical (.unknownToken "oops" ⟨4, 2⟩))) := by
    decide +kernel
  have hstart : ∀ c ∈ "ASK |\n    a\n".toList.getLast?, c = '\n' := by
    rintro c ⟨⟩
    rfl
  have hreformats : Reformats "ASK |\n    a\n    b\n oops".toList
      "ASK |\n    a\n\n    b\n oops".toList := .emptyLine "    b\n oops".toList hstart
  obtain ⟨hcommands, herror⟩ := layout_insignificant hreformats
  rw [hcommands, herror, hscan]
  exact ⟨rfl, rfl, rfl⟩

end Dialogue
