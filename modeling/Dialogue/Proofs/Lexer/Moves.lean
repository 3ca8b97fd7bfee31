import Dialogue.Proofs.Grammar.Phrase

/-!
# Moves of the lexer

What one move of the lexer can come to, whatever the source delivers: characters, ends of the input
that are none, and failures, in any order. A move hands out a token, or finds the input at an end,
or stops the lexer for good. In each case the characters it has taken are those among the signals
it has passed, and these are all that counts for the position.

Everything that holds of the lexer over all sources follows from this one list of cases.

## Main definitions

* `charsOf signals`, `Passes signals taken rest`: the characters among signals, and the characters
  on the way from `signals` to `rest`
* `Token.SpelledBy source`: what a token is read from
* `Expecting.Answers`: the kind of token that answers what is expected, and what is expected then
* `Lexer.Advances lexer outcome`: what a move can come to
* `Lexer.after`, `Lexer.handedOut`: the lexer after some moves, and the tokens they have handed out

## Main results

* `passes_span`, `passes_readBlock`: the readers take the characters they pass
* `Lexer.advances`: a move comes to one of the cases
* `Lexer.passes_after`: the position is that of the characters passed so far
-/

namespace Dialogue

open Text (isBlank trimEnd upper)

/-! ## The characters among signals -/

/-- The characters among some signals. -/
def charsOf (signals : List (Signal Char)) : List Char :=
  signals.filterMap fun
    | .item c => some c
    | .ended => none
    | .failed _ => none

@[simp] theorem charsOf_nil : charsOf [] = [] := rfl

@[simp] theorem charsOf_item (c : Char) (signals : List (Signal Char)) :
    charsOf (.item c :: signals) = c :: charsOf signals := rfl

@[simp] theorem charsOf_ended (signals : List (Signal Char)) :
    charsOf (.ended :: signals) = charsOf signals := rfl

@[simp] theorem charsOf_failed (error : ReadError) (signals : List (Signal Char)) :
    charsOf (.failed error :: signals) = charsOf signals := rfl

@[simp] theorem charsOf_append (first second : List (Signal Char)) :
    charsOf (first ++ second) = charsOf first ++ charsOf second :=
  List.filterMap_append

@[simp] theorem charsOf_items (text : List Char) : charsOf (text.map .item) = text := by
  induction text with
  | nil => rfl
  | cons c text ih => rw [List.map_cons, charsOf_item, ih]

/-- A reader has come from `signals` to `rest`, and `taken` are the characters on the way. -/
def Passes (signals : List (Signal Char)) (taken : List Char) (rest : List (Signal Char)) : Prop :=
  ∃ passed, signals = passed ++ rest ∧ charsOf passed = taken

namespace Passes

variable {signals middle rest : List (Signal Char)} {first second : List Char}

theorem refl (signals : List (Signal Char)) : Passes signals [] signals :=
  ⟨[], rfl, rfl⟩

theorem trans (h : Passes signals first middle) (h' : Passes middle second rest) :
    Passes signals (first ++ second) rest := by
  obtain ⟨passed, rfl, rfl⟩ := h
  obtain ⟨passed', rfl, rfl⟩ := h'
  exact ⟨passed ++ passed', by rw [List.append_assoc], charsOf_append _ _⟩

/-- One more character before the others. -/
theorem cons (h : Passes signals first rest) (c : Char) :
    Passes (.item c :: signals) (c :: first) rest := by
  obtain ⟨passed, rfl, rfl⟩ := h
  exact ⟨.item c :: passed, rfl, rfl⟩

theorem items (text : List Char) (rest : List (Signal Char)) :
    Passes (text.map .item ++ rest) text rest :=
  ⟨_, rfl, charsOf_items text⟩

/-- An end of the input after the characters is passed with them, if it is not the last. -/
theorem of_ended {text : List Char} (h : (signals = text.map .item ∧ rest = []) ∨
    signals = text.map .item ++ .ended :: rest) : Passes signals text rest := by
  rcases h with ⟨rfl, rfl⟩ | rfl
  · exact ⟨_, (List.append_nil _).symm, charsOf_items text⟩
  · exact ⟨text.map .item ++ [.ended], by simp, by simp⟩

/-- Among the signals of a text there is nothing but its characters. -/
theorem exists_append {text : List Char} (h : Passes (text.map .item) first rest) :
    ∃ more, text = first ++ more ∧ rest = more.map .item := by
  obtain ⟨passed, heq, rfl⟩ := h
  obtain ⟨run, more, rfl, rfl, rfl⟩ := List.map_eq_append_iff.mp heq
  exact ⟨more, by rw [charsOf_items], rfl⟩

end Passes

/-! ## Runs, margins and blocks -/

/-- What a run has gone over: the characters it has taken, and the signal that stopped it unless
this was a character. -/
def Span.Covers (run : Span) (signals : List (Signal Char)) : Prop :=
  match run.halt with
  | .refused => signals = run.taken.map .item ++ run.rest
  | .ended => (signals = run.taken.map .item ∧ run.rest = []) ∨
      signals = run.taken.map .item ++ .ended :: run.rest
  | .failed error => signals = run.taken.map .item ++ .failed error :: run.rest

theorem span_covers (accept : Char → Bool) (signals : List (Signal Char)) :
    (span accept signals).Covers signals := by
  induction signals with
  | nil => exact Or.inl ⟨rfl, rfl⟩
  | cons signal rest ih =>
    cases signal with
    | ended => exact Or.inr rfl
    | failed error => exact rfl
    | item c =>
      cases hc : accept c with
      | false =>
        rw [span_of_refuse hc]
        exact rfl
      | true =>
        -- The run goes on, and stops where the run over the rest stops.
        rw [span_of_accept hc]
        unfold Span.Covers at ih ⊢
        dsimp only
        split at ih
        · exact congrArg _ ih
        · rcases ih with ⟨hsignals, hrest⟩ | hsignals
          · exact Or.inl ⟨congrArg _ hsignals, hrest⟩
          · exact Or.inr (congrArg _ hsignals)
        · exact congrArg _ ih

/-- All characters that a run takes are accepted. -/
theorem span_accepts (accept : Char → Bool) (signals : List (Signal Char)) :
    ∀ c ∈ (span accept signals).taken, accept c = true := by
  induction signals with
  | nil => simp
  | cons signal rest ih =>
    cases signal with
    | ended => simp
    | failed error => simp
    | item c =>
      cases hc : accept c with
      | false => simp [span_of_refuse hc]
      | true =>
        rw [span_of_accept hc]
        exact List.forall_mem_cons.mpr ⟨hc, ih⟩

/-- A run takes the characters that it passes. -/
theorem passes_span (accept : Char → Bool) (signals : List (Signal Char)) :
    Passes signals (span accept signals).taken (span accept signals).rest := by
  have hcovers := span_covers accept signals
  unfold Span.Covers at hcovers
  split at hcovers
  · exact ⟨_, hcovers, charsOf_items _⟩
  · exact Passes.of_ended hcovers
  · exact ⟨_ ++ [.failed _], by simpa using hcovers, by simp⟩

/-- A run that takes a first character starts with it. -/
theorem span_taken_of_accept (accept : Char → Bool) {c : Char} {signals rest : List (Signal Char)}
    (hsignals : signals = .item c :: rest) (hc : accept c = true) :
    ∃ tail, (span accept signals).taken = c :: tail := by
  rw [hsignals, span_of_accept hc]
  exact ⟨_, rfl⟩

theorem passes_indentation (width : Nat) (signals : List (Signal Char)) :
    Passes signals (indentation width signals).taken (indentation width signals).rest := by
  induction signals generalizing width with
  | nil =>
    unfold indentation
    split <;> exact Passes.refl _
  | cons signal rest ih =>
    unfold indentation
    split
    · exact Passes.refl _
    · cases signal with
      | ended => exact ⟨[.ended], rfl, rfl⟩
      | failed error => exact ⟨[.failed error], rfl, rfl⟩
      | item c =>
        dsimp only
        split
        · exact (ih (widen width c)).cons c
        · exact Passes.refl _

theorem isGap_indentation (width : Nat) (signals : List (Signal Char)) :
    IsGap (indentation width signals).taken := by
  induction signals generalizing width with
  | nil =>
    unfold indentation
    split <;> exact isGap_nil
  | cons signal rest ih =>
    unfold indentation
    split
    · exact isGap_nil
    · cases signal with
      | ended => exact isGap_nil
      | failed error => exact isGap_nil
      | item c =>
        dsimp only
        split
        · exact isGap_cons.mpr ⟨‹_›, ih (widen width c)⟩
        · exact isGap_nil

/-- A block takes the characters that it passes. -/
theorem passes_readBlock (signals : List (Signal Char)) :
    Passes signals (readBlock signals).taken (readBlock signals).rest := by
  fun_induction readBlock signals with
  | case1 signals taken rest hindent | case2 signals taken rest hindent
  | case3 signals error taken rest hindent =>
    have hmargin := passes_indentation 0 signals
    rwa [hindent] at hmargin
  | case4 signals margin inner hindent text error rest hline =>
    have hmargin := passes_indentation 0 signals
    have htext := passes_span (· != '\n') inner
    rw [hindent] at hmargin
    rw [← restOfLine, hline] at htext
    exact hmargin.trans htext
  | case5 signals margin inner hindent text halt rest hread hline ih =>
    have hmargin := passes_indentation 0 signals
    have htext := passes_span (· != '\n') inner
    rw [hindent] at hmargin
    rw [← restOfLine, hline] at htext
    exact (hmargin.trans htext).trans ih

/-! ## What a token is read from -/

/-- The characters of a text that are no blanks. -/
def solids (text : List Char) : List Char :=
  text.filter (!isBlank ·)

@[simp] theorem solids_append (first second : List Char) :
    solids (first ++ second) = solids first ++ solids second :=
  List.filter_append ..

theorem solids_of_isGap {text : List Char} (h : IsGap text) : solids text = [] :=
  List.filter_eq_nil_iff.mpr fun c hc => by simp [h c hc]

@[simp] theorem solids_trimEnd (text : List Char) : solids (trimEnd text) = solids text := by
  obtain ⟨blanks, htext, hblanks⟩ := Text.exists_append_gap text
  conv_rhs => rw [htext, solids_append, solids_of_isGap hblanks, List.append_nil]

/-- Line feeds between lines are blanks. -/
theorem solids_intercalate (lines : List (List Char)) :
    solids (['\n'].intercalate lines) = lines.flatMap solids := by
  induction lines with
  | nil => rfl
  | cons line lines ih =>
    cases lines with
    | nil => simp [List.intercalate]
    | cons next lines =>
      have hbreak : solids ['\n'] = [] := rfl
      rw [List.intercalate_cons_cons, solids_append, solids_append, ih, hbreak, List.append_nil,
        ← List.flatMap_cons]

/-- The lines of a block that could be read hold all that it has taken, but for blanks. -/
theorem solids_readBlock (signals : List (Signal Char))
    (hread : ∀ error, (readBlock signals).halt ≠ .failed error) :
    solids (readBlock signals).taken = (readBlock signals).lines.flatMap solids := by
  fun_induction readBlock signals with
  | case1 signals taken rest hindent | case2 signals taken rest hindent =>
    have hmargin := isGap_indentation 0 signals
    rw [hindent] at hmargin
    exact solids_of_isGap hmargin
  | case3 signals error => exact absurd rfl (hread error)
  | case4 signals margin inner hindent text error => exact absurd rfl (hread error)
  | case5 signals margin inner hindent text halt rest hreadable hline ih =>
    have hmargin := isGap_indentation 0 signals
    rw [hindent] at hmargin
    rw [Block.addLine, solids_append, solids_append, solids_of_isGap hmargin, ih hread,
      List.flatMap_cons, solids_trimEnd, List.nil_append]

/-- The characters that a token is read from. Those of a keyword are the keyword in upper case;
those of a name are the name; a prompt is the rest of its line, or it has a bar before its lines,
which are all there but for blanks. -/
inductive Token.SpelledBy : Token → List Char → Prop
  | keyword {keyword : Keyword} {position : Position} {source : List Char}
      (spells : upper source = keyword.word.toList) :
      SpelledBy ⟨.keyword keyword, keyword.word, position⟩ source
  | model {position : Position} {source : List Char} (isWord : IsWord source) :
      SpelledBy ⟨.model, String.ofList source, position⟩ source
  | line {position : Position} {source : List Char} (isLine : IsLine source)
      (noBar : trimEnd source ≠ ['|']) :
      SpelledBy ⟨.prompt, String.ofList (trimEnd source), position⟩ source
  | block {position : Position} {lines : List Char} {message : String}
      (holds : solids lines = solids message.toList) :
      SpelledBy ⟨.prompt, message, position⟩ ('|' :: lines)

theorem Token.SpelledBy.spells {token : Token} {source : List Char} {keyword : Keyword}
    (h : token.SpelledBy source) (hkind : token.kind = .keyword keyword) :
    upper source = keyword.word.toList := by
  cases h with
  | keyword hspells =>
    cases hkind
    exact hspells
  | model => cases hkind
  | line => cases hkind
  | block => cases hkind

/-- A keyword is spelled within a line. -/
theorem Token.SpelledBy.isLine_of_keyword {token : Token} {source : List Char} {keyword : Keyword}
    (h : token.SpelledBy source) (hkind : token.kind = .keyword keyword) : IsLine source := by
  intro c hc
  exact ne_newline_of_solid ((Keyword.isWord_of_upper (h.spells hkind)).2 c hc)

/-- The kind of token that answers what is expected, and what is expected after it. -/
inductive Expecting.Answers : Expecting → Token.Kind → Expecting → Prop
  | keyword (keyword : Keyword) : Answers .keyword (.keyword keyword) keyword.expecting
  | model : Answers .model .model .keyword
  | prompt : Answers .prompt .prompt .keyword

theorem Expecting.Answers.of_keyword {kind : Token.Kind} {next : Expecting}
    (h : Answers .keyword kind next) :
    ∃ keyword : Keyword, kind = .keyword keyword ∧ next = keyword.expecting := by
  cases h with
  | keyword keyword => exact ⟨keyword, rfl, rfl⟩

theorem Expecting.Answers.of_companion {keyword : Keyword} {kind : Token.Kind} {next : Expecting}
    (h : Answers keyword.expecting kind next) : kind = keyword.companion ∧ next = .keyword := by
  cases keyword with
  | selectModel => cases h; exact ⟨rfl, rfl⟩
  | speak role => cases h; exact ⟨rfl, rfl⟩

namespace Lexer

/-! ## What a move comes to -/

/-- What reading what is expected comes to: a token that starts where the lexer is, or a stop. -/
inductive Reads (lexer : Lexer) : Bool × Lexer → Prop
  | token {source : List Char} {rest : List (Signal Char)} {token : Token} {next : Expecting}
      (passes : Passes lexer.signals source rest) (startsSolid : StartsSolid source)
      (spelled : token.SpelledBy source) (position_eq : token.position = lexer.position)
      (answers : lexer.expecting.Answers token.kind next) :
      Reads lexer ((lexer.consume source rest).emit token next)
  | stop {taken : List Char} {rest : List (Signal Char)} {error : LexError} {start : Position}
      (passes : Passes lexer.signals taken rest) :
      Reads lexer ((lexer.consume taken rest).fail error start)

/-- What a move comes to. -/
inductive Advances (lexer : Lexer) : Bool × Lexer → Prop
  /-- The lexer has stopped on an error before, and stays where it is. -/
  | stuck {error : LexError} (stopped : lexer.error = some error) : Advances lexer (false, lexer)
  /-- A token after blanks. A companion is on the line where the lexer was. -/
  | token {blanks source : List Char} {signals rest : List (Signal Char)} {token : Token}
      {next : Expecting} (running : lexer.error = none) (isGap : IsGap blanks)
      (signals_eq : lexer.signals = blanks.map .item ++ signals)
      (passes : Passes signals source rest) (startsSolid : StartsSolid source)
      (spelled : token.SpelledBy source)
      (position_eq : token.position = lexer.position.after blanks)
      (answers : lexer.expecting.Answers token.kind next)
      (inLine : lexer.expecting = .keyword ∨ IsLine blanks) :
      Advances lexer ((lexer.consume (blanks ++ source) rest).emit token next)
  /-- The end of the input after blanks: for good, or one that is reported once. -/
  | ended {blanks : List Char} {rest : List (Signal Char)} (running : lexer.error = none)
      (isGap : IsGap blanks)
      (covers : (lexer.signals = blanks.map .item ∧ rest = []) ∨
        lexer.signals = blanks.map .item ++ .ended :: rest)
      (inLine : lexer.expecting = .keyword ∨ IsLine blanks) :
      Advances lexer (false,
        { lexer.consume blanks rest with current := .endOfInput (lexer.position.after blanks) })
  /-- An error on which the lexer stops. -/
  | stop {taken : List Char} {rest : List (Signal Char)} {error : LexError} {start : Position}
      (running : lexer.error = none) (passes : Passes lexer.signals taken rest) :
      Advances lexer ((lexer.consume taken rest).fail error start)

variable {lexer moved : Lexer} {c : Char} {rest : List (Signal Char)}

@[simp] theorem consume_consume (lexer : Lexer) (first second : List Char)
    (middle rest : List (Signal Char)) :
    (lexer.consume first middle).consume second rest = lexer.consume (first ++ second) rest := by
  simp only [consume, Position.after_append]

theorem isWord_word_taken (hsignals : lexer.signals = .item c :: rest) (hc : isBlank c = false) :
    IsWord (word lexer.signals).taken := by
  obtain ⟨tail, htaken⟩ := span_taken_of_accept (!isBlank ·) hsignals (by simp [hc])
  constructor
  · rw [word, htaken]
    exact List.cons_ne_nil c tail
  · intro d hd
    simpa using span_accepts (!isBlank ·) lexer.signals d hd

theorem reads_readKeyword (hsignals : lexer.signals = .item c :: rest) (hc : isBlank c = false)
    (hexpecting : lexer.expecting = .keyword) : Reads lexer lexer.readKeyword := by
  have hpasses := passes_span (!isBlank ·) lexer.signals
  rw [← word] at hpasses
  unfold readKeyword
  dsimp only
  split
  · exact .stop hpasses
  · split
    · rename_i keyword hkeyword
      have hspells : upper (word lexer.signals).taken = keyword.word.toList := by
        rw [← Keyword.ofWord?_eq_some_iff.mp hkeyword, String.toList_ofList]
      exact .token hpasses (isWord_word_taken hsignals hc).startsSolid (.keyword hspells) rfl
        (hexpecting ▸ .keyword keyword)
    · exact .stop hpasses

theorem reads_readModel (hsignals : lexer.signals = .item c :: rest) (hc : isBlank c = false)
    (hexpecting : lexer.expecting = .model) : Reads lexer lexer.readModel := by
  have hpasses := passes_span (!isBlank ·) lexer.signals
  have hword := isWord_word_taken hsignals hc
  rw [← word] at hpasses
  unfold readModel
  dsimp only
  split
  · exact .stop hpasses
  · exact .token hpasses hword.startsSolid (.model hword) rfl (hexpecting ▸ .model)

/-- A block after its bar, if it can be read and has content, is a prompt that starts with the
bar. -/
theorem reads_readBlockPrompt {lexer : Lexer} {trailing : List Char} {inner : List (Signal Char)}
    (hpasses : Passes lexer.signals ('|' :: trailing) inner) (htrailing : IsGap trailing)
    (hexpecting : lexer.expecting = .prompt) :
    Reads lexer ((lexer.consume ('|' :: trailing) inner).readBlockPrompt lexer.position) := by
  have hblock := hpasses.trans (passes_readBlock inner)
  have hsolids := solids_readBlock inner
  -- Both ends of a block that has content hand out the same token.
  have htoken : (∀ error, (readBlock inner).halt ≠ .failed error) →
      Reads lexer ((lexer.consume ('|' :: trailing ++ (readBlock inner).taken)
        (readBlock inner).rest).emit
          ⟨.prompt, String.ofList (readBlock inner).message, lexer.position⟩ .keyword) := by
    intro hread
    have hholds : solids (trailing ++ (readBlock inner).taken) =
        solids (String.ofList (readBlock inner).message).toList := by
      rw [solids_append, solids_of_isGap htrailing, List.nil_append, hsolids hread,
        String.toList_ofList, Block.message, solids_intercalate]
    exact .token hblock ⟨'|', _, rfl, rfl⟩ (.block hholds) rfl (hexpecting ▸ .prompt)
  unfold readBlockPrompt
  simp only [signals_consume, consume_consume]
  split
  · exact .stop hblock
  · rename_i hhalt
    split
    · exact .stop hblock
    · exact htoken fun error => by simp [hhalt]
  · rename_i hhalt
    split
    · exact .stop hblock
    · exact htoken fun error => by simp [hhalt]

theorem reads_readPrompt (hsignals : lexer.signals = .item c :: rest) (hc : isBlank c = false)
    (hexpecting : lexer.expecting = .prompt) : Reads lexer lexer.readPrompt := by
  have hpasses := passes_span (· != '\n') lexer.signals
  have hline : IsLine (restOfLine lexer.signals).taken := fun d hd => by
    simpa using span_accepts (· != '\n') lexer.signals d hd
  obtain ⟨tail, htaken⟩ := span_taken_of_accept (· != '\n') hsignals
    (by simpa using ne_newline_of_solid hc)
  rw [← restOfLine] at hpasses htaken
  unfold readPrompt
  dsimp only
  split
  · exact .stop hpasses
  · split
    · exact .stop hpasses
    · -- A lone bar.
      rename_i hbar
      obtain ⟨trailing, hsource, htrailing⟩ := Text.trimEnd_eq_bar_iff.mp hbar
      rw [hsource] at hpasses ⊢
      exact reads_readBlockPrompt hpasses htrailing hexpecting
    · rename_i hbar
      exact .token hpasses ⟨c, tail, htaken, hc⟩ (.line hline hbar) rfl (hexpecting ▸ .prompt)

/-- What is expected is read as a token, or stops the lexer. -/
theorem reads_readExpected (hsignals : lexer.signals = .item c :: rest)
    (hc : isBlank c = false) : Reads lexer lexer.readExpected := by
  unfold readExpected
  split
  · exact reads_readKeyword hsignals hc ‹_›
  · exact reads_readModel hsignals hc ‹_›
  · exact reads_readPrompt hsignals hc ‹_›

/-- What starts in the right place is a keyword, or on the line where the lexer was. -/
theorem inLine_of_misplaced? {blanks : List Char}
    (h : lexer.misplaced? (lexer.position.after blanks) = none) :
    lexer.expecting = .keyword ∨ IsLine blanks := by
  unfold misplaced? at h
  split at h
  · exact Or.inr ((Position.line_after_eq_iff _ _).mp ‹_›)
  · split at h
    · exact Or.inl ‹_›
    · cases h
    · cases h

/-- **A move comes to one of the cases.** -/
theorem advances (lexer : Lexer) : Advances lexer lexer.advance := by
  have hpasses := passes_span isBlank lexer.signals
  have hcovers := span_covers isBlank lexer.signals
  have hgap : IsGap (gap lexer.signals).taken := span_accepts isBlank lexer.signals
  rw [← gap] at hpasses hcovers
  unfold Span.Covers at hcovers
  unfold advance
  split
  · exact .stuck ‹_›
  · rename_i hrunning
    dsimp only
    split
    · exact .stop hrunning hpasses
    · rename_i hhalt
      rw [hhalt] at hcovers
      split
      · exact .stop hrunning hpasses
      · exact .ended hrunning hgap hcovers (inLine_of_misplaced? ‹_›)
    · rename_i hhalt
      rw [hhalt] at hcovers
      obtain ⟨c, tail, hc, hrest⟩ := span_rest_of_refused hhalt
      rw [← gap] at hrest
      split
      · exact .stop hrunning hpasses
      · rename_i hplace
        have hinLine := inLine_of_misplaced? hplace
        -- The blanks and what is read after them are one move.
        have hreads : Reads (lexer.consume (gap lexer.signals).taken (gap lexer.signals).rest)
            (lexer.consume (gap lexer.signals).taken (gap lexer.signals).rest).readExpected :=
          reads_readExpected hrest hc
        generalize Lexer.readExpected _ = outcome at hreads ⊢
        cases hreads with
        | token hsource hsolid hspelled hposition hanswers =>
          rw [consume_consume]
          exact .token hrunning hgap hcovers hsource hsolid hspelled hposition hanswers hinLine
        | stop htaken =>
          rw [consume_consume]
          exact .stop hrunning (hpasses.trans htaken)

/-- A move takes the characters that it passes, and its position moves on by these. -/
theorem passes_advance (lexer : Lexer) : ∃ taken,
    Passes lexer.signals taken lexer.advance.2.signals ∧
      lexer.advance.2.position = lexer.position.after taken := by
  have hadvances := lexer.advances
  generalize lexer.advance = outcome at hadvances ⊢
  cases hadvances with
  | stuck => exact ⟨[], Passes.refl _, rfl⟩
  | @token blanks source signals rest token next _ _ hsignals hpasses =>
    refine ⟨blanks ++ source, ?_, rfl⟩
    rw [hsignals]
    exact (Passes.items blanks signals).trans hpasses
  | ended _ _ hcovers => exact ⟨_, Passes.of_ended hcovers, rfl⟩
  | stop _ hpasses => exact ⟨_, hpasses, rfl⟩

/-! ## Some moves in a row -/

/-- The lexer after some moves. -/
def after (lexer : Lexer) : Nat → Lexer
  | 0 => lexer
  | n + 1 => (lexer.after n).advance.2

/-- The tokens that some moves have handed out. -/
def handedOut (lexer : Lexer) : Nat → List Token
  | 0 => []
  | n + 1 =>
    if (lexer.after n).advance.1 then lexer.handedOut n ++ [(lexer.after (n + 1)).current]
    else lexer.handedOut n

theorem after_succ_of_advance {n : Nat} {more : Bool}
    (h : (lexer.after n).advance = (more, moved)) : lexer.after (n + 1) = moved := by
  rw [after, h]

theorem handedOut_of_token {n : Nat} (h : (lexer.after n).advance = (true, moved)) :
    lexer.handedOut (n + 1) = lexer.handedOut n ++ [moved.current] := by
  simp only [handedOut, after, h, if_true]

theorem handedOut_of_none {n : Nat} (h : (lexer.after n).advance = (false, moved)) :
    lexer.handedOut (n + 1) = lexer.handedOut n := by
  simp only [handedOut, h, Bool.false_eq_true, if_false]

/-- **The position is that of the characters passed so far**, after any number of moves. -/
theorem passes_after (lexer : Lexer) (n : Nat) : ∃ taken,
    Passes lexer.signals taken (lexer.after n).signals ∧
      (lexer.after n).position = lexer.position.after taken := by
  induction n with
  | zero => exact ⟨[], Passes.refl _, rfl⟩
  | succ n ih =>
    obtain ⟨taken, hpasses, hposition⟩ := ih
    obtain ⟨more, hmore, hnext⟩ := (lexer.after n).passes_advance
    refine ⟨taken ++ more, hpasses.trans hmore, ?_⟩
    rw [after, hnext, hposition, Position.after_append]

end Lexer

end Dialogue
