import Dialogue.Proofs.Command.Tokens
import Mathlib.Data.List.Forall2

/-!
# Lexemes

On its way the lexer drops characters: the blanks between tokens and at the end of a line, the
margins and the blank lines of a block, and the bar before it. Nothing else is lost. Each token
has a lexeme, which is spelled by its content, and the lexemes in order hold all characters of the
text that are no blanks, up to where the lexer has stopped.

## Main definitions

* `Token.HasLexeme token lexeme`: the lexeme is what the token stands for in its text

## Main results

* `Laid.exists_lexemes`: what tokens are read from is their lexemes, but for blanks
* `Lexer.advance_cases`: a move reads what is expected where the blanks have ended, or nothing
* `Lexer.exists_word_of_unknown`: an unknown token is the next word of the text
* `lexemes_hold_text`: the lexemes of a text hold all its characters that are no blanks, up to where
  its tokens stop
-/

namespace Dialogue

open Text (isBlank trimEnd upper)

/-- What a token stands for in its text, but for blanks. A keyword is a word that is its content in
upper case, a name is its content, and a prompt is its content or, as a block, a bar and its
content. No other token is handed out. -/
def Token.HasLexeme (token : Token) (lexeme : List Char) : Prop :=
  match token.kind with
  | .keyword _ => IsWord lexeme ∧ upper lexeme = token.content.toList
  | .model => lexeme = token.content.toList
  | .prompt => lexeme = token.content.toList ∨ lexeme = '|' :: token.content.toList
  | .endOfInput | .unknown => False

/-- What a token is read from is its lexeme, but for blanks. -/
theorem Token.SpelledBy.exists_lexeme {token : Token} {source : List Char}
    (h : token.SpelledBy source) : ∃ lexeme, token.HasLexeme lexeme ∧
      solids lexeme = solids source := by
  cases h with
  | keyword hspells => exact ⟨source, ⟨Keyword.isWord_of_upper hspells, hspells⟩, rfl⟩
  | model => exact ⟨source, String.toList_ofList.symm, rfl⟩
  | line =>
    exact ⟨trimEnd source, Or.inl String.toList_ofList.symm, solids_trimEnd source⟩
  | @block position lines message hholds =>
    have hbar : ∀ text, solids ('|' :: text) = '|' :: solids text := fun _ => rfl
    exact ⟨'|' :: message.toList, Or.inr rfl, by rw [hbar, hbar, hholds]⟩

/-- **What tokens are read from is their lexemes**, but for blanks. -/
theorem Laid.exists_lexemes {tokens : List Token} {text : List Char} (h : Laid tokens text) :
    ∃ lexemes, List.Forall₂ Token.HasLexeme tokens lexemes ∧
      solids text = lexemes.flatMap solids := by
  induction h with
  | nil => exact ⟨[], .nil, rfl⟩
  | @concat tokens text blanks source token _ hblanks _ hspelled _ ih =>
    obtain ⟨lexemes, htokens, htext⟩ := ih
    obtain ⟨lexeme, htoken, hsource⟩ := hspelled.exists_lexeme
    refine ⟨lexemes ++ [lexeme], List.rel_append htokens (.cons htoken .nil), ?_⟩
    rw [solids_append, solids_append, htext, solids_of_isGap hblanks, List.flatMap_append,
      List.flatMap_singleton, hsource, List.nil_append]

namespace Lexer

variable {lexer stopped : Lexer} {text : List Char} {unknown : String} {position start : Position}

/-! ## Where the tokens of a text stop -/

/-- Without an error the tokens of a text stop at its end. -/
theorem isGap_of_end (hsignals : lexer.signals = text.map .item)
    (hadvance : lexer.advance = (false, stopped)) (herror : stopped.error = none) :
    IsGap text := by
  have hadvances := lexer.advances
  rw [hadvance] at hadvances
  cases hadvances with
  | stuck hstopped =>
    rw [hstopped] at herror
    cases herror
  | stop => cases herror
  | @ended blanks rest _ hblanks hcovers =>
    rw [hsignals] at hcovers
    rcases hcovers with ⟨hitems, -⟩ | hitems
    · have htext := congrArg charsOf hitems
      rw [charsOf_items, charsOf_items] at htext
      rwa [htext]
    · -- The signals of a text have no end among them.
      have hmem : Signal.ended ∈ text.map Signal.item := by simp [hitems]
      simp at hmem

/-- A move reads what is expected where the blanks have ended, or it hands out nothing: at an end of
the input, because the source has failed, or because what is expected is misplaced. -/
theorem advance_cases (hrunning : lexer.error = none) :
    (∃ blanks c rest, IsGap blanks ∧ isBlank c = false ∧
      Passes lexer.signals blanks (.item c :: rest) ∧
      lexer.advance = (lexer.consume blanks (.item c :: rest)).readExpected) ∨
    lexer.advance.1 = false ∧ (lexer.advance.2.error = none ∨
      (∃ error, lexer.advance.2.error = some (.unreadable error)) ∨
      ∃ start, lexer.advance.2.error = lexer.misplaced? start) := by
  have hpasses := passes_span isBlank lexer.signals
  have hgap : IsGap (gap lexer.signals).taken := span_accepts isBlank lexer.signals
  rw [← gap] at hpasses
  -- Only a gap that a solid character ends is behind the first case.
  unfold advance
  rw [hrunning]
  dsimp only
  split
  · exact Or.inr ⟨rfl, Or.inr (Or.inl ⟨_, rfl⟩)⟩
  · split
    · rename_i hplace
      exact Or.inr ⟨rfl, Or.inr (Or.inr ⟨_, hplace.symm⟩)⟩
    · exact Or.inr ⟨rfl, Or.inl hrunning⟩
  · rename_i hhalt
    split
    · rename_i hplace
      exact Or.inr ⟨rfl, Or.inr (Or.inr ⟨_, hplace.symm⟩)⟩
    · obtain ⟨c, rest, hc, hrest⟩ := span_rest_of_refused hhalt
      rw [← gap] at hrest
      rw [hrest] at hpasses ⊢
      exact Or.inl ⟨_, c, rest, hgap, hc, hpasses, rfl⟩

/-- The unknown token in the place of a keyword is the word there. -/
theorem toList_of_unknown_keyword (hrunning : lexer.error = none)
    (h : lexer.readKeyword.2.error = some (.unknownToken unknown position)) :
    unknown.toList = (word lexer.signals).taken := by
  unfold readKeyword at h
  dsimp only at h
  split at h
  · cases h
  · split at h
    · cases hrunning.symm.trans h
    · cases h
      exact String.toList_ofList

theorem readModel_ne_unknown (hrunning : lexer.error = none) :
    lexer.readModel.2.error ≠ some (.unknownToken unknown position) := by
  intro h
  unfold readModel at h
  dsimp only at h
  split at h
  · cases h
  · cases hrunning.symm.trans h

theorem readBlockPrompt_ne_unknown (hrunning : lexer.error = none) :
    (lexer.readBlockPrompt start).2.error ≠ some (.unknownToken unknown position) := by
  intro h
  unfold readBlockPrompt at h
  dsimp only at h
  split at h
  · cases h
  · split at h
    · cases h
    · cases hrunning.symm.trans h
  · split at h
    · cases h
    · cases hrunning.symm.trans h

theorem readPrompt_ne_unknown (hrunning : lexer.error = none) :
    lexer.readPrompt.2.error ≠ some (.unknownToken unknown position) := by
  intro h
  unfold readPrompt at h
  dsimp only at h
  split at h
  · cases h
  · split at h
    · cases h
    · refine readBlockPrompt_ne_unknown ?_ h
      exact hrunning
    · cases hrunning.symm.trans h

theorem misplaced?_ne_unknown :
    lexer.misplaced? start ≠ some (.unknownToken unknown position) := by
  intro h
  unfold misplaced? at h
  split at h
  · cases h
  · split at h <;> cases h

/-- Only in the place of a keyword a token can be unknown, and it is the word there. -/
theorem passes_unknown {c : Char} {rest : List (Signal Char)} (hrunning : lexer.error = none)
    (hsignals : lexer.signals = .item c :: rest) (hc : isBlank c = false)
    (h : lexer.readExpected.2.error = some (.unknownToken unknown position)) :
    IsWord unknown.toList ∧ Passes lexer.signals unknown.toList (word lexer.signals).rest := by
  unfold readExpected at h
  split at h
  · rw [toList_of_unknown_keyword hrunning h]
    exact ⟨isWord_word_taken hsignals hc, passes_span (!isBlank ·) lexer.signals⟩
  · exact absurd h (readModel_ne_unknown hrunning)
  · exact absurd h (readPrompt_ne_unknown hrunning)

/-- **An unknown token is the next word**, after the blanks before it. -/
theorem exists_word_of_unknown (hrunning : lexer.error = none)
    (hadvance : lexer.advance = (false, stopped))
    (herror : stopped.error = some (.unknownToken unknown position)) :
    ∃ blanks rest, IsGap blanks ∧ IsWord unknown.toList ∧
      Passes lexer.signals (blanks ++ unknown.toList) rest := by
  have hunknown : lexer.advance.2.error = some (.unknownToken unknown position) := by
    rw [hadvance, herror]
  rcases lexer.advance_cases hrunning with ⟨blanks, c, rest, hblanks, hc, hpasses, hread⟩ |
    ⟨-, hnone | ⟨error, hunreadable⟩ | ⟨start, hplace⟩⟩
  · rw [hread] at hunknown
    have hmoved : (lexer.consume blanks (.item c :: rest)).error = none := hrunning
    obtain ⟨hword, hpassed⟩ := passes_unknown hmoved rfl hc hunknown
    exact ⟨blanks, _, hblanks, hword, hpasses.trans hpassed⟩
  · cases hnone.symm.trans hunknown
  · cases hunreadable.symm.trans hunknown
  · exact absurd (hplace.symm.trans hunknown) misplaced?_ne_unknown

end Lexer

theorem solids_of_isWord {text : List Char} (h : IsWord text) : solids text = text :=
  List.filter_eq_self.mpr fun c hc => by simp [h.2 c hc]

/-- **The lexemes of a text hold its characters**, but for blanks and in the same order. Each token
has a lexeme, and what is behind the lexemes is nothing if the tokens stop without an error, and
starts with the word that is no keyword if they stop on one. -/
theorem lexemes_hold_text (text : String) :
    ∃ lexemes rest, List.Forall₂ Token.HasLexeme (tokensOf text).1 lexemes ∧
      solids text.toList = lexemes.flatMap solids ++ rest ∧
      ((tokensOf text).2 = none → rest = []) ∧
      ∀ word position, (tokensOf text).2 = some (.unknownToken word position) →
        IsWord word.toList ∧ word.toList <+: rest := by
  obtain ⟨n, stopped, hstopped, hdrain, hrunning⟩ := (Lexer.ofText text).exists_drain
  have htokens : tokensOf text = ((Lexer.ofText text).handedOut n, stopped.error) := by
    rw [tokensOf, hdrain]
  obtain ⟨front, more, hpasses, -, hlaid, hgap⟩ := (Lexer.ofText text).exists_laid rfl n
  obtain ⟨unread, htext, hunread⟩ := hpasses.exists_append
  obtain ⟨lexemes, hlexemes, hfront⟩ := hlaid.exists_lexemes
  rw [htokens]
  -- Since the last token there have been only blanks, so the rest is what the lexer has not read.
  refine ⟨lexemes, solids unread, hlexemes, ?_, ?_, ?_⟩
  · rw [htext, solids_append, solids_append, hfront, solids_of_isGap (hgap (hrunning rfl)),
      List.append_nil]
  · intro hnone
    exact solids_of_isGap (Lexer.isGap_of_end hunread hstopped hnone)
  · intro word position hunknown
    obtain ⟨blanks, rest, hblanks, hword, hpassed⟩ :=
      Lexer.exists_word_of_unknown (hrunning rfl) hstopped hunknown
    rw [hunread] at hpassed
    obtain ⟨after, rfl, -⟩ := hpassed.exists_append
    refine ⟨hword, solids after, ?_⟩
    rw [solids_append, solids_append, solids_of_isGap hblanks, solids_of_isWord hword,
      List.nil_append]

/-- A block, and behind it a word that is no keyword. -/
theorem lexemes_hold_text_unknownWord : ∃ lexemes rest,
    List.Forall₂ Token.HasLexeme
      [⟨.keyword (.speak .assistant), "ANSWER", ⟨1, 1⟩⟩, ⟨.prompt, "one\n two", ⟨1, 8⟩⟩] lexemes ∧
    lexemes.flatMap solids ++ rest = "answer|onetwosayno".toList ∧ "say".toList <+: rest := by
  have htokens : tokensOf "answer |\n\tone\n\n\t two\n say no" =
      ([⟨.keyword (.speak .assistant), "ANSWER", ⟨1, 1⟩⟩, ⟨.prompt, "one\n two", ⟨1, 8⟩⟩],
        some (.unknownToken "say" ⟨5, 2⟩)) := by decide +kernel
  obtain ⟨lexemes, rest, hlexemes, htext, -, hunknown⟩ :=
    lexemes_hold_text "answer |\n\tone\n\n\t two\n say no"
  rw [htokens] at hlexemes hunknown
  refine ⟨lexemes, rest, hlexemes, ?_, (hunknown "say" ⟨5, 2⟩ rfl).2⟩
  rw [← htext]
  decide +kernel

end Dialogue
