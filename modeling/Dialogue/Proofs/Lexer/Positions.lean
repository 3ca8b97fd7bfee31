import Dialogue.Proofs.Lexer.Pairing

/-!
# Positions

The position of the lexer is kept up by each of its readers. Counted afresh it is one line for each
line feed among the characters taken so far, and one column for each character since the last of
them. A token has the position of the first character it is read from, so the tokens of a text are
strictly ordered by their positions, and the columns between a keyword and its companion are
characters of the text, however long the keyword is in upper case.

## Main definitions

* `Position.counted taken`: the position after some characters, counted afresh
* `Laid tokens text`: the text holds what the tokens are read from, one after the other

## Main results

* `Position.start_after`: keeping up a position is counting
* `Laid.pairwise_lt`: positions increase along the tokens
* `Lexer.exists_laid`: where the tokens of any number of moves stand
* `positions_exact`: positions are exact
-/

namespace Dialogue

open Text (isBlank trimEnd upper)

namespace Position

/-- The position after some characters: one line for each line feed, and one column for each
character since the last of them. -/
def counted (taken : List Char) : Position :=
  ⟨1 + taken.count '\n', 1 + (taken.reverse.takeWhile (· != '\n')).length⟩

/-- **Keeping up a position is counting.** -/
theorem start_after (taken : List Char) : start.after taken = counted taken := by
  induction taken using List.reverseRecOn with
  | nil => rfl
  | append_singleton taken c ih =>
    rw [after_append, ih, after, List.foldl_cons, List.foldl_nil, step, counted, counted]
    by_cases h : c = '\n'
    · simp [h, Nat.add_assoc]
    · simp [h, Nat.add_comm]

/-- Within a line each character takes one column. -/
theorem after_of_isLine (position : Position) {taken : List Char} (h : IsLine taken) :
    position.after taken = ⟨position.line, position.column + taken.length⟩ := by
  induction taken generalizing position with
  | nil => rfl
  | cons c taken ih =>
    have hc : c ≠ '\n' := h c (by simp)
    rw [after, List.foldl_cons, ← after, ih _ fun d hd => h d (by simp [hd]), step, if_neg hc,
      List.length_cons]
    simp only [Nat.add_assoc, Nat.add_comm 1]

/-- Positions are ordered by their lines, and within a line by their columns. -/
instance : LT Position :=
  ⟨fun first second => first.line < second.line ∨
    first.line = second.line ∧ first.column < second.column⟩

theorem lt_iff {first second : Position} :
    first < second ↔ first.line < second.line ∨
      first.line = second.line ∧ first.column < second.column :=
  Iff.rfl

theorem lt_trans {first second third : Position} (h : first < second) (h' : second < third) :
    first < third := by
  rw [lt_iff] at h h' ⊢
  omega

theorem lt_step (position : Position) (c : Char) : position < position.step c := by
  rw [lt_iff, step]
  split
  · exact Or.inl (Nat.lt_succ_self _)
  · exact Or.inr ⟨rfl, Nat.lt_succ_self _⟩

/-- Characters move a position on. -/
theorem lt_after (position : Position) {taken : List Char} (h : taken ≠ []) :
    position < position.after taken := by
  induction taken generalizing position with
  | nil => exact absurd rfl h
  | cons c taken ih =>
    rw [after, List.foldl_cons, ← after]
    by_cases hnil : taken = []
    · rw [hnil]
      exact lt_step position c
    · exact lt_trans (lt_step position c) (ih (position.step c) hnil)

theorem counted_append (first second : List Char) :
    counted (first ++ second) = (counted first).after second := by
  rw [← start_after, ← start_after, after_append]

theorem lt_counted_append {position : Position} {taken : List Char}
    (h : position < counted taken) (more : List Char) : position < counted (taken ++ more) := by
  rw [counted_append]
  by_cases hnil : more = []
  · rwa [hnil, after_nil]
  · exact lt_trans h (lt_after _ hnil)

end Position

/-! ## Where tokens stand -/

/-- The text holds what the tokens are read from, one after the other and with nothing but blanks
before each, and each token has the position of the first character that it is read from. -/
inductive Laid : List Token → List Char → Prop
  | nil : Laid [] []
  | concat {tokens : List Token} {text blanks source : List Char} {token : Token}
      (laid : Laid tokens text) (isGap : IsGap blanks) (startsSolid : StartsSolid source)
      (spelled : token.SpelledBy source)
      (position_eq : token.position = Position.counted (text ++ blanks)) :
      Laid (tokens ++ [token]) (text ++ (blanks ++ source))

namespace Laid

variable {tokens : List Token} {text : List Char} {token opener companion : Token}

/-- What the last token is read from is at the end of the text. -/
theorem exists_last (h : Laid (tokens ++ [token]) text) :
    ∃ before blanks source, text = before ++ (blanks ++ source) ∧ Laid tokens before ∧
      IsGap blanks ∧ StartsSolid source ∧ token.SpelledBy source ∧
      token.position = Position.counted (before ++ blanks) := by
  generalize hall : tokens ++ [token] = all at h
  cases h with
  | nil => simp at hall
  | concat hlaid hblanks hsolid hspelled hposition =>
    obtain ⟨rfl, hlast⟩ := List.append_inj' hall rfl
    obtain rfl := List.singleton_inj.mp hlast
    exact ⟨_, _, _, rfl, hlaid, hblanks, hsolid, hspelled, hposition⟩

/-- What the first of the tokens are read from is at the start of the text. -/
theorem exists_front {more : List Token} (h : Laid (tokens ++ more) text) :
    ∃ before rest, text = before ++ rest ∧ Laid tokens before := by
  induction more using List.reverseRecOn generalizing text with
  | nil => exact ⟨text, [], (List.append_nil text).symm, by rwa [List.append_nil] at h⟩
  | append_singleton more token ih =>
    rw [← List.append_assoc] at h
    obtain ⟨front, blanks, source, rfl, hfront, -⟩ := h.exists_last
    obtain ⟨before, rest, rfl, hbefore⟩ := ih hfront
    exact ⟨before, rest ++ (blanks ++ source), by simp, hbefore⟩

/-- All tokens are before the end of the text. -/
theorem lt_counted (h : Laid tokens text) :
    ∀ token ∈ tokens, token.position < Position.counted text := by
  induction h with
  | nil => simp
  | @concat tokens text blanks source token hlaid _ hsolid _ hposition ih =>
    intro other hmem
    rcases List.mem_append.mp hmem with hmem | hmem
    · exact Position.lt_counted_append (ih other hmem) _
    · obtain ⟨c, tail, rfl, -⟩ := hsolid
      rw [List.mem_singleton.mp hmem, hposition, ← List.append_assoc,
        Position.counted_append _ (c :: tail)]
      exact Position.lt_after _ (List.cons_ne_nil c tail)

/-- **Positions increase along the tokens.** -/
theorem pairwise_lt (h : Laid tokens text) :
    tokens.Pairwise fun first second => first.position < second.position := by
  induction h with
  | nil => exact List.Pairwise.nil
  | @concat tokens text blanks source token hlaid _ _ _ hposition ih =>
    refine List.pairwise_append.mpr ⟨ih, List.pairwise_singleton _ _, ?_⟩
    intro first hfirst second hsecond
    rw [List.mem_singleton.mp hsecond, hposition]
    exact Position.lt_counted_append (hlaid.lt_counted first hfirst) blanks

/-- **From a keyword to its companion there are as many columns as characters.** -/
theorem exists_columns {keyword : Keyword} (h : Laid (tokens ++ [opener, companion]) text)
    (hkind : opener.kind = .keyword keyword)
    (hline : companion.position.line = opener.position.line) :
    ∃ before letters padding source, text = before ++ (letters ++ (padding ++ source)) ∧
      upper letters = keyword.word.toList ∧ IsPadding padding ∧
      StartsSolid source ∧ companion.SpelledBy source ∧
      opener.position = Position.counted before ∧
      companion.position = ⟨opener.position.line,
        opener.position.column + (letters.length + padding.length)⟩ := by
  rw [show tokens ++ [opener, companion] = tokens ++ [opener] ++ [companion] by simp] at h
  obtain ⟨front, padding, source, rfl, hfront, hgap, hsolid, hspelled, hcompanion⟩ :=
    h.exists_last
  obtain ⟨before, blanks, letters, rfl, -, -, -, hletters, hopener⟩ := hfront.exists_last
  rw [← List.append_assoc before, List.append_assoc, Position.counted_append, ← hopener]
    at hcompanion
  -- No line feed comes before the companion, since it is on the line of its keyword.
  have hisLine : IsLine (letters ++ padding) := by
    rw [hcompanion] at hline
    exact (Position.line_after_eq_iff _ _).mp hline
  refine ⟨before ++ blanks, letters, padding, source, by simp, hletters.spells hkind, ?_, hsolid,
    hspelled, hopener, ?_⟩
  · intro c hc
    exact ⟨hgap c hc, hisLine c (List.mem_append_right _ hc)⟩
  · rw [hcompanion, Position.after_of_isLine _ hisLine, List.length_append]

end Laid

namespace Lexer

/-- **The tokens of any number of moves stand among the characters taken**, and as long as the lexer
has not stopped, nothing but blanks has come after the last of them. -/
theorem exists_laid (lexer : Lexer) (hstart : lexer.position = .start) (n : Nat) :
    ∃ text more, Passes lexer.signals (text ++ more) (lexer.after n).signals ∧
      (lexer.after n).position = Position.counted (text ++ more) ∧
      Laid (lexer.handedOut n) text ∧ ((lexer.after n).error = none → IsGap more) := by
  induction n with
  | zero => exact ⟨[], [], Passes.refl _, hstart, Laid.nil, fun _ => isGap_nil⟩
  | succ n ih =>
    obtain ⟨text, more, hpasses, hposition, hlaid, hgap⟩ := ih
    have hadvances := (lexer.after n).advances
    rcases hadvance : (lexer.after n).advance with ⟨_, moved⟩
    rw [hadvance] at hadvances
    rw [after_succ_of_advance hadvance]
    -- Counting goes on from where the lexer was.
    have hcounted : ∀ step, (lexer.after n).position.after step =
        Position.counted (text ++ (more ++ step)) := by
      intro step
      rw [hposition, ← Position.counted_append, List.append_assoc]
    have hpassed : ∀ {step rest}, Passes (lexer.after n).signals step rest →
        Passes lexer.signals (text ++ (more ++ step)) rest := by
      intro step rest hstep
      rw [← List.append_assoc]
      exact hpasses.trans hstep
    cases hadvances with
    | stuck hstopped =>
      rw [handedOut_of_none hadvance]
      exact ⟨text, more, hpasses, hposition, hlaid, hgap⟩
    | @token blanks source signals rest token next hrunning hblanks hsignals hsource hsolid
        hspelled hplace =>
      rw [handedOut_of_token hadvance]
      have hboth : Passes (lexer.after n).signals (blanks ++ source) rest := by
        rw [hsignals]
        exact (Passes.items blanks signals).trans hsource
      -- The blanks since the last token and those of this move are all before the new one.
      have hlaid' := hlaid.concat (isGap_append.mpr ⟨hgap hrunning, hblanks⟩) hsolid hspelled
        (hplace.trans (hcounted blanks))
      rw [List.append_assoc] at hlaid'
      refine ⟨_, [], ?_, ?_, hlaid', fun _ => isGap_nil⟩
      · rw [List.append_nil]
        exact hpassed hboth
      · rw [List.append_nil]
        exact hcounted (blanks ++ source)
    | @ended blanks rest hrunning hblanks hcovers =>
      rw [handedOut_of_none hadvance]
      exact ⟨text, more ++ blanks, hpassed (Passes.of_ended hcovers), hcounted blanks, hlaid,
        fun _ => isGap_append.mpr ⟨hgap hrunning, hblanks⟩⟩
    | @stop step rest error start hrunning hstep =>
      rw [handedOut_of_none hadvance]
      exact ⟨text, more ++ step, hpassed hstep, hcounted step, hlaid, nofun⟩

theorem awaits_ofText (text : String) : (ofText text).Awaits none :=
  fun _ => rfl

/-- A text starts with what its tokens are read from. -/
theorem exists_laid_ofText (text : String) (n : Nat) :
    ∃ front rest, text.toList = front ++ rest ∧ Laid ((ofText text).handedOut n) front := by
  obtain ⟨front, more, hpasses, -, hlaid, -⟩ := (ofText text).exists_laid rfl n
  obtain ⟨rest, htext, -⟩ := hpasses.exists_append
  exact ⟨front, more ++ rest, by rw [htext, List.append_assoc], hlaid⟩

/-- A lexer that comes to the end of a text without an error is behind its last character. -/
theorem position_of_end (text : String) (n : Nat) {ended : Lexer}
    (hadvance : ((ofText text).after n).advance = (false, ended)) (herror : ended.error = none) :
    ended.current = ⟨.endOfInput, "", Position.counted text.toList⟩ := by
  obtain ⟨taken, hpasses, hposition⟩ := (ofText text).passes_after n
  obtain ⟨more, htext, hsignals⟩ := hpasses.exists_append
  have hadvances := ((ofText text).after n).advances
  rw [hadvance] at hadvances
  cases hadvances with
  | stuck hstopped =>
    rw [hstopped] at herror
    cases herror
  | stop => cases herror
  | @ended blanks rest _ _ hcovers =>
    -- The signals of a text have no end among them, so the blanks are all that is left.
    have hmore : more = blanks := by
      rw [hsignals] at hcovers
      rcases hcovers with ⟨hblanks, -⟩ | hblanks
      · have := congrArg charsOf hblanks
        rwa [charsOf_items, charsOf_items] at this
      · have hmem : Signal.ended ∈ more.map Signal.item := by simp [hblanks]
        simp at hmem
    have hplace : ((ofText text).after n).position.after blanks =
        Position.counted text.toList := by
      rw [hposition, ← Position.after_append, htext, hmore]
      exact Position.start_after _
    exact congrArg (Token.mk .endOfInput "") hplace

end Lexer

/-- **Positions are exact.** Whatever a source delivers, and after any number of moves, the
position of the lexer is that of the characters it has passed. Each token of a text has the
position of the first character it is read from, positions increase from token to token, from a
keyword to its companion there are as many columns as characters, and the end of a text is behind
its last character. -/
theorem positions_exact :
    (∀ (deliveries : List Delivery) (n : Nat), ∃ passed,
      charSignals deliveries =
        passed ++ ((Lexer.ofDeliveries deliveries).after n).signals ∧
      ((Lexer.ofDeliveries deliveries).after n).position =
        Position.counted (charsOf passed)) ∧
    ∀ (text : String) (n : Nat),
      (∃ front rest, text.toList = front ++ rest ∧
        Laid ((Lexer.ofText text).handedOut n) front) ∧
      ((Lexer.ofText text).handedOut n).Pairwise
        (fun first second => first.position < second.position) ∧
      (∀ tokens opener companion keyword,
        tokens ++ [opener, companion] <+: (Lexer.ofText text).handedOut n →
        opener.kind = .keyword keyword →
        ∃ before letters padding source rest,
          text.toList = before ++ (letters ++ (padding ++ source)) ++ rest ∧
          upper letters = keyword.word.toList ∧ IsPadding padding ∧
          StartsSolid source ∧ companion.SpelledBy source ∧
          opener.position = Position.counted before ∧
          companion.position = ⟨opener.position.line,
            opener.position.column + (letters.length + padding.length)⟩) ∧
      ∀ ended, ((Lexer.ofText text).after n).advance = (false, ended) → ended.error = none →
        ended.current = ⟨.endOfInput, "", Position.counted text.toList⟩ := by
  constructor
  · intro deliveries n
    obtain ⟨taken, ⟨passed, hpassed, htaken⟩, hposition⟩ :=
      (Lexer.ofDeliveries deliveries).passes_after n
    refine ⟨passed, hpassed, ?_⟩
    rw [hposition, htaken]
    exact Position.start_after taken
  · intro text n
    obtain ⟨front, rest, htext, hlaid⟩ := Lexer.exists_laid_ofText text n
    refine ⟨⟨front, rest, htext, hlaid⟩, hlaid.pairwise_lt, ?_,
      fun ended => Lexer.position_of_end text n⟩
    rintro tokens opener companion keyword ⟨later, htokens⟩ hkind
    -- The pair is cut out of the tokens, and with it the part of the text that it is laid on.
    have halternates := ((Lexer.awaits_ofText text).alternates n).1.chain
    rw [← htokens] at hlaid halternates
    obtain ⟨front, rest', rfl, hfront⟩ := hlaid.exists_front
    have hprecedes : opener.Precedes companion :=
      List.isChain_pair.mp halternates.left_of_append.right_of_append
    obtain ⟨-, hline⟩ := (Token.precedes_of_keyword hkind).mp hprecedes
    obtain ⟨before, letters, padding, source, rfl, hcolumns⟩ := hfront.exists_columns hkind hline
    exact ⟨before, letters, padding, source, rest' ++ rest, by simp [htext], hcolumns⟩

/-- The line `ask a`, in which the input ends once, and the word `no` on the line below. -/
def endInLine : List Delivery :=
  [.chunk [97, 115, 107, 32, 97], .chunk [], .chunk [10, 110, 111]]

/-- A ligature in a keyword is two letters in upper case, and takes one column. Behind the prompt
after it comes the end of the text. An end of the input within a line is no character. -/
theorem positions_exact_ligature :
    (Lexer.ofText "SY\ufb06EM x").handedOut 2 =
        [⟨.keyword (.speak .system), "SYSTEM", ⟨1, 1⟩⟩, ⟨.prompt, "x", ⟨1, 7⟩⟩] ∧
      (∃ letters padding, upper letters = "SYSTEM".toList ∧ IsPadding padding ∧
        letters.length + padding.length = 6) ∧
      ((Lexer.ofText "SY\ufb06EM x").after 3).current = ⟨.endOfInput, "", ⟨1, 8⟩⟩ ∧
      ((Lexer.ofDeliveries endInLine).after 3).position = ⟨2, 3⟩ := by
  have htokens : (Lexer.ofText "SY\ufb06EM x").handedOut 2 =
      [⟨.keyword (.speak .system), "SYSTEM", ⟨1, 1⟩⟩, ⟨.prompt, "x", ⟨1, 7⟩⟩] := by decide
  obtain ⟨-, -, hcolumns, hend⟩ := positions_exact.2 "SY\ufb06EM x" 2
  rw [htokens] at hcolumns
  obtain ⟨before, letters, padding, source, rest, -, hupper, hpadding, -, -, -, hcolumn⟩ :=
    hcolumns [] _ _ _ List.prefix_rfl rfl
  refine ⟨htokens, ⟨letters, padding, hupper, hpadding, ?_⟩, ?_, ?_⟩
  · have := congrArg Position.column hcolumn
    dsimp only at this
    omega
  · have hstopped : ((Lexer.ofText "SY\ufb06EM x").after 2).advance =
        (false, (Lexer.ofText "SY\ufb06EM x").after 3) := by decide
    rw [hend _ hstopped (by decide)]
    rfl
  · obtain ⟨passed, hpassed, hposition⟩ := positions_exact.1 endInLine 3
    have hnothing : ((Lexer.ofDeliveries endInLine).after 3).signals = [] := by decide
    rw [hnothing, List.append_nil] at hpassed
    rw [hposition, ← hpassed]
    decide

end Dialogue
