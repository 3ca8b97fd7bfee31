import Dialogue.Proofs.Grammar.Reading
import Dialogue.Proofs.Lexer.Moves
import Mathlib.Data.List.Chain

/-!
# Pairs of tokens

Whatever a source delivers, the lexer hands out keywords and companions in turn, each companion of
the kind that its keyword asks for and on its line. So a parser that is driven by the lexer never
sees a keyword with a wrong companion.

A companion may yet come where the parser looks for a command. When the input ends on the line of
a keyword the parser reports the command as incomplete, but the lexer goes on to wait, and if the
source then goes on with the same line, the companion comes as the next token. This is the only
way.

## Main definitions

* `Token.Precedes`, `Alternates`: what may come after a token, and tokens that come in turn
* `Lexer.Awaits lexer pending`: the keyword, if any, that waits for its companion
* `Command.sourceAfter`, `Command.attempt`: the source after some attempts to read a command, and
  what the next one gives
* `Lexer.Attempts`: what an attempt can come to, with the keyword that waits before and after it

## Main results

* `Lexer.Awaits.opens`, `Lexer.Awaits.completes`, `Lexer.Awaits.stays`: what a move does to the
  keyword that waits
* `Lexer.Awaits.parse`: an attempt comes to one of the cases
* `Lexer.Awaits.exists_left`: a keyword that waits was left by an incomplete command
* `tokens_pair_up`: the tokens of every source come in pairs
-/

namespace Dialogue

open Text (isBlank trimEnd upper)

/-! ## Tokens in turn -/

/-- What may come after a token: its companion, on its line, after a keyword, and a keyword after a
companion. -/
def Token.Precedes (first second : Token) : Prop :=
  match first.kind with
  | .keyword keyword =>
    second.kind = keyword.companion ∧ second.position.line = first.position.line
  | .model | .prompt => second.kind.isKeyword = true
  | .endOfInput | .unknown => False

theorem Token.precedes_of_keyword {first second : Token} {keyword : Keyword}
    (h : first.kind = .keyword keyword) :
    first.Precedes second ↔
      second.kind = keyword.companion ∧ second.position.line = first.position.line := by
  rw [Precedes, h]

/-- Keywords and companions in turn, starting with a keyword. -/
structure Alternates (tokens : List Token) : Prop where
  chain : tokens.IsChain Token.Precedes
  opens : ∀ first ∈ tokens.head?, first.kind.isKeyword = true
  kinds : ∀ token ∈ tokens, token.kind ≠ .endOfInput ∧ token.kind ≠ .unknown

/-- The keyword at the end of some tokens, which has no companion yet. -/
def waiting (tokens : List Token) : Option Token :=
  tokens.getLast?.filter (·.kind.isKeyword)

theorem waiting_concat (tokens : List Token) (token : Token) :
    waiting (tokens ++ [token]) = if token.kind.isKeyword then some token else none := by
  simp [waiting, Option.filter]

namespace Alternates

variable {tokens : List Token} {token opener : Token}

theorem nil : Alternates [] :=
  ⟨List.isChain_nil, by simp, by simp⟩

/-- One more token, which may come after the last one. -/
theorem concat (h : Alternates tokens) (hopens : tokens = [] → token.kind.isKeyword = true)
    (hafter : ∀ last ∈ tokens.getLast?, last.Precedes token)
    (hkind : token.kind ≠ .endOfInput ∧ token.kind ≠ .unknown) :
    Alternates (tokens ++ [token]) := by
  refine ⟨List.isChain_append.mpr ⟨h.chain, List.isChain_singleton token, ?_⟩, ?_, ?_⟩
  · intro last hlast next hnext
    obtain rfl : token = next := by simpa using hnext
    exact hafter last hlast
  · intro first hfirst
    cases tokens with
    | nil =>
      obtain rfl : token = first := by simpa using hfirst
      exact hopens rfl
    | cons head tail => exact h.opens first (by simpa using hfirst)
  · intro other hmem
    rcases List.mem_append.mp hmem with hmem | hmem
    · exact h.kinds other hmem
    · rw [List.mem_singleton.mp hmem]
      exact hkind

/-- After a companion, or at the start, comes a keyword. -/
theorem concat_keyword (h : Alternates tokens) (hwaiting : waiting tokens = none)
    {keyword : Keyword} (hkind : token.kind = .keyword keyword) :
    Alternates (tokens ++ [token]) := by
  have hkeyword : token.kind.isKeyword = true := by rw [hkind, Token.Kind.isKeyword]
  refine h.concat (fun _ => hkeyword) (fun last hlast => ?_) (by simp [hkind])
  -- The last token is no keyword, so it is a companion.
  have hnot : last.kind.isKeyword = false := by
    rw [waiting, Option.mem_def.mp hlast, Option.filter_some] at hwaiting
    simpa using hwaiting
  obtain ⟨hend, hunknown⟩ := h.kinds last (List.mem_of_getLast? hlast)
  rw [Token.Precedes]
  split
  · simp_all [Token.Kind.isKeyword]
  · exact hkeyword
  · exact hkeyword
  · exact absurd ‹_› hend
  · exact absurd ‹_› hunknown

/-- After a keyword comes its companion. -/
theorem concat_companion (h : Alternates tokens) (hwaiting : waiting tokens = some opener)
    {keyword : Keyword} (hkeyword : opener.kind = .keyword keyword)
    (hprecedes : opener.Precedes token) : Alternates (tokens ++ [token]) := by
  obtain ⟨hlast, -⟩ := Option.filter_eq_some_iff.mp hwaiting
  obtain ⟨hkind, -⟩ := (Token.precedes_of_keyword hkeyword).mp hprecedes
  refine h.concat (fun hnil => ?_) (fun last hmem => ?_) ?_
  · simp [hnil] at hlast
  · rw [Option.mem_def.mp hmem, Option.some_inj] at hlast
    exact hlast ▸ hprecedes
  · rw [hkind]
    cases keyword <;> simp [Keyword.companion]

end Alternates

namespace Lexer

variable {lexer moved : Lexer} {opener : Token} {pending : Option Token}

/-! ## The keyword that waits -/

/-- Unless it has stopped, the lexer expects a keyword, or the companion of the keyword that waits,
on the line of which it still is. -/
def Awaits (lexer : Lexer) (pending : Option Token) : Prop :=
  lexer.error = none →
    match pending with
    | none => lexer.expecting = .keyword
    | some opener => ∃ keyword, opener.kind = .keyword keyword ∧
        lexer.expecting = keyword.expecting ∧ lexer.position.line = opener.position.line

theorem awaits_ofDeliveries (deliveries : List Delivery) :
    (ofDeliveries deliveries).Awaits none :=
  fun _ => rfl

theorem awaits_of_error {error : LexError} (h : lexer.error = some error)
    (pending : Option Token) : lexer.Awaits pending := by
  intro hrunning
  rw [h] at hrunning
  cases hrunning

/-- A lexer that hands out a token has not stopped, and had more to read. -/
theorem running_of_token (h : lexer.advance = (true, moved)) :
    lexer.error = none ∧ moved.error = none ∧ lexer.signals ≠ [] := by
  have hadvances := lexer.advances
  rw [h] at hadvances
  cases hadvances with
  | @token blanks source signals rest token next hrunning _ hsignals hpasses hsolid =>
    refine ⟨hrunning, hrunning, fun hnil => ?_⟩
    rw [hsignals, List.append_eq_nil_iff] at hnil
    obtain ⟨passed, hpassed, hsource⟩ := hpasses
    rw [hnil.2, eq_comm, List.append_eq_nil_iff] at hpassed
    obtain ⟨c, tail, hcons, -⟩ := hsolid
    rw [hpassed.1, charsOf_nil, hcons] at hsource
    cases hsource

/-- **Between two commands a keyword is handed out**, which waits then. -/
theorem Awaits.opens (h : lexer.Awaits none) (hadvance : lexer.advance = (true, moved)) :
    (∃ keyword, moved.current.kind = .keyword keyword) ∧ moved.Awaits (some moved.current) := by
  have hadvances := lexer.advances
  rw [hadvance] at hadvances
  cases hadvances with
  | @token blanks source signals rest token next hrunning _ _ _ _ hspelled hposition hanswers =>
    have hexpecting : lexer.expecting = .keyword := h hrunning
    rw [hexpecting] at hanswers
    obtain ⟨keyword, hkind, hnext⟩ := hanswers.of_keyword
    -- A keyword is read within its line.
    have hline := (Position.line_after_eq_iff token.position source).mpr
      (hspelled.isLine_of_keyword hkind)
    refine ⟨⟨keyword, hkind⟩, fun _ => ⟨keyword, hkind, hnext, ?_⟩⟩
    change (lexer.position.after (blanks ++ source)).line = token.position.line
    rw [Position.after_append, ← hposition]
    exact hline

/-- **What is handed out after a keyword is its companion**, and then nothing waits. -/
theorem Awaits.completes (h : lexer.Awaits (some opener))
    (hadvance : lexer.advance = (true, moved)) :
    opener.Precedes moved.current ∧ moved.Awaits none := by
  have hadvances := lexer.advances
  rw [hadvance] at hadvances
  cases hadvances with
  | @token blanks source signals rest token next hrunning _ _ _ _ _ hposition hanswers hinLine =>
    obtain ⟨keyword, hkeyword, hexpecting, hline⟩ := h hrunning
    rw [hexpecting] at hanswers hinLine
    -- The companion is on the line where the lexer has been since the keyword.
    have hsame : token.position.line = opener.position.line := by
      have hblanks : IsLine blanks := hinLine.resolve_left (by cases keyword <;> nofun)
      rw [hposition, (Position.line_after_eq_iff _ _).mpr hblanks, hline]
    obtain ⟨hkind, hnext⟩ := hanswers.of_companion
    exact ⟨(Token.precedes_of_keyword hkeyword).mpr ⟨hkind, hsame⟩, fun _ => hnext⟩

/-- A move that hands out nothing leaves what waits. -/
theorem Awaits.stays (h : lexer.Awaits pending) (hadvance : lexer.advance = (false, moved)) :
    moved.Awaits pending := by
  have hadvances := lexer.advances
  rw [hadvance] at hadvances
  cases hadvances with
  | stuck => exact h
  | @ended blanks rest hrunning _ _ hinLine =>
    intro _
    have hbefore := h hrunning
    cases pending with
    | none => exact hbefore
    -- Behind a keyword only blanks of its own line are passed.
    | some opener =>
      obtain ⟨keyword, hkeyword, hexpecting, hline⟩ := hbefore
      have hblanks : IsLine blanks := by
        rw [hexpecting] at hinLine
        exact hinLine.resolve_left (by cases keyword <;> nofun)
      refine ⟨keyword, hkeyword, hexpecting, ?_⟩
      exact ((Position.line_after_eq_iff _ _).mpr hblanks).trans hline
  | stop => exact awaits_of_error rfl pending

/-- **Tokens come in turn**, after any number of moves, and the last one waits if it is a
keyword. -/
theorem Awaits.alternates (h : lexer.Awaits none) (n : Nat) :
    Alternates (lexer.handedOut n) ∧ (lexer.after n).Awaits (waiting (lexer.handedOut n)) := by
  -- The induction carries both: the lexer expects what the tokens so far are waiting for.
  induction n with
  | zero => exact ⟨.nil, h⟩
  | succ n ih =>
    obtain ⟨htokens, hawaits⟩ := ih
    rcases hadvance : (lexer.after n).advance with ⟨more, moved⟩
    cases more with
    | false =>
      rw [after_succ_of_advance hadvance, handedOut_of_none hadvance]
      exact ⟨htokens, hawaits.stays hadvance⟩
    | true =>
      rw [after_succ_of_advance hadvance, handedOut_of_token hadvance, waiting_concat]
      cases hwaiting : waiting (lexer.handedOut n) with
      | none =>
        rw [hwaiting] at hawaits
        obtain ⟨⟨keyword, hkind⟩, hnext⟩ := hawaits.opens hadvance
        rw [hkind, Token.Kind.isKeyword, if_pos rfl]
        exact ⟨htokens.concat_keyword hwaiting hkind, hnext⟩
      | some opener =>
        rw [hwaiting] at hawaits
        obtain ⟨keyword, hkeyword, -⟩ := hawaits (running_of_token hadvance).1
        obtain ⟨hprecedes, hnext⟩ := hawaits.completes hadvance
        obtain ⟨hkind, -⟩ := (Token.precedes_of_keyword hkeyword).mp hprecedes
        have hcompanion : moved.current.kind.isKeyword = false := by
          rw [hkind]
          cases keyword <;> rfl
        rw [hcompanion]
        exact ⟨htokens.concat_companion hwaiting hkeyword hprecedes, hnext⟩

end Lexer

/-! ## Attempts to read a command -/

namespace Command

open TokenSource

variable {σ : Type} [TokenSource σ] {source moved : σ}

/-- The source after some attempts to read a command, whatever came of them. -/
def sourceAfter (source : σ) : Nat → σ
  | 0 => source
  | n + 1 => (parse (sourceAfter source n)).2

/-- What the next attempt gives after `n` others. -/
def attempt (source : σ) (n : Nat) : Parsed :=
  (parse (sourceAfter source n)).1

theorem parse_of_stray (h : advance source = (true, moved)) (herror : error moved = none)
    (hkind : (current moved).kind.isKeyword = false) :
    parse source = (.failed (.expectedCommand (current moved)), moved) := by
  simp only [parse, h, pendingOr, herror]
  split
  · rename_i hkeyword
    rw [hkeyword] at hkind
    cases hkind
  · rfl

/-- An attempt leaves the source after one move or two. -/
theorem parse_snd (source : σ) :
    (parse source).2 = (advance source).2 ∨
      (parse source).2 = (advance (advance source).2).2 := by
  rcases hadvance : advance source with ⟨more, moved⟩
  cases more with
  | false =>
    refine Or.inl ?_
    simp only [parse, hadvance]
    split <;> rfl
  | true =>
    simp only [parse, hadvance]
    split
    · refine Or.inr ?_
      simp only [parseCompanion]
      split
      · rename_i hstopped
        rw [hstopped]
      · rename_i hmoved
        rw [hmoved]
        split <;> rfl
    · exact Or.inl rfl

end Command

namespace Lexer

variable {lexer moved : Lexer} {opener : Token} {pending : Option Token}

/-- The lexer has come to an end of the input: there is nothing more, or there is more after it. -/
def Halts (lexer moved : Lexer) : Prop :=
  moved.signals = [] ∨ ∃ passed, lexer.signals = passed ++ .ended :: moved.signals

/-- Without an error, a move that hands out nothing is an end of the input. -/
theorem halts_of_end (hadvance : lexer.advance = (false, moved)) (herror : moved.error = none) :
    lexer.error = none ∧ lexer.Halts moved := by
  have hadvances := lexer.advances
  rw [hadvance] at hadvances
  cases hadvances with
  | stuck hstopped =>
    rw [hstopped] at herror
    cases herror
  | @ended blanks rest hrunning _ hcovers =>
    refine ⟨hrunning, ?_⟩
    rcases hcovers with ⟨-, hrest⟩ | hsignals
    · exact Or.inl hrest
    · exact Or.inr ⟨_, hsignals⟩
  | stop => cases herror

/-- What an attempt to read a command can come to: the keyword that waits before it, what it gives
with the lexer after it, and the keyword that waits then. -/
inductive Attempts (lexer : Lexer) : Option Token → Parsed × Lexer → Option Token → Prop
  /-- A command. -/
  | command {command : Command} {moved : Lexer} :
      Attempts lexer none (.command command, moved) none
  /-- An end of the input, from where it may go on. -/
  | finished {pending : Option Token} {moved : Lexer} (running : lexer.error = none)
      (halts : lexer.Halts moved) : Attempts lexer pending (.finished, moved) pending
  /-- An error of the lexer, which is for good. -/
  | lexical {pending : Option Token} {failure : LexError} {moved : Lexer}
      (stopped : moved.error = some failure) :
      Attempts lexer pending (.failed (.lexical failure), moved) pending
  /-- A keyword, and then an end of the input. -/
  | incomplete {keyword : Keyword} {moved : Lexer}
      (kind_eq : lexer.advance.2.current.kind = .keyword keyword)
      (halts : lexer.advance.2.Halts moved) :
      Attempts lexer none (.failed (.incomplete keyword), moved) (some lexer.advance.2.current)
  /-- The companion of the keyword that waits. -/
  | stray {opener found : Token} {moved : Lexer} (running : lexer.error = none)
      (more : lexer.signals ≠ []) (precedes : opener.Precedes found) :
      Attempts lexer (some opener) (.failed (.expectedCommand found), moved) none

/-- **An attempt comes to one of the cases.** -/
theorem Awaits.parse (h : lexer.Awaits pending) :
    ∃ next, Attempts lexer pending (Command.parse lexer) next ∧
      (Command.parse lexer).2.Awaits next := by
  rcases hadvance : lexer.advance with ⟨more, moved⟩
  cases more with
  | false =>
    have hstays := h.stays hadvance
    cases herror : moved.error with
    | none =>
      obtain ⟨hrunning, hhalts⟩ := halts_of_end hadvance herror
      rw [Command.parse_of_end hadvance herror]
      exact ⟨pending, .finished hrunning hhalts, hstays⟩
    | some failure =>
      rw [Command.parse_of_failure hadvance herror]
      exact ⟨pending, .lexical herror, hstays⟩
  | true =>
    obtain ⟨hrunning, hmoved, hmore⟩ := running_of_token hadvance
    cases pending with
    | some opener =>
      -- The companion of the keyword that waits opens no command.
      obtain ⟨keyword, hkeyword, -⟩ := h hrunning
      obtain ⟨hprecedes, hnext⟩ := h.completes hadvance
      obtain ⟨hkind, -⟩ := (Token.precedes_of_keyword hkeyword).mp hprecedes
      rw [Command.parse_of_stray hadvance hmoved (by
        rw [show (TokenSource.current moved).kind = keyword.companion from hkind]
        cases keyword <;> rfl)]
      exact ⟨none, .stray hrunning hmore hprecedes, hnext⟩
    | none =>
      obtain ⟨⟨keyword, hkind⟩, hopened⟩ := h.opens hadvance
      rw [Command.parse_of_keyword hadvance hkind]
      rcases hadvance' : moved.advance with ⟨more, last⟩
      cases more with
      | true =>
        obtain ⟨hprecedes, hnext⟩ := hopened.completes hadvance'
        obtain ⟨hcompanion, -⟩ := (Token.precedes_of_keyword hkind).mp hprecedes
        rw [Command.parseCompanion_of_companion hadvance' hcompanion]
        exact ⟨none, .command, hnext⟩
      | false =>
        have hstays := hopened.stays hadvance'
        cases herror : last.error with
        | some failure =>
          rw [Command.parseCompanion_of_failure hadvance' herror]
          exact ⟨none, .lexical herror, awaits_of_error herror none⟩
        | none =>
          obtain ⟨-, hhalts⟩ := halts_of_end hadvance' herror
          rw [Command.parseCompanion_of_end hadvance' herror]
          have hcurrent : lexer.advance.2 = moved := by rw [hadvance]
          rw [← hcurrent] at hkind hhalts hstays
          exact ⟨_, .incomplete hkind hhalts, hstays⟩

/-! ## Attempts in a row -/

/-- Attempts in a row are moves in a row: at least one for each, and at most two. -/
theorem exists_after_eq_sourceAfter (lexer : Lexer) (n : Nat) :
    ∃ m, n ≤ m ∧ m ≤ 2 * n ∧ Command.sourceAfter lexer n = lexer.after m := by
  induction n with
  | zero => exact ⟨0, Nat.le_refl 0, Nat.le_refl 0, rfl⟩
  | succ n ih =>
    obtain ⟨m, hge, hle, hm⟩ := ih
    rw [Command.sourceAfter, hm]
    rcases Command.parse_snd (lexer.after m) with hone | htwo
    · exact ⟨m + 1, by omega, by omega, hone⟩
    · exact ⟨m + 2, by omega, by omega, htwo⟩

/-- What is left to read is at the end of what there was. -/
theorem exists_passed_sourceAfter (lexer : Lexer) (n : Nat) :
    ∃ passed, lexer.signals = passed ++ (Command.sourceAfter lexer n).signals := by
  obtain ⟨m, -, -, hm⟩ := lexer.exists_after_eq_sourceAfter n
  obtain ⟨taken, ⟨passed, hpassed, -⟩, -⟩ := lexer.passes_after m
  exact ⟨passed, by rw [hm]; exact hpassed⟩

/-- The keyword `opener` has been left without its companion: an earlier attempt handed it out and
reported an incomplete command, all attempts since have found the input at an end, and if there is
more to read, it comes after such an end. -/
def Leaves (lexer : Lexer) (n : Nat) (opener : Token) : Prop :=
  ∃ i < n, ∃ keyword,
    Command.attempt lexer i = .failed (.incomplete keyword) ∧
    (Command.sourceAfter lexer i).advance.2.current = opener ∧
    opener.kind = .keyword keyword ∧
    (∀ k, i < k → k < n → Command.attempt lexer k = .finished) ∧
    ((Command.sourceAfter lexer n).signals = [] ∨
      ∃ passed, lexer.signals = passed ++ .ended :: (Command.sourceAfter lexer n).signals)

/-- **A keyword that waits was left by an incomplete command**, however many attempts there have
been. -/
theorem Awaits.exists_left (h : lexer.Awaits none) (n : Nat) :
    ∃ pending, (Command.sourceAfter lexer n).Awaits pending ∧
      ((Command.sourceAfter lexer n).error = none →
        ∀ opener, pending = some opener → lexer.Leaves n opener) := by
  induction n with
  | zero => exact ⟨none, h, by simp⟩
  | succ n ih =>
    obtain ⟨pending, hawaits, hleaves⟩ := ih
    obtain ⟨next, hattempts, hnext⟩ := hawaits.parse
    obtain ⟨before, hbefore⟩ := lexer.exists_passed_sourceAfter n
    refine ⟨next, hnext, fun hrunning opener hopener => ?_⟩
    subst hopener
    rcases hparse : Command.parse (Command.sourceAfter lexer n) with ⟨result, moved⟩
    have hresult : Command.attempt lexer n = result := by rw [Command.attempt, hparse]
    have hmoved : Command.sourceAfter lexer (n + 1) = moved := by
      rw [Command.sourceAfter, hparse]
    rw [hparse] at hattempts
    rw [hmoved] at hrunning
    cases hattempts with
    | finished hrunning' hhalts =>
      obtain ⟨i, hi, keyword, hincomplete, hopened, hkind, hbetween, -⟩ :=
        hleaves hrunning' opener rfl
      refine ⟨i, by omega, keyword, hincomplete, hopened, hkind, ?_, ?_⟩
      · intro k hik hk
        rcases Nat.lt_succ_iff_lt_or_eq.mp hk with hk | rfl
        · exact hbetween k hik hk
        · exact hresult
      · rw [hmoved]
        refine hhalts.imp_right fun ⟨passed, hpassed⟩ => ⟨before ++ passed, ?_⟩
        rw [hbefore, hpassed, List.append_assoc]
    | lexical hstopped =>
      rw [hstopped] at hrunning
      cases hrunning
    | incomplete hkind hhalts =>
      refine ⟨n, Nat.lt_succ_self n, _, hresult, rfl, hkind, fun k hnk hk => by omega, ?_⟩
      rw [hmoved]
      refine hhalts.imp_right fun ⟨passed, hpassed⟩ => ?_
      -- The keyword itself has been passed before this end.
      obtain ⟨taken, ⟨more, hmore, -⟩, -⟩ := (Command.sourceAfter lexer n).passes_advance
      refine ⟨before ++ (more ++ passed), ?_⟩
      rw [hbefore, hmore, hpassed]
      simp only [List.append_assoc]

/-- No attempt finds a keyword with a wrong companion. -/
theorem Awaits.attempt_ne_mispaired (h : lexer.Awaits none) (n : Nat)
    (expected found : Token.Kind) :
    Command.attempt lexer n ≠ .failed (.mispaired expected found) := by
  obtain ⟨pending, hawaits, -⟩ := h.exists_left n
  obtain ⟨next, hattempts, -⟩ := hawaits.parse
  intro hmispaired
  rw [Command.attempt] at hmispaired
  generalize Command.parse (Command.sourceAfter lexer n) = outcome at hattempts hmispaired
  cases hattempts <;> cases hmispaired

/-- **A companion where a command should start completes a keyword that was left**, and comes after
an end of the input. -/
theorem Awaits.leaves_of_stray (h : lexer.Awaits none) {n : Nat} {found : Token}
    (hattempt : Command.attempt lexer n = .failed (.expectedCommand found)) :
    ∃ opener, lexer.Leaves n opener ∧ opener.Precedes found ∧
      (Command.sourceAfter lexer n).signals ≠ [] := by
  obtain ⟨pending, hawaits, hleaves⟩ := h.exists_left n
  obtain ⟨next, hattempts, -⟩ := hawaits.parse
  rw [Command.attempt] at hattempt
  generalize Command.parse (Command.sourceAfter lexer n) = outcome at hattempts hattempt
  cases hattempts with
  | @stray opener found' moved hrunning hmore hprecedes =>
    cases hattempt
    exact ⟨opener, hleaves hrunning opener rfl, hprecedes, hmore⟩
  | command => cases hattempt
  | finished => cases hattempt
  | lexical => cases hattempt
  | incomplete => cases hattempt

end Lexer

/-! ## Scanners -/

namespace Scanner

/-- The scanner after some scans. -/
def after {σ : Type} [TokenSource σ] (scanner : Scanner σ) : Nat → Scanner σ
  | 0 => scanner
  | n + 1 => (scanner.after n).scan.2

/-- A scanner that goes on is between two commands, and none reports a companion where a command
should start. -/
structure Pairs (scanner : Scanner Lexer) : Prop where
  awaits : scanner.finished = false → scanner.source.Awaits none
  error_ne : ∀ found, scanner.error ≠ some (.expectedCommand found)

theorem Pairs.scan {scanner : Scanner Lexer} (h : scanner.Pairs) : scanner.scan.2.Pairs := by
  unfold Scanner.scan
  split
  · exact h
  · rename_i hgoes
    obtain ⟨next, hattempts, hnext⟩ := (h.awaits (by simpa using hgoes)).parse
    -- Nothing waits before the attempt, so what it finds is no stray companion.
    generalize Command.parse scanner.source = outcome at hattempts hnext
    cases hattempts with
    | command => exact ⟨fun _ => hnext, h.error_ne⟩
    | finished => exact ⟨nofun, h.error_ne⟩
    | lexical => exact ⟨nofun, nofun⟩
    | incomplete => exact ⟨nofun, nofun⟩

theorem Pairs.after {scanner : Scanner Lexer} (h : scanner.Pairs) (n : Nat) :
    (scanner.after n).Pairs := by
  induction n with
  | zero => exact h
  | succ n ih => exact ih.scan

end Scanner

/-- **The tokens of every source come in pairs.** Whatever a source delivers, and however often the
lexer is asked to go on: keywords and companions come in turn, each companion on the line of its
keyword; a parser driven by the lexer never meets a wrong companion, and meets one where a command
should start only if it completes a keyword that an earlier attempt has left at an end of the input,
with nothing but such ends in between. A scanner, which stops at the first of them, never does. -/
theorem tokens_pair_up (deliveries : List Delivery) :
    (∀ n, Alternates ((Lexer.ofDeliveries deliveries).handedOut n)) ∧
    (∀ n, ∃ m, n ≤ m ∧ m ≤ 2 * n ∧
      Command.sourceAfter (Lexer.ofDeliveries deliveries) n =
        (Lexer.ofDeliveries deliveries).after m) ∧
    (∀ n expected found, Command.attempt (Lexer.ofDeliveries deliveries) n ≠
      .failed (.mispaired expected found)) ∧
    (∀ n found, Command.attempt (Lexer.ofDeliveries deliveries) n =
        .failed (.expectedCommand found) →
      ∃ i < n, ∃ keyword opener,
        Command.attempt (Lexer.ofDeliveries deliveries) i = .failed (.incomplete keyword) ∧
        (Command.sourceAfter (Lexer.ofDeliveries deliveries) i).advance.2.current = opener ∧
        opener.kind = .keyword keyword ∧
        (∀ k, i < k → k < n →
          Command.attempt (Lexer.ofDeliveries deliveries) k = .finished) ∧
        (∃ passed, charSignals deliveries = passed ++
          .ended :: (Command.sourceAfter (Lexer.ofDeliveries deliveries) n).signals) ∧
        found.kind = keyword.companion ∧ found.position.line = opener.position.line) ∧
    ∀ n found, (Scanner.after { source := Lexer.ofDeliveries deliveries } n).error ≠
      some (.expectedCommand found) := by
  have hawaits := Lexer.awaits_ofDeliveries deliveries
  refine ⟨fun n => (hawaits.alternates n).1, Lexer.exists_after_eq_sourceAfter _,
    hawaits.attempt_ne_mispaired, fun n found hattempt => ?_, fun n found => ?_⟩
  · obtain ⟨opener, ⟨i, hi, keyword, hincomplete, hopened, hkind, hbetween, hends⟩, hprecedes,
      hmore⟩ := hawaits.leaves_of_stray hattempt
    obtain ⟨hcompanion, hline⟩ := (Token.precedes_of_keyword hkind).mp hprecedes
    exact ⟨i, hi, keyword, opener, hincomplete, hopened, hkind, hbetween,
      hends.resolve_left hmore, hcompanion, hline⟩
  · have hpairs : Scanner.Pairs { source := Lexer.ofDeliveries deliveries } :=
      ⟨fun _ => hawaits, nofun⟩
    exact (hpairs.after n).error_ne found

/-- A source that delivers `ASK` and a space, twice reports an end, and then goes on with `hi`. -/
def resumingSource : List Delivery :=
  [.chunk [65, 83, 75, 32], .chunk [], .chunk [], .chunk [104, 105]]

/-- The prompt that comes after two ends is no command, and completes the keyword before them. -/
theorem tokens_pair_up_resuming :
    Command.attempt (Lexer.ofDeliveries resumingSource) 2 =
        .failed (.expectedCommand ⟨.prompt, "hi", ⟨1, 5⟩⟩) ∧
      ∃ i < 2, ∃ keyword opener,
        Command.attempt (Lexer.ofDeliveries resumingSource) i = .failed (.incomplete keyword) ∧
        (Command.sourceAfter (Lexer.ofDeliveries resumingSource) i).advance.2.current = opener ∧
        opener.kind = .keyword keyword ∧ keyword.companion = .prompt ∧
        opener.position.line = 1 := by
  have hstray : Command.attempt (Lexer.ofDeliveries resumingSource) 2 =
      .failed (.expectedCommand ⟨.prompt, "hi", ⟨1, 5⟩⟩) := by decide
  obtain ⟨i, hi, keyword, opener, hincomplete, hopened, hkind, -, -, hcompanion, hline⟩ :=
    (tokens_pair_up resumingSource).2.2.2.1 2 _ hstray
  exact ⟨hstray, i, hi, keyword, opener, hincomplete, hopened, hkind, hcompanion.symm, hline.symm⟩

end Dialogue
