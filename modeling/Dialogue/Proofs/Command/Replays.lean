import Dialogue.Proofs.Command.Protocol
import Dialogue.Proofs.Command.Tokens

/-!
# Replayed tokens

A replay hands out any tokens whatever, also such as no lexer makes: companions without a keyword,
ends of the input in the middle, a keyword after a keyword. A scan of a replay reads its tokens
from the left, a keyword and its companion at a time, up to the first token that is wrong or to
their end. The final error of the replay counts only there: it goes before an incomplete command,
and is not looked at when a token is wrong.

## Main definitions

* `ParseError.InTokens`: the error is found in a token, not where the tokens end

## Main results

* `Replay.drain_eq`: a replay hands out its tokens, and then its final error
* `Replay.exists_read`: a scan reads the tokens up to the one in which it finds an error, and no
  token behind it
* `replay_read_from_left`: a scan of a replay finds what is read off its tokens from the left
-/

namespace Dialogue

open TokenSource

/-- The error is found in a token. All other errors are found where the tokens end. -/
def ParseError.InTokens : ParseError → Prop
  | .expectedCommand _ => True
  | .mispaired _ _ => True
  | .lexical _ => False
  | .incomplete _ => False

namespace Replay

variable {replay : Replay} {token opener companion : Token} {tokens : List Token}
  {keyword : Keyword}

/-! ## The moves of a replay -/

theorem advance_of_cons (replay : Replay) (hrunning : replay.error = none)
    (hpending : replay.pending = token :: tokens) :
    TokenSource.advance replay = (true, { replay with pending := tokens, current := token }) := by
  change replay.advance = _
  simp only [advance, hrunning, hpending]

/-- Behind its tokens a replay has its final error, if any, and nothing to hand out. -/
theorem advance_of_nil (replay : Replay) (hrunning : replay.error = none)
    (hpending : replay.pending = []) :
    ∃ stopped, TokenSource.advance replay = (false, stopped) ∧ stopped.pending = [] ∧
      stopped.error = replay.finalError := by
  have hadvance : replay.advance = (false, { replay with
      error := replay.finalError
      finalError := none
      current := .endOfInput replay.current.position }) := by
    simp only [advance, hrunning, hpending]
  exact ⟨_, hadvance, hpending, rfl⟩

/-- A replay that hands out a token has no error yet. -/
theorem error_of_token {moved : Replay} (h : TokenSource.advance replay = (true, moved)) :
    TokenSource.error moved = none := by
  change replay.advance = _ at h
  unfold advance at h
  split at h
  · cases h
  · rename_i hrunning
    split at h
    · cases h
      exact hrunning
    · cases h

/-- **A replay hands out its tokens, and then its final error.** -/
theorem drain_eq (replay : Replay) (hrunning : replay.error = none) :
    (drain replay).1 = replay.pending ∧
      TokenSource.error (drain replay).2 = replay.finalError := by
  induction hpending : replay.pending generalizing replay with
  | nil =>
    obtain ⟨stopped, hadvance, -, herror⟩ := replay.advance_of_nil hrunning hpending
    rw [drain_of_stop hadvance]
    exact ⟨rfl, herror⟩
  | cons token tokens ih =>
    rw [drain_of_token (replay.advance_of_cons hrunning hpending)]
    obtain ⟨htokens, herror⟩ := ih { replay with pending := tokens, current := token } hrunning rfl
    exact ⟨congrArg (token :: ·) htokens, herror⟩

/-- A scan of a replay finds what is read off its tokens. -/
theorem scanAll_eq (replay : Replay) (hrunning : replay.error = none) :
    ((scanAll replay).1, (scanAll replay).2.1) = readTokens replay.finalError replay.pending := by
  obtain ⟨htokens, herror⟩ := replay.drain_eq hrunning
  rw [scanAll_eq_readTokens error_of_token, htokens, herror]

/-! ## Where a scan of a replay stops -/

/-- The tokens `read` decide what a scan of a replay finds, and `unread` are those behind them: all
of them have been read, or an error is found in the last one of `read`, which is then found whatever
comes behind it. -/
structure Decides (replay : Replay) (read unread : List Token) : Prop where
  pending_eq : replay.pending = read ++ unread
  unread_eq : (scanAll replay).2.2.pending = unread
  nothing_or_found : unread = [] ∨ ∃ error ∈ (scanAll replay).2.1, error.InTokens
  decides : ∀ error ∈ (scanAll replay).2.1, error.InTokens → ∀ (later : List Token) failure,
    readTokens failure (read ++ later) = ((scanAll replay).1, (scanAll replay).2.1)

theorem decides_of_end {error : Option ParseError} {stopped : Replay}
    (hscan : scanAll replay = ([], error, stopped)) (hstopped : stopped.pending = [])
    (herror : ∀ found ∈ error, ¬ found.InTokens) : Decides replay replay.pending [] where
  pending_eq := (List.append_nil _).symm
  unread_eq := by rw [hscan, hstopped]
  nothing_or_found := Or.inl rfl
  decides found hfound hin := by
    rw [hscan] at hfound
    exact absurd hin (herror found hfound)

theorem decides_of_error {read : List Token} {error : ParseError} {stopped : Replay}
    (hscan : scanAll replay = ([], some error, stopped)) (hin : error.InTokens)
    (hpending : replay.pending = read ++ stopped.pending)
    (hread : ∀ (later : List Token) failure,
      readTokens failure (read ++ later) = ([], some error)) :
    Decides replay read stopped.pending where
  pending_eq := hpending
  unread_eq := by rw [hscan]
  nothing_or_found := Or.inr ⟨error, by rw [hscan]; rfl, hin⟩
  decides _ _ _ later failure := by rw [hread, hscan]

/-- Without a token there is an end, or the final error. -/
theorem decides_of_nil (hrunning : replay.error = none) (hpending : replay.pending = []) :
    Decides replay replay.pending [] := by
  obtain ⟨stopped, hadvance, hstopped, -⟩ := replay.advance_of_nil hrunning hpending
  cases herror : TokenSource.error stopped with
  | none =>
    exact decides_of_end (scanAll_of_finished (Command.parse_of_end hadvance herror)) hstopped nofun
  | some failure =>
    exact decides_of_end (scanAll_of_failed (Command.parse_of_failure hadvance herror)) hstopped
      (by simp [ParseError.InTokens])

/-- A keyword behind which the tokens end is incomplete, unless there is a final error. -/
theorem decides_of_lone (hrunning : replay.error = none) (hpending : replay.pending = [opener])
    (hopener : opener.kind = .keyword keyword) : Decides replay replay.pending [] := by
  have hparse := Command.parse_of_keyword (replay.advance_of_cons hrunning hpending) hopener
  obtain ⟨stopped, hadvance, hstopped, -⟩ :=
    advance_of_nil { replay with pending := [], current := opener } hrunning rfl
  cases herror : TokenSource.error stopped with
  | none =>
    rw [Command.parseCompanion_of_end hadvance herror] at hparse
    exact decides_of_end (scanAll_of_failed hparse) hstopped (by simp [ParseError.InTokens])
  | some failure =>
    rw [Command.parseCompanion_of_failure hadvance herror] at hparse
    exact decides_of_end (scanAll_of_failed hparse) hstopped (by simp [ParseError.InTokens])

/-- A token that is no keyword opens no command. -/
theorem decides_of_stray (hrunning : replay.error = none)
    (hpending : replay.pending = token :: tokens) (hstray : token.kind.isKeyword = false) :
    Decides replay [token] tokens := by
  have hadvance := replay.advance_of_cons hrunning hpending
  exact decides_of_error
    (scanAll_of_failed (Command.parse_of_stray hadvance (error_of_token hadvance) hstray)) trivial
    hpending fun later failure => readTokens_of_stray hstray later

section Companion

variable (hrunning : replay.error = none)
  (hpending : replay.pending = opener :: companion :: tokens)
  (hopener : opener.kind = .keyword keyword)

include hrunning hpending hopener

/-- Behind a keyword, what the next token is decides about the command. -/
theorem exists_parse_of_two :
    ∃ opened, Command.parse replay = Command.parseCompanion keyword opened ∧
      TokenSource.advance opened =
        (true, { replay with pending := tokens, current := companion }) := by
  have hopened := replay.advance_of_cons hrunning hpending
  exact ⟨_, Command.parse_of_keyword hopened hopener, advance_of_cons _ hrunning rfl⟩

/-- A keyword is not completed by any other token than its companion. -/
theorem decides_of_other (hcompanion : companion.kind ≠ keyword.companion) :
    Decides replay [opener, companion] tokens := by
  obtain ⟨opened, hparse, hadvance⟩ := exists_parse_of_two hrunning hpending hopener
  rw [Command.parseCompanion_of_other hadvance hcompanion] at hparse
  exact decides_of_error (scanAll_of_failed hparse) trivial hpending
    fun later failure => readTokens_of_other hopener hcompanion later

/-- A keyword and its companion are a command, and what comes behind them decides the rest. -/
theorem decides_of_pair {read unread : List Token} (hcompanion : companion.kind = keyword.companion)
    (h : Decides { replay with pending := tokens, current := companion } read unread) :
    Decides replay (opener :: companion :: read) unread := by
  obtain ⟨opened, hparse, hadvance⟩ := exists_parse_of_two hrunning hpending hopener
  rw [Command.parseCompanion_of_companion hadvance hcompanion] at hparse
  have hscan := scanAll_of_command hparse
  have htokens : tokens = read ++ unread := h.pending_eq
  refine ⟨?_, ?_, ?_, ?_⟩
  · rw [hpending, htokens]
    rfl
  · rw [hscan]
    exact h.unread_eq
  · rw [hscan]
    exact h.nothing_or_found
  -- The error is found behind the pair, whatever comes after the tokens that are read.
  · intro error herror hin later failure
    rw [hscan] at herror ⊢
    rw [List.cons_append, List.cons_append, readTokens_of_pair hopener hcompanion,
      h.decides error herror hin]
    rfl

end Companion

/-- **A scan reads the tokens up to the one in which it finds an error**, and no token behind it. -/
theorem exists_read (replay : Replay) (hrunning : replay.error = none) :
    ∃ read unread, Decides replay read unread := by
  -- On the tokens that are left, of which each command uses up two.
  induction hleft : replay.pending.length using Nat.strongRecOn generalizing replay with
  | ind left ih =>
    rcases hpending : replay.pending with _ | ⟨opener, tokens⟩
    · exact ⟨_, _, decides_of_nil hrunning hpending⟩
    · cases hkeyword : opener.kind.isKeyword with
      | false => exact ⟨_, _, decides_of_stray hrunning hpending hkeyword⟩
      | true =>
        obtain ⟨keyword, hopener⟩ : ∃ keyword, opener.kind = .keyword keyword := by
          cases hkind : opener.kind <;> simp_all [Token.Kind.isKeyword]
        rcases tokens with _ | ⟨companion, tokens⟩
        · exact ⟨_, _, decides_of_lone hrunning hpending hopener⟩
        · by_cases hcompanion : companion.kind = keyword.companion
          · have hless : tokens.length < left := by
              rw [← hleft, hpending, List.length_cons, List.length_cons]
              omega
            obtain ⟨read, unread, hread⟩ := ih _ hless
              { replay with pending := tokens, current := companion } hrunning rfl
            exact ⟨_, _, decides_of_pair hrunning hpending hopener hcompanion hread⟩
          · exact ⟨_, _, decides_of_other hrunning hpending hopener hcompanion⟩

/-- A replay of tokens from the start, which ends with `failure` if there is one. -/
def ofTokens (tokens : List Token) (failure : Option LexError) : Replay :=
  { pending := tokens, finalError := failure }

/-- What a scan of replayed tokens finds. -/
def scanned (tokens : List Token) (failure : Option LexError) :
    List Command × Option ParseError :=
  ((scanAll (ofTokens tokens failure)).1, (scanAll (ofTokens tokens failure)).2.1)

theorem scanned_eq (tokens : List Token) (failure : Option LexError) :
    scanned tokens failure = readTokens failure tokens :=
  scanAll_eq (ofTokens tokens failure) rfl

end Replay

/-- **A scan of a replay finds what is read off its tokens from the left**, whatever tokens these
are, and a scanner shows the same, command by command. Unless it reads all tokens, it has found an
error in the last one that it reads, and finds the same whatever comes behind that token, and
whatever the error is on which the tokens end. -/
theorem replay_read_from_left (tokens : List Token) (failure : Option LexError) :
    Replay.scanned tokens failure = readTokens failure tokens ∧
    (∀ k, (Scanner.after { source := Replay.ofTokens tokens failure } (k + 1)).command =
        (readTokens failure tokens).1[k]? ∧
      (Scanner.after { source := Replay.ofTokens tokens failure } (k + 1)).error =
        if k < (readTokens failure tokens).1.length then none else (readTokens failure tokens).2) ∧
    ∃ read unread, tokens = read ++ unread ∧
      (scanAll (Replay.ofTokens tokens failure)).2.2.pending = unread ∧
      (unread = [] ∨ ∃ error ∈ (readTokens failure tokens).2, error.InTokens) ∧
      ∀ error ∈ (readTokens failure tokens).2, error.InTokens → ∀ later failure',
        Replay.scanned (read ++ later) failure' = readTokens failure tokens := by
  have hscanned := Replay.scanned_eq tokens failure
  have hgives := Command.gives_scanAll (Replay.ofTokens tokens failure)
  obtain ⟨read, unread, hread⟩ := (Replay.ofTokens tokens failure).exists_read rfl
  refine ⟨hscanned, fun k => ?_, read, unread, hread.pending_eq, hread.unread_eq, ?_, ?_⟩
  · obtain ⟨hstands, -⟩ := Scanner.Stands.after hgives k
    obtain ⟨-, hnext, hcommand, -⟩ := hstands.scan hgives
    rw [← hscanned]
    exact ⟨hcommand, hnext.error_eq⟩
  · rw [← hscanned]
    exact hread.nothing_or_found
  · rw [← hscanned]
    intro error herror hin later failure'
    rw [Replay.scanned_eq]
    exact hread.decides error herror hin later failure'

/-- A pair of each keyword, then a token that stands for the end of the input, and then another
keyword. -/
def tokensPastEnd : List Token :=
  [⟨.keyword .selectModel, "FROM", ⟨1, 1⟩⟩, ⟨.model, "m", ⟨1, 6⟩⟩,
    ⟨.keyword (.speak .system), "SYSTEM", ⟨2, 1⟩⟩, ⟨.prompt, "a", ⟨2, 8⟩⟩,
    ⟨.keyword (.speak .user), "ASK", ⟨3, 1⟩⟩, ⟨.prompt, "b", ⟨3, 5⟩⟩,
    ⟨.keyword (.speak .assistant), "ANSWER", ⟨4, 1⟩⟩, ⟨.prompt, "c", ⟨4, 8⟩⟩,
    ⟨.endOfInput, "", ⟨4, 9⟩⟩, ⟨.keyword .selectModel, "FROM", ⟨5, 1⟩⟩]

/-- A token that stands for the end of the input ends nothing. It is no keyword, and that is found
whatever comes behind it. -/
theorem replay_read_from_left_pastEnd :
    let commands : List Command := [.selectModel "m", .say ⟨.system, "a"⟩, .say ⟨.user, "b"⟩,
      .say ⟨.assistant, "c"⟩]
    let error := ParseError.expectedCommand ⟨.endOfInput, "", ⟨4, 9⟩⟩
    error.InTokens ∧
      Replay.scanned tokensPastEnd (some (.unexpectedEnd ⟨5, 5⟩)) = (commands, some error) ∧
      ∀ later failure, Replay.scanned (tokensPastEnd.take 9 ++ later) failure =
        (commands, some error) := by
  intro commands error
  obtain ⟨hscanned, -, read, unread, htokens, hunread, -, hdecides⟩ :=
    replay_read_from_left tokensPastEnd (some (.unexpectedEnd ⟨5, 5⟩))
  have hread : readTokens (some (.unexpectedEnd ⟨5, 5⟩)) tokensPastEnd =
      (commands, some error) := by decide
  have hlast : unread = tokensPastEnd.drop 9 := by
    rw [← hunread]
    decide +kernel
  have hfirst : read = tokensPastEnd.take 9 := by
    rw [hlast] at htokens
    exact List.append_cancel_right (htokens.symm.trans (List.take_append_drop 9 _).symm)
  rw [hread, hfirst] at hdecides
  exact ⟨trivial, hscanned.trans hread, hdecides _ rfl trivial⟩

end Dialogue
