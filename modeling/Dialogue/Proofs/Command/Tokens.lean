import Dialogue.Proofs.Grammar.Chatfile
import Dialogue.Proofs.Lexer.Positions

/-!
# Commands from tokens

There are two ways to drive a source of tokens to its stop: to collect its tokens, and to scan it
for commands. A scan moves the source twice for each command and stops at the first thing that is
wrong, so it need not come as far. Yet it finds what can be read off the tokens afterwards, from
left to right, once it is known on which error they stop.

The tokens of a text are keywords and companions in turn. So they fall into pairs, each a command,
and at most one keyword is left over.

## Main definitions

* `readTokens failure tokens`: the commands read off tokens, and the error after them
* `TokenPair`: a keyword and its companion, next to each other

## Main results

* `scanAll_eq_readTokens`: a scan finds what can be read off the tokens of the source
* `Lexer.exists_drain`: the tokens of a lexer are those of its moves up to the first without one
* `Alternates.exists_pairs`: tokens that come in turn fall into pairs
* `scan_reads_pairs`: the commands of a text are the pairs of its tokens, and its error is that of
  the lexer, or that a keyword is left over
-/

namespace Dialogue

open TokenSource

/-! ## Reading off tokens -/

/-- Reads commands off tokens, a keyword and its companion at a time. If nothing is wrong with the
tokens, the error is the one on which they stop, or that the last keyword has no companion. -/
def readTokens (failure : Option LexError) : List Token → List Command × Option ParseError
  | [] => ([], failure.map .lexical)
  | [opener] =>
    match opener.kind with
    | .keyword keyword => ([], some (failure.elim (.incomplete keyword) .lexical))
    | _ => ([], some (.expectedCommand opener))
  | opener :: companion :: tokens =>
    match opener.kind, companion.kind with
    | .keyword .selectModel, .model =>
      (.selectModel companion.content :: (readTokens failure tokens).1,
        (readTokens failure tokens).2)
    | .keyword (.speak role), .prompt =>
      (.say ⟨role, companion.content⟩ :: (readTokens failure tokens).1,
        (readTokens failure tokens).2)
    | .keyword .selectModel, found => ([], some (.mispaired .model found))
    | .keyword (.speak _), found => ([], some (.mispaired .prompt found))
    | _, _ => ([], some (.expectedCommand opener))

section Tokens

variable {failure : Option LexError} {opener companion : Token} {keyword : Keyword}

theorem readTokens_of_stray (h : opener.kind.isKeyword = false) (tokens : List Token) :
    readTokens failure (opener :: tokens) = ([], some (.expectedCommand opener)) := by
  have hkind : ∀ keyword, opener.kind ≠ .keyword keyword := by
    intro keyword hkeyword
    rw [hkeyword] at h
    cases h
  cases tokens <;> rw [readTokens] <;> split <;> simp_all

theorem readTokens_of_lone (h : opener.kind = .keyword keyword) :
    readTokens failure [opener] =
      ([], some (failure.elim (.incomplete keyword) .lexical)) := by
  simp only [readTokens, h]

theorem readTokens_of_pair (h : opener.kind = .keyword keyword)
    (hcompanion : companion.kind = keyword.companion) (tokens : List Token) :
    readTokens failure (opener :: companion :: tokens) =
      (keyword.command companion.content :: (readTokens failure tokens).1,
        (readTokens failure tokens).2) := by
  cases keyword <;> simp only [readTokens, h, hcompanion, Keyword.companion, Keyword.command]

theorem readTokens_of_other (h : opener.kind = .keyword keyword)
    (hcompanion : companion.kind ≠ keyword.companion) (tokens : List Token) :
    readTokens failure (opener :: companion :: tokens) =
      ([], some (.mispaired keyword.companion companion.kind)) := by
  cases keyword <;> rw [readTokens] <;> split <;> simp_all [Keyword.companion]

end Tokens

section Source

variable {σ : Type} [TokenSource σ] {source moved : σ}

theorem drain_of_token (h : advance source = (true, moved)) :
    drain source = (current moved :: (drain moved).1, (drain moved).2) := by
  rw [drain]
  simp [h]

theorem drain_of_stop (h : advance source = (false, moved)) : drain source = ([], moved) := by
  rw [drain]
  simp [h]

theorem Command.parseCompanion_of_other {keyword : Keyword} (h : advance source = (true, moved))
    (hkind : (current moved).kind ≠ keyword.companion) :
    parseCompanion keyword source =
      (.failed (.mispaired keyword.companion (current moved).kind), moved) := by
  simp only [parseCompanion, h, hkind, if_false]

/-- **A scan finds what can be read off the tokens of the source**, if no token leaves the source
with an error. -/
theorem scanAll_eq_readTokens
    (hquiet : ∀ {source moved : σ}, advance source = (true, moved) → error moved = none)
    (source : σ) :
    ((scanAll source).1, (scanAll source).2.1) =
      readTokens (error (drain source).2) (drain source).1 := by
  -- On the tokens that are left, of which each command uses up some.
  induction hleft : remaining source using Nat.strongRecOn generalizing source with
  | ind left ih =>
    rcases hadvance : advance source with ⟨more, opened⟩
    cases more with
    | false =>
      rw [drain_of_stop hadvance]
      cases herror : error opened with
      | none =>
        rw [scanAll_of_finished (Command.parse_of_end hadvance herror)]
        rfl
      | some failure =>
        rw [scanAll_of_failed (Command.parse_of_failure hadvance herror)]
        rfl
    | true =>
      rw [drain_of_token hadvance]
      by_cases hkeyword : (current opened).kind.isKeyword = true
      · obtain ⟨keyword, hkind⟩ : ∃ keyword, (current opened).kind = .keyword keyword := by
          cases hkind : (current opened).kind <;> simp_all [Token.Kind.isKeyword]
        have hparse := Command.parse_of_keyword hadvance hkind
        rcases hadvance' : advance opened with ⟨more, completed⟩
        cases more with
        | false =>
          -- The source stops after a keyword, and its own error goes first.
          rw [drain_of_stop hadvance', readTokens_of_lone hkind]
          cases herror : error completed with
          | none =>
            rw [Command.parseCompanion_of_end hadvance' herror] at hparse
            rw [scanAll_of_failed hparse]
            rfl
          | some failure =>
            rw [Command.parseCompanion_of_failure hadvance' herror] at hparse
            rw [scanAll_of_failed hparse]
            rfl
        | true =>
          rw [drain_of_token hadvance']
          by_cases hcompanion : (current completed).kind = keyword.companion
          · rw [Command.parseCompanion_of_companion hadvance' hcompanion] at hparse
            have hless := Command.remaining_parse hparse
            rw [scanAll_of_command hparse, readTokens_of_pair hkind hcompanion,
              ← ih _ (hleft ▸ hless) completed rfl]
          · rw [Command.parseCompanion_of_other hadvance' hcompanion] at hparse
            rw [scanAll_of_failed hparse, readTokens_of_other hkind hcompanion]
      · have hstray : (current opened).kind.isKeyword = false := by simpa using hkeyword
        rw [scanAll_of_failed (Command.parse_of_stray hadvance (hquiet hadvance) hstray),
          readTokens_of_stray hstray]

end Source

/-! ## The tokens of a lexer -/

namespace Lexer

variable {lexer moved : Lexer}

theorem after_succ (lexer : Lexer) (n : Nat) : lexer.after (n + 1) = lexer.advance.2.after n := by
  induction n with
  | zero => rfl
  | succ n ih => rw [after, ih, after]

/-- A first token comes before those of the moves after it. -/
theorem handedOut_cons (h : lexer.advance = (true, moved)) (n : Nat) :
    lexer.handedOut (n + 1) = moved.current :: moved.handedOut n := by
  induction n with
  | zero => exact handedOut_of_token (n := 0) h
  | succ n ih =>
    rw [handedOut, ih, after_succ lexer n, after_succ lexer (n + 1), h, handedOut]
    split <;> rfl

/-- **The tokens of a lexer are those of its moves** up to the first one that hands out nothing,
which is no earlier than an error. -/
theorem exists_drain (lexer : Lexer) : ∃ n stopped,
    (lexer.after n).advance = (false, stopped) ∧ drain lexer = (lexer.handedOut n, stopped) ∧
      (lexer.error = none → (lexer.after n).error = none) := by
  -- A token leaves fewer signals behind it, which is what the induction is on.
  induction hleft : remaining lexer using Nat.strongRecOn generalizing lexer with
  | ind left ih =>
    rcases hadvance : lexer.advance with ⟨more, moved⟩
    cases more with
    | false => exact ⟨0, moved, hadvance, drain_of_stop hadvance, id⟩
    | true =>
      have hless : remaining moved < remaining lexer := by
        have hmore := lexer.length_signals_advance (by rw [hadvance])
        rwa [hadvance] at hmore
      obtain ⟨n, stopped, hstopped, hdrain, hrunning⟩ := ih _ (hleft ▸ hless) moved rfl
      have hafter : lexer.after (n + 1) = moved.after n := by rw [after_succ, hadvance]
      refine ⟨n + 1, stopped, hafter ▸ hstopped, ?_, fun _ => ?_⟩
      · rw [drain_of_token hadvance, hdrain, handedOut_cons hadvance]
        rfl
      · rw [hafter]
        exact hrunning (running_of_token hadvance).2.1

/-- The tokens of a lexer between two commands come in turn. -/
theorem Awaits.alternates_drain (h : lexer.Awaits none) : Alternates (drain lexer).1 := by
  obtain ⟨n, stopped, -, hdrain, -⟩ := lexer.exists_drain
  rw [hdrain]
  exact (h.alternates n).1

end Lexer

/-! ## Tokens in pairs -/

/-- A keyword and its companion, next to each other among tokens. -/
structure TokenPair where
  keyword : Keyword
  opener : Token
  companion : Token
  completes : companion.kind =
    match keyword with
    | .selectModel => .model
    | .speak _ => .prompt
  opens : opener.kind = .keyword keyword

namespace TokenPair

/-- The two tokens. -/
def tokens (pair : TokenPair) : List Token :=
  [pair.opener, pair.companion]

/-- The command that the two tokens make. -/
def command (pair : TokenPair) : Command :=
  match pair.keyword with
  | .selectModel => .selectModel pair.companion.content
  | .speak role => .say ⟨role, pair.companion.content⟩

theorem kind_companion (pair : TokenPair) : pair.companion.kind = pair.keyword.companion := by
  rw [pair.completes]
  cases pair.keyword <;> rfl

theorem command_eq (pair : TokenPair) :
    pair.command = pair.keyword.command pair.companion.content := by
  rw [command]
  cases pair.keyword <;> rfl

theorem length_flatMap_tokens (pairs : List TokenPair) :
    (pairs.flatMap tokens).length = 2 * pairs.length := by
  induction pairs with
  | nil => rfl
  | cons pair pairs ih =>
    rw [List.flatMap_cons, List.length_append, ih, List.length_cons]
    simp only [tokens, List.length_cons, List.length_nil]
    omega

end TokenPair

/-- What is left over when tokens fall into pairs: nothing, or a keyword. -/
inductive LeftOver : List Token → Prop
  | nothing : LeftOver []
  | opener {opener : Token} {keyword : Keyword} (opens : opener.kind = .keyword keyword) :
      LeftOver [opener]

/-- Pairs are read off as their commands, whatever comes after them. -/
theorem readTokens_pairs (failure : Option LexError) (pairs : List TokenPair)
    (rest : List Token) :
    readTokens failure (pairs.flatMap TokenPair.tokens ++ rest) =
      (pairs.map TokenPair.command ++ (readTokens failure rest).1,
        (readTokens failure rest).2) := by
  induction pairs with
  | nil => rfl
  | cons pair pairs ih =>
    rw [List.flatMap_cons, List.append_assoc, TokenPair.tokens, List.cons_append,
      List.cons_append, List.nil_append, readTokens_of_pair pair.opens pair.kind_companion, ih,
      ← pair.command_eq, List.map_cons, List.cons_append]

/-- What is left over makes no command. -/
theorem LeftOver.readTokens_fst {tokens : List Token} (h : LeftOver tokens)
    (failure : Option LexError) : (readTokens failure tokens).1 = [] := by
  cases h with
  | nothing => rfl
  | opener hkind => rw [readTokens_of_lone hkind]

/-- Behind a pair, tokens come in turn as before it. -/
theorem Alternates.of_pair {opener companion : Token} {tokens : List Token}
    (h : Alternates (opener :: companion :: tokens)) :
    Alternates tokens ∧ ∃ keyword, opener.kind = .keyword keyword ∧
      companion.kind = keyword.companion := by
  obtain ⟨hprecedes, hchain⟩ := List.isChain_cons_cons.mp h.chain
  obtain ⟨keyword, hkind⟩ : ∃ keyword, opener.kind = .keyword keyword := by
    have hopens := h.opens opener rfl
    cases hkind : opener.kind <;> simp_all [Token.Kind.isKeyword]
  obtain ⟨hcompanion, -⟩ := (Token.precedes_of_keyword hkind).mp hprecedes
  refine ⟨⟨hchain.tail, ?_, ?_⟩, keyword, hkind, hcompanion⟩
  · -- What comes after a companion is a keyword.
    intro first hfirst
    obtain ⟨rest, rfl⟩ : ∃ rest, tokens = first :: rest := by
      cases tokens <;> simp_all
    have hnext := (List.isChain_cons_cons.mp hchain).1
    rw [Token.Precedes, hcompanion] at hnext
    cases keyword <;> exact hnext
  · intro token hmem
    exact h.kinds token (List.mem_cons_of_mem _ (List.mem_cons_of_mem _ hmem))

/-- **Tokens that come in turn fall into pairs**, and at most a keyword is left over. -/
theorem Alternates.exists_pairs {tokens : List Token} (h : Alternates tokens) :
    ∃ pairs rest, tokens = List.flatMap TokenPair.tokens pairs ++ rest ∧ LeftOver rest := by
  -- Two tokens make a pair, and a single one is a keyword that is left over.
  induction tokens using List.twoStepInduction with
  | nil => exact ⟨[], [], rfl, .nothing⟩
  | singleton opener =>
    have hopens := h.opens opener rfl
    cases hkind : opener.kind with
    | keyword keyword => exact ⟨[], [opener], rfl, .opener hkind⟩
    | _ => simp_all [Token.Kind.isKeyword]
  | cons_cons opener companion tokens ih _ =>
    obtain ⟨htokens, keyword, hkind, hcompanion⟩ := h.of_pair
    obtain ⟨pairs, rest, hpairs, hrest⟩ := ih htokens
    refine ⟨⟨keyword, opener, companion, ?_, hkind⟩ :: pairs, rest, ?_, hrest⟩
    · rw [hcompanion]
      cases keyword <;> rfl
    · rw [List.flatMap_cons, List.append_assoc, ← hpairs]
      rfl

/-- The commands of a text are read off its tokens. -/
theorem commandsOf_eq_readTokens (text : String) :
    commandsOf text = readTokens (tokensOf text).2 (tokensOf text).1 :=
  scanAll_eq_readTokens (fun h => (Lexer.running_of_token h).2.1) (Lexer.ofText text)

/-- **A scan reads the tokens of a text in pairs.** The tokens fall into pairs, and at most a
keyword is left over. The commands are those of the pairs, in order. The error is the one on which
the tokens stop. If they stop without one, then no error is found if their number is even, and if
it is odd the last of them is a keyword, which is reported as incomplete. -/
theorem scan_reads_pairs (text : String) :
    ∃ (pairs : List TokenPair) (rest : List Token),
      (tokensOf text).1 = pairs.flatMap TokenPair.tokens ++ rest ∧ LeftOver rest ∧
      (commandsOf text).1 = pairs.map TokenPair.command ∧
      (∀ failure, (tokensOf text).2 = some failure →
        (commandsOf text).2 = some (.lexical failure)) ∧
      ((tokensOf text).2 = none → (tokensOf text).1.length % 2 = 0 →
        (commandsOf text).2 = none) ∧
      ((tokensOf text).2 = none → (tokensOf text).1.length % 2 = 1 →
        ∃ last keyword, (tokensOf text).1.getLast? = some last ∧ last.kind = .keyword keyword ∧
          (commandsOf text).2 = some (.incomplete keyword)) := by
  have halternates : Alternates (tokensOf text).1 := (Lexer.awaits_ofText text).alternates_drain
  -- What is behind the pairs is nothing or a lone keyword, and the parity of the length says which.
  obtain ⟨pairs, rest, htokens, hrest⟩ := halternates.exists_pairs
  have hlength : (tokensOf text).1.length = 2 * pairs.length + rest.length := by
    rw [htokens, List.length_append, TokenPair.length_flatMap_tokens]
  rw [commandsOf_eq_readTokens, hlength]
  refine ⟨pairs, rest, htokens, hrest, ?_⟩
  rw [htokens, readTokens_pairs]
  cases hrest with
  | nothing =>
    refine ⟨List.append_nil _, ?_, ?_, ?_⟩
    · intro failure hfailure
      rw [hfailure]
      rfl
    · intro hnone _
      rw [hnone]
      rfl
    · intro _ hodd
      rw [List.length_nil] at hodd
      omega
  | @opener opener keyword hkind =>
    rw [readTokens_of_lone hkind]
    refine ⟨List.append_nil _, ?_, ?_, ?_⟩
    · intro failure hfailure
      rw [hfailure]
      rfl
    · intro _ heven
      rw [List.length_singleton] at heven
      omega
    · intro hnone _
      rw [hnone]
      exact ⟨opener, keyword, List.getLast?_concat, hkind, rfl⟩

/-- A pair of each keyword, and a keyword that is left over. -/
theorem scan_reads_pairs_leftOver :
    let text := "FROM m\nSYSTEM a\nASK b\nANSWER c\nASK"
    (tokensOf text).2 = none ∧ (tokensOf text).1.length % 2 = 1 ∧
      (commandsOf text).1 = [.selectModel "m", .say ⟨.system, "a"⟩, .say ⟨.user, "b"⟩,
        .say ⟨.assistant, "c"⟩] ∧
      (commandsOf text).2 = some (.incomplete (.speak .user)) := by
  intro text
  have htokens : tokensOf text =
      ([⟨.keyword .selectModel, "FROM", ⟨1, 1⟩⟩, ⟨.model, "m", ⟨1, 6⟩⟩,
        ⟨.keyword (.speak .system), "SYSTEM", ⟨2, 1⟩⟩, ⟨.prompt, "a", ⟨2, 8⟩⟩,
        ⟨.keyword (.speak .user), "ASK", ⟨3, 1⟩⟩, ⟨.prompt, "b", ⟨3, 5⟩⟩,
        ⟨.keyword (.speak .assistant), "ANSWER", ⟨4, 1⟩⟩, ⟨.prompt, "c", ⟨4, 8⟩⟩,
        ⟨.keyword (.speak .user), "ASK", ⟨5, 1⟩⟩], none) := by decide +kernel
  obtain ⟨pairs, rest, hpairs, hrest, hcommands, -, -, hodd⟩ := scan_reads_pairs text
  rw [htokens] at hpairs hodd ⊢
  obtain ⟨last, keyword, hlast, hkind, herror⟩ := hodd rfl rfl
  cases hlast
  cases hkind
  -- The commands of the pairs are read off the tokens, and so are known from these.
  have hread := readTokens_pairs none pairs rest
  rw [← hpairs, hrest.readTokens_fst, List.append_nil, ← hcommands] at hread
  exact ⟨rfl, rfl, (congrArg Prod.fst hread).symm, herror⟩

end Dialogue
