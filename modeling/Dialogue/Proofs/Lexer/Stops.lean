import Dialogue.Proofs.Lexer.Lexemes

/-!
# Where a lexer stops

A move that hands out nothing leaves a token behind that says why: an end of the input, or the word
or the place on which the lexer has stopped. After an end of the input the lexer goes on as soon as
its source does. An error is for good: no request changes it, nor the token behind it, nor what has
not been read.

A lexer is also an iterator over its tokens, and both ways to ask for a token may be mixed. The
iterator hands out what a move in its place would, and the error once, also if it was a move that
has met it.

## Main definitions

* `StopsAt error token`: the token tells the error on which a lexer has stopped, or that there is
  none
* `Lexer.NextWord signals letters`: the first word of some signals
* `Lexer.Request`, `Lexer.askAll`: the two ways to ask for a token, and the lexer after some of them
* `Lexer.HasReturned requests`: a call of the iterator has come back with an error

## Main results

* `Lexer.stopping_advance`: a move that hands out nothing leaves the token that tells why
* `Lexer.nextWord_of_unknown`: an unknown token is the next word, letter by letter
* `Lexer.askAll_of_error`: an error is for good
* `Lexer.reported_askAll_iff`: when the iterator has handed out the error
* `lexer_stop_state`: how a lexer stops, whatever it has been asked
-/

namespace Dialogue

/-- The token that a lexer has in the place of one to hand out. At an end of the input, and where a
block has ended too early, it is an end of the input; where a word is unknown, it is that word; and
for all other errors it is unknown and has no content. It is where the error is, if that is
somewhere. -/
def StopsAt : Option LexError → Token → Prop
  | none, token => token.kind = .endOfInput ∧ token.content = ""
  | some (.unexpectedEnd position), token => token = ⟨.endOfInput, "", position⟩
  | some (.unknownToken word position), token => token = ⟨.unknown, word, position⟩
  | some (.expectedPrompt position), token => token = ⟨.unknown, "", position⟩
  | some (.expectedModel position), token => token = ⟨.unknown, "", position⟩
  | some (.unreadable _), token => token.kind = .unknown ∧ token.content = ""

namespace Lexer

variable {lexer moved stopped : Lexer} {error : LexError} {start : Position}

/-! ## The token behind a move without one -/

/-- If nothing has been handed out, the current token tells why. -/
def Stopping (outcome : Bool × Lexer) : Prop :=
  outcome.1 = false → StopsAt outcome.2.error outcome.2.current

theorem stopping_emit (lexer : Lexer) (token : Token) (expecting : Expecting) :
    Stopping (lexer.emit token expecting) :=
  nofun

theorem stopping_unreadable (lexer : Lexer) (failure : ReadError) (start : Position) :
    Stopping (lexer.fail (.unreadable failure) start) :=
  fun _ => ⟨rfl, rfl⟩

theorem stopping_unknownToken (lexer : Lexer) (word : String) (start : Position) :
    Stopping (lexer.fail (.unknownToken word start) start) :=
  fun _ => rfl

theorem stopping_expectedPrompt (lexer : Lexer) (start : Position) :
    Stopping (lexer.fail (.expectedPrompt start) start) :=
  fun _ => rfl

/-- An end that comes too early is told where it is, not where the prompt has started. -/
theorem stopping_unexpectedEnd (lexer : Lexer) (place start : Position) :
    Stopping (lexer.fail (.unexpectedEnd place) start) :=
  fun _ => rfl

/-- A misplaced companion is told where it starts. -/
theorem stopping_misplaced? (h : lexer.misplaced? start = some error) (moved : Lexer) :
    Stopping (moved.fail error start) := by
  unfold misplaced? at h
  split at h
  · cases h
  · split at h
    · cases h
    · cases h
      exact fun _ => rfl
    · cases h
      exact stopping_expectedPrompt moved start

theorem stopping_readKeyword (lexer : Lexer) : Stopping lexer.readKeyword := by
  unfold readKeyword
  dsimp only
  split
  · exact stopping_unreadable _ _ _
  · split
    · exact stopping_emit _ _ _
    · exact stopping_unknownToken _ _ _

theorem stopping_readModel (lexer : Lexer) : Stopping lexer.readModel := by
  unfold readModel
  dsimp only
  split
  · exact stopping_unreadable _ _ _
  · exact stopping_emit _ _ _

theorem stopping_readBlockPrompt (lexer : Lexer) (start : Position) :
    Stopping (lexer.readBlockPrompt start) := by
  unfold readBlockPrompt
  dsimp only
  split
  · exact stopping_unreadable _ _ _
  · split
    · exact stopping_unexpectedEnd _ _ _
    · exact stopping_emit _ _ _
  · split
    · exact stopping_expectedPrompt _ _
    · exact stopping_emit _ _ _

theorem stopping_readPrompt (lexer : Lexer) : Stopping lexer.readPrompt := by
  unfold readPrompt
  dsimp only
  split
  · exact stopping_unreadable _ _ _
  · split
    · exact stopping_expectedPrompt _ _
    · exact stopping_readBlockPrompt _ _
    · exact stopping_emit _ _ _

theorem stopping_readExpected (lexer : Lexer) : Stopping lexer.readExpected := by
  unfold readExpected
  split
  · exact stopping_readKeyword lexer
  · exact stopping_readModel lexer
  · exact stopping_readPrompt lexer

/-- A lexer that has stopped on an error has the token that tells it. -/
def Settled (lexer : Lexer) : Prop :=
  lexer.error ≠ none → StopsAt lexer.error lexer.current

/-- **A move that hands out nothing leaves the token that tells why.** -/
theorem stopping_advance (h : lexer.Settled) : Stopping lexer.advance := by
  unfold advance
  split
  · rename_i herror
    exact fun _ => h (by simp [herror])
  · rename_i hrunning
    dsimp only
    split
    · exact stopping_unreadable _ _ _
    · split
      · exact stopping_misplaced? ‹_› _
      · -- A clean end; nothing else than the current token has changed.
        intro _
        change StopsAt lexer.error _
        rw [hrunning]
        exact ⟨rfl, rfl⟩
    · split
      · exact stopping_misplaced? ‹_› _
      · exact stopping_readExpected _

theorem error_of_token (h : lexer.advance.1 = true) : lexer.advance.2.error = none :=
  (running_of_token (Prod.ext h rfl)).2.1

theorem settled_advance (h : lexer.Settled) : lexer.advance.2.Settled := by
  intro herror
  refine stopping_advance h ?_
  rw [← Bool.not_eq_true]
  exact fun hmore => herror (error_of_token hmore)

/-! ## The word behind an unknown token -/

/-- The first word of some signals, after blanks: all characters up to a blank, or to a signal that
is no character. -/
def NextWord (signals : List (Signal Char)) (letters : List Char) : Prop :=
  ∃ blanks after, signals = (blanks ++ letters).map .item ++ after ∧ IsGap blanks ∧
    IsWord letters ∧ ∀ c, after.head? = some (.item c) → Text.isBlank c = true

/-- A run that could be read goes on up to a signal that is no accepted character. -/
theorem exists_after_span (accept : Char → Bool) (signals : List (Signal Char))
    (hread : ∀ failure, (span accept signals).halt ≠ .failed failure) :
    ∃ after, signals = (span accept signals).taken.map .item ++ after ∧
      ∀ c, after.head? = some (.item c) → accept c = false := by
  have hcovers := span_covers accept signals
  unfold Span.Covers at hcovers
  split at hcovers
  · rename_i hhalt
    obtain ⟨refused, tail, hrefused, hrest⟩ := span_rest_of_refused hhalt
    refine ⟨_, hcovers, ?_⟩
    rw [hrest]
    rintro c ⟨⟩
    exact hrefused
  · rcases hcovers with ⟨hsignals, -⟩ | hsignals
    · exact ⟨[], by simpa using hsignals, nofun⟩
    · exact ⟨_, hsignals, nofun⟩
  · exact absurd ‹_› (hread _)

/-- In the place of a keyword, the unknown token is the word there. -/
theorem nextWord_of_readKeyword {c : Char} {rest : List (Signal Char)} {unknown : String}
    {position : Position} (hrunning : lexer.error = none)
    (hsignals : lexer.signals = .item c :: rest) (hc : Text.isBlank c = false)
    (h : lexer.readKeyword.2.error = some (.unknownToken unknown position)) :
    NextWord lexer.signals unknown.toList := by
  have hread : ∀ failure, (word lexer.signals).halt ≠ .failed failure := by
    intro failure hfailed
    unfold readKeyword at h
    dsimp only at h
    rw [hfailed] at h
    cases h
  obtain ⟨after, hafter, hblank⟩ := exists_after_span (!Text.isBlank ·) lexer.signals hread
  rw [toList_of_unknown_keyword hrunning h]
  refine ⟨[], after, hafter, isGap_nil, isWord_word_taken hsignals hc, ?_⟩
  intro d hd
  simpa using hblank d hd

theorem NextWord.gap {signals : List (Signal Char)} {letters blanks : List Char}
    (h : NextWord signals letters) (hblanks : IsGap blanks) :
    NextWord (blanks.map .item ++ signals) letters := by
  obtain ⟨more, after, rfl, hmore, hword, hafter⟩ := h
  exact ⟨blanks ++ more, after, by simp, isGap_append.mpr ⟨hblanks, hmore⟩, hword, hafter⟩

/-- **An unknown token is the next word**, letter by letter. -/
theorem nextWord_of_unknown {unknown : String} {position : Position}
    (hrunning : lexer.error = none)
    (h : lexer.advance.2.error = some (.unknownToken unknown position)) :
    NextWord lexer.signals unknown.toList := by
  have hgap : IsGap (gap lexer.signals).taken := span_accepts Text.isBlank lexer.signals
  have hcovers := span_covers Text.isBlank lexer.signals
  rw [← gap] at hcovers
  unfold Span.Covers at hcovers
  unfold advance at h
  rw [hrunning] at h
  dsimp only at h
  split at h
  · cases h
  · split at h
    · rename_i hplace
      exact absurd (hplace.trans h) misplaced?_ne_unknown
    · cases hrunning.symm.trans h
  · rename_i hhalt
    rw [hhalt] at hcovers
    obtain ⟨c, rest, hc, hrest⟩ := span_rest_of_refused hhalt
    split at h
    · rename_i hplace
      exact absurd (hplace.trans h) misplaced?_ne_unknown
    · -- Only a keyword can be unknown.
      rw [hcovers]
      refine NextWord.gap ?_ hgap
      have hmoved : (lexer.consume (gap lexer.signals).taken (gap lexer.signals).rest).error =
          none := hrunning
      unfold readExpected at h
      split at h
      · exact nextWord_of_readKeyword hmoved hrest hc h
      · exact absurd h (readModel_ne_unknown hmoved)
      · exact absurd h (readPrompt_ne_unknown hmoved)

theorem advance_of_error (h : lexer.error = some error) : lexer.advance = (false, lexer) := by
  simp only [advance, h]

/-! ## The iterator -/

theorem next?_of_token (h : lexer.advance = (true, moved)) :
    lexer.next? = (some (.ok moved.current), moved) := by
  simp only [next?, h]

theorem next?_of_end (h : lexer.advance = (false, stopped)) (herror : stopped.error = none) :
    lexer.next? = (none, stopped) := by
  simp only [next?, h, herror]

/-- The first call that comes to an error hands it out. -/
theorem next?_of_error (h : lexer.advance = (false, stopped))
    (herror : stopped.error = some error) :
    lexer.next? = (if stopped.reported then none else some (.error error),
      { stopped with reported := true }) := by
  cases hreported : stopped.reported with
  | false => simp only [next?, h, herror, hreported, Bool.false_eq_true, if_false]
  | true =>
    simp only [next?, h, herror, hreported, if_true]
    rw [← hreported, ← herror]

/-- A call of the iterator leaves the lexer that a move in its place would, but for the mark that
the error has been handed out. -/
theorem next?_snd (lexer : Lexer) :
    lexer.next?.2 = { lexer.advance.2 with
      reported := lexer.advance.2.reported || lexer.advance.2.error.isSome } := by
  rcases hadvance : lexer.advance with ⟨more, moved⟩
  cases more with
  | true =>
    rw [next?_of_token hadvance, (running_of_token hadvance).2.1]
    simp
  | false =>
    cases herror : moved.error with
    | none =>
      rw [next?_of_end hadvance herror]
      simp
    | some error =>
      rw [next?_of_error hadvance herror]
      simp

theorem reported_advance (lexer : Lexer) : lexer.advance.2.reported = lexer.reported := by
  have hadvances := lexer.advances
  generalize lexer.advance = outcome at hadvances ⊢
  cases hadvances <;> rfl

/-- What a call of the iterator gives is decided by a move in its place, and by what has been
handed out. -/
theorem next?_fst (lexer : Lexer) :
    lexer.next?.1 =
      if lexer.advance.1 then some (.ok lexer.advance.2.current)
      else if lexer.reported then none
      else lexer.advance.2.error.map .error := by
  have hsame := lexer.reported_advance
  rcases hadvance : lexer.advance with ⟨more, moved⟩
  rw [hadvance] at hsame
  cases more with
  | true =>
    rw [next?_of_token hadvance]
    rfl
  | false =>
    cases herror : moved.error with
    | none =>
      rw [next?_of_end hadvance herror]
      simp
    | some error =>
      rw [next?_of_error hadvance herror, ← hsame]
      simp

theorem next?_eq_ok_iff (lexer : Lexer) (token : Token) :
    lexer.next?.1 = some (.ok token) ↔
      lexer.advance.1 = true ∧ lexer.advance.2.current = token := by
  rw [next?_fst]
  split
  · simp [*]
  · rename_i hmore
    refine iff_of_false ?_ fun h => hmore h.1
    split
    · nofun
    · simp

theorem next?_eq_error_iff (lexer : Lexer) (error : LexError) :
    lexer.next?.1 = some (.error error) ↔
      lexer.next?.2.error = some error ∧ lexer.reported = false := by
  rw [next?_fst, next?_snd]
  split
  · rename_i hmore
    have hnone : lexer.advance.2.error = none := error_of_token hmore
    simp [hnone]
  · split
    · simp [*]
    · rename_i hreported
      simp [hreported]

/-! ## Requests in a row -/

/-- The two ways to ask a lexer for a token. -/
inductive Request where
  /-- Moves to the next token. -/
  | advance
  /-- Calls the lexer as an iterator. -/
  | next

/-- The lexer after a request. -/
def ask (lexer : Lexer) : Request → Lexer
  | .advance => lexer.advance.2
  | .next => lexer.next?.2

/-- The lexer after some requests, in order. -/
def askAll (lexer : Lexer) (requests : List Request) : Lexer :=
  requests.foldl ask lexer

theorem askAll_append (lexer : Lexer) (requests more : List Request) :
    lexer.askAll (requests ++ more) = (lexer.askAll requests).askAll more :=
  List.foldl_append

theorem askAll_concat (lexer : Lexer) (requests : List Request) (request : Request) :
    lexer.askAll (requests ++ [request]) = (lexer.askAll requests).ask request := by
  rw [askAll_append]
  rfl

/-- Either request leaves the lexer of a move, but for the mark of the iterator. -/
theorem exists_ask_eq (lexer : Lexer) (request : Request) :
    ∃ reported, lexer.ask request = { lexer.advance.2 with reported } := by
  cases request with
  | advance => exact ⟨lexer.advance.2.reported, rfl⟩
  | next => exact ⟨_, lexer.next?_snd⟩

theorem Settled.ask (h : lexer.Settled) (request : Request) : (lexer.ask request).Settled := by
  obtain ⟨reported, hask⟩ := lexer.exists_ask_eq request
  rw [hask]
  exact settled_advance h

theorem Settled.askAll (h : lexer.Settled) (requests : List Request) :
    (lexer.askAll requests).Settled := by
  induction requests generalizing lexer with
  | nil => exact h
  | cons request requests ih => exact ih (h.ask request)

/-- **An error is for good**: whatever is asked then, nothing changes but the mark that the error
has been handed out. -/
theorem askAll_of_error (h : lexer.error = some error) (requests : List Request) :
    ∃ reported, lexer.askAll requests = { lexer with reported } := by
  induction requests using List.reverseRecOn with
  | nil => exact ⟨lexer.reported, rfl⟩
  | append_singleton requests request ih =>
    obtain ⟨marked, hall⟩ := ih
    have hstopped : (lexer.askAll requests).error = some error := by rw [hall, h]
    obtain ⟨reported, hask⟩ := (lexer.askAll requests).exists_ask_eq request
    rw [askAll_concat, hask, advance_of_error hstopped, hall]
    exact ⟨reported, rfl⟩

/-- One of the requests was a call of the iterator that has come back with an error. -/
def HasReturned (lexer : Lexer) (requests : List Request) : Prop :=
  ∃ earlier, earlier ++ [.next] <+: requests ∧ (lexer.askAll (earlier ++ [.next])).error ≠ none

/-- A lexer of which a call of the iterator has come back with an error still has it. -/
theorem HasReturned.error_ne_none {requests : List Request} (h : lexer.HasReturned requests) :
    (lexer.askAll requests).error ≠ none := by
  obtain ⟨earlier, ⟨later, rfl⟩, herror⟩ := h
  obtain ⟨error, hsome⟩ := Option.ne_none_iff_exists'.mp herror
  obtain ⟨reported, hall⟩ := askAll_of_error hsome later
  rw [askAll_append, hall]
  exact herror

/-- **The error has been handed out if a call of the iterator has come back with it.** -/
theorem reported_askAll_iff (hfresh : lexer.reported = false) (requests : List Request) :
    (lexer.askAll requests).reported = true ↔ lexer.HasReturned requests := by
  induction requests using List.reverseRecOn with
  | nil =>
    refine iff_of_false (by rw [askAll, List.foldl_nil, hfresh]; exact Bool.false_ne_true) ?_
    rintro ⟨earlier, hprefix, -⟩
    simpa using List.prefix_nil.mp hprefix
  | append_singleton requests request ih =>
    rw [askAll_concat]
    cases request with
    | advance =>
      -- A move is no call of the iterator.
      rw [ask, reported_advance, ih]
      refine exists_congr fun earlier => and_congr_left fun _ => ?_
      rw [List.prefix_concat_iff]
      exact ⟨Or.inr, fun h => h.resolve_left (by simp)⟩
    | next =>
      rw [ask, next?_snd]
      dsimp only
      rw [Bool.or_eq_true, reported_advance, ih]
      constructor
      · rintro (⟨earlier, hprefix, herror⟩ | herror)
        · exact ⟨earlier, hprefix.trans (List.prefix_append _ _), herror⟩
        · refine ⟨requests, List.prefix_rfl, ?_⟩
          rw [askAll_concat, ask, next?_snd]
          simpa using Option.isSome_iff_ne_none.mp herror
      · rintro ⟨earlier, hprefix, herror⟩
        rcases List.prefix_concat_iff.mp hprefix with heq | hprefix
        · rw [heq, askAll_concat, ask, next?_snd] at herror
          exact Or.inr (Option.isSome_iff_ne_none.mpr herror)
        · exact Or.inl ⟨earlier, hprefix, herror⟩

end Lexer

/-- **How a lexer stops**, whatever its source delivers, and however moves and calls of the iterator
are mixed. A move that hands out a token leaves no error, and any other one leaves the token that
tells why; a word that is told as unknown is the next one of the text. An error is for good. The
iterator hands out the token that a move in its place would, and leaves the same lexer; it hands out
the error at the first call that comes back with one, and nothing at all the calls after that. -/
theorem lexer_stop_state (deliveries : List Delivery) (requests : List Lexer.Request) :
    let start := Lexer.ofDeliveries deliveries
    let lexer := start.askAll requests
    (lexer.advance.1 = true → lexer.advance.2.error = none) ∧
    (lexer.advance.1 = false → StopsAt lexer.advance.2.error lexer.advance.2.current) ∧
    (∀ word position, lexer.error = none →
      lexer.advance.2.error = some (.unknownToken word position) →
      Lexer.NextWord lexer.signals word.toList) ∧
    (∀ error more, lexer.error = some error →
      (lexer.askAll more).advance.1 = false ∧
        ∃ reported, lexer.askAll more = { lexer with reported }) ∧
    (∀ token, lexer.next?.1 = some (.ok token) ↔
      lexer.advance.1 = true ∧ lexer.advance.2.current = token) ∧
    (∃ reported, lexer.next?.2 = { lexer.advance.2 with reported }) ∧
    (∀ error, lexer.next?.1 = some (.error error) ↔
      lexer.next?.2.error = some error ∧ ¬ start.HasReturned requests) ∧
    (start.HasReturned requests → lexer.next?.1 = none) := by
  intro start lexer
  have hsettled : lexer.Settled := Lexer.Settled.askAll (fun herror => absurd rfl herror) requests
  -- The flag remembers whether the iterator has returned the error.
  have hreported : lexer.reported = true ↔ start.HasReturned requests :=
    Lexer.reported_askAll_iff rfl requests
  refine ⟨Lexer.error_of_token, Lexer.stopping_advance hsettled,
    fun word position => Lexer.nextWord_of_unknown, ?_, lexer.next?_eq_ok_iff,
    ⟨_, lexer.next?_snd⟩, ?_, ?_⟩
  · intro error more herror
    obtain ⟨reported, hall⟩ := Lexer.askAll_of_error herror more
    have hstopped : (lexer.askAll more).error = some error := by rw [hall, herror]
    exact ⟨congrArg Prod.fst (Lexer.advance_of_error hstopped), reported, hall⟩
  · intro error
    rw [Lexer.next?_eq_error_iff, ← hreported, Bool.not_eq_true]
  · intro hreturned
    obtain ⟨error, herror⟩ := Option.ne_none_iff_exists'.mp hreturned.error_ne_none
    rw [Lexer.next?_fst, Lexer.advance_of_error herror, hreported.mpr hreturned]
    rfl

/-- A source that delivers `ask a` and a line feed, reports an end, and goes on with `no`. -/
def unknownPastEnd : List Delivery :=
  [.chunk [97, 115, 107, 32, 97, 10], .chunk [], .chunk [110, 111]]

/-- Two moves pass an end and meet an error. The token behind them is the word `no` where it stands,
the call of the iterator after them hands out the error, and the next call does not. -/
theorem lexer_stop_state_unknownPastEnd :
    let start := Lexer.ofDeliveries unknownPastEnd
    let requests := [.next, .next, .advance, .advance]
    let error := LexError.unknownToken "no" ⟨2, 1⟩
    (start.askAll requests).error = some error ∧
      (start.askAll requests).current = ⟨.unknown, "no", ⟨2, 1⟩⟩ ∧
      ¬ start.HasReturned requests ∧ (start.askAll requests).next?.1 = some (.error error) ∧
      start.HasReturned (requests ++ [.next]) ∧
      (start.askAll (requests ++ [.next])).next?.1 = none := by
  intro start requests error
  obtain ⟨-, hstops, -, -, -, -, hfirst, -⟩ := lexer_stop_state unknownPastEnd requests
  obtain ⟨-, -, -, -, -, -, -, hlater⟩ := lexer_stop_state unknownPastEnd (requests ++ [.next])
  have hanswer : (start.askAll requests).next?.1 = some (.error error) := by decide
  have hreturned : start.HasReturned (requests ++ [.next]) :=
    ⟨requests, List.prefix_rfl, by decide⟩
  have htoken : StopsAt (some error) (start.askAll requests).current := hstops (by decide)
  exact ⟨by decide, htoken, ((hfirst error).mp hanswer).2, hanswer, hreturned, hlater hreturned⟩

end Dialogue
