import Dialogue.Proofs.Command.Image
import Dialogue.Proofs.CommandLine.Agreement
import Dialogue.Proofs.Text.Quoting

/-!
# Traces on lines

A trace that is shown line by line can be read back. Each token and each command is on one line of
its own, whatever it holds: contents and messages are quoted, and what is shown as it is, a model
name or a word that is no keyword, has no blank in it. No token, command or error is shown as an
empty line, so the empty line between them and the stop cannot be mistaken.

An error is shown by its text only, and it is the text that can be read back.

## Main definitions

* `TokenTrace.rows`, `CommandTrace.rows`: the lines of a trace
* `TokenTrace.ofText`, `CommandTrace.ofText`: the traces of a text

## Main results

* `splitOn_lines`: lines can be told apart in the text that they make
* `Token.render_injective`, `Command.render_injective`: what a token or a command is shown as tells
  it from all others
* `TokenTrace.eq_of_rows_eq`, `CommandTrace.eq_of_rows_eq`: the lines of a trace tell what it holds
* `isLine_of_mem_rows`: the lines of the traces of a text are lines
* `traces_unambiguous`: so the traces of a text can be read back from what is shown of them
-/

namespace Dialogue

/-! ## Lines -/

section Lines

variable {texts texts' : List String}

@[simp] theorem isLine_append_iff {first second : String} :
    IsLine (first ++ second).toList ↔ IsLine first.toList ∧ IsLine second.toList := by
  rw [String.toList_append]
  exact List.forall_mem_append

theorem lines_cons (text : String) (texts : List String) :
    (lines (text :: texts)).toList = text.toList ++ '\n' :: (lines texts).toList := by
  simp [lines, line, String.toList_append]

theorem lines_append (texts more : List String) :
    lines (texts ++ more) = lines texts ++ lines more := by
  rw [lines, List.map_append, String.join_append]
  rfl

/-- **Lines can be told apart** in the text that they make. -/
theorem splitOn_lines (h : ∀ text ∈ texts, IsLine text.toList) :
    (lines texts).toList.splitOn '\n' = texts.map String.toList ++ [[]] := by
  induction texts with
  | nil => rfl
  | cons text texts ih =>
    have hfirst : '\n' ∉ text.toList := fun hmem => h text List.mem_cons_self '\n' hmem rfl
    rw [lines_cons, List.splitOn_append_cons_self_of_not_mem hfirst,
      ih fun text hmem => h text (List.mem_cons_of_mem _ hmem)]
    rfl

theorem lines_inj (h : ∀ text ∈ texts, IsLine text.toList)
    (h' : ∀ text ∈ texts', IsLine text.toList) (hsame : lines texts = lines texts') :
    texts = texts' := by
  have hsplit := splitOn_lines h
  rw [hsame, splitOn_lines h'] at hsplit
  exact (List.map_injective_iff.mpr fun _ _ => String.toList_inj.mp)
    (List.append_cancel_right hsplit).symm

end Lines

/-! ## Positions and numbers -/

theorem ne_of_mem_repr {stop : Char} (hstop : stop.isDigit = false) (value : Nat) :
    ∀ c ∈ value.repr.toList, c ≠ stop := by
  rintro c hc rfl
  rw [Nat.toList_repr] at hc
  rw [Nat.isDigit_of_mem_toDigits (by decide) (by decide) hc] at hstop
  cases hstop

theorem isLine_repr (value : Nat) : IsLine value.repr.toList :=
  ne_of_mem_repr (by decide) value

namespace Position

theorem render_eq (position : Position) :
    position.render = position.line.repr ++ ":" ++ position.column.repr :=
  rfl

theorem isLine_render (position : Position) : IsLine position.render.toList := by
  rw [render_eq, isLine_append_iff, isLine_append_iff]
  exact ⟨⟨isLine_repr _, by decide⟩, isLine_repr _⟩

/-- Line and column are parted by the first colon. -/
theorem render_injective {position position' : Position}
    (h : position.render = position'.render) : position = position' := by
  obtain ⟨line, column⟩ := position
  obtain ⟨line', column'⟩ := position'
  have hlist : line.repr.toList ++ ':' :: column.repr.toList =
      line'.repr.toList ++ ':' :: column'.repr.toList := by
    simpa [render_eq, String.toList_append] using congrArg String.toList h
  obtain ⟨hline, hcolumn⟩ := Text.append_stop_inj (ne_of_mem_repr (by decide) line)
    (ne_of_mem_repr (by decide) line') hlist
  rw [Nat.toList_repr, Nat.toList_repr] at hline hcolumn
  obtain rfl := Text.toDigits_injective (by decide) (by decide) hline
  obtain rfl := Text.toDigits_injective (by decide) (by decide) hcolumn
  rfl

end Position

/-! ## Tokens and commands -/

namespace Token

theorem Kind.mem_all (kind : Kind) : kind ∈ Kind.all := by
  rcases kind with _ | _ | (_ | (_ | _ | _)) | _ | _ <;> decide

theorem Kind.heading_injective {kind kind' : Kind} (h : kind.heading = kind'.heading) :
    kind = kind' := by
  have hall : ∀ kind ∈ Kind.all, ∀ kind' ∈ Kind.all,
      kind.heading = kind'.heading → kind = kind' := by decide
  exact hall kind kind.mem_all kind' kind'.mem_all h

theorem Kind.ne_of_mem_heading (kind : Kind) :
    ∀ c ∈ kind.heading.toList, c ≠ ' ' ∧ c ≠ '\n' := by
  rcases kind with _ | _ | (_ | (_ | _ | _)) | _ | _ <;> simp [heading, Keyword.word]

theorem toList_render (token : Token) :
    token.render.toList = '\x7b' :: (token.kind.heading.toList ++ ' ' ::
      ((Text.quote token.content).toList ++
        ' ' :: (token.position.render.toList ++ ['\x7d']))) := by
  simp [render, String.toList_append]

/-- **A token is shown as no other.** -/
theorem render_injective {token token' : Token} (h : token.render = token'.render) :
    token = token' := by
  have hlist := congrArg String.toList h
  rw [toList_render, toList_render] at hlist
  obtain ⟨hheading, hcontent⟩ := Text.append_stop_inj
    (fun c hc => (token.kind.ne_of_mem_heading c hc).1)
    (fun c hc => (token'.kind.ne_of_mem_heading c hc).1) (List.cons.inj hlist).2
  obtain ⟨hquoted, hplace⟩ := Text.quote_append_inj hcontent
  have hposition := List.append_cancel_right (List.cons.inj hplace).2
  obtain ⟨kind, content, position⟩ := token
  obtain ⟨kind', content', position'⟩ := token'
  obtain rfl := Kind.heading_injective (String.toList_inj.mp hheading)
  obtain rfl := Position.render_injective (String.toList_inj.mp hposition)
  obtain rfl : content = content' := hquoted
  rfl

/-- **A token is shown on one line**, whatever its content. -/
theorem isLine_render (token : Token) : IsLine token.render.toList := by
  simp only [render, isLine_append_iff]
  have hheading : IsLine token.kind.heading.toList :=
    fun c hc => (token.kind.ne_of_mem_heading c hc).2
  exact ⟨⟨⟨⟨⟨⟨by decide, hheading⟩, by decide⟩, Text.isLine_quote _⟩, by decide⟩,
    token.position.isLine_render⟩, by decide⟩

theorem render_ne_empty (token : Token) : token.render ≠ "" := by
  intro h
  have hlist := congrArg String.toList h
  rw [toList_render] at hlist
  cases hlist

end Token

namespace Role

theorem heading_injective {role role' : Role} (h : role.heading = role'.heading) :
    role = role' := by
  revert h
  cases role <;> cases role' <;> decide

theorem ne_of_mem_heading (role : Role) : ∀ c ∈ role.heading.toList, c ≠ ' ' ∧ c ≠ '\n' := by
  cases role <;> simp [heading]

end Role

namespace Command

theorem toList_render_say (turn : Turn) :
    (Command.say turn).render.toList = "PROMPT: ".toList ++ (turn.role.heading.toList ++ ' ' ::
      (Text.quote turn.message).toList) := by
  simp [render, String.toList_append]

/-- **A command is shown as no other.** -/
theorem render_injective {command command' : Command} (h : command.render = command'.render) :
    command = command' := by
  have hlist := congrArg String.toList h
  -- The two shapes begin with different letters, so a model never reads as a prompt.
  cases command with
  | selectModel name =>
    cases command' with
    | selectModel name' =>
      have hname : name.toList = name'.toList := by
        simpa [render, String.toList_append] using hlist
      rw [String.toList_inj.mp hname]
    | say turn' =>
      rw [toList_render_say] at hlist
      simp [render, String.toList_append] at hlist
  | say turn =>
    cases command' with
    | selectModel name' =>
      rw [toList_render_say] at hlist
      simp [render, String.toList_append] at hlist
    | say turn' =>
      rw [toList_render_say, toList_render_say] at hlist
      obtain ⟨hrole, hquoted⟩ := Text.append_stop_inj
        (fun c hc => (turn.role.ne_of_mem_heading c hc).1)
        (fun c hc => (turn'.role.ne_of_mem_heading c hc).1) (List.append_cancel_left hlist)
      obtain ⟨role, message⟩ := turn
      obtain ⟨role', message'⟩ := turn'
      obtain rfl := Role.heading_injective (String.toList_inj.mp hrole)
      have hmessage : message = message' :=
        (Text.quote_append_inj (congrArg (· ++ []) hquoted)).1
      rw [hmessage]

/-- **A command that can be scanned is shown on one line**, whatever its message. -/
theorem WellFormed.isLine_render {command : Command} (h : command.WellFormed) :
    IsLine command.render.toList := by
  cases command with
  | selectModel name =>
    have hname : IsWord name.toList := h
    rw [render, isLine_append_iff]
    exact ⟨by decide, hname.isLine⟩
  | say turn =>
    simp only [render, isLine_append_iff]
    exact ⟨⟨⟨by decide, fun c hc => (turn.role.ne_of_mem_heading c hc).2⟩, by decide⟩,
      Text.isLine_quote _⟩

theorem render_ne_empty (command : Command) : command.render ≠ "" := by
  intro h
  have hlist := congrArg String.toList h
  cases command <;> simp [render] at hlist

end Command

/-! ## Errors -/

/-- An error in a text is told on one line. -/
theorem LexError.isLine_message {error : LexError} (hread : ∀ failure, error ≠ .unreadable failure)
    (hword : ∀ word position, error = .unknownToken word position → IsLine word.toList) :
    IsLine error.message.toList := by
  -- What is shown besides the fixed words is a word or a position.
  cases error with
  | unknownToken word position =>
    change IsLine ("unknown token `" ++ word ++ "` at " ++ position.render).toList
    simp only [isLine_append_iff, hword word position rfl, position.isLine_render, and_true]
    decide
  | unexpectedEnd position =>
    change IsLine ("unexpected end of input at " ++ position.render).toList
    simp only [isLine_append_iff, position.isLine_render, and_true]
    decide
  | expectedPrompt position =>
    change IsLine ("prompt must be on the same line as SYSTEM/ASK/ANSWER (" ++
      position.render ++ ")").toList
    simp only [isLine_append_iff, position.isLine_render, and_true]
    decide
  | expectedModel position =>
    change IsLine ("model name must be on the same line as FROM (" ++
      position.render ++ ")").toList
    simp only [isLine_append_iff, position.isLine_render, and_true]
    decide
  | unreadable failure => exact absurd rfl (hread failure)

theorem ParseError.message_lexical (error : LexError) :
    (ParseError.lexical error).message = "Lexing error: " ++ error.message :=
  rfl

theorem ParseError.isLine_message_incomplete (keyword : Keyword) :
    IsLine (ParseError.incomplete keyword).message.toList := by
  rcases keyword with _ | (_ | _ | _) <;> decide

/-- Only a word is reported as an unknown token. -/
theorem Fault.isWord_of_unknown {fault : Fault} {start position : Position} {word : String}
    (h : fault.error start = .lexical (.unknownToken word position)) : IsWord word.toList := by
  cases fault with
  | unknown letters rest hword =>
    rw [error] at h
    injection h with h
    injection h with h
    rwa [← h, String.toList_ofList]
  | lacking keyword spelling padding lack =>
    cases lack with
    | bare => simp [error, Lack.error] at h
    | misplaced => cases keyword <;> simp [error, Lack.error] at h
    | hollow trailing body rest => cases rest <;> simp [error, Lack.error] at h

/-- A fault is told on one line: the only text of its own that it shows is a word. -/
theorem Fault.isLine_message (fault : Fault) (start : Position) :
    IsLine (fault.error start).message.toList := by
  obtain ⟨hread, hcommand, hpair⟩ := fault.error_inText start
  cases herror : fault.error start with
  | lexical error =>
    rw [herror] at hread
    rw [ParseError.message_lexical, isLine_append_iff]
    refine ⟨by decide, LexError.isLine_message ?_ ?_⟩
    · exact fun failure hfailure => hread failure (congrArg _ hfailure)
    · rintro word position rfl
      exact (fault.isWord_of_unknown herror).isLine
  | incomplete keyword => exact ParseError.isLine_message_incomplete keyword
  | expectedCommand found => exact absurd herror (hcommand found)
  | mispaired expected found => exact absurd herror (hpair expected found)

/-- The error after the commands of a text is told on one line. -/
theorem isLine_message_of_commandsOf {text : String} {error : ParseError}
    (h : (commandsOf text).2 = some error) : IsLine error.message.toList := by
  obtain ⟨steps, closing, hopens⟩ := exists_opens text.toList
  rw [commandsOf_of_opens hopens] at h
  cases closing with
  | clean blanks hblanks => cases h
  | faulty blanks hblanks fault =>
    obtain rfl := Option.some_inj.mp h
    exact fault.isLine_message _

/-- The error after the tokens of a text is told on one line: it is the error after the commands. -/
theorem isLine_message_of_tokensOf {text : String} {error : LexError}
    (h : (tokensOf text).2 = some error) : IsLine error.message.toList := by
  have halternates : Alternates (tokensOf text).1 := (Lexer.awaits_ofText text).alternates_drain
  have hcommands : (commandsOf text).2 = some (.lexical error) := by
    rw [commandsOf_eq_readTokens, h]
    exact halternates.readTokens_failure error
  have hmessage := isLine_message_of_commandsOf hcommands
  rw [ParseError.message_lexical, isLine_append_iff] at hmessage
  exact hmessage.2

/-! ## The lines of a trace -/

/-- The first empty line parts what is before it from what is behind it. -/
theorem append_empty_inj {front front' back back' : List String} (h : "" ∉ front)
    (h' : "" ∉ front') (hsame : front ++ "" :: back = front' ++ "" :: back') :
    front = front' ∧ back = back' := by
  -- The first empty text ends both fronts, so neither can be longer than the other.
  induction front generalizing front' with
  | nil =>
    cases front' with
    | nil => exact ⟨rfl, (List.cons.inj hsame).2⟩
    | cons text front' =>
      obtain rfl : "" = text := (List.cons.inj hsame).1
      exact absurd List.mem_cons_self h'
  | cons text front ih =>
    cases front' with
    | nil =>
      obtain rfl : text = "" := (List.cons.inj hsame).1
      exact absurd List.mem_cons_self h
    | cons text' front' =>
      obtain ⟨rfl, htail⟩ := List.cons.inj hsame
      obtain ⟨rfl, hback⟩ := ih (mt (List.mem_cons_of_mem _) h) (mt (List.mem_cons_of_mem _) h')
        htail
      exact ⟨rfl, hback⟩

/-- A text that is not empty is read from its bytes as it is. -/
theorem Lexer.ofDeliveries_deliver_encode {text : String} (h : text.toList ≠ []) :
    Lexer.ofDeliveries (deliver (Utf8.encode text)) = Lexer.ofText text := by
  rw [Lexer.ofDeliveries, charSignals_deliver_encode h, Lexer.ofText]

namespace TokenTrace

variable {trace trace' : TokenTrace}

/-- The lines of a trace of tokens. -/
def rows (trace : TokenTrace) : List String :=
  trace.tokens.map Token.render ++
    "" :: (trace.error.toList.map LexError.message ++ [trace.last.render])

theorem renderSimple_eq (trace : TokenTrace) : trace.renderSimple = lines trace.rows := by
  have hlast : line trace.last.render = lines [trace.last.render] := by simp [lines]
  have hempty : line "" = lines [""] := by simp [lines]
  rw [renderSimple, hlast, hempty, ← lines_append, ← lines_append, ← lines_append, rows]
  simp

/-- **The lines of a trace tell its tokens, the text of its error and its last token.** -/
theorem eq_of_rows_eq (h : trace.rows = trace'.rows) :
    trace.tokens = trace'.tokens ∧
      trace.error.map LexError.message = trace'.error.map LexError.message ∧
      trace.last = trace'.last := by
  -- No token is shown as an empty line, so the first empty line ends the tokens.
  have hsolid : ∀ tokens : List Token, "" ∉ tokens.map Token.render := by
    intro tokens hmem
    obtain ⟨token, -, hempty⟩ := List.mem_map.mp hmem
    exact token.render_ne_empty hempty
  obtain ⟨htokens, hstop⟩ := append_empty_inj (hsolid _) (hsolid _) h
  obtain ⟨herror, hlast⟩ := List.append_inj' hstop rfl
  refine ⟨List.map_injective_iff.mpr (fun _ _ => Token.render_injective) htokens, ?_,
    Token.render_injective (List.cons.inj hlast).1⟩
  cases htrace : trace.error <;> cases htrace' : trace'.error <;> simp_all

/-- The trace of the tokens of a text, which is read from its bytes. -/
def ofText (text : String) : TokenTrace :=
  .ofDeliveries (deliver (Utf8.encode text))

theorem ofText_eq (text : String) : ofText text = .collect (Lexer.ofText text) := by
  by_cases hempty : text.toList = []
  · -- No bytes are an end that is reported once, at which the trace stops all the same.
    obtain rfl : text = "" := String.toList_inj.mp hempty
    decide +kernel
  · rw [ofText, ofDeliveries, Lexer.ofDeliveries_deliver_encode hempty]

/-- **The lines of the trace of a text are lines.** -/
theorem isLine_of_mem_rows {text row : String} (h : row ∈ (ofText text).rows) :
    IsLine row.toList := by
  rw [ofText_eq, rows, List.mem_append, List.mem_cons, List.mem_append, List.mem_singleton] at h
  rcases h with htoken | rfl | herror | rfl
  · obtain ⟨token, -, rfl⟩ := List.mem_map.mp htoken
    exact token.isLine_render
  · nofun
  · obtain ⟨error, hmem, rfl⟩ := List.mem_map.mp herror
    have hfound : (tokensOf text).2 = some error := Option.mem_toList.mp hmem
    exact isLine_message_of_tokensOf hfound
  · exact Token.isLine_render _

end TokenTrace

namespace CommandTrace

variable {trace trace' : CommandTrace}

/-- The lines of a trace of commands. -/
def rows (trace : CommandTrace) : List String :=
  trace.commands.map Command.render ++
    match trace.error with
    | some error => "" :: error.message :: trace.stoppedAt.toList.map Token.render
    | none => []

theorem renderSimple_eq (trace : CommandTrace) : trace.renderSimple = lines trace.rows := by
  rw [renderSimple, rows, lines_append]
  cases trace.error with
  | none => rfl
  | some error => simp [lines, String.append_assoc]

theorem not_mem_map_render (commands : List Command) : "" ∉ commands.map Command.render := by
  intro hmem
  obtain ⟨command, -, hempty⟩ := List.mem_map.mp hmem
  exact command.render_ne_empty hempty

/-- **The lines of a trace tell its commands, the text of its error and the token there**, if there
is a token only with an error. -/
theorem eq_of_rows_eq (hstop : trace.error = none → trace.stoppedAt = none)
    (hstop' : trace'.error = none → trace'.stoppedAt = none) (h : trace.rows = trace'.rows) :
    trace.commands = trace'.commands ∧
      trace.error.map ParseError.message = trace'.error.map ParseError.message ∧
      trace.stoppedAt = trace'.stoppedAt := by
  have hsolid := not_mem_map_render
  have hcommands : ∀ {commands commands' : List Command},
      commands.map Command.render = commands'.map Command.render → commands = commands' :=
    fun hsame => List.map_injective_iff.mpr (fun _ _ => Command.render_injective) hsame
  unfold rows at h
  cases herror : trace.error with
  | none =>
    cases herror' : trace'.error with
    | none =>
      rw [herror, herror', List.append_nil, List.append_nil] at h
      exact ⟨hcommands h, rfl, by rw [hstop herror, hstop' herror']⟩
    | some error' =>
      -- Only one of the two has an empty line.
      rw [herror, herror', List.append_nil] at h
      exact absurd (h ▸ List.mem_append_right _ List.mem_cons_self) (hsolid trace.commands)
  | some error =>
    cases herror' : trace'.error with
    | none =>
      rw [herror, herror', List.append_nil] at h
      exact absurd (h ▸ List.mem_append_right _ List.mem_cons_self) (hsolid trace'.commands)
    | some error' =>
      rw [herror, herror'] at h
      obtain ⟨hsame, hback⟩ := append_empty_inj (hsolid _) (hsolid _) h
      obtain ⟨hmessage, htokens⟩ := List.cons.inj hback
      have htoken := List.map_injective_iff.mpr (fun _ _ => Token.render_injective) htokens
      refine ⟨hcommands hsame, congrArg some hmessage, ?_⟩
      simpa using congrArg List.head? htoken

/-- The trace of the commands of a text, which is read from its bytes. -/
def ofText (text : String) : CommandTrace :=
  .ofDeliveries (deliver (Utf8.encode text))

theorem ofText_eq (text : String) : ofText text = .collect (Lexer.ofText text) := by
  by_cases hempty : text.toList = []
  · obtain rfl : text = "" := String.toList_inj.mp hempty
    decide +kernel
  · rw [ofText, ofDeliveries, Lexer.ofDeliveries_deliver_encode hempty]

theorem stoppedAt_ofText {text : String} (h : (ofText text).error = none) :
    (ofText text).stoppedAt = none := by
  rw [ofText_eq] at h ⊢
  have herror : (scanAll (Lexer.ofText text)).2.1 = none := h
  change (scanAll (Lexer.ofText text)).2.1.map _ = none
  rw [herror]
  rfl

/-- **The lines of the trace of a text are lines.** -/
theorem isLine_of_mem_rows {text row : String} (h : row ∈ (ofText text).rows) :
    IsLine row.toList := by
  rw [ofText_eq, rows, List.mem_append] at h
  rcases h with hcommand | hstop
  · obtain ⟨command, hmem, rfl⟩ := List.mem_map.mp hcommand
    exact (forall_mem_scanAll Lexer.wellFormed_of_parse _ command hmem).isLine_render
  · cases herror : (collect (Lexer.ofText text)).error with
    | none =>
      rw [herror] at hstop
      cases hstop
    | some error =>
      rw [herror, List.mem_cons, List.mem_cons] at hstop
      rcases hstop with rfl | rfl | htoken
      · nofun
      · exact isLine_message_of_commandsOf herror
      · obtain ⟨token, -, rfl⟩ := List.mem_map.mp htoken
        exact token.isLine_render

end CommandTrace

/-- **Traces that are shown line by line are unambiguous.** If the tokens of two texts are shown
alike, they are the same, and so are the texts of the errors and the last tokens; and in the same
way for the commands, the texts of the errors and the tokens there. Between its line feeds, what is
shown has one piece for each token or command, in order, whatever their contents, and nothing is
between these and the empty line before the stop. -/
theorem traces_unambiguous (text text' : String) :
    ((TokenTrace.ofText text).renderSimple = (TokenTrace.ofText text').renderSimple →
      (TokenTrace.ofText text).tokens = (TokenTrace.ofText text').tokens ∧
        (TokenTrace.ofText text).error.map LexError.message =
          (TokenTrace.ofText text').error.map LexError.message ∧
        (TokenTrace.ofText text).last = (TokenTrace.ofText text').last) ∧
    ((CommandTrace.ofText text).renderSimple = (CommandTrace.ofText text').renderSimple →
      (CommandTrace.ofText text).commands = (CommandTrace.ofText text').commands ∧
        (CommandTrace.ofText text).error.map ParseError.message =
          (CommandTrace.ofText text').error.map ParseError.message ∧
        (CommandTrace.ofText text).stoppedAt = (CommandTrace.ofText text').stoppedAt) ∧
    (TokenTrace.ofText text).renderSimple.toList.splitOn '\n' =
      ((TokenTrace.ofText text).tokens.map Token.render ++
        "" :: ((TokenTrace.ofText text).error.toList.map LexError.message ++
          [(TokenTrace.ofText text).last.render])).map String.toList ++ [[]] ∧
    ∃ stop, (CommandTrace.ofText text).renderSimple.toList.splitOn '\n' =
        ((CommandTrace.ofText text).commands.map Command.render ++ stop).map String.toList ++ [[]] ∧
      ((CommandTrace.ofText text).error = none → stop = []) ∧
      ∀ error, (CommandTrace.ofText text).error = some error →
        stop = "" :: error.message ::
          (CommandTrace.ofText text).stoppedAt.toList.map Token.render := by
  refine ⟨fun hsame => ?_, fun hsame => ?_, ?_, ?_⟩
  · rw [TokenTrace.renderSimple_eq, TokenTrace.renderSimple_eq] at hsame
    exact TokenTrace.eq_of_rows_eq (lines_inj (fun _ => TokenTrace.isLine_of_mem_rows)
      (fun _ => TokenTrace.isLine_of_mem_rows) hsame)
  · rw [CommandTrace.renderSimple_eq, CommandTrace.renderSimple_eq] at hsame
    exact CommandTrace.eq_of_rows_eq CommandTrace.stoppedAt_ofText CommandTrace.stoppedAt_ofText
      (lines_inj (fun _ => CommandTrace.isLine_of_mem_rows)
        (fun _ => CommandTrace.isLine_of_mem_rows) hsame)
  · rw [TokenTrace.renderSimple_eq, splitOn_lines fun _ => TokenTrace.isLine_of_mem_rows]
    rfl
  · rw [CommandTrace.renderSimple_eq, splitOn_lines fun _ => CommandTrace.isLine_of_mem_rows]
    refine ⟨_, rfl, fun hnone => by rw [hnone], fun error herror => by rw [herror]⟩

/-- Two layouts of one block are shown alike, and a message with an empty line is on one line. -/
theorem traces_unambiguous_emptyLine :
    (TokenTrace.ofText "ask |\n\ta\n\t\n\tb\n").renderSimple =
        (TokenTrace.ofText "ASK |\n    a\n    \n    b\n").renderSimple ∧
      (TokenTrace.ofText "ask |\n\ta\n\t\n\tb\n").tokens =
        (TokenTrace.ofText "ASK |\n    a\n    \n    b\n").tokens ∧
      ((TokenTrace.ofText "ask |\n\ta\n\t\n\tb\n").renderSimple.toList.splitOn
        '\n').length = 5 := by
  have hsame : (TokenTrace.ofText "ask |\n\ta\n\t\n\tb\n").renderSimple =
      (TokenTrace.ofText "ASK |\n    a\n    \n    b\n").renderSimple := by decide +kernel
  obtain ⟨htokens, -, hlines, -⟩ := traces_unambiguous "ask |\n\ta\n\t\n\tb\n"
    "ASK |\n    a\n    \n    b\n"
  refine ⟨hsame, (htokens hsame).1, ?_⟩
  rw [hlines]
  decide +kernel

end Dialogue
