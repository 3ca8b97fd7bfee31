import Dialogue.Proofs.Grammar.RoundTrip
import Dialogue.Proofs.Lexer.Lexemes
import Mathlib.Data.Set.List

/-!
# The image of the scanner

Not every command can be scanned. A model name is a word. A message is made of lines without
blanks at their ends, and one of them is not empty, whether it is the rest of a line or a block: no
lexer hands out anything else, in whatever state it is and whatever the source delivers.

This is all there is to it. As a block each such message can be written, also if it starts with
blanks or is a lone bar, which the rest of a line cannot be. So the commands that are scanned are
exactly the well formed ones.

## Main definitions

* `IsMessage text`: the text can be a message
* `Command.WellFormed`: the command can be scanned

## Main results

* `Lexer.wellFormed_of_token`: the tokens of any lexer have well formed content
* `Lexer.wellFormed_of_parse`: so a lexer is read as well formed commands
* `exists_text_of_wellFormed`: well formed commands are scanned from some text
* `scans_exactly_wellFormed`: the commands that are scanned are the well formed ones
-/

namespace Dialogue

open Text (isBlank trimEnd)

/-! ## Messages -/

theorem isTrimmed_trimEnd (text : List Char) : IsTrimmed (trimEnd text) := by
  induction text using List.reverseRecOn with
  | nil => nofun
  | append_singleton text c ih =>
    -- From the end, since that is where blanks are removed.
    cases hc : isBlank c with
    | true =>
      rw [Text.trimEnd_append_gap text (isGap_cons.mpr ⟨hc, isGap_nil⟩)]
      exact ih
    | false =>
      rw [Text.trimEnd_concat text hc]
      intro d hd
      rw [List.getLast?_concat] at hd
      cases hd
      exact hc

theorem isLine_trimEnd {text : List Char} (h : IsLine text) : IsLine (trimEnd text) := by
  obtain ⟨blanks, htext, -⟩ := Text.exists_append_gap text
  intro c hc
  apply h
  rw [htext]
  exact List.mem_append_left _ hc

/-- The pieces of a text between its line feeds are lines. -/
theorem isLine_of_mem_splitOn {text line : List Char} (h : line ∈ text.splitOn '\n') :
    IsLine line := by
  induction text generalizing line with
  | nil =>
    obtain rfl : line = [] := by simpa using h
    nofun
  | cons c text ih =>
    rw [List.splitOn_cons_eq_if_modifyHead] at h
    split at h
    · rcases List.mem_cons.mp h with rfl | hmem
      · nofun
      · exact ih hmem
    · -- A character that is no line feed belongs to the first piece.
      rename_i hc
      obtain ⟨first, others, hsplit⟩ := List.exists_cons_of_ne_nil (List.splitOn_ne_nil '\n' text)
      rw [hsplit] at h ih
      rcases List.mem_cons.mp h with rfl | hmem
      · intro d hd
        rcases List.mem_cons.mp hd with rfl | hd
        · simpa using hc
        · exact ih (by simp) d hd
      · exact ih (List.mem_cons_of_mem _ hmem)

/-- The text can be a message: no line has a blank at its end, and some line is not empty. -/
structure IsMessage (text : List Char) : Prop where
  isTrimmed : ∀ line ∈ text.splitOn '\n', IsTrimmed line
  hasContent : ∃ line ∈ text.splitOn '\n', line ≠ []

instance (text : List Char) : Decidable (IsMessage text) :=
  decidable_of_iff ((∀ line ∈ text.splitOn '\n', IsTrimmed line) ∧
    ∃ line ∈ text.splitOn '\n', line ≠ []) ⟨fun h => ⟨h.1, h.2⟩, fun h => ⟨h.1, h.2⟩⟩

theorem isMessage_intercalate {lines : List (List Char)}
    (hlines : ∀ line ∈ lines, IsLine line ∧ IsTrimmed line) (hcontent : ∃ line ∈ lines, line ≠ []) :
    IsMessage (['\n'].intercalate lines) := by
  have hsplit : (['\n'].intercalate lines).splitOn '\n' = lines := by
    apply List.splitOn_intercalate
    · intro line hmem hnewline
      exact (hlines line hmem).1 '\n' hnewline rfl
    · rintro rfl
      obtain ⟨line, hmem, -⟩ := hcontent
      cases hmem
  constructor
  · intro line hmem
    rw [hsplit] at hmem
    exact (hlines line hmem).2
  · rwa [hsplit]

/-- What does not end with a blank is a message of one line. -/
theorem isMessage_of_isLine {text : List Char} (hline : IsLine text) (htrimmed : IsTrimmed text)
    (hne : text ≠ []) : IsMessage text := by
  have hmessage : IsMessage (['\n'].intercalate [text]) := by
    apply isMessage_intercalate
    · intro line hmem
      rw [List.mem_singleton.mp hmem]
      exact ⟨hline, htrimmed⟩
    · exact ⟨text, List.mem_singleton.mpr rfl, hne⟩
  rwa [List.intercalate_singleton] at hmessage

/-! ## What a lexer hands out -/

theorem isLine_restOfLine (signals : List (Signal Char)) : IsLine (restOfLine signals).taken := by
  intro c hc
  simpa using span_accepts (· != '\n') signals c hc

/-- The lines of a block have no blanks at their ends. -/
theorem readBlock_lines (signals : List (Signal Char)) :
    ∀ line ∈ (readBlock signals).lines, IsLine line ∧ IsTrimmed line := by
  fun_induction readBlock signals with
  | case1 | case2 | case3 | case4 =>
    intro line hmem
    cases hmem
  | case5 signals margin inner hindent text halt rest hread hline ih =>
    intro line hmem
    rcases List.mem_cons.mp hmem with rfl | hmem
    · have htext := isLine_restOfLine inner
      rw [hline] at htext
      exact ⟨isLine_trimEnd htext, isTrimmed_trimEnd text⟩
    · exact ih line hmem

/-- A block that is not bare is a message. -/
theorem isMessage_readBlock {signals : List (Signal Char)}
    (h : ¬ (readBlock signals).isBare = true) : IsMessage (readBlock signals).message := by
  apply isMessage_intercalate (readBlock_lines signals)
  simpa [Block.isBare] using h

/-- The content of the token can be that of a command: a word as a name, or a message. -/
def Token.WellFormed (token : Token) : Prop :=
  match token.kind with
  | .model => IsWord token.content.toList
  | .prompt => IsMessage token.content.toList
  | .keyword _ | .endOfInput | .unknown => True

/-- The command can be scanned: the name is a word, or there is a message. -/
def Command.WellFormed : Command → Prop
  | .selectModel name => IsWord name.toList
  | .say turn => IsMessage turn.message.toList

instance (command : Command) : Decidable command.WellFormed :=
  match command with
  | .selectModel name => inferInstanceAs (Decidable (IsWord name.toList))
  | .say turn => inferInstanceAs (Decidable (IsMessage turn.message.toList))

theorem Keyword.wellFormed_command {keyword : Keyword} {token : Token} (h : token.WellFormed)
    (hkind : token.kind = keyword.companion) : (keyword.command token.content).WellFormed := by
  unfold Token.WellFormed at h
  rw [hkind] at h
  cases keyword <;> exact h

namespace Lexer

variable {lexer moved : Lexer} {c : Char} {rest : List (Signal Char)}

theorem wellFormed_readKeyword (hmore : lexer.readKeyword.1 = true) :
    lexer.readKeyword.2.current.WellFormed := by
  unfold readKeyword at hmore ⊢
  dsimp only at hmore ⊢
  split at hmore
  · cases hmore
  · split at hmore
    · trivial
    · cases hmore

theorem wellFormed_readModel (hsignals : lexer.signals = .item c :: rest) (hc : isBlank c = false)
    (hmore : lexer.readModel.1 = true) : lexer.readModel.2.current.WellFormed := by
  have hword := isWord_word_taken hsignals hc
  unfold readModel at hmore ⊢
  dsimp only at hmore ⊢
  split at hmore
  · cases hmore
  · show IsWord (String.ofList _).toList
    rwa [String.toList_ofList]

theorem wellFormed_readBlockPrompt {start : Position}
    (hmore : (lexer.readBlockPrompt start).1 = true) :
    (lexer.readBlockPrompt start).2.current.WellFormed := by
  have hmessage : ¬ (readBlock lexer.signals).isBare = true →
      IsMessage (String.ofList (readBlock lexer.signals).message).toList := by
    intro hbare
    rw [String.toList_ofList]
    exact isMessage_readBlock hbare
  unfold readBlockPrompt at hmore ⊢
  dsimp only at hmore ⊢
  split at hmore
  · cases hmore
  · split at hmore
    · cases hmore
    · rename_i hbare
      rw [if_neg hbare]
      exact hmessage hbare
  · split at hmore
    · cases hmore
    · rename_i hbare
      rw [if_neg hbare]
      exact hmessage hbare

theorem wellFormed_readPrompt (hmore : lexer.readPrompt.1 = true) :
    lexer.readPrompt.2.current.WellFormed := by
  unfold readPrompt at hmore ⊢
  dsimp only at hmore ⊢
  split at hmore
  · cases hmore
  · split at hmore
    · cases hmore
    · exact wellFormed_readBlockPrompt hmore
    · rename_i hne _
      show IsMessage (String.ofList _).toList
      rw [String.toList_ofList]
      exact isMessage_of_isLine (isLine_trimEnd (isLine_restOfLine _)) (isTrimmed_trimEnd _) hne

/-- **The tokens of any lexer have well formed content.** -/
theorem wellFormed_of_token (hadvance : lexer.advance = (true, moved)) :
    moved.current.WellFormed := by
  rcases lexer.advance_cases (running_of_token hadvance).1 with
    ⟨blanks, c, rest, -, hc, -, hread⟩ | ⟨hstop, -⟩
  · rw [hadvance] at hread
    -- The lexer that reads what is expected is at a character that is no blank.
    generalize hstart : lexer.consume blanks (.item c :: rest) = start at hread
    have hsignals : start.signals = .item c :: rest := by rw [← hstart, signals_consume]
    have hmore : start.readExpected.1 = true := by rw [← hread]
    have hmoved : moved = start.readExpected.2 := by rw [← hread]
    rw [hmoved]
    unfold readExpected at hmore ⊢
    split at hmore
    · exact wellFormed_readKeyword hmore
    · exact wellFormed_readModel hsignals hc hmore
    · exact wellFormed_readPrompt hmore
  · rw [hadvance] at hstop
    cases hstop

end Lexer

/-! ## What is scanned -/

section Source

open TokenSource

variable {σ : Type} [TokenSource σ] {source moved : σ} {command : Command}

/-- A command is made of the token on which it has been completed. -/
theorem Command.exists_companion_of_parse (h : parse source = (.command command, moved)) :
    ∃ (opened : σ) (keyword : Keyword), advance opened = (true, moved) ∧
      (current moved).kind = keyword.companion ∧
      command = keyword.command (current moved).content := by
  unfold parse at h
  split at h
  · split at h <;> cases h
  · rename_i opened _
    split at h
    · rename_i keyword _
      unfold parseCompanion at h
      split at h
      · cases h
      · rename_i completed hadvance
        split at h
        · rename_i hkind
          cases h
          exact ⟨opened, keyword, hadvance, hkind, rfl⟩
        · cases h
    · cases h

/-- What holds of each command that is read holds of all that are scanned. -/
theorem forall_mem_scanAll {P : Command → Prop}
    (hparse : ∀ {source moved : σ} {command : Command},
      Command.parse source = (.command command, moved) → P command) (source : σ) :
    ∀ command ∈ (scanAll source).1, P command := by
  fun_induction scanAll source with
  | case1 source command moved hparsed commands stop hscan ih =>
    rw [hscan] at ih
    exact List.forall_mem_cons.mpr ⟨hparse hparsed, ih⟩
  | case2 => nofun
  | case3 => nofun

namespace Scanner

variable {scanner next : Scanner σ}

/-- A scan comes to the command that is read next. -/
theorem exists_parse_of_scan (h : scanner.scan = (true, next)) :
    ∃ command, next.command = some command ∧
      Command.parse scanner.source = (.command command, next.source) := by
  unfold scan at h
  split at h
  · cases h
  · split at h
    · rename_i hparse
      cases h
      exact ⟨_, rfl, hparse⟩
    · cases h
    · cases h

/-- A scan that comes to no command forgets the last one, or has stopped before. -/
theorem command_of_stop (h : scanner.scan = (false, next)) :
    next.command = none ∨ next = scanner := by
  unfold scan at h
  split at h
  · cases h
    exact Or.inr rfl
  · split at h
    · cases h
    · cases h
      exact Or.inl rfl
    · cases h
      exact Or.inl rfl

end Scanner

end Source

theorem Lexer.wellFormed_of_parse {lexer moved : Lexer} {command : Command}
    (h : Command.parse lexer = (.command command, moved)) : command.WellFormed := by
  obtain ⟨opened, keyword, hadvance, hkind, rfl⟩ := Command.exists_companion_of_parse h
  exact Keyword.wellFormed_command (wellFormed_of_token hadvance) hkind

namespace Scanner

variable {scanner next : Scanner Lexer} {command : Command}

theorem wellFormed_of_scan (h : scanner.scan = (true, next)) :
    ∀ command ∈ next.command, command.WellFormed := by
  obtain ⟨scanned, hscanned, hparse⟩ := exists_parse_of_scan h
  rw [hscanned]
  rintro command ⟨⟩
  exact Lexer.wellFormed_of_parse hparse

/-- A scanner over a lexer never has a command that is not well formed. -/
theorem wellFormed_after (h : scanner.command = none) (n : Nat) :
    ∀ command ∈ (scanner.after n).command, command.WellFormed := by
  induction n with
  | zero =>
    rw [after, h]
    nofun
  | succ n ih =>
    rw [after]
    rcases hscan : (scanner.after n).scan with ⟨more, next⟩
    cases more with
    | true => exact wellFormed_of_scan hscan
    | false =>
      rcases command_of_stop hscan with hnone | rfl
      · rw [hnone]
        nofun
      · exact ih

/-- A scanner over a lexer hands out well formed commands, whatever its state. -/
theorem wellFormed_of_next? (h : scanner.next? = (some (.ok command), next)) :
    command.WellFormed := by
  unfold next? at h
  split at h
  · rename_i scanned hscan
    rw [Prod.mk.injEq, Option.map_eq_some_iff] at h
    obtain ⟨⟨found, hfound, hok⟩, -⟩ := h
    cases hok
    exact wellFormed_of_scan hscan command hfound
  · -- A scan that comes to no command gives an error at most.
    split at h
    · split at h <;> cases h
    · cases h

end Scanner

/-! ## What can be scanned -/

/-- A keyword spelled by its own word. -/
def Keyword.spelling (keyword : Keyword) : Spelling keyword where
  letters := keyword.word.toList
  spells := by rcases keyword with _ | (_ | _ | _) <;> decide

/-- **Each well formed command can be written**, a message as a block. -/
theorem Command.WellFormed.exists_written {command : Command} (h : command.WellFormed) :
    ∃ written : Written, written.command = command := by
  cases command with
  | selectModel name =>
    refine ⟨.model (Keyword.spelling .selectModel) name.toList h, ?_⟩
    exact congrArg Command.selectModel String.ofList_toList
  | say turn =>
    -- The rest of a line will not do for a message of one line that is indented or a bar.
    obtain ⟨lines, hlines⟩ : ∃ lines : List WrittenLine,
        lines.map WrittenLine.text = turn.message.toList.splitOn '\n' := by
      rw [← Set.mem_range, Set.range_list_map]
      intro text hmem
      exact ⟨⟨.tab, text, isLine_of_mem_splitOn hmem, h.isTrimmed text hmem⟩, rfl⟩
    have hcontent : ∃ line ∈ lines, line.text ≠ [] := by
      obtain ⟨text, hmem, hne⟩ := h.hasContent
      rw [← hlines] at hmem
      obtain ⟨line, hline, rfl⟩ := List.mem_map.mp hmem
      exact ⟨line, hline, hne⟩
    refine ⟨.block (Keyword.spelling (.speak turn.role)) lines hcontent, ?_⟩
    rw [Written.command, hlines, List.intercalate_splitOn, String.ofList_toList]

/-- **Well formed commands are scanned from some text**, without an error. -/
theorem exists_text_of_wellFormed {commands : List Command}
    (h : ∀ command ∈ commands, command.WellFormed) :
    ∃ text, commandsOf text = (commands, none) := by
  obtain ⟨writings, rfl⟩ : ∃ writings : List Written, writings.map Written.command = commands := by
    rw [← Set.mem_range, Set.range_list_map]
    intro command hmem
    exact (h command hmem).exists_written
  obtain ⟨steps, blanks, hblanks, hopens, hcommands⟩ :=
    exists_opens_of_written writings isGap_nil
  refine ⟨String.ofList (writings.flatMap Written.write), ?_⟩
  have hclosing : Opens (String.ofList (writings.flatMap Written.write)).toList steps
      (Closing.clean blanks hblanks).write := by
    rw [String.toList_ofList]
    exact hopens
  rw [commandsOf_of_opens hclosing, hcommands]
  rfl

/-- **The commands that are scanned are the well formed ones.** Whatever a source delivers, and
however a scan of it ends, each command that a scanner has come to or hands out is well formed, and
so are all commands of the source. On the other hand there is a text for each list of well formed
commands, and for no other list, from which just these commands are scanned without an error. -/
theorem scans_exactly_wellFormed :
    (∀ (deliveries : List Delivery) (n : Nat),
      ∀ command ∈ (Scanner.after { source := Lexer.ofDeliveries deliveries } n).command,
        command.WellFormed) ∧
    (∀ (scanner next : Scanner Lexer) (command : Command),
      scanner.next? = (some (.ok command), next) → command.WellFormed) ∧
    (∀ deliveries : List Delivery,
      ∀ command ∈ (scanAll (Lexer.ofDeliveries deliveries)).1, command.WellFormed) ∧
    ∀ commands : List Command,
      (∃ text, commandsOf text = (commands, none)) ↔ ∀ command ∈ commands, command.WellFormed := by
  refine ⟨?_, ?_, ?_, ?_⟩
  · intro deliveries n
    exact Scanner.wellFormed_after rfl n
  · intro scanner next command h
    exact Scanner.wellFormed_of_next? h
  · intro deliveries
    exact forall_mem_scanAll Lexer.wellFormed_of_parse _
  · intro commands
    constructor
    · rintro ⟨text, htext⟩
      have hscanned := forall_mem_scanAll Lexer.wellFormed_of_parse (Lexer.ofText text)
      have hcommands : (commandsOf text).1 = commands := by rw [htext]
      rw [← hcommands]
      exact hscanned
    · exact exists_text_of_wellFormed

/-- A message may have empty lines around it, start with blanks, or be a lone bar. It may not end
with a blank. -/
theorem scans_exactly_wellFormed_messages :
    (∃ text, commandsOf text =
      ([.selectModel "m", .say ⟨.system, "\n\na\n"⟩, .say ⟨.user, "  a"⟩, .say ⟨.assistant, "|"⟩],
        none)) ∧
    ¬ ∃ text, commandsOf text = ([.say ⟨.user, "a "⟩], none) := by
  obtain ⟨-, -, -, hexactly⟩ := scans_exactly_wellFormed
  constructor
  · rw [hexactly]
    decide
  · rw [hexactly]
    decide

end Dialogue
