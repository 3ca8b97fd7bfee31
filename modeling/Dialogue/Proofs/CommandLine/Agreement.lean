import Dialogue.CommandLine.Program
import Dialogue.Proofs.Command.Tokens
import Dialogue.Proofs.Conversation.Effects

/-!
# What the subcommands say about one file

Three subcommands read a chatfile, each in its own way: one collects the tokens, one collects the
commands, and one loads the commands into a conversation. They open the same file and drive the
same lexer, so what one of them finds can be told from what the others find.

## Main definitions

* `TokenTrace.ofDeliveries`, `CommandTrace.ofDeliveries`: the traces of a source of bytes
* `Invocation.Runs files verb path`: an invocation of a subcommand on a file, with settings that
  load
* `Outcome.Prints text`: the outcome prints a text that ends its last line
* `Carries message text`: a printed trace carries the text of an error

## Main results

* `Alternates.readTokens_eq_none_iff`: tokens in turn are commands without an error if they stop
  without one and their number is even
* `Conversation.ofDeliveries_eq`: the conversation of a source is told by the trace of its commands
* `subcommands_agree`: the exit codes, the errors and the output of the subcommands for one file
-/

namespace Dialogue

/-! ## Tokens in turn -/

theorem TokenPair.kind_companion_ne (pair : TokenPair) (keyword : Keyword) :
    pair.companion.kind ≠ .keyword keyword := by
  rw [pair.completes]
  cases pair.keyword <;> nofun

namespace Alternates

variable {tokens : List Token}

/-- The number of tokens in turn is odd if the last of them is a keyword. -/
theorem odd_length_iff (h : Alternates tokens) :
    tokens.length % 2 = 1 ↔
      ∃ last keyword, tokens.getLast? = some last ∧ last.kind = .keyword keyword := by
  obtain ⟨pairs, rest, rfl, hrest⟩ := h.exists_pairs
  rw [List.length_append, TokenPair.length_flatMap_tokens]
  cases hrest with
  | opener hkind =>
    rw [List.length_singleton, Nat.mul_add_mod]
    exact iff_of_true rfl ⟨_, _, List.getLast?_concat, hkind⟩
  | nothing =>
    rw [List.length_nil, Nat.mul_add_mod, List.append_nil]
    refine iff_of_false Nat.zero_ne_one fun ⟨last, keyword, hlast, hkeyword⟩ => ?_
    -- The last token is the companion of the last pair, if there is one.
    rcases List.eq_nil_or_concat pairs with rfl | ⟨front, pair, rfl⟩
    · cases hlast
    · rw [List.concat_eq_append, List.flatMap_append, List.flatMap_singleton, TokenPair.tokens,
        List.getLast?_append_cons] at hlast
      obtain rfl : pair.companion = last := by simpa using hlast
      exact pair.kind_companion_ne keyword hkeyword

/-- An error on which tokens in turn stop is the error after their commands. -/
theorem readTokens_failure (h : Alternates tokens) (failure : LexError) :
    (readTokens (some failure) tokens).2 = some (.lexical failure) := by
  obtain ⟨pairs, rest, rfl, hrest⟩ := h.exists_pairs
  rw [readTokens_pairs]
  cases hrest with
  | nothing => rfl
  | opener hkind => rw [readTokens_of_lone hkind]; rfl

/-- **Tokens in turn are commands without an error** if they stop without one and their number is
even. -/
theorem readTokens_eq_none_iff (h : Alternates tokens) (failure : Option LexError) :
    (readTokens failure tokens).2 = none ↔ failure = none ∧ tokens.length % 2 = 0 := by
  cases failure with
  | some failure => simp [h.readTokens_failure]
  | none =>
    obtain ⟨pairs, rest, rfl, hrest⟩ := h.exists_pairs
    rw [readTokens_pairs, List.length_append, TokenPair.length_flatMap_tokens, Nat.mul_add_mod]
    cases hrest with
    | nothing => simp [readTokens]
    | opener hkind => simp [readTokens_of_lone hkind]

end Alternates

/-! ## The traces of a source -/

/-- The trace of the tokens of a source of bytes. -/
def TokenTrace.ofDeliveries (deliveries : List Delivery) : TokenTrace :=
  .collect (Lexer.ofDeliveries deliveries)

/-- The trace of the commands of a source of bytes. -/
def CommandTrace.ofDeliveries (deliveries : List Delivery) : CommandTrace :=
  .collect (Lexer.ofDeliveries deliveries)

section Traces

variable {deliveries : List Delivery}

theorem TokenTrace.alternates_ofDeliveries (deliveries : List Delivery) :
    Alternates (TokenTrace.ofDeliveries deliveries).tokens :=
  (Lexer.awaits_ofDeliveries deliveries).alternates_drain

/-- The error of a scan is read off the tokens of the source. -/
theorem CommandTrace.error_ofDeliveries (deliveries : List Delivery) :
    (CommandTrace.ofDeliveries deliveries).error =
      (readTokens (TokenTrace.ofDeliveries deliveries).error
        (TokenTrace.ofDeliveries deliveries).tokens).2 := by
  have hscan := scanAll_eq_readTokens (fun h => (Lexer.running_of_token h).2.1)
    (Lexer.ofDeliveries deliveries)
  exact congrArg Prod.snd hscan

/-- A scan stops on the error on which the tokens stop. -/
theorem CommandTrace.error_of_failure {failure : LexError}
    (h : (TokenTrace.ofDeliveries deliveries).error = some failure) :
    (CommandTrace.ofDeliveries deliveries).error = some (.lexical failure) := by
  rw [error_ofDeliveries, h]
  exact (TokenTrace.alternates_ofDeliveries deliveries).readTokens_failure failure

theorem CommandTrace.error_eq_none_iff :
    (CommandTrace.ofDeliveries deliveries).error = none ↔
      (TokenTrace.ofDeliveries deliveries).error = none ∧
        (TokenTrace.ofDeliveries deliveries).tokens.length % 2 = 0 := by
  rw [error_ofDeliveries]
  exact (TokenTrace.alternates_ofDeliveries deliveries).readTokens_eq_none_iff _

/-- **The conversation of a source is told by the trace of its commands.** -/
theorem Conversation.ofDeliveries_eq (deliveries : List Delivery) :
    Conversation.ofDeliveries deliveries =
      match (CommandTrace.ofDeliveries deliveries).error with
      | none => .ok (Command.applyAll (CommandTrace.ofDeliveries deliveries).commands .empty)
      | some error => .error error := by
  have herror : (CommandTrace.ofDeliveries deliveries).error =
      (scanAll (Lexer.ofDeliveries deliveries)).2.1 := rfl
  rw [ofDeliveries, load, loadFrom_eq, herror]
  cases (scanAll (Lexer.ofDeliveries deliveries)).2.1 <;> rfl

end Traces

/-! ## The built-in settings -/

namespace Settings

theorem format?_simple : format? (.string "simple") = some .simple := by
  have hlower : "simple".toLower = "simple" := by
    have htoList : "simple".toLower.toList = "simple".toList.map Char.toLower := String.toList_map
    rw [← String.toList_inj, htoList]
    decide
  rw [format?, formatOfName?, hlower]
  rfl

/-- The built-in settings are complete and valid. -/
theorem ofSetting?_defaults :
    ofSetting? (.table defaults) = some ⟨⟨none, none, true⟩, .simple, []⟩ := by
  have houtput : Setting.required? output? ((Setting.table defaults).entries.lookup "output") =
      some .simple := format?_simple
  rw [ofSetting?, houtput]
  rfl

end Settings

namespace CommandLine

/-! ## The outcomes for a file -/

/-- An outcome prints a text, and a line feed behind it unless the text ends with one. -/
def Outcome.Prints (outcome : Outcome) (text : String) : Prop :=
  outcome.output = if text.toList.getLast? = some '\n' then text else text ++ "\n"

/-- A printed trace carries the text of an error: as a line of its own, or as a member of a
record. -/
inductive Carries (message : String) : String → Prop
  | onLine (above below : String) :
      Carries message (above ++ "\n" ++ message ++ "\n" ++ below)
  | inRecord {members : List (Option String × Json)}
      (mem : (some "error", .string (some message)) ∈ members) :
      Carries message ((Json.object members).render .pretty ++ "\n")

section Printing

variable {text message : String} {failed : Bool} {format : TraceFormat}

theorem prints_printTrace (text : String) (failed : Bool) :
    (printTrace text failed).Prints text := by
  cases failed <;> rfl

/-- A text that carries a message as a line still does with a line feed behind it. -/
theorem carries_of_line {outcome : Outcome} (above below : String) (h : outcome.Prints text)
    (htext : text = above ++ "\n" ++ message ++ "\n" ++ below) :
    Carries message outcome.output := by
  rw [h, htext]
  split
  · exact .onLine above below
  · rw [String.append_assoc]
    exact .onLine above (below ++ "\n")

/-- The text of a record ends with its closing brace. -/
theorem getLast?_render_record (members : List (String × Json)) :
    ((Json.record members).render .pretty).toList.getLast? = some '\x7d' := by
  rw [Json.render, String.toList_ofList]
  cases members with
  | nil => rfl
  | cons member members => exact List.getLast?_concat

theorem carries_of_record {outcome : Outcome} {members : List (String × Json)}
    (h : outcome.Prints ((Json.record members).render .pretty))
    (hmem : ("error", Json.text message) ∈ members) : Carries message outcome.output := by
  rw [h, getLast?_render_record, if_neg (by decide)]
  exact .inRecord (List.mem_map_of_mem hmem)

/-- The trace of tokens carries the error on which they stop. -/
theorem carries_tokenTrace {outcome : Outcome} {trace : TokenTrace} {error : LexError}
    (h : outcome.Prints (trace.render format)) (herror : trace.error = some error) :
    Carries error.message outcome.output := by
  cases format with
  | simple =>
    refine carries_of_line (lines (trace.tokens.map Token.render)) (line trace.last.render) h ?_
    simp [TokenTrace.render, TokenTrace.renderSimple, herror, lines, line, String.append_assoc]
  | json =>
    refine carries_of_record h ?_
    simp [herror, Json.orNull]

/-- The trace of commands carries the error that is found after them. -/
theorem carries_commandTrace {outcome : Outcome} {trace : CommandTrace} {error : ParseError}
    (h : outcome.Prints (trace.render format)) (herror : trace.error = some error) :
    Carries error.message outcome.output := by
  cases format with
  | simple =>
    refine carries_of_line (lines (trace.commands.map Command.render))
      (lines (trace.stoppedAt.toList.map Token.render)) h ?_
    simp [CommandTrace.render, CommandTrace.renderSimple, herror, line, String.append_assoc]
  | json =>
    refine carries_of_record h ?_
    simp [herror, Json.orNull]

theorem code_printTrace_eq_zero_iff : (printTrace text failed).code = 0 ↔ failed = false := by
  cases failed <;> simp [printTrace, Outcome.code]

theorem code_printTrace_eq_one_iff : (printTrace text failed).code = 1 ↔ failed = true := by
  cases failed <;> simp [printTrace, Outcome.code]

end Printing

section Running

variable {files : FileSystem} {path : String}

theorem runTokens_of_unopened {error : OpenError} (h : (files path).deliveries = .error error)
    (format : TraceFormat) : runTokens files path format = .failed (.opening path error) := by
  rw [runTokens, openForTrace, h]
  rfl

theorem runCommands_of_unopened {error : OpenError} (h : (files path).deliveries = .error error)
    (format : TraceFormat) : runCommands files path format = .failed (.opening path error) := by
  rw [runCommands, openForTrace, h]
  rfl

theorem runDump_of_unopened {error : OpenError} (h : (files path).deliveries = .error error) :
    runDump files path = .failed (.loading (.unopened error)) := by
  simp only [runDump, Conversation.ofFile, h]

variable {deliveries : List Delivery}

theorem runTokens_of_opened (h : (files path).deliveries = .ok deliveries)
    (format : TraceFormat) :
    runTokens files path format =
      printTrace ((TokenTrace.ofDeliveries deliveries).render format)
        (TokenTrace.ofDeliveries deliveries).error.isSome := by
  rw [runTokens, openForTrace, h]
  rfl

theorem runCommands_of_opened (h : (files path).deliveries = .ok deliveries)
    (format : TraceFormat) :
    runCommands files path format =
      printTrace ((CommandTrace.ofDeliveries deliveries).render format)
        (CommandTrace.ofDeliveries deliveries).error.isSome := by
  rw [runCommands, openForTrace, h]
  rfl

theorem runDump_of_commands (h : (files path).deliveries = .ok deliveries)
    (hcommands : (CommandTrace.ofDeliveries deliveries).error = none) :
    runDump files path = .done (String.join ((Conversation.shown
      (Command.selections (CommandTrace.ofDeliveries deliveries).commands).getLast?
      (Command.turns (CommandTrace.ofDeliveries deliveries).commands)).map (· ++ "\n"))) := by
  simp only [runDump, Conversation.ofFile, h, Conversation.ofDeliveries_eq, hcommands,
    Conversation.summary_applyAll]

theorem runDump_of_error {error : ParseError} (h : (files path).deliveries = .ok deliveries)
    (hcommands : (CommandTrace.ofDeliveries deliveries).error = some error) :
    runDump files path = .failed (.loading (.invalid error)) := by
  simp only [runDump, Conversation.ofFile, h, Conversation.ofDeliveries_eq, hcommands]

end Running

/-- An invocation of a subcommand on a file, with settings that load. -/
structure Invocation.Runs (invocation : Invocation) (files : FileSystem) (verb : Verb)
    (path : String) : Prop where
  verb_eq : invocation.verb = verb
  path_eq : invocation.path = path
  loads : ∃ settings, Settings.load files invocation.layers = .ok settings

namespace Invocation.Runs

variable {files : FileSystem} {path : String} {invocation : Invocation}

theorem run_tokens (h : invocation.Runs files .tokens path) :
    ∃ format, invocation.run files = runTokens files path format := by
  obtain ⟨settings, hsettings⟩ := h.loads
  refine ⟨invocation.choices.format.getD settings.format, ?_⟩
  simp only [Invocation.run, hsettings, h.verb_eq, h.path_eq]

theorem run_commands (h : invocation.Runs files .commands path) :
    ∃ format, invocation.run files = runCommands files path format := by
  obtain ⟨settings, hsettings⟩ := h.loads
  refine ⟨invocation.choices.format.getD settings.format, ?_⟩
  simp only [Invocation.run, hsettings, h.verb_eq, h.path_eq]

theorem run_dump (h : invocation.Runs files .dump path) :
    invocation.run files = runDump files path := by
  obtain ⟨settings, hsettings⟩ := h.loads
  simp only [Invocation.run, hsettings, h.verb_eq, h.path_eq]

end Invocation.Runs

/-- A conversation and a request are printed as a whole or not at all. -/
theorem Invocation.code_of_output {invocation : Invocation} {files : FileSystem}
    (hverb : invocation.verb = .dump ∨ invocation.verb = .request)
    (houtput : (invocation.run files).output ≠ "") : (invocation.run files).code = 0 := by
  revert houtput
  rw [Invocation.run]
  split
  · exact fun houtput => absurd rfl houtput
  · exact fun houtput => absurd rfl houtput
  · rcases hverb with hverb | hverb
    · simp only [hverb, runDump]
      split <;> simp [Outcome.output, Outcome.code]
    · simp only [hverb, runRequest]
      split <;> simp [Outcome.output, Outcome.code]

/-! ## Agreement -/

section Agreement

variable {files : FileSystem} {path : String} {tokens commands dump request : Invocation}
  {deliveries : List Delivery}

/-- Every subcommand fails on a file that does not open. -/
theorem code_of_unopened {error : OpenError} (h : (files path).deliveries = .error error)
    (htokens : tokens.Runs files .tokens path) (hcommands : commands.Runs files .commands path)
    (hdump : dump.Runs files .dump path) :
    (tokens.run files).code = 1 ∧ (commands.run files).code = 1 ∧ (dump.run files).code = 1 := by
  obtain ⟨tokenFormat, htokens⟩ := htokens.run_tokens
  obtain ⟨commandFormat, hcommands⟩ := hcommands.run_commands
  rw [htokens, hcommands, hdump.run_dump, runTokens_of_unopened h, runCommands_of_unopened h,
    runDump_of_unopened h]
  exact ⟨rfl, rfl, rfl⟩

theorem code_tokens_eq_zero_iff (h : (files path).deliveries = .ok deliveries)
    (htokens : tokens.Runs files .tokens path) :
    (tokens.run files).code = 0 ↔ (TokenTrace.ofDeliveries deliveries).error = none := by
  obtain ⟨format, htokens⟩ := htokens.run_tokens
  rw [htokens, runTokens_of_opened h, code_printTrace_eq_zero_iff, Option.isSome_eq_false_iff,
    Option.isNone_iff_eq_none]

theorem code_commands_eq_zero_iff (h : (files path).deliveries = .ok deliveries)
    (hcommands : commands.Runs files .commands path) :
    (commands.run files).code = 0 ↔ (CommandTrace.ofDeliveries deliveries).error = none := by
  obtain ⟨format, hcommands⟩ := hcommands.run_commands
  rw [hcommands, runCommands_of_opened h, code_printTrace_eq_zero_iff,
    Option.isSome_eq_false_iff, Option.isNone_iff_eq_none]

theorem code_commands_eq_one_iff (h : (files path).deliveries = .ok deliveries)
    (hcommands : commands.Runs files .commands path) :
    (commands.run files).code = 1 ↔ (CommandTrace.ofDeliveries deliveries).error ≠ none := by
  obtain ⟨format, hcommands⟩ := hcommands.run_commands
  rw [hcommands, runCommands_of_opened h, code_printTrace_eq_one_iff,
    Option.isSome_iff_ne_none]

theorem code_dump_eq_zero_iff (h : (files path).deliveries = .ok deliveries)
    (hdump : dump.Runs files .dump path) :
    (dump.run files).code = 0 ↔ (CommandTrace.ofDeliveries deliveries).error = none := by
  rw [hdump.run_dump]
  cases herror : (CommandTrace.ofDeliveries deliveries).error with
  | none => simp [runDump_of_commands h herror, Outcome.code]
  | some error => simp [runDump_of_error h herror, Outcome.code]

/-- **A file whose tokens print without an error and whose commands do not** is one that opens, has
no error in its tokens, and ends after a keyword. -/
theorem left_over_iff (htokens : tokens.Runs files .tokens path)
    (hcommands : commands.Runs files .commands path) (hdump : dump.Runs files .dump path) :
    (tokens.run files).code = 0 ∧ (commands.run files).code = 1 ↔
      ∃ deliveries, (files path).deliveries = .ok deliveries ∧
        (TokenTrace.ofDeliveries deliveries).error = none ∧
        (TokenTrace.ofDeliveries deliveries).tokens.length % 2 = 1 := by
  cases hopen : (files path).deliveries with
  | error error =>
    obtain ⟨htokens, -, -⟩ := code_of_unopened hopen htokens hcommands hdump
    rw [htokens]
    simp
  | ok deliveries =>
    rw [code_tokens_eq_zero_iff hopen htokens, code_commands_eq_one_iff hopen hcommands, Ne,
      CommandTrace.error_eq_none_iff]
    constructor
    · rintro ⟨hnone, hcommands⟩
      have hodd := Nat.mod_two_ne_zero.mp fun heven => hcommands ⟨hnone, heven⟩
      exact ⟨deliveries, rfl, hnone, hodd⟩
    · rintro ⟨_, ⟨⟩, hnone, hodd⟩
      exact ⟨hnone, fun ⟨_, heven⟩ => by omega⟩

/-- The trace of the tokens is printed in some format. -/
theorem exists_prints_tokens (h : (files path).deliveries = .ok deliveries)
    (htokens : tokens.Runs files .tokens path) :
    ∃ format, (tokens.run files).Prints ((TokenTrace.ofDeliveries deliveries).render format) := by
  obtain ⟨format, hrun⟩ := htokens.run_tokens
  rw [hrun, runTokens_of_opened h]
  exact ⟨format, prints_printTrace _ _⟩

/-- The trace of the commands is printed in some format. -/
theorem exists_prints_commands (h : (files path).deliveries = .ok deliveries)
    (hcommands : commands.Runs files .commands path) :
    ∃ format,
      (commands.run files).Prints ((CommandTrace.ofDeliveries deliveries).render format) := by
  obtain ⟨format, hrun⟩ := hcommands.run_commands
  rw [hrun, runCommands_of_opened h]
  exact ⟨format, prints_printTrace _ _⟩

/-- **A failed load reports the error that the trace of the commands carries**, which holds that of
the tokens if they have one. -/
theorem errorOutput_dump (h : (files path).deliveries = .ok deliveries)
    (htokens : tokens.Runs files .tokens path) (hcommands : commands.Runs files .commands path)
    (hdump : dump.Runs files .dump path) (hcode : (dump.run files).code ≠ 0) :
    ∃ error, (CommandTrace.ofDeliveries deliveries).error = some error ∧
      Carries error.message (commands.run files).output ∧
      (dump.run files).errorOutput = "Error: Parse error: " ++ error.message ++ "\n" ∧
      ((tokens.run files).code ≠ 0 →
        ∃ failure, (TokenTrace.ofDeliveries deliveries).error = some failure ∧
          Carries failure.message (tokens.run files).output ∧
          error.message = "Lexing error: " ++ failure.message) := by
  rw [Ne, code_dump_eq_zero_iff h hdump] at hcode
  obtain ⟨error, herror⟩ := Option.ne_none_iff_exists'.mp hcode
  obtain ⟨_, hprints⟩ := exists_prints_commands h hcommands
  refine ⟨error, herror, carries_commandTrace hprints herror, ?_, ?_⟩
  · rw [hdump.run_dump, runDump_of_error h herror]
    change "Error: " ++ ("Parse error: " ++ error.message) ++ "\n" = _
    rw [← String.append_assoc]
    rfl
  · intro htokenCode
    rw [Ne, code_tokens_eq_zero_iff h htokens] at htokenCode
    obtain ⟨failure, hfailure⟩ := Option.ne_none_iff_exists'.mp htokenCode
    obtain ⟨_, hprints⟩ := exists_prints_tokens h htokens
    refine ⟨failure, hfailure, carries_tokenTrace hprints hfailure, ?_⟩
    -- An error of the lexer ends the commands too, so both traces report it.
    rw [CommandTrace.error_of_failure hfailure] at herror
    obtain rfl := Option.some_inj.mp herror
    rfl

/-- **The subcommands agree about a file.** The commands and the conversation of a file print
without an error alike, and then so do its tokens. Tokens that do so while the commands do not are
those of a file that opens, has no error in its tokens, and ends after a keyword. If a file opens, a
failure to load it is reported with the error that the trace of its commands carries, which holds
the one that the trace of its tokens carries; and otherwise its conversation is printed line by
line, with the model that its commands select last and all their turns, in order. A conversation and
a request are printed only if the program succeeds. -/
theorem subcommands_agree
    (htokens : tokens.Runs files .tokens path) (hcommands : commands.Runs files .commands path)
    (hdump : dump.Runs files .dump path) (hrequest : request.Runs files .request path) :
    ((commands.run files).code = 0 ↔ (dump.run files).code = 0) ∧
    ((commands.run files).code = 0 → (tokens.run files).code = 0) ∧
    ((tokens.run files).code = 0 ∧ (commands.run files).code = 1 ↔
      ∃ deliveries, (files path).deliveries = .ok deliveries ∧
        (TokenTrace.ofDeliveries deliveries).error = none ∧
        (TokenTrace.ofDeliveries deliveries).tokens.length % 2 = 1) ∧
    (∀ deliveries, (files path).deliveries = .ok deliveries →
      ((TokenTrace.ofDeliveries deliveries).tokens.length % 2 = 1 ↔
        ∃ last keyword, (TokenTrace.ofDeliveries deliveries).tokens.getLast? = some last ∧
          last.kind = .keyword keyword) ∧
      (∃ format, (tokens.run files).Prints ((TokenTrace.ofDeliveries deliveries).render format)) ∧
      (∃ format,
        (commands.run files).Prints ((CommandTrace.ofDeliveries deliveries).render format)) ∧
      ((dump.run files).code ≠ 0 →
        ∃ error, (CommandTrace.ofDeliveries deliveries).error = some error ∧
          Carries error.message (commands.run files).output ∧
          (dump.run files).errorOutput = "Error: Parse error: " ++ error.message ++ "\n" ∧
          ((tokens.run files).code ≠ 0 →
            ∃ failure, (TokenTrace.ofDeliveries deliveries).error = some failure ∧
              Carries failure.message (tokens.run files).output ∧
              error.message = "Lexing error: " ++ failure.message)) ∧
      ((dump.run files).code = 0 →
        (dump.run files).output = String.join ((Conversation.shown
          (Command.selections (CommandTrace.ofDeliveries deliveries).commands).getLast?
          (Command.turns (CommandTrace.ofDeliveries deliveries).commands)).map (· ++ "\n")))) ∧
    ((dump.run files).output ≠ "" → (dump.run files).code = 0) ∧
    ((request.run files).output ≠ "" → (request.run files).code = 0) := by
  refine ⟨?_, ?_, left_over_iff htokens hcommands hdump, ?_,
    Invocation.code_of_output (.inl hdump.verb_eq),
    Invocation.code_of_output (.inr hrequest.verb_eq)⟩
  · cases hopen : (files path).deliveries with
    | error error =>
      -- None of them runs on a file that cannot be opened.
      obtain ⟨-, hcommands, hdump⟩ := code_of_unopened hopen htokens hcommands hdump
      rw [hcommands, hdump]
    | ok deliveries =>
      rw [code_commands_eq_zero_iff hopen hcommands, code_dump_eq_zero_iff hopen hdump]
  · cases hopen : (files path).deliveries with
    | error error =>
      obtain ⟨htokens, hcommands, -⟩ := code_of_unopened hopen htokens hcommands hdump
      rw [htokens, hcommands]
      exact id
    | ok deliveries =>
      rw [code_commands_eq_zero_iff hopen hcommands, code_tokens_eq_zero_iff hopen htokens,
        CommandTrace.error_eq_none_iff]
      exact And.left
  · intro deliveries hopen
    refine ⟨(TokenTrace.alternates_ofDeliveries deliveries).odd_length_iff,
      exists_prints_tokens hopen htokens, exists_prints_commands hopen hcommands,
      errorOutput_dump hopen htokens hcommands hdump, ?_⟩
    intro hcode
    rw [hdump.run_dump, runDump_of_commands hopen ((code_dump_eq_zero_iff hopen hdump).mp hcode)]
    rfl

end Agreement

/-- The bytes of a chatfile that ends after a keyword. -/
def openEndedBytes : List UInt8 := [70, 82, 79, 77, 32, 109, 10, 65, 83, 75]

/-- The bytes of a chatfile with a block of two lines, a prompt and an answer to it. -/
def completeBytes : List UInt8 :=
  [70, 82, 79, 77, 32, 109, 10, 83, 89, 83, 84, 69, 77, 32, 124, 10, 9, 97, 10, 9, 98, 10,
    65, 83, 75, 32, 104, 105, 10, 65, 78, 83, 87, 69, 82, 32, 111, 107]

/-- The bytes of a chatfile with a word that is no keyword. -/
def strayBytes : List UInt8 := [70, 82, 79, 77, 32, 109, 10, 77, 65, 89, 66, 69, 32, 120]

/-- A configuration file without settings, and the three chatfiles. -/
def talkFiles : FileSystem
  | "chatfile.toml" => .file []
  | "talk" => .file openEndedBytes
  | "tale" => .file completeBytes
  | "stray" => .file strayBytes
  | _ => .absent .notFound

theorem runs_talkFiles (verb : Verb) (path : String) :
    (Invocation.mk verb path {}).Runs talkFiles verb path := by
  have hmerged : Settings.merged talkFiles (Invocation.mk verb path {}).layers =
      .ok (.table Settings.defaults) := rfl
  refine ⟨rfl, rfl, ?_⟩
  rw [Settings.load, hmerged]
  simp only [Settings.ofSetting?_defaults]
  exact ⟨_, rfl⟩

/-- The tokens of `talk` print without an error, and its commands and its conversation do not. The
conversation of `tale` is printed. The tokens of `stray` carry the error that its conversation is
reported with. -/
theorem subcommands_agree_talkFiles :
    let run := fun verb path => (Invocation.mk verb path {}).run talkFiles
    (run .tokens "talk").code = 0 ∧ (run .commands "talk").code = 1 ∧
      (run .dump "talk").errorOutput =
        "Error: Parse error: failed to parse command ASK: input ended\n" ∧
      (run .dump "tale").output = "Model: m\nSYSTEM:\na\nb\nUSER: hi\nASSISTANT: ok\n" ∧
      Carries "unknown token `MAYBE` at 2:1" (run .tokens "stray").output ∧
      (run .dump "stray").errorOutput =
        "Error: Parse error: Lexing error: unknown token `MAYBE` at 2:1\n" := by
  intro run
  have hagree := fun path => subcommands_agree (runs_talkFiles .tokens path)
    (runs_talkFiles .commands path) (runs_talkFiles .dump path) (runs_talkFiles .request path)
  have htalk : (TokenTrace.ofDeliveries (deliver openEndedBytes)).error = none ∧
      (TokenTrace.ofDeliveries (deliver openEndedBytes)).tokens.length % 2 = 1 ∧
      (CommandTrace.ofDeliveries (deliver openEndedBytes)).error =
        some (.incomplete (.speak .user)) := by decide +kernel
  have htale : (CommandTrace.ofDeliveries (deliver completeBytes)).commands =
      [.selectModel "m", .say ⟨.system, "a\nb"⟩, .say ⟨.user, "hi"⟩, .say ⟨.assistant, "ok"⟩] ∧
      (CommandTrace.ofDeliveries (deliver completeBytes)).error = none := by decide +kernel
  have hstray : (TokenTrace.ofDeliveries (deliver strayBytes)).error =
      some (.unknownToken "MAYBE" ⟨2, 1⟩) := by decide +kernel
  -- `talk` ends behind a keyword.
  obtain ⟨hexits, -, hleftOver, hopened, -⟩ := hagree "talk"
  obtain ⟨htokens, hcommands⟩ := hleftOver.mpr ⟨_, rfl, htalk.1, htalk.2.1⟩
  obtain ⟨-, -, -, hfailed, -⟩ := hopened _ rfl
  obtain ⟨error, herror, -, hreport, -⟩ := hfailed (by rw [Ne, ← hexits, hcommands]; decide)
  obtain rfl := Option.some_inj.mp (herror.symm.trans htalk.2.2)
  refine ⟨htokens, hcommands, hreport, ?_⟩
  -- `tale` is read to its end.
  obtain ⟨-, -, -, hopened, -⟩ := hagree "tale"
  obtain ⟨-, -, -, -, hprinted⟩ := hopened _ rfl
  have houtput := hprinted ((code_dump_eq_zero_iff rfl (runs_talkFiles .dump "tale")).mpr htale.2)
  rw [htale.1] at houtput
  refine ⟨houtput.trans (by decide +kernel), ?_⟩
  -- `stray` has a word that is no keyword.
  have hdump : (run .dump "stray").code ≠ 0 := by
    rw [Ne, code_dump_eq_zero_iff rfl (runs_talkFiles .dump "stray"),
      CommandTrace.error_of_failure hstray]
    exact Option.some_ne_none _
  have htokens : (run .tokens "stray").code ≠ 0 := by
    rw [Ne, code_tokens_eq_zero_iff rfl (runs_talkFiles .tokens "stray"), hstray]
    exact Option.some_ne_none _
  obtain ⟨-, -, -, hopened, -⟩ := hagree "stray"
  obtain ⟨-, -, -, hfailed, -⟩ := hopened _ rfl
  obtain ⟨error, -, -, hreport, hlexical⟩ := hfailed hdump
  obtain ⟨failure, hfailure, hcarries, hmessage⟩ := hlexical htokens
  obtain rfl := Option.some_inj.mp (hfailure.symm.trans hstray)
  rw [hmessage] at hreport
  exact ⟨hcarries, hreport⟩

end CommandLine

end Dialogue
