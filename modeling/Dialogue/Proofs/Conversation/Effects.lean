import Dialogue.Proofs.Command.Protocol
import Dialogue.Proofs.Conversation.Loading

/-!
# What commands add up to

A command changes one part of a conversation and leaves the other as it is: a selection replaces the
model, and a turn goes to the history. So commands add up to the last selection and to all turns in
order, and nothing depends on how selections and turns stand among each other.

Sources that are loaded into one conversation, one after the other, add the commands that a scanner
shows of each of them, also if its scan stops on an error. What one load returns says nothing about
the others.

A conversation is shown as lines: one for the model, then those of each turn.

## Main definitions

* `Command.selections`, `Command.turns`: the models that some commands select, and the turns that
  they add
* `Scanner.Shows source commands stop`: what a scanner shows of a source, scan by scan
* `scanned deliveries`: what a scan of a source of bytes finds
* `Conversation.loadEach sources`: loads sources into one conversation, one after the other
* `Turn.shown`, `Conversation.shown`: the lines of a turn, and of a model and turns

## Main results

* `Command.applyAll_eq`: commands add up to their last selection and to all their turns
* `Scanner.shows_scanned`: what a scan finds is what a scanner shows
* `Conversation.loadEach_eq`: loads in turn apply the commands of all sources
* `Conversation.summary_applyAll`: commands are summed up by their last selection and their turns
* `loads_fold_commands`: the model, the history and the results after loads in turn, for both sinks
-/

namespace Dialogue

/-! ## The effect of commands -/

namespace Command

/-- The model that a command selects. -/
def selection? : Command → Option String
  | .selectModel name => some name
  | .say _ => none

/-- The turn that a command adds. -/
def turn? : Command → Option Turn
  | .selectModel _ => none
  | .say turn => some turn

/-- The models that some commands select, in order. -/
def selections (commands : List Command) : List String :=
  commands.filterMap selection?

/-- The turns that some commands add, in order. -/
def turns (commands : List Command) : List Turn :=
  commands.filterMap turn?

theorem selections_concat (commands : List Command) (command : Command) :
    selections (commands ++ [command]) = selections commands ++ command.selection?.toList := by
  cases command <;> simp [selections, selection?]

theorem turns_concat (commands : List Command) (command : Command) :
    turns (commands ++ [command]) = turns commands ++ command.turn?.toList := by
  cases command <;> simp [turns, turn?]

theorem apply_eq {η : Type} [Sink η] (command : Command) (conversation : Conversation η) :
    command.apply conversation =
      ⟨command.selection?.or conversation.model,
        command.turn?.toList.foldl Sink.append conversation.history⟩ := by
  cases command <;> rfl

/-- **Commands add up to their last selection and to all their turns.** -/
theorem applyAll_eq {η : Type} [Sink η] (commands : List Command)
    (conversation : Conversation η) :
    applyAll commands conversation =
      ⟨(selections commands).getLast?.or conversation.model,
        (turns commands).foldl Sink.append conversation.history⟩ := by
  -- From the end, where the selection that counts stands.
  induction commands using List.reverseRecOn with
  | nil => rfl
  | append_singleton commands command ih =>
    rw [applyAll_append, ih, applyAll, List.foldl_cons, List.foldl_nil, apply_eq,
      selections_concat, turns_concat, List.foldl_append]
    cases command with
    | selectModel name => simp [selection?]
    | say turn => simp [selection?]

end Command

/-- Turns go to a transcript in their order. -/
theorem Transcript.foldl_append (transcript : Transcript) (turns : List Turn) :
    turns.foldl Sink.append transcript = ⟨transcript.turns ++ turns⟩ := by
  induction turns generalizing transcript with
  | nil => simp
  | cons turn turns ih =>
    rw [List.foldl_cons, ih]
    simp [Sink.append]

/-- Turns go to an array in their order. -/
theorem foldl_append_array (history : Array Turn) (turns : List Turn) :
    turns.foldl Sink.append history = history ++ turns.toArray := by
  induction turns generalizing history with
  | nil => simp
  | cons turn turns ih =>
    rw [List.foldl_cons, ih]
    simp [Sink.append]

/-! ## The lines of a conversation -/

/-- The lines that show a turn: the role and the message on one line, or, if the message has several
lines, the role on a line before them. -/
def Turn.shown (turn : Turn) : List String :=
  let role := match turn.role with
    | .system => "SYSTEM"
    | .user => "USER"
    | .assistant => "ASSISTANT"
  if '\n' ∈ turn.message.toList then
    (role ++ ":") :: (turn.message.toList.splitOn '\n').map String.ofList
  else [role ++ ": " ++ turn.message]

/-- The lines that show a model, which may be missing, and some turns. -/
def Conversation.shown (model : Option String) (turns : List Turn) : List String :=
  ("Model: " ++ model.getD "") :: turns.flatMap Turn.shown

/-- Lines that are parted by line feeds, with another one behind the last of them. -/
theorem flatMap_concat_eq_intercalate {texts : List (List Char)} (h : texts ≠ []) :
    texts.flatMap (· ++ ['\n']) = ['\n'].intercalate texts ++ ['\n'] := by
  induction texts with
  | nil => exact absurd rfl h
  | cons text texts ih =>
    cases texts with
    | nil => simp
    | cons next texts =>
      rw [List.flatMap_cons, ih (List.cons_ne_nil _ _), List.intercalate_cons_cons]
      simp

/-- The lines of a message are the message, and a line feed behind it. -/
theorem join_splitOn (message : String) :
    String.join (((message.toList.splitOn '\n').map String.ofList).map (· ++ "\n")) =
      message ++ "\n" := by
  have hlines := flatMap_concat_eq_intercalate (List.splitOn_ne_nil '\n' message.toList)
  rw [List.intercalate_splitOn] at hlines
  rw [← String.toList_inj, String.toList_append, String.toList_join, List.map_map,
    List.flatMap_map]
  simpa [Function.comp_def] using hlines

namespace Conversation

theorem turnSummary_eq (turn : Turn) :
    turnSummary turn = String.join (turn.shown.map (· ++ "\n")) := by
  obtain ⟨role, message⟩ := turn
  by_cases hlines : '\n' ∈ message.toList
  · simp only [turnSummary, Turn.shown, if_pos hlines, List.map_cons, String.join_cons,
      join_splitOn, String.append_assoc]
    cases role <;> rfl
  · simp only [turnSummary, Turn.shown, if_neg hlines]
    cases role <;> simp [Role.heading]

/-- **A summary shows a conversation line by line.** -/
theorem summary_eq (model : Option String) (turns : List Turn) :
    summary ⟨model, ⟨turns⟩⟩ = String.join ((shown model turns).map (· ++ "\n")) := by
  have hturns : String.join (turns.map turnSummary) =
      String.join ((turns.flatMap Turn.shown).map (· ++ "\n")) := by
    induction turns with
    | nil => rfl
    | cons turn turns ih =>
      rw [List.map_cons, String.join_cons, ih, turnSummary_eq, List.flatMap_cons, List.map_append,
        String.join_append]
  rw [summary, hturns, shown, List.map_cons, String.join_cons]

/-- Commands are summed up by their last selection and their turns. -/
theorem summary_applyAll (commands : List Command) :
    summary (Command.applyAll commands .empty) =
      String.join ((shown (Command.selections commands).getLast?
        (Command.turns commands)).map (· ++ "\n")) := by
  have happlied : Command.applyAll commands .empty =
      ⟨(Command.selections commands).getLast?, Transcript.mk (Command.turns commands)⟩ := by
    rw [Command.applyAll_eq, Transcript.foldl_append, empty, Option.or_none]
    rfl
  rw [happlied, summary_eq]

end Conversation

/-! ## What a scan finds -/

/-- What a scanner shows of a source: with each scan one of the commands, and after them the error,
if there is one. -/
structure Scanner.Shows {σ : Type} [TokenSource σ] (source : σ) (commands : List Command)
    (stop : Option ParseError) : Prop where
  scan_iff : ∀ k, (Scanner.after { source } k).scan.1 = true ↔ k < commands.length
  command_eq : ∀ k, (Scanner.after { source } (k + 1)).command = commands[k]?
  error_eq : (Scanner.after { source } (commands.length + 1)).error = stop

/-- What a scan of a source of bytes finds: the commands, and the error after them. -/
def scanned (deliveries : List Delivery) : List Command × Option ParseError :=
  ((scanAll (Lexer.ofDeliveries deliveries)).1, (scanAll (Lexer.ofDeliveries deliveries)).2.1)

/-- **What a scan finds is what a scanner shows.** -/
theorem Scanner.shows_scanned (deliveries : List Delivery) :
    Shows (Lexer.ofDeliveries deliveries) (scanned deliveries).1 (scanned deliveries).2 := by
  have hgives := Command.gives_scanAll (Lexer.ofDeliveries deliveries)
  refine ⟨fun k => ?_, fun k => ?_, ?_⟩
  · exact ((Stands.after hgives k).1.scan hgives).1
  · exact ((Stands.after hgives k).1.scan hgives).2.2.1
  · refine (Stands.after hgives _).1.error_eq.trans (if_neg ?_)
    exact Nat.not_succ_le_self _

/-- The commands that are found in some sources, one after the other. -/
def commandsIn (sources : List (List Delivery)) : List Command :=
  sources.flatMap fun deliveries => (scanned deliveries).1

theorem commandsIn_cons (deliveries : List Delivery) (sources : List (List Delivery)) :
    commandsIn (deliveries :: sources) = (scanned deliveries).1 ++ commandsIn sources :=
  rfl

/-! ## Loads in turn -/

namespace Conversation

/-- What the load of a source returns. -/
def returned (deliveries : List Delivery) : Except ParseError Nat :=
  verdict (scanned deliveries).1.length (scanned deliveries).2

variable {η : Type} [Sink η]

/-- Loads sources into one conversation, one after the other, whatever the loads return. -/
def loadEach : List (List Delivery) → Conversation η →
    List (Except ParseError Nat) × Conversation η
  | [], conversation => ([], conversation)
  | deliveries :: sources, conversation =>
    let (result, reached) := conversation.load deliveries
    let (results, last) := loadEach sources reached
    (result :: results, last)

theorem load_eq (deliveries : List Delivery) (conversation : Conversation η) :
    conversation.load deliveries =
      (returned deliveries, Command.applyAll (scanned deliveries).1 conversation) := by
  rw [load, loadFrom_eq, Nat.zero_add]
  rfl

/-- **Loads in turn apply the commands of all sources**, and each returns what its own source
decides. -/
theorem loadEach_eq (sources : List (List Delivery)) (conversation : Conversation η) :
    loadEach sources conversation =
      (sources.map returned, Command.applyAll (commandsIn sources) conversation) := by
  induction sources generalizing conversation with
  | nil => rfl
  | cons deliveries sources ih =>
    rw [loadEach, load_eq, commandsIn_cons, Command.applyAll_append]
    dsimp only
    rw [ih, List.map_cons]

end Conversation

open Conversation (loadEach returned)

/-- **A load is a fold of the commands that are scanned.** Let sources be loaded into one
conversation, one after the other. Each load returns the number of the commands that a scanner
shows of its source, or the error on which the scanner stops. The model is the last one selected by
any of these commands, or else that of the start; and the turns of these commands follow those of
the start, in order, also the ones before an error. Both sinks so hold the same turns. Other
sources with the same selections and the same turns lead to the same conversation, whatever the
sink. -/
theorem loads_fold_commands (sources : List (List Delivery)) :
    (∀ deliveries ∈ sources, Scanner.Shows (Lexer.ofDeliveries deliveries)
      (scanned deliveries).1 (scanned deliveries).2) ∧
    (∀ start : Conversation Transcript, loadEach sources start =
      (sources.map returned,
        ⟨(Command.selections (commandsIn sources)).getLast?.or start.model,
          ⟨start.history.turns ++ Command.turns (commandsIn sources)⟩⟩)) ∧
    (∀ start : Conversation (Array Turn), loadEach sources start =
      (sources.map returned,
        ⟨(Command.selections (commandsIn sources)).getLast?.or start.model,
          start.history ++ (Command.turns (commandsIn sources)).toArray⟩)) ∧
    (∀ (model : Option String) (turns : List Turn),
      (loadEach sources ⟨model, Transcript.mk turns⟩).2.history.turns =
        (loadEach sources ⟨model, turns.toArray⟩).2.history.toList) ∧
    ∀ other : List (List Delivery),
      Command.selections (commandsIn sources) = Command.selections (commandsIn other) →
      Command.turns (commandsIn sources) = Command.turns (commandsIn other) →
      ∀ (η : Type) [Sink η] (start : Conversation η),
        (loadEach sources start).2 = (loadEach other start).2 := by
  have htranscript : ∀ start : Conversation Transcript, loadEach sources start =
      (sources.map returned,
        ⟨(Command.selections (commandsIn sources)).getLast?.or start.model,
          ⟨start.history.turns ++ Command.turns (commandsIn sources)⟩⟩) := by
    intro start
    rw [Conversation.loadEach_eq, Command.applyAll_eq, Transcript.foldl_append]
  have harray : ∀ start : Conversation (Array Turn), loadEach sources start =
      (sources.map returned,
        ⟨(Command.selections (commandsIn sources)).getLast?.or start.model,
          start.history ++ (Command.turns (commandsIn sources)).toArray⟩) := by
    intro start
    rw [Conversation.loadEach_eq, Command.applyAll_eq, foldl_append_array]
  refine ⟨fun deliveries _ => Scanner.shows_scanned deliveries, htranscript, harray, ?_, ?_⟩
  · intro model turns
    rw [htranscript, harray]
    simp
  -- A conversation keeps the last selection and the turns, and not how the two are mixed.
  · intro other hselections hturns η _ start
    rw [Conversation.loadEach_eq, Conversation.loadEach_eq, Command.applyAll_eq,
      Command.applyAll_eq, hselections, hturns]

/-- A prompt, and then a word that is no keyword. -/
def brokenOff : List Delivery := [.chunk [65, 83, 75, 32, 97, 10, 78, 79]]

/-- A selection and a prompt. -/
def selectionFirst : List Delivery := [.chunk [70, 82, 79, 77, 32, 109, 10, 65, 83, 75, 32, 98]]

/-- The same prompt and the same selection. -/
def promptFirst : List Delivery := [.chunk [65, 83, 75, 32, 98, 10, 70, 82, 79, 77, 32, 109]]

/-- The prompt before the error stays, and the next source is loaded as if there had been none. -/
theorem loads_fold_commands_brokenOff :
    loadEach [brokenOff, selectionFirst] (⟨none, #[]⟩ : Conversation (Array Turn)) =
        ([.error (.lexical (.unknownToken "NO" ⟨2, 1⟩)), .ok 2],
          ⟨some "m", #[⟨.user, "a"⟩, ⟨.user, "b"⟩]⟩) ∧
      (loadEach [brokenOff, selectionFirst] (⟨none, #[]⟩ : Conversation (Array Turn))).2 =
        (loadEach [brokenOff, promptFirst] ⟨none, #[]⟩).2 := by
  have hbroken : scanned brokenOff =
      ([.say ⟨.user, "a"⟩], some (.lexical (.unknownToken "NO" ⟨2, 1⟩))) := by decide +kernel
  have hselection : scanned selectionFirst =
      ([.selectModel "m", .say ⟨.user, "b"⟩], none) := by decide +kernel
  have hprompt : scanned promptFirst =
      ([.say ⟨.user, "b"⟩, .selectModel "m"], none) := by decide +kernel
  obtain ⟨-, -, harray, -, hsame⟩ := loads_fold_commands [brokenOff, selectionFirst]
  constructor
  · rw [harray]
    simp only [List.map_cons, List.map_nil, commandsIn_cons, returned, hbroken, hselection]
    rfl
  · refine hsame [brokenOff, promptFirst] ?_ ?_ _ _
    · simp only [commandsIn_cons, hbroken, hselection, hprompt]
      rfl
    · simp only [commandsIn_cons, hbroken, hselection, hprompt]
      rfl

end Dialogue
