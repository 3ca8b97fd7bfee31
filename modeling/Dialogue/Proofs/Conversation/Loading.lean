import Dialogue.Conversation
import Dialogue.Proofs.Grammar.Chatfile
import Dialogue.Proofs.Text.Utf8

/-!
# Loading commands

To load a source is to scan it and to apply its commands. What a text adds to a conversation is so
decided by its commands alone, whether it is given as a text or by its bytes.

## Main definitions

* `Command.applyAll`: the effect of some commands in order
* `verdict`: what a load returns, by the error of the scan

## Main results

* `Conversation.loadFrom_eq`: a load is a scan whose commands are applied
* `Conversation.load_deliver_encode`, `Conversation.ofText_eq`: what a text is loaded as
-/

namespace Dialogue

variable {η : Type} [Sink η]

/-- The effect of some commands, one after the other. -/
def Command.applyAll (commands : List Command) (conversation : Conversation η) :
    Conversation η :=
  commands.foldl (fun reached command => command.apply reached) conversation

theorem Command.applyAll_append (commands more : List Command) (conversation : Conversation η) :
    applyAll (commands ++ more) conversation = applyAll more (applyAll commands conversation) :=
  List.foldl_append

/-- What a load returns: the number of the commands, or the error on which the scan stopped. -/
def verdict (count : Nat) : Option ParseError → Except ParseError Nat
  | none => .ok count
  | some error => .error error

namespace Conversation

section Source

variable {σ : Type} [TokenSource σ] {source moved : σ}

theorem loadFrom_of_command {command : Command}
    (h : Command.parse source = (.command command, moved)) (count : Nat)
    (conversation : Conversation η) :
    loadFrom source count conversation =
      loadFrom moved (count + 1) (command.apply conversation) := by
  rw [loadFrom]
  split <;> simp_all

theorem loadFrom_of_finished (h : Command.parse source = (.finished, moved)) (count : Nat)
    (conversation : Conversation η) :
    loadFrom source count conversation = (.ok count, conversation) := by
  rw [loadFrom]
  split <;> simp_all

theorem loadFrom_of_failed {error : ParseError}
    (h : Command.parse source = (.failed error, moved)) (count : Nat)
    (conversation : Conversation η) :
    loadFrom source count conversation = (.error error, conversation) := by
  rw [loadFrom]
  split <;> simp_all

/-- **A load is a scan whose commands are applied**, those before an error included. -/
theorem loadFrom_eq (source : σ) (count : Nat) (conversation : Conversation η) :
    loadFrom source count conversation =
      (verdict (count + (scanAll source).1.length) (scanAll source).2.1,
        Command.applyAll (scanAll source).1 conversation) := by
  -- On the tokens that are left, of which each command uses up some.
  induction hleft : TokenSource.remaining source using Nat.strongRecOn
    generalizing source count conversation with
  | ind left ih =>
    rcases hparse : Command.parse source with ⟨parsed, moved⟩
    cases parsed with
    | command command =>
      have hless := Command.remaining_parse hparse
      rw [loadFrom_of_command hparse, ih _ (hleft ▸ hless) moved _ _ rfl,
        scanAll_of_command hparse, List.length_cons, Nat.add_assoc, Nat.add_comm 1]
      rfl
    | finished =>
      rw [loadFrom_of_finished hparse, scanAll_of_finished hparse]
      rfl
    | failed error =>
      rw [loadFrom_of_failed hparse, scanAll_of_failed hparse]
      rfl

end Source

theorem loadFrom_ofText (text : String) (conversation : Conversation η) :
    loadFrom (Lexer.ofText text) 0 conversation =
      (verdict (commandsOf text).1.length (commandsOf text).2,
        Command.applyAll (commandsOf text).1 conversation) := by
  rw [loadFrom_eq, Nat.zero_add]
  rfl

/-- **The bytes of a text are loaded as its commands.** -/
theorem load_deliver_encode (text : String) (conversation : Conversation η) :
    load (deliver (Utf8.encode text)) conversation =
      (verdict (commandsOf text).1.length (commandsOf text).2,
        Command.applyAll (commandsOf text).1 conversation) := by
  rw [← loadFrom_ofText, load]
  by_cases hempty : text.toList = []
  · -- No bytes are an end that is reported once, and nothing comes after it.
    obtain rfl : text = "" := String.toList_inj.mp hempty
    have hbytes : Command.parse (Lexer.ofDeliveries (deliver (Utf8.encode ""))) =
        (.finished, (Command.parse (Lexer.ofDeliveries (deliver (Utf8.encode "")))).2) := by
      rw [Utf8.encode_eq]
      rfl
    have htext : Command.parse (Lexer.ofText "") =
        (.finished, (Command.parse (Lexer.ofText "")).2) := rfl
    rw [loadFrom_of_finished hbytes, loadFrom_of_finished htext]
  · rw [Lexer.ofDeliveries, charSignals_deliver_encode hempty, Lexer.ofText]

/-- A text without an error is the conversation that its commands make. -/
theorem ofText_eq (text : String) :
    ofText text =
      match (commandsOf text).2 with
      | none => .ok (Command.applyAll (commandsOf text).1 .empty)
      | some error => .error error := by
  rw [ofText, loadFrom_ofText]
  cases (commandsOf text).2 <;> rfl

end Conversation

end Dialogue
