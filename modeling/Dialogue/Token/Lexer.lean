import Dialogue.Input.Utf8
import Dialogue.Text.Blank
import Dialogue.Text.Upper
import Dialogue.Token.Source

/-!
# The lexer

Reads tokens from the signals of a source. A keyword is a word that is a keyword in upper case;
its companion starts on the same line. A model name is a word, a prompt is the rest of the line,
and a prompt that is a lone bar is a block: the indented lines that follow.

A line belongs to a block when its leading blanks reach four columns, where a tab counts as four
and any other blank as one. Its content is what follows the blank that reached them. Blank lines
that are not so deep are passed over, and the first other line ends the block.

## Main definitions

* `readBlock signals`: the lines of a block, and what ended it
* `Lexer`: what is unread, where it starts, and what is expected next
* `Lexer.advance`: reads the next token
* `Lexer.next?`: the next token or, once, the error that stopped the lexer
-/

namespace Dialogue

open Text (isBlank trimEnd upper)

/-- Columns of indentation that a line of a block needs. -/
def blockDepth : Nat := 4

/-- The width of an indentation after one more blank. A line feed starts a new line. -/
def widen (width : Nat) (blank : Char) : Nat :=
  if blank = '\n' then 0 else if blank = '\t' then width + blockDepth else width + 1

/-- How the search for the next line of a block ends. -/
inductive Margin where
  /-- The indentation is deep enough: what follows is a line of the block. -/
  | deep
  /-- Something else than a blank comes first. -/
  | shallow
  | ended
  | failed (error : ReadError)
  deriving DecidableEq, Repr

/-- The blanks passed over, how that ended, and the signals after them. -/
structure Indent where
  margin : Margin
  taken : List Char
  rest : List (Signal Char)
  deriving DecidableEq, Repr

/-- Passes over blanks, through any number of lines, until the indentation of a line is deep
enough. `width` is the indentation so far. -/
def indentation (width : Nat) (signals : List (Signal Char)) : Indent :=
  if blockDepth ≤ width then ⟨.deep, [], signals⟩ else
  match signals with
  | [] => ⟨.ended, [], []⟩
  | .ended :: rest => ⟨.ended, [], rest⟩
  | .failed error :: rest => ⟨.failed error, [], rest⟩
  | .item c :: rest =>
    if isBlank c then
      let indent := indentation (widen width c) rest
      { indent with taken := c :: indent.taken }
    else ⟨.shallow, [], .item c :: rest⟩

/-- An indentation uses up the signals it has passed over. -/
theorem indentation_length_le (width : Nat) (signals : List (Signal Char)) :
    (indentation width signals).taken.length + (indentation width signals).rest.length ≤
      signals.length := by
  induction signals generalizing width with
  | nil => unfold indentation; split <;> simp
  | cons signal rest ih =>
    unfold indentation
    split
    · simp
    · cases signal with
      | ended => simp
      | failed error => simp
      | item c =>
        have := ih (widen width c)
        dsimp only
        split
        · simp only [List.length_cons]
          omega
        · simp

/-- An indentation that is deep enough takes up at least one blank. -/
theorem indentation_deep_length_lt {width : Nat} {signals : List (Signal Char)}
    (hshallow : width < blockDepth) (hdeep : (indentation width signals).margin = .deep) :
    (indentation width signals).rest.length < signals.length := by
  unfold indentation at hdeep ⊢
  simp only [Nat.not_le.mpr hshallow, if_false] at hdeep ⊢
  split at hdeep <;> try simp at hdeep
  split at hdeep
  · rename_i c rest hblank
    have := indentation_length_le (widen width c) rest
    simp only [hblank, if_true, List.length_cons]
    omega
  · simp at hdeep

/-- The rest of a line: everything up to a line feed, which is not taken. -/
def restOfLine (signals : List (Signal Char)) : Span :=
  span (· != '\n') signals

/-- A word: everything up to a blank, which is not taken. -/
def word (signals : List (Signal Char)) : Span :=
  span (!isBlank ·) signals

/-- The blanks before the next token. -/
def gap (signals : List (Signal Char)) : Span :=
  span isBlank signals

/-- The lines of a block, all characters taken for it, how it ended, and the signals after it. -/
structure Block where
  lines : List (List Char)
  taken : List Char
  halt : Halt
  rest : List (Signal Char)
  deriving DecidableEq, Repr

/-- Puts a line in front of a block, read after the blanks in `margin`. -/
def Block.addLine (block : Block) (margin text : List Char) : Block :=
  { block with
    lines := trimEnd text :: block.lines
    taken := margin ++ text ++ block.taken }

/-- Reads the lines of a block, each without the blanks at its end. The block is halted by the
character that is not indented enough (`refused`), by an end of input, or by a failed read. -/
def readBlock (signals : List (Signal Char)) : Block :=
  match _hindent : indentation 0 signals with
  | ⟨.shallow, taken, rest⟩ => ⟨[], taken, .refused, rest⟩
  | ⟨.ended, taken, rest⟩ => ⟨[], taken, .ended, rest⟩
  | ⟨.failed error, taken, rest⟩ => ⟨[], taken, .failed error, rest⟩
  | ⟨.deep, margin, inner⟩ =>
    match _hline : restOfLine inner with
    | ⟨text, .failed error, rest⟩ => ⟨[], margin ++ text, .failed error, rest⟩
    -- An end of input closes the line, not the block: the source may still go on after it.
    | ⟨text, _, rest⟩ => (readBlock rest).addLine margin text
termination_by signals.length
decreasing_by
  have hdeep := @indentation_deep_length_lt 0 signals (by decide)
  have hlength := span_length_le (· != '\n') inner
  simp only [restOfLine] at _hline
  simp only [_hindent, _hline] at hdeep hlength
  have := hdeep trivial
  omega

/-- Every line of the block is empty. -/
def Block.isBare (block : Block) : Bool :=
  block.lines.all List.isEmpty

/-- The message of a block: its lines, parted by line feeds. -/
def Block.message (block : Block) : List Char :=
  ['\n'].intercalate block.lines

/-- A block uses up the signals it has taken. -/
theorem readBlock_length_le (signals : List (Signal Char)) :
    (readBlock signals).rest.length ≤ signals.length := by
  -- A round takes a margin, or a margin and the line behind it.
  fun_induction readBlock signals with
  | case1 signals taken rest hfound | case2 signals taken rest hfound
  | case3 signals error taken rest hfound =>
    have := indentation_length_le 0 signals
    simp only [hfound] at this ⊢
    omega
  | case4 signals margin inner hfound text error rest hline =>
    have hmargin := indentation_length_le 0 signals
    have hlength := span_length_le (· != '\n') inner
    simp only [restOfLine] at hline
    simp only [hfound, hline] at hmargin hlength ⊢
    omega
  | case5 signals margin inner hfound text halt rest hreadable hline ih =>
    have hmargin := indentation_length_le 0 signals
    have hlength := span_length_le (· != '\n') inner
    simp only [restOfLine] at hline
    simp only [hfound, hline] at hmargin hlength
    simp only [Block.addLine]
    omega

/-- What the lexer expects to find next. -/
inductive Expecting where
  | keyword
  | model
  | prompt
  deriving DecidableEq, Repr

/-- What a keyword makes the lexer expect. -/
def Keyword.expecting : Keyword → Expecting
  | .selectModel => .model
  | .speak _ => .prompt

/-- A lexer: the signals not yet read, the position of the first of them, what is expected next,
the current token, the error on which the lexer has stopped, and whether that error has been
handed out. -/
structure Lexer where
  signals : List (Signal Char)
  position : Position := .start
  expecting : Expecting := .keyword
  current : Token := .endOfInput .start
  error : Option LexError := none
  reported : Bool := false
  deriving DecidableEq, Repr

namespace Lexer

/-- A lexer at the start of a source of bytes. -/
def ofDeliveries (deliveries : List Delivery) : Lexer :=
  { signals := charSignals deliveries }

/-- A lexer at the start of a text. -/
def ofText (text : String) : Lexer :=
  { signals := textSignals text }

/-- The lexer after it has taken some characters. -/
def consume (lexer : Lexer) (taken : List Char) (rest : List (Signal Char)) : Lexer :=
  { lexer with signals := rest, position := lexer.position.after taken }

/-- Stops on an error met while looking for a token from `start` on. -/
def fail (lexer : Lexer) (error : LexError) (start : Position) : Bool × Lexer :=
  (false, { lexer with current := error.stopToken start, error := some error })

/-- Hands out a token, and expects what may follow it. -/
def emit (lexer : Lexer) (token : Token) (expecting : Expecting) : Bool × Lexer :=
  (true, { lexer with current := token, expecting })

/-- Reads a keyword. -/
def readKeyword (lexer : Lexer) : Bool × Lexer :=
  let run := word lexer.signals
  let moved := lexer.consume run.taken run.rest
  match run.halt with
  | .failed error => moved.fail (.unreadable error) lexer.position
  | _ =>
    match Keyword.ofWord? (String.ofList (upper run.taken)) with
    | some keyword =>
      moved.emit ⟨.keyword keyword, keyword.word, lexer.position⟩ keyword.expecting
    | none => moved.fail (.unknownToken (String.ofList run.taken) lexer.position) lexer.position

/-- Reads the name of a model. -/
def readModel (lexer : Lexer) : Bool × Lexer :=
  let run := word lexer.signals
  let moved := lexer.consume run.taken run.rest
  match run.halt with
  | .failed error => moved.fail (.unreadable error) lexer.position
  | _ => moved.emit ⟨.model, String.ofList run.taken, lexer.position⟩ .keyword

/-- Reads the block of a prompt that starts at `start`. -/
def readBlockPrompt (lexer : Lexer) (start : Position) : Bool × Lexer :=
  let block := readBlock lexer.signals
  let moved := lexer.consume block.taken block.rest
  match block.halt with
  | .failed error => moved.fail (.unreadable error) start
  | .ended =>
    if block.isBare then moved.fail (.unexpectedEnd moved.position) start
    else moved.emit ⟨.prompt, String.ofList block.message, start⟩ .keyword
  | .refused =>
    if block.isBare then moved.fail (.expectedPrompt start) start
    else moved.emit ⟨.prompt, String.ofList block.message, start⟩ .keyword

/-- Reads a prompt: the rest of the line or, after a lone bar, a block. -/
def readPrompt (lexer : Lexer) : Bool × Lexer :=
  let run := restOfLine lexer.signals
  let moved := lexer.consume run.taken run.rest
  match run.halt with
  | .failed error => moved.fail (.unreadable error) lexer.position
  | _ =>
    match trimEnd run.taken with
    | [] => moved.fail (.expectedPrompt lexer.position) lexer.position
    | ['|'] => moved.readBlockPrompt lexer.position
    | text => moved.emit ⟨.prompt, String.ofList text, lexer.position⟩ .keyword

/-- The error of a companion that does not start on the line of its keyword. -/
def misplaced? (lexer : Lexer) (start : Position) : Option LexError :=
  if start.line = lexer.position.line then none else
  match lexer.expecting with
  | .keyword => none
  | .model => some (.expectedModel start)
  | .prompt => some (.expectedPrompt start)

/-- Reads what is expected; the next signal is the first character of it. -/
def readExpected (lexer : Lexer) : Bool × Lexer :=
  match lexer.expecting with
  | .keyword => lexer.readKeyword
  | .model => lexer.readModel
  | .prompt => lexer.readPrompt

/-- Passes over blanks and reads the next token. `false` means that there is none: the input has
ended, from where it may still go on, or the lexer has stopped on an error, for good. -/
def advance (lexer : Lexer) : Bool × Lexer :=
  match lexer.error with
  | some _ => (false, lexer)
  | none =>
    let blanks := gap lexer.signals
    let moved := lexer.consume blanks.taken blanks.rest
    match blanks.halt with
    | .failed error => moved.fail (.unreadable error) moved.position
    | .ended =>
      match lexer.misplaced? moved.position with
      | some error => moved.fail error moved.position
      -- What is expected stays expected, should the source go on.
      | none => (false, { moved with current := .endOfInput moved.position })
    | .refused =>
      match lexer.misplaced? moved.position with
      | some error => moved.fail error moved.position
      | none => moved.readExpected

/-- The next token or, once, the error that stopped the lexer; nothing after that. -/
def next? (lexer : Lexer) : Option (Except LexError Token) × Lexer :=
  match lexer.advance with
  | (true, moved) => (some (.ok moved.current), moved)
  | (false, moved) =>
    match moved.error with
    | some error =>
      if moved.reported then (none, moved)
      else (some (.error error), { moved with reported := true })
    | none => (none, moved)

/-!
### Progress

A token takes up at least one signal: the character that is no blank with which it starts.
-/

@[simp] theorem signals_consume (lexer : Lexer) (taken : List Char) (rest : List (Signal Char)) :
    (lexer.consume taken rest).signals = rest := rfl

@[simp] theorem signals_emit (lexer : Lexer) (token : Token) (expecting : Expecting) :
    (lexer.emit token expecting).2.signals = lexer.signals := rfl

@[simp] theorem fst_fail (lexer : Lexer) (error : LexError) (start : Position) :
    (lexer.fail error start).1 = false := rfl

theorem signals_readKeyword {lexer : Lexer} (hmore : lexer.readKeyword.1 = true) :
    lexer.readKeyword.2.signals = (word lexer.signals).rest := by
  unfold readKeyword at hmore ⊢
  dsimp only at hmore ⊢
  split at hmore
  · simp at hmore
  · split at hmore
    · simp_all
    · simp at hmore

theorem signals_readModel {lexer : Lexer} (hmore : lexer.readModel.1 = true) :
    lexer.readModel.2.signals = (word lexer.signals).rest := by
  unfold readModel at hmore ⊢
  dsimp only at hmore ⊢
  split at hmore <;> simp_all

theorem signals_readBlockPrompt {lexer : Lexer} {start : Position}
    (hmore : (lexer.readBlockPrompt start).1 = true) :
    (lexer.readBlockPrompt start).2.signals = (readBlock lexer.signals).rest := by
  unfold readBlockPrompt at hmore ⊢
  dsimp only at hmore ⊢
  split at hmore
  · simp at hmore
  · split at hmore <;> simp_all
  · split at hmore <;> simp_all

theorem length_readPrompt {lexer : Lexer} (hmore : lexer.readPrompt.1 = true) :
    lexer.readPrompt.2.signals.length ≤ (restOfLine lexer.signals).rest.length := by
  unfold readPrompt at hmore ⊢
  dsimp only at hmore ⊢
  split at hmore
  · simp at hmore
  · split at hmore
    · simp at hmore
    · rw [signals_readBlockPrompt hmore]
      exact readBlock_length_le _
    · simp

/-- A run that accepts the first character is shorter than what it runs over. -/
theorem length_span_lt {accept : Char → Bool} {c : Char} (h : accept c = true)
    (rest : List (Signal Char)) :
    (span accept (.item c :: rest)).rest.length < (Signal.item c :: rest).length := by
  have := span_length_le accept rest
  simp only [span_of_accept h, List.length_cons]
  omega

/-- What starts with a character that is no blank takes it up. -/
theorem length_readExpected {lexer : Lexer} {c : Char} {rest : List (Signal Char)}
    (hsignals : lexer.signals = .item c :: rest) (hsolid : isBlank c = false)
    (hmore : lexer.readExpected.1 = true) :
    lexer.readExpected.2.signals.length < lexer.signals.length := by
  have hword : (word lexer.signals).rest.length < lexer.signals.length := by
    rw [hsignals]
    exact length_span_lt (by simp [hsolid]) rest
  have hline : (restOfLine lexer.signals).rest.length < lexer.signals.length := by
    rw [hsignals]
    refine length_span_lt ?_ rest
    have : c ≠ '\n' := fun h => by simp [h] at hsolid
    simp [this]
  unfold readExpected at hmore ⊢
  split at hmore
  · rw [signals_readKeyword hmore]
    exact hword
  · rw [signals_readModel hmore]
    exact hword
  · exact Nat.lt_of_le_of_lt (length_readPrompt hmore) hline

/-- Each token takes up some of the signals. -/
theorem length_signals_advance (lexer : Lexer) (hmore : lexer.advance.1 = true) :
    lexer.advance.2.signals.length < lexer.signals.length := by
  unfold advance at hmore ⊢
  split at hmore
  · simp at hmore
  · dsimp only at hmore ⊢
    split at hmore
    · simp at hmore
    · split at hmore <;> simp at hmore
    · rename_i hrefused
      split at hmore
      · simp at hmore
      · obtain ⟨c, rest, hsolid, hrest⟩ := span_rest_of_refused hrefused
        have hblanks := span_length_le isBlank lexer.signals
        have htoken := length_readExpected (by rw [signals_consume]; exact hrest) hsolid hmore
        rw [signals_consume] at htoken
        exact Nat.lt_of_lt_of_le htoken (Nat.le_trans (Nat.le_add_left _ _) hblanks)

instance : TokenSource Lexer where
  advance := advance
  current := current
  error := error
  remaining lexer := lexer.signals.length
  remaining_advance := length_signals_advance

end Lexer

end Dialogue
