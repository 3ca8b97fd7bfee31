import Dialogue.Proofs.Lexer.Positions

/-!
# Blocks line by line

The lexer reads a block without ever holding a line: it measures blanks, across as many lines as
these run over, until one of them is deep enough, and then takes the rest of that line. Here the
same text is cut at its line feeds first, and each line is judged by itself.

A line is deep if some of its first characters are blanks that reach the depth of a block; the
fewest of these are its margin, and what follows them is what the line contributes. A line that is
not deep is passed over if it has nothing but blanks, and stops the block if it has more.

## Main definitions

* `marginLength? line`, `LineRole.of line`: the margin of a line, and what the line is to a block
* `linesAfter text`: the lines of a text that starts at the end of a line
* `BlockReading.ofLines lines`: what the lines come to, one after the other
* `BlockReading.passed`, `BlockReading.unread`: the text before and behind the place where a block
  ends

## Main results

* `LineRole.of_write`, `LineRole.of_stop`: the lines of a body, and the line that ends it
* `BlockReading.ofLines_body`: the lines of a body are read as a body
* `readBlock_eq_reading`: the lexer takes, leaves and finds what its lines come to
* `block_read_by_lines`: what a block is read as, and where the lexer stands after it
-/

namespace Dialogue

open Text (isBlank trimEnd)

/-! ## The role of a line -/

/-- The length of the margin of a line: how many of its first characters it takes, all of them
blanks, to reach the depth of a block. -/
def marginLength? (line : List Char) : Option Nat :=
  (List.range (line.length + 1)).find? fun n =>
    (line.take n).all isBlank && decide (blockDepth ≤ columns (line.take n))

/-- What a line is to a block. -/
inductive LineRole where
  /-- It adds the text behind its margin, without the blanks at the end. -/
  | deep (content : List Char)
  /-- It has nothing but blanks, which are too few, and is passed over. -/
  | shallow
  /-- It stops the block. -/
  | outside
  deriving DecidableEq, Repr

/-- What a line is to a block, judged by itself. -/
def LineRole.of (line : List Char) : LineRole :=
  match marginLength? line with
  | some n => .deep (trimEnd (line.drop n))
  | none => if line.all isBlank then .shallow else .outside

/-- A line has a margin exactly if it starts with one. -/
theorem marginLength?_of_reaches {margin : List Char} (hmargin : IsPadding margin)
    (hreach : Reaches margin) (content : List Char) :
    marginLength? (margin ++ content) = some margin.length := by
  refine List.find?_range_eq_some.mpr ⟨?_, ?_, fun j hj => ?_⟩
  · rw [List.take_left, Bool.and_eq_true, decide_eq_true_iff, List.all_eq_true]
    exact ⟨hmargin.isGap, hreach.2⟩
  · rw [List.mem_range, List.length_append]
    omega
  · -- Fewer characters are part of the margin without its last blank.
    have hshort : columns (margin.take j) ≤ columns margin.dropLast := by
      refine columns_le_of_isPrefix ?_
      rw [List.dropLast_eq_take]
      exact List.take_prefix_take_left (by omega)
    have hdepth := hreach.1
    rw [List.take_append_of_le_length (Nat.le_of_lt hj), Bool.not_eq_true', Bool.and_eq_false_iff,
      decide_eq_false_iff_not]
    exact Or.inr (by omega)

/-- Blanks that are too few are no margin, whatever comes after them that is none. -/
theorem marginLength?_of_short {blanks tail : List Char} (hshort : columns blanks < blockDepth)
    (htail : AtSolid tail) : marginLength? (blanks ++ tail) = none := by
  refine List.find?_eq_none.mpr fun n _ hn => ?_
  obtain ⟨hblank, hdepth⟩ := Bool.and_eq_true_iff.mp hn
  rw [List.all_eq_true] at hblank
  rw [decide_eq_true_iff] at hdepth
  by_cases hle : n ≤ blanks.length
  · rw [List.take_append_of_le_length hle] at hdepth
    have := columns_le_of_isPrefix (List.take_prefix n blanks)
    omega
  · cases tail with
    | nil =>
      rw [List.append_nil, List.take_of_length_le (by omega)] at hdepth
      omega
    | cons c tail =>
      -- Among more characters than the blanks is the one that follows them.
      have hc : isBlank c = true := by
        refine hblank c ?_
        rw [List.take_append, List.take_cons (by omega)]
        simp
      rw [refuses_cons.mp htail] at hc
      cases hc

/-- **The lines of a body** are deep with their content, or shallow. -/
theorem LineRole.of_write (line : BodyLine) :
    LineRole.of line.write = line.content?.elim .shallow .deep := by
  cases line with
  | deep margin content hmargin hreach hcontent =>
    rw [BodyLine.write, LineRole.of, marginLength?_of_reaches hmargin hreach]
    simp only [List.drop_left, BodyLine.content?, Option.elim_some]
  | shallow blanks hblanks hshort =>
    have hnone := marginLength?_of_short hshort (refuses_nil isBlank)
    rw [List.append_nil] at hnone
    rw [BodyLine.write, LineRole.of, hnone]
    simp only [List.all_eq_true.mpr hblanks.isGap, if_true, BodyLine.content?, Option.elim_none]

/-- **The line that ends a body** has content and is not deep. -/
theorem LineRole.of_stop {blanks tail : List Char} {c : Char} (hshort : columns blanks < blockDepth)
    (hc : isBlank c = false) : LineRole.of (blanks ++ c :: tail) = .outside := by
  rw [LineRole.of, marginLength?_of_short hshort (refuses_cons.mpr hc)]
  have hsolid : (blanks ++ c :: tail).all isBlank = false := by
    rw [List.all_eq_false]
    exact ⟨c, by simp, by simp [hc]⟩
  simp only [hsolid, Bool.false_eq_true, if_false]

/-! ## The lines of a text -/

/-- The lines of a text that starts at the end of a line: those behind its first line feed. -/
def linesAfter (text : List Char) : List (List Char) :=
  (text.splitOn '\n').tail

@[simp] theorem linesAfter_nil : linesAfter [] = [] := by
  rw [linesAfter, List.splitOn_nil, List.tail_cons]

theorem linesAfter_cons {line rest : List Char} (hline : IsLine line) (hrest : AtLineEnd rest) :
    linesAfter ('\n' :: (line ++ rest)) = line :: linesAfter rest := by
  have hnot : '\n' ∉ line := fun hmem => hline '\n' hmem rfl
  have hfirst :=
    List.splitOn_append_cons_self_of_not_mem (a := '\n') List.not_mem_nil (line ++ rest)
  rw [List.nil_append] at hfirst
  rw [linesAfter, hfirst, List.tail_cons]
  cases rest with
  | nil =>
    rw [List.append_nil, linesAfter_nil]
    exact List.splitOn_eq_singleton hnot
  | cons c rest =>
    obtain rfl : c = '\n' := by simpa using hrest
    have hrest' := List.splitOn_append_cons_self_of_not_mem (a := '\n') List.not_mem_nil rest
    rw [List.nil_append] at hrest'
    rw [List.splitOn_append_cons_self_of_not_mem hnot, linesAfter, hrest', List.tail_cons]

theorem linesAfter_body (body : List BodyLine) {rest : List Char} (hrest : AtLineEnd rest) :
    linesAfter (writeBody body ++ rest) = body.map BodyLine.write ++ linesAfter rest := by
  induction body with
  | nil => rfl
  | cons line body ih =>
    rw [writeBody_cons, List.cons_append, List.append_assoc,
      linesAfter_cons line.isLine_write (atLineEnd_writeBody_append body hrest), ih]
    rfl

/-! ## Reading lines -/

/-- What the lines after the bar of a block come to. -/
structure BlockReading where
  /-- The texts that deep lines add, in order. -/
  added : List (List Char)
  /-- The lines that belong to the block. -/
  body : List (List Char)
  /-- The lines that do not: the one that stops it, if any, and all after that. -/
  others : List (List Char)
  deriving DecidableEq, Repr

namespace BlockReading

/-- Reads lines one after the other, up to the first that stops the block. -/
def ofLines : List (List Char) → BlockReading
  | [] => ⟨[], [], []⟩
  | line :: lines =>
    match LineRole.of line with
    | .deep content =>
      { ofLines lines with
        added := content :: (ofLines lines).added
        body := line :: (ofLines lines).body }
    | .shallow => { ofLines lines with body := line :: (ofLines lines).body }
    | .outside => ⟨[], [], line :: lines⟩

/-- The text of some lines, each after its line feed. -/
def write (lines : List (List Char)) : List Char :=
  lines.flatMap ('\n' :: ·)

/-- The text up to where the block ends: its lines, and the blanks of the line that stops it. -/
def passed (reading : BlockReading) : List Char :=
  write reading.body ++
    match reading.others with
    | [] => []
    | stop :: _ => '\n' :: stop.takeWhile isBlank

/-- The text from there on: the rest of the line that stops the block, and the lines after it. -/
def unread (reading : BlockReading) : List Char :=
  match reading.others with
  | [] => []
  | stop :: later => stop.dropWhile isBlank ++ write later

/-- What ends the block: the end of the text, or a line. -/
def halt (reading : BlockReading) : Halt :=
  if reading.others.isEmpty then .ended else .refused

/-- The message of the block: what its lines add, parted by line feeds. -/
def message (reading : BlockReading) : String :=
  String.ofList (['\n'].intercalate reading.added)

/-- No line is left out. -/
theorem body_append_others (lines : List (List Char)) :
    lines = (ofLines lines).body ++ (ofLines lines).others := by
  induction lines with
  | nil => rfl
  | cons line lines ih =>
    rw [ofLines]
    cases LineRole.of line with
    | deep content => exact congrArg (line :: ·) ih
    | shallow => exact congrArg (line :: ·) ih
    | outside => rfl

theorem write_map (body : List BodyLine) : write (body.map BodyLine.write) = writeBody body := by
  rw [write, List.flatMap_map]
  rfl

theorem write_linesAfter {text : List Char} (hend : AtLineEnd text) :
    write (linesAfter text) = text := by
  -- Line by line, each behind its line feed.
  induction hlength : text.length using Nat.strongRecOn generalizing text with
  | ind length ih =>
    cases text with
    | nil => rw [linesAfter_nil, write, List.flatMap_nil]
    | cons c text =>
      obtain rfl : c = '\n' := by simpa using hend
      obtain ⟨line, rest, rfl, hline, hrest⟩ := exists_line text
      have hless : rest.length < length := by
        rw [← hlength, List.length_cons, List.length_append]
        omega
      rw [linesAfter_cons hline hrest, write, List.flatMap_cons, ← write, ih _ hless hrest rfl,
        List.cons_append]

/-- **The lines of a body are read as a body**, whatever lines come after them. -/
theorem ofLines_body (body : List BodyLine) (lines : List (List Char)) :
    ofLines (body.map BodyLine.write ++ lines) =
      ⟨contents body ++ (ofLines lines).added,
        body.map BodyLine.write ++ (ofLines lines).body, (ofLines lines).others⟩ := by
  induction body with
  | nil => rfl
  | cons line body ih =>
    rw [List.map_cons, List.cons_append, ofLines, LineRole.of_write, ih, contents_cons]
    cases line.content? with
    | none => simp
    | some content => simp

/-- The body of a block that runs to the end of the text. -/
theorem ofLines_end (body : List BodyLine) :
    ofLines (linesAfter (writeBody body)) = ⟨contents body, body.map BodyLine.write, []⟩ := by
  have hlines := linesAfter_body body (refuses_nil _)
  rw [List.append_nil, linesAfter_nil] at hlines
  rw [hlines, ofLines_body, ofLines, List.append_nil, List.append_nil]

/-- The body of a block and the line that stops it. -/
theorem ofLines_stop (body : List BodyLine) {blanks line : List Char} {c : Char}
    (hshort : columns blanks < blockDepth) (hc : isBlank c = false)
    (hline : IsLine (blanks ++ c :: line)) {rest : List Char} (hrest : AtLineEnd rest) :
    ofLines (linesAfter (writeBody body ++ '\n' :: (blanks ++ c :: line ++ rest))) =
      ⟨contents body, body.map BodyLine.write, (blanks ++ c :: line) :: linesAfter rest⟩ := by
  rw [linesAfter_body body (refuses_cons.mpr (by simp)), linesAfter_cons hline hrest, ofLines_body,
    ofLines, LineRole.of_stop hshort hc, List.append_nil, List.append_nil]

end BlockReading

/-! ## Reading a block by its lines -/

open BlockReading (ofLines)

/-- Every text at the end of a line is a body, or a body and a line that stops it. -/
theorem exists_body_or_stop {text : List Char} (hend : AtLineEnd text) :
    (∃ body, text = writeBody body) ∨
      ∃ body blanks c line rest,
        text = writeBody body ++ '\n' :: (blanks ++ c :: line ++ rest) ∧ IsPadding blanks ∧
          columns blanks < blockDepth ∧ isBlank c = false ∧ IsLine line ∧ AtLineEnd rest := by
  obtain ⟨body, rest, rfl, hrest⟩ := exists_body text hend
  rcases endsBody_iff.mp hrest with rfl | ⟨blanks, c, tail, rfl, hblanks, hshort, hc⟩
  · exact Or.inl ⟨body, List.append_nil _⟩
  · obtain ⟨line, rest, rfl, hline, hrest⟩ := exists_line tail
    exact Or.inr ⟨body, blanks, c, line, rest, by simp, hblanks, hshort, hc, hline, hrest⟩

theorem takeWhile_isBlank {blanks line : List Char} {c : Char} (hblanks : IsGap blanks)
    (hc : isBlank c = false) : (blanks ++ c :: line).takeWhile isBlank = blanks := by
  rw [List.takeWhile_append_of_pos hblanks, List.takeWhile_cons_of_neg (by simp [hc]),
    List.append_nil]

theorem dropWhile_isBlank {blanks line : List Char} {c : Char} (hblanks : IsGap blanks)
    (hc : isBlank c = false) : (blanks ++ c :: line).dropWhile isBlank = c :: line := by
  rw [List.dropWhile_append_of_pos hblanks, List.dropWhile_cons_of_neg (by simp [hc])]

/-- **The lexer takes, leaves and finds what the lines of a text come to.** -/
theorem readBlock_eq_reading {text : List Char} (hend : AtLineEnd text) :
    let reading := ofLines (linesAfter text)
    readBlock (text.map .item) =
      ⟨reading.added, reading.passed, reading.halt, reading.unread.map .item⟩ := by
  -- The block runs to the end of the text, or a shallow line with a solid character stops it.
  rcases exists_body_or_stop hend with
    ⟨body, rfl⟩ | ⟨body, blanks, c, line, rest, rfl, hblanks, hshort, hc, hline, hrest⟩
  · have hread := readBlock_body body (refuses_nil _)
    rw [List.append_nil, List.map_nil, readBlock_end, List.append_nil, List.append_nil] at hread
    rw [BlockReading.ofLines_end, hread]
    simp only [BlockReading.passed, BlockReading.write_map, List.append_nil]
    rfl
  · have hstop : IsLine (blanks ++ c :: line) :=
      hblanks.isLine.append (List.forall_mem_cons.mpr ⟨ne_newline_of_solid hc, hline⟩)
    have hnext : AtLineEnd ('\n' :: (blanks ++ c :: (line ++ rest))) := refuses_cons.mpr (by simp)
    have hread := readBlock_body body hnext
    rw [readBlock_stop hblanks hshort hc, List.append_nil] at hread
    rw [BlockReading.ofLines_stop body hshort hc hstop hrest, List.append_assoc, List.cons_append,
      hread]
    simp only [BlockReading.passed, BlockReading.unread, BlockReading.write_map,
      BlockReading.write_linesAfter hrest, takeWhile_isBlank hblanks.isGap hc,
      dropWhile_isBlank hblanks.isGap hc]
    rfl

/-- What the lines come to leaves nothing of the text out. -/
theorem passed_append_unread {text : List Char} (hend : AtLineEnd text) :
    text = (ofLines (linesAfter text)).passed ++ (ofLines (linesAfter text)).unread := by
  have hpasses := passes_readBlock (text.map .item)
  rw [readBlock_eq_reading hend] at hpasses
  obtain ⟨more, htext, hmore⟩ := hpasses.exists_append
  dsimp only at hmore
  have hchars := congrArg charsOf hmore
  rw [charsOf_items, charsOf_items] at hchars
  rw [hchars]
  exact htext

namespace Lexer

variable {lexer : Lexer} {text : List Char}

/-- A block to which some line adds a text is a prompt. -/
theorem readBlockPrompt_of_added (hend : AtLineEnd text) (hsignals : lexer.signals = text.map .item)
    (hadded : ∃ content ∈ (ofLines (linesAfter text)).added, content ≠ []) (start : Position) :
    let reading := ofLines (linesAfter text)
    let moved := lexer.consume reading.passed (reading.unread.map .item)
    lexer.readBlockPrompt start =
      (true, { moved with
        current := ⟨.prompt, reading.message, start⟩
        expecting := .keyword }) := by
  intro reading moved
  have hread := readBlock_eq_reading hend
  have hbare : reading.added.all List.isEmpty = false := by
    rw [List.all_eq_false]
    obtain ⟨content, hmem, hne⟩ := hadded
    exact ⟨content, hmem, by simpa using hne⟩
  rw [← hsignals] at hread
  simp only [readBlockPrompt, hread, Block.isBare, BlockReading.halt]
  change reading.added.all List.isEmpty = false at hbare
  rw [hbare]
  cases reading.others.isEmpty <;> rfl

/-- A block to which no line adds a text is none. If no line stops it, it has come to the end of the
text too early, and otherwise there is no prompt where it starts. -/
theorem readBlockPrompt_of_bare (hend : AtLineEnd text) (hsignals : lexer.signals = text.map .item)
    (hadded : ∀ content ∈ (ofLines (linesAfter text)).added, content = []) (start : Position) :
    let reading := ofLines (linesAfter text)
    let moved := lexer.consume reading.passed (reading.unread.map .item)
    lexer.readBlockPrompt start = (false,
      if reading.others.isEmpty then
        { moved with
          current := ⟨.endOfInput, "", moved.position⟩
          error := some (.unexpectedEnd moved.position) }
      else
        { moved with
          current := ⟨.unknown, "", start⟩
          error := some (.expectedPrompt start) }) := by
  intro reading moved
  have hread := readBlock_eq_reading hend
  have hbare : reading.added.all List.isEmpty = true := by
    rw [List.all_eq_true]
    intro content hmem
    exact List.isEmpty_iff.mpr (hadded content hmem)
  rw [← hsignals] at hread
  simp only [readBlockPrompt, hread, Block.isBare, BlockReading.halt]
  change reading.added.all List.isEmpty = true at hbare
  rw [hbare]
  cases reading.others.isEmpty <;> rfl

/-- Behind some lines and the blanks of another one, the lexer is in that line and behind these
blanks. -/
theorem position_after_lines (position : Position) (body : List BodyLine) {blanks : List Char}
    (hblanks : IsLine blanks) :
    position.after (writeBody body ++ '\n' :: blanks) =
      ⟨position.line + body.length + 1, 1 + blanks.length⟩ := by
  have hcount : (writeBody body).count '\n' = body.length := by
    induction body with
    | nil => rfl
    | cons line body ih =>
      have hline : line.write.count '\n' = 0 :=
        List.count_eq_zero.mpr fun hmem => line.isLine_write '\n' hmem rfl
      rw [writeBody_cons, List.count_cons_self, List.count_append, hline, ih, Nat.zero_add,
        List.length_cons]
  have hlines := Position.line_after position (writeBody body)
  rw [hcount] at hlines
  rw [Position.after_append, Position.after, List.foldl_cons, ← Position.after, Position.step,
    if_pos rfl, Position.after_of_isLine _ hblanks, hlines]

/-- Where the lexer stands behind a block: at the end of the text, or at the first character of the
line that stops it that is no blank. -/
theorem stands_behind_block (hend : AtLineEnd text) (position : Position) :
    let reading := ofLines (linesAfter text)
    (reading.others = [] → reading.unread = [] ∧
      position.after reading.passed = position.after text) ∧
    ∀ stop later, reading.others = stop :: later →
      (∃ c, stop.find? (!isBlank ·) = some c ∧ reading.unread.head? = some c) ∧
      position.after reading.passed =
        ⟨position.line + reading.body.length + 1, 1 + (stop.takeWhile isBlank).length⟩ := by
  rcases exists_body_or_stop hend with
    ⟨body, rfl⟩ | ⟨body, blanks, c, line, rest, rfl, hblanks, hshort, hc, hline, hrest⟩
  · rw [BlockReading.ofLines_end]
    refine ⟨fun _ => ⟨rfl, ?_⟩, nofun⟩
    simp only [BlockReading.passed, BlockReading.write_map, List.append_nil]
  · have hstop : IsLine (blanks ++ c :: line) :=
      hblanks.isLine.append (List.forall_mem_cons.mpr ⟨ne_newline_of_solid hc, hline⟩)
    rw [BlockReading.ofLines_stop body hshort hc hstop hrest]
    refine ⟨nofun, ?_⟩
    rintro stop later hothers
    obtain ⟨rfl, rfl⟩ := List.cons.inj hothers
    simp only [BlockReading.passed, BlockReading.unread, BlockReading.write_map,
      takeWhile_isBlank hblanks.isGap hc, dropWhile_isBlank hblanks.isGap hc, List.length_map]
    refine ⟨⟨c, ?_, rfl⟩, position_after_lines position body hblanks.isLine⟩
    rw [List.find?_append, List.find?_eq_none.mpr fun d hd => by simp [hblanks.isGap d hd],
      List.find?_cons_of_pos (by simp [hc]), Option.none_or]

end Lexer

/-- **A block is read line by line.** Let a lexer be at the end of a line, and let the lines after
it be judged one by one: deep lines add what follows their margins, blank lines that are not deep
are passed over, and the first other line stops the block. If something is added that is not
empty, then what is added is the message. Otherwise the text has ended too early, if no line has
stopped the block, or there is no prompt where it was to start. Behind the block the lexer is at
the first character of the stopping line that is no blank, or at the end of the text. -/
theorem block_read_by_lines {lexer : Lexer} {text : List Char} (hend : AtLineEnd text)
    (hsignals : lexer.signals = text.map .item) (start : Position) :
    let reading := ofLines (linesAfter text)
    let moved := lexer.consume reading.passed (reading.unread.map .item)
    linesAfter text = reading.body ++ reading.others ∧
    text = reading.passed ++ reading.unread ∧
    ((∃ content ∈ reading.added, content ≠ []) →
      lexer.readBlockPrompt start = (true, { moved with
        current := ⟨.prompt, reading.message, start⟩
        expecting := .keyword })) ∧
    ((∀ content ∈ reading.added, content = []) → reading.others = [] →
      lexer.readBlockPrompt start = (false, { moved with
        current := ⟨.endOfInput, "", moved.position⟩
        error := some (.unexpectedEnd moved.position) })) ∧
    ((∀ content ∈ reading.added, content = []) → reading.others ≠ [] →
      lexer.readBlockPrompt start = (false, { moved with
        current := ⟨.unknown, "", start⟩
        error := some (.expectedPrompt start) })) ∧
    (reading.others = [] →
      moved.signals = [] ∧ moved.position = lexer.position.after text) ∧
    ∀ stop later, reading.others = stop :: later →
      (∃ c, stop.find? (!isBlank ·) = some c ∧ moved.signals.head? = some (.item c)) ∧
      moved.position =
        ⟨lexer.position.line + reading.body.length + 1, 1 + (stop.takeWhile isBlank).length⟩ := by
  intro reading moved
  obtain ⟨hfinish, hstop⟩ := Lexer.stands_behind_block hend lexer.position
  refine ⟨BlockReading.body_append_others _, passed_append_unread hend,
    fun hadded => Lexer.readBlockPrompt_of_added hend hsignals hadded start,
    fun hadded hothers => ?_, fun hadded hothers => ?_, fun hothers => ?_,
    fun stop later hothers => ?_⟩
  -- A bare block fails in one of two ways: by a line behind it, or by the end of the text.
  · have hbare := Lexer.readBlockPrompt_of_bare hend hsignals hadded start
    change reading.others = [] at hothers
    dsimp only at hbare
    rw [if_pos (List.isEmpty_iff.mpr hothers)] at hbare
    exact hbare
  · have hbare := Lexer.readBlockPrompt_of_bare hend hsignals hadded start
    change reading.others ≠ [] at hothers
    dsimp only at hbare
    rw [if_neg (mt List.isEmpty_iff.mp hothers)] at hbare
    exact hbare
  · obtain ⟨hunread, hposition⟩ := hfinish hothers
    exact ⟨congrArg (List.map Signal.item) hunread, hposition⟩
  · obtain ⟨⟨c, hfirst, hunread⟩, hposition⟩ := hstop stop later hothers
    refine ⟨⟨c, hfirst, ?_⟩, hposition⟩
    change (reading.unread.map Signal.item).head? = _
    rw [List.head?_map, hunread, Option.map_some]

/-- A tab after a blank makes a deep line, and so do four blanks with nothing after them; a blank
line between them is passed over, and a line with two blanks before its text stops the block. -/
def unevenBlock : List Char := "\n \tone  \n   \n    \n  ASK x\nmore".toList

/-- A block with a deep line that has nothing in it, up to a line that stops the block. -/
def bareBlock : List Char := "\n     \n ASK x".toList

/-- A lexer behind the bar of a block, in the third line of its text. -/
def behindBar (text : List Char) : Lexer := { signals := text.map .item, position := ⟨3, 6⟩ }

/-- The message of the one block ends with the empty text of its third line, and the lexer has come
to the `A`. The other block has no message, so there is no prompt where it starts. -/
theorem block_read_by_lines_uneven :
    AtLineEnd unevenBlock ∧ AtLineEnd bareBlock ∧
      (∀ text, (behindBar text).signals = text.map .item) ∧
      ((behindBar unevenBlock).readBlockPrompt ⟨3, 5⟩).1 = true ∧
      ((behindBar unevenBlock).readBlockPrompt ⟨3, 5⟩).2.current = ⟨.prompt, "one\n", ⟨3, 5⟩⟩ ∧
      ((behindBar unevenBlock).readBlockPrompt ⟨3, 5⟩).2.signals =
        "ASK x\nmore".toList.map .item ∧
      ((behindBar unevenBlock).readBlockPrompt ⟨3, 5⟩).2.position = ⟨7, 3⟩ ∧
      ((behindBar bareBlock).readBlockPrompt ⟨3, 5⟩).1 = false ∧
      ((behindBar bareBlock).readBlockPrompt ⟨3, 5⟩).2.error = some (.expectedPrompt ⟨3, 5⟩) ∧
      ((behindBar bareBlock).readBlockPrompt ⟨3, 5⟩).2.position = ⟨5, 2⟩ := by
  have hend : AtLineEnd unevenBlock := refuses_cons.mpr rfl
  have hend' : AtLineEnd bareBlock := refuses_cons.mpr rfl
  have hreading : ofLines (linesAfter unevenBlock) =
      ⟨["one".toList, []], [" \tone  ".toList, "   ".toList, "    ".toList],
        ["  ASK x".toList, "more".toList]⟩ := by decide
  have hreading' : ofLines (linesAfter bareBlock) =
      ⟨[[]], ["     ".toList], [" ASK x".toList]⟩ := by decide
  have hsignals : ∀ text, (behindBar text).signals = text.map .item := fun _ => rfl
  obtain ⟨-, -, hprompt, -, -, -, hstop⟩ := block_read_by_lines hend (hsignals _) ⟨3, 5⟩
  obtain ⟨-, -, -, -, hnone, -, hstop'⟩ := block_read_by_lines hend' (hsignals _) ⟨3, 5⟩
  rw [hreading] at hprompt hstop
  rw [hreading'] at hnone hstop'
  have hread := hprompt ⟨_, List.mem_cons_self, by decide⟩
  have hread' := hnone (by decide) (by decide)
  obtain ⟨-, hposition⟩ := hstop _ _ rfl
  obtain ⟨-, hposition'⟩ := hstop' _ _ rfl
  rw [hread, hread']
  exact ⟨hend, hend', hsignals, rfl, by decide, by decide, hposition, rfl, rfl, hposition'⟩

end Dialogue
