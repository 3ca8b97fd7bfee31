import Dialogue.Proofs.Text.Runs
import Mathlib.Data.List.Induction

/-!
# Blocks

The body of a block is a run of lines. A line belongs to it when it is deep, so that its leading
blanks reach the depth of a block, or when it has nothing but blanks that do not reach it. The
body is the longest run of such lines; what ends it is the end of the text or a line with content
that is not deep.

A line is written here with the line feed before it, so that every text at the end of a line is a
body and what is left after it.

## Main definitions

* `BodyLine`: a line of a body
* `EndsBody rest`: no further line of `rest` belongs to the body before it
* `writeBody`, `contents`: the text of a body, and the lines it contributes to the message

## Main results

* `exists_body`, `writeBody_inj`: every text at the end of a line starts with one body, and with
  only one
* `endsBody_iff`: what can end a body
* `readBlock_body`, `readBlock_items`: the lexer reads a body line by line and stops where it ends
-/

namespace Dialogue

open Text (isBlank trimEnd)

/-! ## Margins -/

/-- The columns that blanks of a line take up. -/
def columns : List Char → Nat
  | [] => 0
  | c :: blanks => (if c = '\t' then blockDepth else 1) + columns blanks

@[simp] theorem columns_nil : columns [] = 0 := rfl

theorem columns_append (first second : List Char) :
    columns (first ++ second) = columns first + columns second := by
  induction first with
  | nil => simp
  | cons c first ih => rw [List.cons_append, columns, columns, ih, Nat.add_assoc]

theorem columns_le_of_isPrefix {first blanks : List Char} (h : first <+: blanks) :
    columns first ≤ columns blanks := by
  obtain ⟨second, rfl⟩ := h
  rw [columns_append]
  exact Nat.le_add_right _ _

theorem widen_of_ne_newline {c : Char} (hc : c ≠ '\n') (width : Nat) :
    widen width c = width + columns [c] := by
  by_cases htab : c = '\t' <;> simp [widen, columns, hc, htab]

/-- The last blank of the margin is the one that reaches the depth of a block. -/
def Reaches (margin : List Char) : Prop :=
  columns margin.dropLast < blockDepth ∧ blockDepth ≤ columns margin

instance (margin : List Char) : Decidable (Reaches margin) :=
  inferInstanceAs (Decidable (_ ∧ _))

/-- Blanks that are deep enough start with a margin. -/
theorem exists_margin {blanks : List Char} (h : blockDepth ≤ columns blanks) :
    ∃ margin more, blanks = margin ++ more ∧ Reaches margin := by
  induction blanks using List.reverseRecOn with
  | nil => simp [blockDepth] at h
  | append_singleton blanks c ih =>
    by_cases hdeep : blockDepth ≤ columns blanks
    · obtain ⟨margin, more, rfl, hmargin⟩ := ih hdeep
      exact ⟨margin, more ++ [c], by simp, hmargin⟩
    · exact ⟨blanks ++ [c], [], by simp, by simpa using hdeep, h⟩

theorem Reaches.ne_nil {margin : List Char} (h : Reaches margin) : margin ≠ [] := by
  rintro rfl
  exact absurd h.2 (by decide)

theorem Reaches.eq_of_isPrefix {margin margin' : List Char} (h : Reaches margin)
    (h' : Reaches margin') (hp : margin <+: margin') : margin = margin' := by
  by_contra hne
  -- A shorter margin would be deep before the last blank of the longer one.
  have hshort : margin.length < margin'.length := by
    refine Nat.lt_of_le_of_ne hp.length_le fun hlen => hne (hp.eq_of_length hlen)
  have hdrop : margin <+: margin'.dropLast := by
    refine List.prefix_of_prefix_length_le hp (List.dropLast_prefix margin') ?_
    rw [List.length_dropLast]
    omega
  have := columns_le_of_isPrefix hdrop
  exact absurd h.2 (by have := h'.1; omega)

/-- A line starts with only one margin. -/
theorem Reaches.unique {margin margin' content content' : List Char} (h : Reaches margin)
    (h' : Reaches margin') (heq : margin ++ content = margin' ++ content') :
    margin = margin' ∧ content = content' := by
  have hp : margin <+: margin' ++ content' := ⟨content, heq⟩
  have hmargin : margin = margin' := by
    rcases List.prefix_or_prefix_of_prefix hp (List.prefix_append margin' content') with hm | hm
    · exact h.eq_of_isPrefix h' hm
    · exact (h'.eq_of_isPrefix h hm).symm
  subst hmargin
  exact ⟨rfl, List.append_cancel_left heq⟩

/-! ## Lines of a body -/

/-- A line of the body of a block, without its line feed. -/
inductive BodyLine where
  /-- A margin and what follows it on the line. -/
  | deep (margin content : List Char) (isPadding : IsPadding margin) (reaches : Reaches margin)
      (isLine : IsLine content)
  /-- Nothing but blanks, and too few of them. -/
  | shallow (blanks : List Char) (isPadding : IsPadding blanks)
      (short : columns blanks < blockDepth)

namespace BodyLine

/-- The line as it is written. -/
def write : BodyLine → List Char
  | .deep margin content .. => margin ++ content
  | .shallow blanks .. => blanks

/-- What the line contributes to the message. -/
def content? : BodyLine → Option (List Char)
  | .deep _ content .. => some (trimEnd content)
  | .shallow .. => none

/-- The line is deep and has something else than blanks after its margin. -/
def HasContent : BodyLine → Prop
  | .deep _ content .. => ∃ c ∈ content, isBlank c = false
  | .shallow .. => False

theorem isLine_write (line : BodyLine) : IsLine line.write := by
  cases line with
  | deep margin content hmargin _ hcontent =>
    intro c hc
    rcases List.mem_append.mp hc with hc | hc
    · exact (hmargin c hc).2
    · exact hcontent c hc
  | shallow blanks hblanks _ => exact hblanks.isLine

theorem write_injective {line line' : BodyLine} (h : line.write = line'.write) :
    line = line' := by
  -- A margin that reaches four columns is no part of blanks that stay below them.
  cases line with
  | deep margin content _ hreach _ =>
    cases line' with
    | deep margin' content' _ hreach' _ =>
      obtain ⟨rfl, rfl⟩ := hreach.unique hreach' h
      rfl
    | shallow blanks _ hshort =>
      have := columns_le_of_isPrefix (show margin <+: blanks from ⟨content, h⟩)
      exact absurd hreach.2 (by omega)
  | shallow blanks _ hshort =>
    cases line' with
    | deep margin' content' _ hreach' _ =>
      have := columns_le_of_isPrefix (show margin' <+: blanks from ⟨content', h.symm⟩)
      exact absurd hreach'.2 (by omega)
    | shallow blanks' _ _ =>
      obtain rfl : blanks = blanks' := h
      rfl

/-- A line has content exactly if it adds something to the message. -/
theorem hasContent_iff (line : BodyLine) :
    line.HasContent ↔ ∃ text, line.content? = some text ∧ text ≠ [] := by
  cases line with
  | deep margin content _ _ _ =>
    simp [HasContent, content?, Text.trimEnd_eq_nil_iff, IsGap]
  | shallow blanks _ _ => simp [HasContent, content?]

end BodyLine

/-- The body of a block as it is written, each line after its line feed. -/
def writeBody (body : List BodyLine) : List Char :=
  body.flatMap fun line => '\n' :: line.write

/-- The lines that the body contributes to the message. -/
def contents (body : List BodyLine) : List (List Char) :=
  body.filterMap BodyLine.content?

/-- Every line of the message is empty exactly if no line of the body has content. -/
theorem all_isEmpty_contents_iff (body : List BodyLine) :
    (contents body).all List.isEmpty = true ↔ ∀ line ∈ body, ¬ line.HasContent := by
  simp only [contents, List.all_eq_true, List.mem_filterMap, List.isEmpty_iff,
    BodyLine.hasContent_iff, not_exists, not_and, not_not]
  constructor
  · intro h line hmem text htext
    exact h text ⟨line, hmem, htext⟩
  · rintro h text ⟨line, hmem, htext⟩
    exact h line hmem text htext

/-- The body before `rest` is the longest possible: `rest` is at the end of a line, and no further
line of it belongs to the body. -/
def EndsBody (rest : List Char) : Prop :=
  AtLineEnd rest ∧
    ∀ (line : BodyLine) (more : List Char), AtLineEnd more → rest ≠ '\n' :: (line.write ++ more)

@[simp] theorem writeBody_nil : writeBody [] = [] := rfl

@[simp] theorem writeBody_cons (line : BodyLine) (body : List BodyLine) :
    writeBody (line :: body) = '\n' :: (line.write ++ writeBody body) := rfl

theorem writeBody_append (body more : List BodyLine) :
    writeBody (body ++ more) = writeBody body ++ writeBody more :=
  List.flatMap_append

theorem contents_cons (line : BodyLine) (body : List BodyLine) :
    contents (line :: body) = line.content?.toList ++ contents body := by
  rw [contents, List.filterMap_cons]
  cases line.content? <;> rfl

theorem contents_append (body more : List BodyLine) :
    contents (body ++ more) = contents body ++ contents more :=
  List.filterMap_append

theorem atLineEnd_writeBody_append (body : List BodyLine) {rest : List Char}
    (hrest : AtLineEnd rest) : AtLineEnd (writeBody body ++ rest) := by
  cases body with
  | nil => exact hrest
  | cons line body => simp

/-- Every text at the end of a line starts with the body of a block. -/
theorem exists_body (text : List Char) (htext : AtLineEnd text) :
    ∃ body rest, text = writeBody body ++ rest ∧ EndsBody rest := by
  -- On the length of the text: take one more line as long as there is one.
  induction hlen : text.length using Nat.strongRecOn generalizing text with
  | ind length ih =>
    by_cases hmore : ∃ (line : BodyLine) (more : List Char),
        AtLineEnd more ∧ text = '\n' :: (line.write ++ more)
    · obtain ⟨line, more, hend, rfl⟩ := hmore
      obtain ⟨body, rest, rfl, hrest⟩ := ih more.length (by
        rw [← hlen]
        simp only [List.length_cons, List.length_append]
        omega) more hend rfl
      exact ⟨line :: body, rest, by simp, hrest⟩
    · refine ⟨[], text, rfl, htext, fun line more hend heq => ?_⟩
      exact hmore ⟨line, more, hend, heq⟩

/-- A text starts with only one body. -/
theorem writeBody_inj {body body' : List BodyLine} {rest rest' : List Char}
    (hrest : EndsBody rest) (hrest' : EndsBody rest')
    (h : writeBody body ++ rest = writeBody body' ++ rest') : body = body' ∧ rest = rest' := by
  induction body generalizing body' with
  | nil =>
    cases body' with
    | nil => exact ⟨rfl, h⟩
    | cons line' body' =>
      -- The first body would not be the longest one.
      refine absurd ?_ (hrest.2 line' _ (atLineEnd_writeBody_append body' hrest'.1))
      simpa using h
  | cons line body ih =>
    cases body' with
    | nil =>
      refine absurd ?_ (hrest'.2 line _ (atLineEnd_writeBody_append body hrest.1))
      simpa using h.symm
    | cons line' body' =>
      simp only [writeBody_cons, List.cons_append, List.append_assoc, List.cons.injEq,
        true_and] at h
      -- Both first lines end at the first line feed.
      obtain ⟨hwrite, hbody⟩ := append_inj_of_refuses
        (fun c hc => by simpa using line.isLine_write c hc)
        (atLineEnd_writeBody_append body hrest.1)
        (fun c hc => by simpa using line'.isLine_write c hc)
        (atLineEnd_writeBody_append body' hrest'.1) h
      obtain rfl := BodyLine.write_injective hwrite
      obtain ⟨rfl, rfl⟩ := ih hbody
      exact ⟨rfl, rfl⟩

/-! ## What ends a body -/

/-- Blanks before something else hold every margin that the line starts with. -/
theorem isPrefix_of_padding {margin more blanks tail : List Char} {c : Char}
    (hmargin : IsPadding margin) (hc : isBlank c = false)
    (h : margin ++ more = blanks ++ c :: tail) : margin <+: blanks := by
  have hp : margin <+: blanks ++ c :: tail := ⟨more, h⟩
  rcases List.prefix_or_prefix_of_prefix hp (List.prefix_append blanks (c :: tail)) with hm | hm
  · exact hm
  · obtain ⟨rest, rfl⟩ := hm
    rw [List.append_assoc, List.append_cancel_left_eq] at h
    cases rest with
    | nil => simp
    | cons d rest =>
      obtain ⟨rfl, -⟩ := List.cons.inj h
      rw [(hmargin d (by simp)).1] at hc
      cases hc

/-- A body ends with the text, or before a line that has content and is not deep. -/
theorem endsBody_iff {rest : List Char} :
    EndsBody rest ↔ rest = [] ∨ ∃ blanks c tail, rest = '\n' :: (blanks ++ c :: tail) ∧
      IsPadding blanks ∧ columns blanks < blockDepth ∧ isBlank c = false := by
  constructor
  · rintro ⟨hend, hmax⟩
    cases rest with
    | nil => exact Or.inl rfl
    | cons c rest =>
      obtain rfl : c = '\n' := by simpa using hend
      obtain ⟨line, more, rfl, hline, hmore⟩ := exists_line rest
      obtain ⟨blanks, tail, rfl, hblanks, htail⟩ := exists_padding line
      -- The next line is deep, or it is blank, or it has content and ends the body.
      by_cases hdeep : blockDepth ≤ columns blanks
      · obtain ⟨margin, more', rfl, hreach⟩ := exists_margin hdeep
        refine absurd ?_ (hmax (.deep margin (more' ++ tail) (fun c hc => hblanks c (by simp [hc]))
          hreach (fun c hc => hline c (by simpa using Or.inr hc))) more hmore)
        simp [BodyLine.write]
      · cases tail with
        | nil =>
          refine absurd ?_ (hmax (.shallow blanks hblanks (Nat.lt_of_not_le hdeep)) more hmore)
          simp [BodyLine.write]
        | cons c tail =>
          have hc : isBlank c = false := by
            have hne := hline c (by simp)
            simpa [isPad, hne] using htail
          exact Or.inr ⟨blanks, c, tail ++ more, by simp, hblanks, Nat.lt_of_not_le hdeep, hc⟩
  · rintro (rfl | ⟨blanks, c, tail, rfl, hblanks, hshort, hc⟩)
    · refine ⟨by simp, ?_⟩
      intro line more _
      simp
    · refine ⟨by simp, fun line more hmore heq => ?_⟩
      rw [List.cons.injEq] at heq
      cases line with
      | deep margin content hmargin hreach hcontent =>
        -- A margin of this line would be among its blanks, which are not deep enough.
        have hfront : margin ++ (content ++ more) = blanks ++ c :: tail := by
          rw [heq.2, BodyLine.write, List.append_assoc]
        have := columns_le_of_isPrefix (isPrefix_of_padding hmargin hc hfront)
        exact absurd hreach.2 (by omega)
      | shallow blanks' hblanks' hshort' =>
        -- A blank line would end where this line has its content.
        obtain ⟨-, htail⟩ := append_inj_of_refuses (isPadding_iff.mp hblanks)
          (by simp [isPad, hc]) (isPadding_iff.mp hblanks') hmore.refuses_isPad heq.2
        subst htail
        exact ne_newline_of_solid hc (by simpa using hmore)

/-! ## Indentation -/

/-- The indentation with some blanks put in front of those it has passed over. -/
def Indent.after (indent : Indent) (blanks : List Char) : Indent :=
  { indent with taken := blanks ++ indent.taken }

theorem indentation_of_deep {width : Nat} (h : blockDepth ≤ width)
    (signals : List (Signal Char)) : indentation width signals = ⟨.deep, [], signals⟩ := by
  rw [indentation.eq_def, if_pos h]

theorem indentation_nil {width : Nat} (h : width < blockDepth) :
    indentation width [] = ⟨.ended, [], []⟩ := by
  rw [indentation.eq_def, if_neg (by omega)]

theorem indentation_blank {width : Nat} {c : Char} (h : width < blockDepth)
    (hc : isBlank c = true) (rest : List (Signal Char)) :
    indentation width (.item c :: rest) = (indentation (widen width c) rest).after [c] := by
  rw [indentation.eq_def, if_neg (by omega)]
  simp [hc, Indent.after]

theorem indentation_solid {width : Nat} {c : Char} (h : width < blockDepth)
    (hc : isBlank c = false) (rest : List (Signal Char)) :
    indentation width (.item c :: rest) = ⟨.shallow, [], .item c :: rest⟩ := by
  rw [indentation.eq_def, if_neg (by omega)]
  simp [hc]

/-- Blanks of a line are passed over as long as they are not deep enough. -/
theorem indentation_padding {width : Nat} {blanks : List Char} (hblanks : IsPadding blanks)
    (h : width + columns blanks < blockDepth) (rest : List Char) :
    indentation width ((blanks ++ rest).map .item) =
      (indentation (width + columns blanks) (rest.map .item)).after blanks := by
  induction blanks generalizing width with
  | nil => simp [Indent.after]
  | cons c blanks ih =>
    obtain ⟨hc, hne⟩ := hblanks c (by simp)
    have hcolumns : columns (c :: blanks) = columns [c] + columns blanks :=
      columns_append [c] blanks
    rw [hcolumns] at h ⊢
    rw [List.cons_append, List.map_cons, indentation_blank (by omega) hc,
      widen_of_ne_newline hne, ih (fun d hd => hblanks d (by simp [hd])) (by omega),
      Nat.add_assoc]
    rfl

/-- A line feed starts the indentation of a new line. -/
theorem indentation_newline {width : Nat} (h : width < blockDepth) (rest : List Char) :
    indentation width (('\n' :: rest).map .item) =
      (indentation 0 (rest.map .item)).after ['\n'] := by
  rw [List.map_cons, indentation_blank h (by simp)]
  simp [widen]

/-- The indentation of a deep line ends with its margin. -/
theorem indentation_margin {margin : List Char} (hmargin : IsPadding margin)
    (hreach : Reaches margin) (rest : List Char) :
    indentation 0 (('\n' :: (margin ++ rest)).map .item) =
      ⟨.deep, '\n' :: margin, rest.map .item⟩ := by
  -- The blanks before the last one are not deep enough, and the last one makes them so.
  obtain ⟨blanks, c, rfl⟩ := (List.eq_nil_or_concat margin).resolve_left hreach.ne_nil
  rw [List.concat_eq_append] at hmargin hreach ⊢
  obtain ⟨hshort, hdeep⟩ := hreach
  rw [List.dropLast_concat] at hshort
  obtain ⟨hc, hne⟩ := hmargin c (by simp)
  rw [columns_append] at hdeep
  rw [indentation_newline (by decide), List.append_assoc,
    indentation_padding (fun d hd => hmargin d (by simp [hd])) (by omega), List.singleton_append,
    List.map_cons, indentation_blank (by omega) hc, widen_of_ne_newline hne,
    indentation_of_deep (by omega)]
  simp [Indent.after]

/-- At the end of a line the columns so far make no difference. -/
theorem indentation_atLineEnd {width : Nat} (h : width < blockDepth) {rest : List Char}
    (hrest : AtLineEnd rest) :
    indentation width (rest.map .item) = indentation 0 (rest.map .item) := by
  cases rest with
  | nil => rw [List.map_nil, indentation_nil h, indentation_nil (by decide)]
  | cons c rest =>
    obtain rfl : c = '\n' := by simpa using hrest
    rw [indentation_newline h, indentation_newline (by decide)]

/-! ## Reading a body -/

/-- The block with some characters put in front of those it has taken. -/
def Block.after (block : Block) (blanks : List Char) : Block :=
  { block with taken := blanks ++ block.taken }

theorem readBlock_of_shallow {signals rest : List (Signal Char)} {taken : List Char}
    (h : indentation 0 signals = ⟨.shallow, taken, rest⟩) :
    readBlock signals = ⟨[], taken, .refused, rest⟩ := by
  rw [readBlock]
  split <;> simp_all

theorem readBlock_of_ended {signals rest : List (Signal Char)} {taken : List Char}
    (h : indentation 0 signals = ⟨.ended, taken, rest⟩) :
    readBlock signals = ⟨[], taken, .ended, rest⟩ := by
  rw [readBlock]
  split <;> simp_all

theorem readBlock_of_failed {signals rest : List (Signal Char)} {taken : List Char}
    {error : ReadError} (h : indentation 0 signals = ⟨.failed error, taken, rest⟩) :
    readBlock signals = ⟨[], taken, .failed error, rest⟩ := by
  rw [readBlock]
  split <;> simp_all

theorem readBlock_of_deep {signals inner rest : List (Signal Char)} {margin text : List Char}
    {halt : Halt} (h : indentation 0 signals = ⟨.deep, margin, inner⟩)
    (hline : restOfLine inner = ⟨text, halt, rest⟩) (hread : ∀ error, halt ≠ .failed error) :
    readBlock signals = (readBlock rest).addLine margin text := by
  rw [readBlock]
  split <;> simp_all

theorem readBlock_of_unreadable {signals inner rest : List (Signal Char)}
    {margin text : List Char} {error : ReadError}
    (h : indentation 0 signals = ⟨.deep, margin, inner⟩)
    (hline : restOfLine inner = ⟨text, .failed error, rest⟩) :
    readBlock signals = ⟨[], margin ++ text, .failed error, rest⟩ := by
  rw [readBlock]
  split <;> simp_all
  obtain ⟨rfl, rfl⟩ := h
  split <;> simp_all

/-- A block depends on what it is read from only through the indentation of its first line. -/
theorem readBlock_after {signals signals' : List (Signal Char)} {blanks : List Char}
    (h : indentation 0 signals = (indentation 0 signals').after blanks) :
    readBlock signals = (readBlock signals').after blanks := by
  rcases hindent : indentation 0 signals' with ⟨margin, taken, rest⟩
  rw [hindent] at h
  cases margin with
  | shallow => rw [readBlock_of_shallow h, readBlock_of_shallow hindent]; rfl
  | ended => rw [readBlock_of_ended h, readBlock_of_ended hindent]; rfl
  | failed error => rw [readBlock_of_failed h, readBlock_of_failed hindent]; rfl
  | deep =>
    rcases hline : restOfLine rest with ⟨text, halt, more⟩
    by_cases hread : ∀ error, halt ≠ .failed error
    · rw [readBlock_of_deep h hline hread, readBlock_of_deep hindent hline hread]
      simp [Block.addLine, Block.after]
    · obtain ⟨error, rfl⟩ : ∃ error, halt = .failed error := by simpa using hread
      rw [readBlock_of_unreadable h hline, readBlock_of_unreadable hindent hline]
      simp [Block.after]

/-- The end of the text ends a body. -/
theorem readBlock_end : readBlock [] = ⟨[], [], .ended, []⟩ :=
  readBlock_of_ended (indentation_nil (by decide))

/-- A line with content that is not deep ends a body, and is left from its content on. -/
theorem readBlock_stop {blanks tail : List Char} {c : Char} (hblanks : IsPadding blanks)
    (hshort : columns blanks < blockDepth) (hc : isBlank c = false) :
    readBlock (('\n' :: (blanks ++ c :: tail)).map .item) =
      ⟨[], '\n' :: blanks, .refused, (c :: tail).map .item⟩ := by
  refine readBlock_of_shallow ?_
  rw [indentation_newline (by decide), indentation_padding hblanks (by omega), List.map_cons,
    indentation_solid (by omega) hc]
  simp [Indent.after]

/-- A line of a body is taken up as a whole, and adds what it contributes. -/
theorem readBlock_line (line : BodyLine) {rest : List Char} (hrest : AtLineEnd rest) :
    readBlock (('\n' :: (line.write ++ rest)).map .item) =
      { readBlock (rest.map .item) with
        lines := line.content?.toList ++ (readBlock (rest.map .item)).lines
        taken := '\n' :: line.write ++ (readBlock (rest.map .item)).taken } := by
  cases line with
  | deep margin content hmargin hreach hcontent =>
    rw [BodyLine.write, List.append_assoc,
      readBlock_of_deep (indentation_margin hmargin hreach (content ++ rest))
        (restOfLine_items hcontent hrest) (haltBefore_ne_failed rest)]
    simp [Block.addLine, BodyLine.content?]
  | shallow blanks hblanks hshort =>
    -- The line is passed over together with the indentation of the next one.
    have hindent : indentation 0 (('\n' :: (blanks ++ rest)).map .item) =
        (indentation 0 (rest.map .item)).after ('\n' :: blanks) := by
      rw [indentation_newline (by decide), indentation_padding hblanks (by omega),
        indentation_atLineEnd (by omega) hrest]
      rfl
    rw [BodyLine.write, readBlock_after hindent]
    rfl

/-- **A body is read line by line**: whatever stands after it, all its lines are taken up, and they
add what they contribute. -/
theorem readBlock_body (body : List BodyLine) {rest : List Char} (hrest : AtLineEnd rest) :
    readBlock ((writeBody body ++ rest).map .item) =
      { readBlock (rest.map .item) with
        lines := contents body ++ (readBlock (rest.map .item)).lines
        taken := writeBody body ++ (readBlock (rest.map .item)).taken } := by
  induction body with
  | nil => simp [contents]
  | cons line body ih =>
    rw [writeBody_cons, List.cons_append, List.append_assoc,
      readBlock_line line (atLineEnd_writeBody_append body hrest), ih]
    cases hline : line.content? <;> simp [contents, hline]

/-- **A body is read up to its end**: the lexer stops at the end of the text, or at the content of
the line that ends the body, and has then passed over the blanks before it. -/
theorem readBlock_items (body : List BodyLine) {rest : List Char} (hrest : EndsBody rest) :
    ∃ lead landing, rest = lead ++ landing ∧ IsGap lead ∧
      readBlock ((writeBody body ++ rest).map .item) =
        ⟨contents body, writeBody body ++ lead, haltBefore rest, landing.map .item⟩ := by
  rw [readBlock_body body hrest.1]
  rcases endsBody_iff.mp hrest with rfl | ⟨blanks, c, tail, rfl, hblanks, hshort, hc⟩
  · refine ⟨[], [], rfl, isGap_nil, ?_⟩
    rw [List.map_nil, readBlock_end, List.append_nil]
    rfl
  · refine ⟨'\n' :: blanks, c :: tail, rfl, by simpa using hblanks.isGap, ?_⟩
    rw [readBlock_stop hblanks hshort hc, List.append_nil]
    rfl

end Dialogue
