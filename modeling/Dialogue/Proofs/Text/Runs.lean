import Dialogue.Token.Lexer
import Mathlib.Data.List.TakeWhile

/-!
# Runs of characters

A reader takes characters of one class until it meets another one or the end of the text. So a
text falls into runs, and where a run ends is decided by the text alone: by the first character
after it. Everything the lexer reads is made of such runs.

## Main definitions

* `Refuses accept text`: `text` is empty or starts with a character that is not accepted
* `IsGap`, `IsPadding`, `IsWord`, `IsLine`: blanks, blanks of one line, a word, part of a line
* `AtBlank`, `AtLineEnd`, `AtSolid`: where a word, a line and a gap end

## Main results

* `exists_run`, `append_inj_of_refuses`: every text starts with one run of a class, and with only
  one
* `span_items`: a run over the characters of a text is that one
* `trimEnd_eq_bar_iff`: what is left of a line without the blanks at its end is a lone bar
* `line_after`: a position moves on one line for each line feed
-/

namespace Dialogue

open Text (isBlank trimEnd upper)

/-- The text is empty or starts with a character that is not accepted. -/
def Refuses (accept : Char → Bool) (text : List Char) : Prop :=
  ∀ c ∈ text.head?, accept c = false

@[simp] theorem refuses_nil (accept : Char → Bool) : Refuses accept [] := by
  simp [Refuses]

@[simp] theorem refuses_cons {accept : Char → Bool} {c : Char} {text : List Char} :
    Refuses accept (c :: text) ↔ accept c = false := by
  simp [Refuses]

/-- Any blanks, line feeds among them. -/
def IsGap (text : List Char) : Prop :=
  ∀ c ∈ text, isBlank c = true

/-- Blanks that stay within a line. -/
def IsPadding (text : List Char) : Prop :=
  ∀ c ∈ text, isBlank c = true ∧ c ≠ '\n'

/-- At least one character, and no blank. -/
def IsWord (text : List Char) : Prop :=
  text ≠ [] ∧ ∀ c ∈ text, isBlank c = false

/-- Characters that stay within a line. -/
def IsLine (text : List Char) : Prop :=
  ∀ c ∈ text, c ≠ '\n'

/-- The end of a word: a blank or the end of the text. -/
abbrev AtBlank (text : List Char) : Prop :=
  Refuses (!isBlank ·) text

/-- The end of a line: a line feed or the end of the text. -/
abbrev AtLineEnd (text : List Char) : Prop :=
  Refuses (· != '\n') text

/-- The end of a gap: something else than a blank, or the end of the text. -/
abbrev AtSolid (text : List Char) : Prop :=
  Refuses isBlank text

instance (text : List Char) : Decidable (IsGap text) :=
  List.decidableBAll (fun c => isBlank c = true) text

instance (text : List Char) : Decidable (IsPadding text) :=
  List.decidableBAll (fun c => isBlank c = true ∧ c ≠ '\n') text

instance (text : List Char) : Decidable (IsWord text) :=
  @instDecidableAnd _ _ _ (List.decidableBAll (fun c => isBlank c = false) text)

instance (text : List Char) : Decidable (IsLine text) :=
  List.decidableBAll (fun c => c ≠ '\n') text

@[simp] theorem isGap_nil : IsGap [] := fun _ hc => nomatch hc

@[simp] theorem isGap_cons {c : Char} {text : List Char} :
    IsGap (c :: text) ↔ isBlank c = true ∧ IsGap text :=
  List.forall_mem_cons

@[simp] theorem isGap_append {first second : List Char} :
    IsGap (first ++ second) ↔ IsGap first ∧ IsGap second :=
  List.forall_mem_append

theorem IsPadding.isGap {text : List Char} (h : IsPadding text) : IsGap text :=
  fun c hc => (h c hc).1

theorem IsPadding.isLine {text : List Char} (h : IsPadding text) : IsLine text :=
  fun c hc => (h c hc).2

theorem IsPadding.append {first second : List Char} (hfirst : IsPadding first)
    (hsecond : IsPadding second) : IsPadding (first ++ second) :=
  List.forall_mem_append.mpr ⟨hfirst, hsecond⟩

theorem IsLine.append {first second : List Char} (hfirst : IsLine first)
    (hsecond : IsLine second) : IsLine (first ++ second) :=
  List.forall_mem_append.mpr ⟨hfirst, hsecond⟩

theorem ne_newline_of_solid {c : Char} (h : isBlank c = false) : c ≠ '\n' := by
  rintro rfl
  simp at h

theorem IsWord.isLine {text : List Char} (h : IsWord text) : IsLine text :=
  fun c hc => ne_newline_of_solid (h.2 c hc)

/-- What stops a run still does so if more text comes after it. -/
theorem Refuses.append {accept : Char → Bool} {text : List Char} (h : Refuses accept text)
    (hne : text ≠ []) (rest : List Char) : Refuses accept (text ++ rest) := by
  obtain ⟨c, tail, rfl⟩ := List.exists_cons_of_ne_nil hne
  exact h

/-! ## The run at the start of a text -/

/-- Every text starts with a run of each class. -/
theorem exists_run (accept : Char → Bool) (text : List Char) :
    ∃ run rest, text = run ++ rest ∧ (∀ c ∈ run, accept c = true) ∧ Refuses accept rest := by
  refine ⟨text.takeWhile accept, text.dropWhile accept, List.takeWhile_append_dropWhile.symm,
    fun c hc => List.mem_takeWhile_imp hc, ?_⟩
  intro c hc
  have := List.head?_dropWhile_not accept text
  rw [Option.mem_def.mp hc] at this
  simpa using this

/-- A text starts with only one run of each class. -/
theorem append_inj_of_refuses {accept : Char → Bool} {run run' rest rest' : List Char}
    (hrun : ∀ c ∈ run, accept c = true) (hrest : Refuses accept rest)
    (hrun' : ∀ c ∈ run', accept c = true) (hrest' : Refuses accept rest')
    (h : run ++ rest = run' ++ rest') : run = run' ∧ rest = rest' := by
  induction run generalizing run' with
  | nil =>
    cases run' with
    | nil => exact ⟨rfl, h⟩
    | cons c run' =>
      -- The rest would start with a character that is accepted.
      obtain rfl : rest = c :: (run' ++ rest') := h
      simp [hrun' c (by simp)] at hrest
  | cons c run ih =>
    cases run' with
    | nil =>
      obtain rfl : c :: (run ++ rest) = rest' := h
      simp [hrun c (by simp)] at hrest'
    | cons c' run' =>
      simp only [List.cons_append, List.cons.injEq] at h
      obtain ⟨rfl, h⟩ := h
      obtain ⟨rfl, rfl⟩ := ih (fun d hd => hrun d (by simp [hd]))
        (fun d hd => hrun' d (by simp [hd])) h
      exact ⟨rfl, rfl⟩

/-- What stops a run before the rest of a text. -/
def haltBefore : List Char → Halt
  | [] => .ended
  | _ :: _ => .refused

theorem haltBefore_ne_failed (rest : List Char) (error : ReadError) :
    haltBefore rest ≠ .failed error := by
  cases rest <;> simp [haltBefore]

/-- A run over the characters of a text takes the run at its start. -/
theorem span_items {accept : Char → Bool} {run rest : List Char}
    (hrun : ∀ c ∈ run, accept c = true) (hrest : Refuses accept rest) :
    span accept ((run ++ rest).map .item) = ⟨run, haltBefore rest, rest.map .item⟩ := by
  induction run with
  | nil =>
    cases rest with
    | nil => rfl
    | cons c rest =>
      simp only [refuses_cons] at hrest
      simp [span_of_refuse hrest, haltBefore]
  | cons c run ih =>
    rw [List.cons_append, List.map_cons, span_of_accept (hrun c (by simp)),
      ih fun d hd => hrun d (by simp [hd])]

theorem gap_items {blanks rest : List Char} (hblanks : IsGap blanks) (hrest : AtSolid rest) :
    gap ((blanks ++ rest).map .item) = ⟨blanks, haltBefore rest, rest.map .item⟩ :=
  span_items hblanks hrest

theorem word_items {run rest : List Char} (hrun : IsWord run) (hrest : AtBlank rest) :
    word ((run ++ rest).map .item) = ⟨run, haltBefore rest, rest.map .item⟩ :=
  span_items (fun c hc => by simp [hrun.2 c hc]) hrest

theorem restOfLine_items {run rest : List Char} (hrun : IsLine run) (hrest : AtLineEnd rest) :
    restOfLine ((run ++ rest).map .item) = ⟨run, haltBefore rest, rest.map .item⟩ :=
  span_items (fun c hc => by simpa using hrun c hc) hrest

/-! ### The runs of the lexer, one by one -/

theorem exists_gap (text : List Char) :
    ∃ blanks rest, text = blanks ++ rest ∧ IsGap blanks ∧ AtSolid rest :=
  exists_run isBlank text

theorem exists_line (text : List Char) :
    ∃ line rest, text = line ++ rest ∧ IsLine line ∧ AtLineEnd rest := by
  obtain ⟨line, rest, rfl, hline, hrest⟩ := exists_run (· != '\n') text
  exact ⟨line, rest, rfl, fun c hc => by simpa using hline c hc, hrest⟩

/-- A text that does not start with a blank starts with a word. -/
theorem exists_word {c : Char} (text : List Char) (hc : isBlank c = false) :
    ∃ run rest, c :: text = run ++ rest ∧ IsWord run ∧ AtBlank rest := by
  obtain ⟨run, rest, h, hrun, hrest⟩ := exists_run (!isBlank ·) (c :: text)
  refine ⟨run, rest, h, ⟨?_, fun d hd => by simpa using hrun d hd⟩, hrest⟩
  rintro rfl
  obtain rfl : c :: text = rest := h
  simp [hc] at hrest

/-- Blanks within a line. -/
def isPad (c : Char) : Bool :=
  isBlank c && c != '\n'

theorem isPad_eq_false_of_solid {c : Char} (h : isBlank c = false) : isPad c = false := by
  simp [isPad, h]

theorem isPadding_iff {text : List Char} : IsPadding text ↔ ∀ c ∈ text, isPad c = true := by
  simp [IsPadding, isPad]

/-- After the blanks of a line comes something else than a blank, or the line ends. -/
theorem exists_padding (text : List Char) :
    ∃ padding rest, text = padding ++ rest ∧ IsPadding padding ∧ Refuses isPad rest := by
  obtain ⟨padding, rest, rfl, hpadding, hrest⟩ := exists_run isPad text
  exact ⟨padding, rest, rfl, isPadding_iff.mpr hpadding, hrest⟩

theorem AtSolid.refuses_isPad {rest : List Char} (h : AtSolid rest) : Refuses isPad rest := by
  intro c hc
  exact isPad_eq_false_of_solid (h c hc)

theorem AtLineEnd.refuses_isPad {rest : List Char} (h : AtLineEnd rest) : Refuses isPad rest := by
  intro c hc
  have : c = '\n' := by simpa using h c hc
  simp [isPad, this]

/-! ## The blanks at the end of a line -/

namespace Text

theorem trimEnd_cons_of_ne_nil {c : Char} {text : List Char} (h : trimEnd text ≠ []) :
    trimEnd (c :: text) = c :: trimEnd text := by
  rw [trimEnd]
  split
  · contradiction
  · simp_all

theorem trimEnd_cons_of_eq_nil {c : Char} {text : List Char} (h : trimEnd text = []) :
    trimEnd (c :: text) = if isBlank c then [] else [c] := by
  rw [trimEnd, h]

/-- Nothing is left exactly of blanks. -/
theorem trimEnd_eq_nil_iff {text : List Char} : trimEnd text = [] ↔ IsGap text := by
  induction text with
  | nil => simp [trimEnd]
  | cons c text ih =>
    rw [isGap_cons, ← ih]
    by_cases h : trimEnd text = []
    · rw [trimEnd_cons_of_eq_nil h]
      simp [h]
    · rw [trimEnd_cons_of_ne_nil h]
      simp [h]

/-- Blanks at the end do not count. -/
theorem trimEnd_append_gap (text : List Char) {blanks : List Char} (h : IsGap blanks) :
    trimEnd (text ++ blanks) = trimEnd text := by
  induction text with
  | nil => rw [List.nil_append, trimEnd_eq_nil_iff.mpr h, trimEnd]
  | cons c text ih => rw [List.cons_append, trimEnd, ih, trimEnd]

/-- Only blanks at the end are removed. -/
theorem exists_append_gap (text : List Char) :
    ∃ blanks, text = trimEnd text ++ blanks ∧ IsGap blanks := by
  induction text with
  | nil => exact ⟨[], rfl, isGap_nil⟩
  | cons c text ih =>
    obtain ⟨blanks, htext, hblanks⟩ := ih
    by_cases h : trimEnd text = []
    · -- Only blanks come after `c`, so all depends on whether it is one itself.
      rw [trimEnd_cons_of_eq_nil h]
      have hgap : IsGap text := trimEnd_eq_nil_iff.mp h
      by_cases hc : isBlank c = true
      · exact ⟨c :: text, by simp [hc], by simp [hc, hgap]⟩
      · exact ⟨text, by simp [hc], hgap⟩
    · rw [trimEnd_cons_of_ne_nil h]
      exact ⟨blanks, by rw [List.cons_append, ← htext], hblanks⟩

/-- What does not end with a blank stays as it is. -/
theorem trimEnd_eq_self {text : List Char} (h : ∀ c ∈ text.getLast?, isBlank c = false) :
    trimEnd text = text := by
  rcases List.eq_nil_or_concat text with rfl | ⟨text, c, rfl⟩
  · rfl
  · rw [List.concat_eq_append] at h ⊢
    exact trimEnd_concat text (h c (by simp))

/-- A lone bar is left of a bar and blanks after it. -/
theorem trimEnd_eq_bar_iff {text : List Char} :
    trimEnd text = ['|'] ↔ ∃ blanks, text = '|' :: blanks ∧ IsGap blanks := by
  constructor
  · intro h
    obtain ⟨blanks, htext, hblanks⟩ := exists_append_gap text
    rw [h] at htext
    exact ⟨blanks, htext, hblanks⟩
  · rintro ⟨blanks, rfl, hblanks⟩
    exact trimEnd_append_gap ['|'] hblanks

end Text

/-! ## Spellings of keywords -/

namespace Text

/-- The code points of the blanks. -/
def blankCodes : List Nat :=
  [0x9, 0xA, 0xB, 0xC, 0xD, 0x20, 0x85, 0xA0, 0x1680, 0x2000, 0x2001, 0x2002, 0x2003, 0x2004,
    0x2005, 0x2006, 0x2007, 0x2008, 0x2009, 0x200A, 0x2028, 0x2029, 0x202F, 0x205F, 0x3000]

theorem mem_blankCodes {c : Char} (h : isBlank c = true) : c.toNat ∈ blankCodes := by
  simp only [isBlank, Bool.or_eq_true, Bool.and_eq_true, decide_eq_true_eq, beq_iff_eq] at h
  simp only [blankCodes, List.mem_cons, List.not_mem_nil, or_false]
  omega

/-- A blank has no other upper-case form. -/
theorem upperChar_of_isBlank {c : Char} (h : isBlank c = true) : upperChar c = [c] := by
  -- There are few enough of them to look at each.
  have hcodes : ∀ n ∈ blankCodes, upperChar (Char.ofNat n) = [Char.ofNat n] := by
    decide +kernel
  have := hcodes c.toNat (mem_blankCodes h)
  rwa [Char.ofNat_toNat] at this

end Text

namespace Keyword

/-- Exactly the four upper-case words are keywords. -/
theorem ofWord?_eq_some_iff {word : String} {keyword : Keyword} :
    ofWord? word = some keyword ↔ word = keyword.word := by
  constructor
  · intro h
    have hword := List.find?_some h
    exact (beq_iff_eq.mp hword).symm
  · rintro rfl
    rcases keyword with _ | (_ | _ | _) <;> rfl

theorem ofWord?_eq_none_iff {word : String} :
    ofWord? word = none ↔ ∀ keyword : Keyword, word ≠ keyword.word := by
  constructor
  · intro h keyword hword
    rw [ofWord?_eq_some_iff.mpr hword] at h
    cases h
  · intro h
    cases hfound : ofWord? word with
    | none => rfl
    | some keyword => exact absurd (ofWord?_eq_some_iff.mp hfound) (h keyword)

theorem isWord_word (keyword : Keyword) : IsWord keyword.word.toList := by
  rcases keyword with _ | (_ | _ | _) <;> decide

/-- What is a keyword in upper case is a word. -/
theorem isWord_of_upper {keyword : Keyword} {letters : List Char}
    (h : upper letters = keyword.word.toList) : IsWord letters := by
  obtain ⟨hne, hsolid⟩ := isWord_word keyword
  rw [← h] at hne hsolid
  constructor
  · rintro rfl
    exact hne rfl
  · intro c hc
    by_contra hblank
    rw [Bool.not_eq_false] at hblank
    -- A blank would still be there in upper case, where there is none.
    have hupper : c ∈ upper letters := List.mem_flatMap.mpr
      ⟨c, hc, by rw [Text.upperChar_of_isBlank hblank]; exact List.mem_singleton_self c⟩
    rw [hsolid c hupper] at hblank
    cases hblank

end Keyword

/-! ## Positions -/

namespace Position

@[simp] theorem after_nil (position : Position) : position.after [] = position := rfl

theorem after_append (position : Position) (first second : List Char) :
    position.after (first ++ second) = (position.after first).after second :=
  List.foldl_append

/-- A position moves on one line for each line feed. -/
theorem line_after (position : Position) (taken : List Char) :
    (position.after taken).line = position.line + taken.count '\n' := by
  induction taken generalizing position with
  | nil => simp
  | cons c taken ih =>
    rw [after, List.foldl_cons, ← after, ih, List.count_cons]
    by_cases h : c = '\n'
    · simp [step, h]
      omega
    · simp [step, h]

/-- The line stays the same exactly within a line. -/
theorem line_after_eq_iff (position : Position) (taken : List Char) :
    (position.after taken).line = position.line ↔ IsLine taken := by
  rw [line_after]
  simp only [Nat.add_eq_left, List.count_eq_zero, IsLine]
  constructor
  · rintro h c hc rfl
    exact h hc
  · intro h hmem
    exact h '\n' hmem rfl

end Position

end Dialogue
