import Dialogue.Json.Parser

/-!
# Reading documents back

A document is written by one recursion and read by another, which knows nothing of depths and
layouts and is bounded by the length of its text. Yet what is read is the document again, blanks
between its parts or not.

## Main definitions

* `Piece.Means piece c`: a part of a string that stands for a character
* `IsWhole digits`, `IsInteger written`: whole numbers and integers as they are written
* `Faithful json`: all texts of the document are there, and all its numbers are integers
* `ReadsBack layout depth json`: reading the document from its text gives it back

## Main results

* `parseString_flatMap_escape`: a text is read back from its escapes
* `IsInteger.parseNumber_append`: an integer is read up to where it ends
* `ReadsBack.array`, `ReadsBack.object`: what holds documents that are read back is read back
* `Faithful.parse?_render`: a faithful document is read back from its text
-/

namespace Dialogue.Json

/-! ## Strings -/

/-- A part that stands for a character: the character itself, or the number of a control. -/
inductive Piece.Means : Piece → Char → Prop
  | char (c : Char) : Means (.char c) c
  | control {c : Char} (control : c.toNat < 0x20) : Means (.unit c.toNat) c

/-- No control is half of a surrogate pair, so what stands for a character is read alone. -/
theorem Piece.Means.textOfPieces_cons {piece : Piece} {c : Char} (h : piece.Means c)
    (pieces : List Piece) :
    textOfPieces (piece :: pieces) = (textOfPieces pieces).map (c :: ·) := by
  cases h with
  | char => rw [textOfPieces]
  | control hcontrol =>
    have hhigh : ¬ 0xD800 ≤ c.toNat := by omega
    have hlow : ¬ 0xDC00 ≤ c.toNat := by omega
    cases pieces with
    | nil => simp [textOfPieces, hhigh]
    | cons piece pieces => cases piece <;> simp [textOfPieces, hhigh, hlow]

theorem parsePieces_of_plain {c : Char} (hquote : c ≠ '"') (hbackslash : c ≠ '\\')
    (hcontrol : ¬ c.toNat < 0x20) (rest : List Char) :
    parsePieces (c :: rest) =
      (parsePieces rest).map fun (pieces, rest) => (.char c :: pieces, rest) := by
  rw [parsePieces]
  · simp only [hbackslash, hcontrol, decide_false, Bool.or_self, Bool.false_eq_true, if_false]
    cases parsePieces rest <;> rfl
  all_goals simp [hquote, hbackslash]

theorem parsePieces_of_escaped {letter c : Char} (h : escaped? letter = some c)
    (rest : List Char) :
    parsePieces ('\\' :: letter :: rest) =
      (parsePieces rest).map fun (pieces, rest) => (.char c :: pieces, rest) := by
  rw [parsePieces]
  · simp only [h]
    cases parsePieces rest <;> rfl
  · rintro a b c d rest rfl
    cases h

theorem parsePieces_of_unit {a b c d : Char} {value : Nat} (h : hexUnit? a b c d = some value)
    (rest : List Char) :
    parsePieces ('\\' :: 'u' :: a :: b :: c :: d :: rest) =
      (parsePieces rest).map fun (pieces, rest) => (.unit value :: pieces, rest) := by
  rw [parsePieces]
  simp only [h]
  cases parsePieces rest <;> rfl

theorem hexUnit?_hexDigit :
    ∀ value < 0x20, hexUnit? '0' '0' (hexDigit (value / 16)) (hexDigit value) = some value := by
  decide

/-- A character is escaped by a letter, or by its number if it is another control, or it stands for
itself. -/
theorem escape_cases (c : Char) :
    (∃ letter, escape c = ['\\', letter] ∧ escaped? letter = some c) ∨
    (c.toNat < 0x20 ∧
      escape c = ['\\', 'u', '0', '0', hexDigit (c.toNat / 16), hexDigit c.toNat]) ∨
    (c ≠ '"' ∧ c ≠ '\\' ∧ ¬ c.toNat < 0x20 ∧ escape c = [c]) := by
  by_cases hletter : c ∈ ['"', '\\', '\x08', '\t', '\n', '\x0c', '\r']
  · left
    simp only [List.mem_cons, List.not_mem_nil, or_false] at hletter
    rcases hletter with rfl | rfl | rfl | rfl | rfl | rfl | rfl <;> exact ⟨_, rfl, by decide⟩
  · right
    simp only [List.mem_cons, List.not_mem_nil, or_false, not_or] at hletter
    by_cases hcontrol : c.toNat < 0x20
    · exact .inl ⟨hcontrol, by simp [escape, hletter, hcontrol]⟩
    · exact .inr ⟨hletter.1, hletter.2.1, hcontrol, by simp [escape, hletter, hcontrol]⟩

/-- A character is read back from its escape. -/
theorem exists_piece_escape (c : Char) : ∃ piece : Piece, piece.Means c ∧ ∀ rest,
    parsePieces (escape c ++ rest) =
      (parsePieces rest).map fun (pieces, rest) => (piece :: pieces, rest) := by
  rcases escape_cases c with ⟨letter, hescape, hletter⟩ | ⟨hcontrol, hescape⟩ |
    ⟨hquote, hbackslash, hcontrol, hescape⟩
  · exact ⟨.char c, .char c, fun rest => hescape ▸ parsePieces_of_escaped hletter rest⟩
  · exact ⟨.unit c.toNat, .control hcontrol,
      fun rest => hescape ▸ parsePieces_of_unit (hexUnit?_hexDigit _ hcontrol) rest⟩
  · exact ⟨.char c, .char c,
      fun rest => hescape ▸ parsePieces_of_plain hquote hbackslash hcontrol rest⟩

theorem exists_pieces_flatMap_escape (content rest : List Char) :
    ∃ pieces, parsePieces (content.flatMap escape ++ '"' :: rest) = some (pieces, rest) ∧
      textOfPieces pieces = some content := by
  induction content with
  | nil => exact ⟨[], rfl, rfl⟩
  | cons c content ih =>
    obtain ⟨pieces, hpieces, htext⟩ := ih
    obtain ⟨piece, hmeans, hpiece⟩ := exists_piece_escape c
    refine ⟨piece :: pieces, ?_, ?_⟩
    · rw [List.flatMap_cons, List.append_assoc, hpiece, hpieces]
      rfl
    · rw [hmeans.textOfPieces_cons, htext]
      rfl

/-- **A text is read back from its escapes**, up to the closing quote. -/
theorem parseString_flatMap_escape (content : String) (rest : List Char) :
    parseString (content.toList.flatMap escape ++ '"' :: rest) = some (some content, rest) := by
  obtain ⟨pieces, hpieces, htext⟩ := exists_pieces_flatMap_escape content.toList rest
  simp only [parseString, hpieces, htext, Option.map_some, String.ofList_toList]

/-! ## Numbers -/

/-- A whole number as it is written: one digit or more, and no zero before others. -/
structure IsWhole (digits : List Char) : Prop where
  ne_nil : digits ≠ []
  isDigit : ∀ c ∈ digits, c.isDigit = true
  leads : ∀ first second rest, digits = first :: second :: rest → first ≠ '0'

/-- What does not go on with a number. -/
def EndsNumber (rest : List Char) : Prop :=
  ∀ c ∈ rest.head?, c.isDigit = false ∧ c ≠ '.' ∧ c ≠ 'e' ∧ c ≠ 'E'

theorem parseDigits_append {digits rest : List Char} (hdigits : ∀ c ∈ digits, c.isDigit = true)
    (hne : digits ≠ []) (hrest : EndsNumber rest) :
    parseDigits (digits ++ rest) = some (digits, rest) := by
  have htake : rest.takeWhile Char.isDigit = [] ∧ rest.dropWhile Char.isDigit = rest := by
    cases rest with
    | nil => exact ⟨rfl, rfl⟩
    | cons c rest => simp [(hrest c rfl).1]
  rw [parseDigits, List.takeWhile_append_of_pos hdigits, List.dropWhile_append_of_pos hdigits,
    htake.1, htake.2, List.append_nil]
  cases digits with
  | nil => exact absurd rfl hne
  | cons c digits => rfl

theorem parseFraction_of_endsNumber {rest : List Char} (h : EndsNumber rest) :
    parseFraction rest = some ([], rest) := by
  rw [parseFraction]
  rintro rest rfl
  exact (h '.' rfl).2.1 rfl

theorem parseExponent_of_endsNumber {rest : List Char} (h : EndsNumber rest) :
    parseExponent rest = some ([], rest) := by
  cases rest with
  | nil => rfl
  | cons c rest => simp [parseExponent, (h c rfl).2.2]

/-- A whole number is read up to where it ends. -/
theorem IsWhole.parseUnsigned_append {digits rest : List Char} (h : IsWhole digits)
    (hrest : EndsNumber rest) : parseUnsigned (digits ++ rest) = some (digits, rest) := by
  have hwhole : parseWhole (digits ++ rest) = some (digits, rest) := by
    rw [parseWhole, parseDigits_append h.isDigit h.ne_nil hrest]
    split
    · rename_i second more _ heq
      cases heq
      exact absurd rfl (h.leads _ _ _ rfl)
    · rfl
  simp only [parseUnsigned, hwhole, parseFraction_of_endsNumber hrest,
    parseExponent_of_endsNumber hrest, List.append_nil]

/-- An integer as it is written: a whole number with a sign before it if it is negative. -/
inductive IsInteger : List Char → Prop
  | whole {digits : List Char} (whole : IsWhole digits) : IsInteger digits
  | negative {digits : List Char} (whole : IsWhole digits) : IsInteger ('-' :: digits)

theorem IsWhole.exists_cons {digits : List Char} (h : IsWhole digits) :
    ∃ c rest, digits = c :: rest ∧ c.isDigit = true := by
  obtain ⟨c, rest, rfl⟩ := List.exists_cons_of_ne_nil h.ne_nil
  exact ⟨c, rest, rfl, h.isDigit c List.mem_cons_self⟩

theorem IsInteger.exists_cons {written : List Char} (h : IsInteger written) :
    ∃ c rest, written = c :: rest ∧ (c.isDigit = true ∨ c = '-') := by
  cases h with
  | whole hwhole =>
    obtain ⟨c, rest, hdigits, hdigit⟩ := hwhole.exists_cons
    exact ⟨c, rest, hdigits, .inl hdigit⟩
  | negative => exact ⟨'-', _, rfl, .inr rfl⟩

/-- **An integer is read up to where it ends.** -/
theorem IsInteger.parseNumber_append {written rest : List Char} (h : IsInteger written)
    (hrest : EndsNumber rest) : parseNumber (written ++ rest) = some (written, rest) := by
  cases h with
  | whole hwhole =>
    obtain ⟨c, digits, hdigits, hdigit⟩ := hwhole.exists_cons
    rw [parseNumber, hwhole.parseUnsigned_append hrest]
    intro text htext
    rw [hdigits, List.cons_append, List.cons.injEq] at htext
    rw [htext.1] at hdigit
    cases hdigit
  | negative hwhole =>
    rw [List.cons_append, parseNumber, hwhole.parseUnsigned_append hrest]
    rfl

/-- The digits of a number other than zero do not start with a zero. -/
theorem head?_toDigits_ne_zero {value : Nat} (h : 0 < value) :
    (Nat.toDigits 10 value).head? ≠ some '0' := by
  induction value using Nat.strongRecOn with
  | ind value ih =>
    by_cases hsmall : value < 10
    · rw [Nat.toDigits_of_lt_base hsmall, List.head?_cons, Ne, Option.some_inj,
        Nat.digitChar_eq_zero]
      omega
    · -- The first digit is that of the number without its last digit.
      have hhead := ih (value / 10) (by omega) (by omega)
      obtain ⟨c, rest, hdigits⟩ := List.exists_cons_of_ne_nil
        (Nat.toDigits_ne_nil (n := value / 10) (b := 10))
      rw [Nat.toDigits_of_base_le (by omega) (by omega)]
      rwa [hdigits] at hhead ⊢

theorem isWhole_toDigits (value : Nat) : IsWhole (Nat.toDigits 10 value) := by
  refine ⟨Nat.toDigits_ne_nil, fun c hc => Nat.isDigit_of_mem_toDigits (by decide) (by decide) hc,
    ?_⟩
  rintro first second rest hdigits rfl
  rcases Nat.eq_zero_or_pos value with rfl | hpos
  · rw [Nat.toDigits_zero] at hdigits
    cases hdigits
  · exact head?_toDigits_ne_zero hpos (by rw [hdigits]; rfl)

/-! ## Documents -/

/-- A document whose strings and keys all have a text, and whose numbers are all integers. -/
inductive Faithful : Json → Prop
  | null : Faithful .null
  | bool (value : Bool) : Faithful (.bool value)
  | number {written : List Char} (integer : IsInteger written) : Faithful (.number written)
  | text (content : String) : Faithful (.text content)
  | array {items : List Json} (faithful : ∀ item ∈ items, Faithful item) :
      Faithful (.array items)
  | object {members : List (Option String × Json)} (keys : ∀ member ∈ members, member.1.isSome)
      (faithful : ∀ member ∈ members, Faithful member.2) : Faithful (.object members)

/-- A document at some depth starts with no blank and no closing bracket, and is read back from its
text, up to whatever does not go on with a number. -/
structure ReadsBack (layout : Layout) (depth : Nat) (json : Json) : Prop where
  opens : ∃ c text, renderAt layout depth json = c :: text ∧ isSpace c = false ∧ c ≠ ']'
  reads : ∀ fuel rest, 3 * (renderAt layout depth json).length ≤ fuel → EndsNumber rest →
    parseValue fuel (renderAt layout depth json ++ rest) = some (json, rest)

section Blanks

variable (layout : Layout) (depth : Nat)

theorem skipSpace_of_solid {c : Char} (h : isSpace c = false) (rest : List Char) :
    skipSpace (c :: rest) = c :: rest := by
  rw [skipSpace, List.dropWhile_cons_of_neg (by simp [h])]

theorem skipSpace_lineBreak (rest : List Char) :
    skipSpace (layout.lineBreak depth ++ rest) = skipSpace rest := by
  refine List.dropWhile_append_of_pos fun c hc => ?_
  cases layout with
  | compact => cases hc
  | pretty =>
    rcases List.mem_cons.mp hc with rfl | hc
    · rfl
    · rw [List.eq_of_mem_replicate hc]
      rfl

theorem exists_colon :
    ∃ gap, layout.colon = ':' :: gap ∧ ∀ rest, skipSpace (gap ++ rest) = skipSpace rest := by
  cases layout with
  | compact => exact ⟨[], rfl, fun _ => rfl⟩
  | pretty => exact ⟨[' '], rfl, fun _ => rfl⟩

/-- A line break or what closes a list ends a number. -/
theorem endsNumber_lineBreak {c : Char} (hc : c = ']' ∨ c = '\x7d') (rest : List Char) :
    EndsNumber (layout.lineBreak depth ++ c :: rest) := by
  intro d hd
  cases layout with
  | compact =>
    cases hd
    rcases hc with rfl | rfl <;> decide
  | pretty =>
    cases hd
    decide

end Blanks

namespace ReadsBack

variable {layout : Layout} {depth : Nat}

theorem skipSpace_append {json : Json} (h : ReadsBack layout depth json) (rest : List Char) :
    skipSpace (renderAt layout depth json ++ rest) = renderAt layout depth json ++ rest := by
  obtain ⟨c, text, htext, hsolid, -⟩ := h.opens
  rw [htext, List.cons_append, skipSpace_of_solid hsolid]

/-- Every text of a document has a character, so there is some fuel to start with. -/
theorem of_succ {json : Json}
    (hopens : ∃ c text, renderAt layout depth json = c :: text ∧ isSpace c = false ∧ c ≠ ']')
    (hreads : ∀ fuel rest, 3 * (renderAt layout depth json).length ≤ fuel + 1 → EndsNumber rest →
      parseValue (fuel + 1) (renderAt layout depth json ++ rest) = some (json, rest)) :
    ReadsBack layout depth json := by
  refine ⟨hopens, fun fuel rest hfuel hrest => ?_⟩
  cases fuel with
  | zero =>
    obtain ⟨c, text, htext, -⟩ := hopens
    rw [htext, List.length_cons] at hfuel
    omega
  | succ fuel => exact hreads fuel rest hfuel hrest

theorem null : ReadsBack layout depth .null :=
  .of_succ ⟨'n', _, rfl, by decide, by decide⟩ fun _ _ _ _ => rfl

theorem bool (value : Bool) : ReadsBack layout depth (.bool value) := by
  cases value with
  | false => exact .of_succ ⟨'f', _, rfl, by decide, by decide⟩ fun _ _ _ _ => rfl
  | true => exact .of_succ ⟨'t', _, rfl, by decide, by decide⟩ fun _ _ _ _ => rfl

/-- An integer starts with nothing else. -/
theorem ne_of_integer {c d : Char} (hc : c.isDigit = true ∨ c = '-')
    (hd : ¬ (d.isDigit = true ∨ d = '-')) : c ≠ d := by
  rintro rfl
  exact hd hc

theorem parseValue_of_integer {c : Char} (hc : c.isDigit = true ∨ c = '-') (fuel : Nat)
    (text : List Char) :
    parseValue (fuel + 1) (c :: text) =
      (parseNumber (c :: text)).map fun (written, rest) => (.number written, rest) := by
  have hn := ne_of_integer hc (d := 'n') (by decide)
  have ht := ne_of_integer hc (d := 't') (by decide)
  have hf := ne_of_integer hc (d := 'f') (by decide)
  have hquote := ne_of_integer hc (d := '"') (by decide)
  have hbracket := ne_of_integer hc (d := '[') (by decide)
  have hbrace := ne_of_integer hc (d := '\x7b') (by decide)
  rw [parseValue] <;> simp [hn, ht, hf, hquote, hbracket, hbrace]

theorem number {written : List Char} (h : IsInteger written) :
    ReadsBack layout depth (.number written) := by
  obtain ⟨c, digits, rfl, hc⟩ := h.exists_cons
  refine .of_succ ⟨c, digits, rfl, ?_, ne_of_integer hc (by decide)⟩ fun fuel rest _ hrest => ?_
  · have hspace := ne_of_integer hc (d := ' ') (by decide)
    have hnewline := ne_of_integer hc (d := '\n') (by decide)
    have htab := ne_of_integer hc (d := '\t') (by decide)
    have hreturn := ne_of_integer hc (d := '\r') (by decide)
    simp [isSpace, hspace, hnewline, htab, hreturn]
  · have hnumber := h.parseNumber_append hrest
    simp only [renderAt, List.cons_append] at hnumber ⊢
    rw [parseValue_of_integer hc, hnumber]
    rfl

theorem text (content : String) : ReadsBack layout depth (.text content) := by
  refine .of_succ ⟨'"', _, rfl, by decide, by decide⟩ fun fuel rest _ _ => ?_
  have hstring := parseString_flatMap_escape content rest
  simp only [Json.text, renderAt, renderString, List.cons_append, List.append_assoc,
    List.nil_append]
  rw [parseValue, hstring]
  rfl

/-- **Items are read back in order**, up to the closing bracket. -/
theorem parseItems_append {item : Json} {items : List Json} (hitem : ReadsBack layout depth item)
    (hitems : ∀ item ∈ items, ReadsBack layout depth item) (outer fuel : Nat) (rest : List Char)
    (hfuel : 3 * ((renderAt layout depth item).length + (renderItems layout depth items).length) <
      fuel) :
    parseItems fuel (renderAt layout depth item ++
      (renderItems layout depth items ++ (layout.lineBreak outer ++ ']' :: rest))) =
        some (item :: items, rest) := by
  obtain ⟨fuel, rfl⟩ := Nat.exists_eq_add_one_of_ne_zero (Nat.ne_zero_of_lt hfuel)
  -- On the items after the first. Each takes one off the fuel, which its comma makes up for.
  induction items generalizing item fuel with
  | nil =>
    rw [renderItems, List.nil_append, parseItems, hitem.reads fuel _ (by omega)
      (endsNumber_lineBreak layout outer (.inl rfl) rest)]
    simp only [skipSpace_lineBreak]
    rfl
  | cons next items ih =>
    have hnext := hitems next List.mem_cons_self
    rw [renderItems] at hfuel ⊢
    simp only [List.length_append, List.length_singleton] at hfuel
    simp only [List.append_assoc, List.cons_append, List.nil_append]
    rw [parseItems, hitem.reads fuel _ (by omega) (by rintro c ⟨⟩; decide)]
    simp only [skipSpace_of_solid (show isSpace ',' = false by decide), skipSpace_lineBreak,
      hnext.skipSpace_append]
    obtain ⟨fuel, rfl⟩ := Nat.exists_eq_add_one_of_ne_zero (n := fuel) (by omega)
    rw [ih hnext (fun item hmem => hitems item (List.mem_cons_of_mem _ hmem)) fuel (by omega)]
    rfl

/-- **An array of documents that are read back is read back.** -/
theorem array {items : List Json} (h : ∀ item ∈ items, ReadsBack layout (depth + 1) item) :
    ReadsBack layout depth (.array items) := by
  cases items with
  | nil => exact .of_succ ⟨'[', _, rfl, by decide, by decide⟩ fun _ _ _ _ => rfl
  | cons item items =>
    have hitem := h item List.mem_cons_self
    refine .of_succ ⟨'[', _, rfl, by decide, by decide⟩ fun fuel rest hfuel _ => ?_
    rw [renderAt] at hfuel ⊢
    simp only [List.length_append, List.length_singleton] at hfuel
    simp only [List.append_assoc, List.cons_append, List.nil_append]
    have hitems := parseItems_append hitem
      (fun item hmem => h item (List.mem_cons_of_mem _ hmem)) depth fuel rest (by omega)
    rw [parseValue, skipSpace_lineBreak, hitem.skipSpace_append]
    -- No item starts as an empty array ends.
    obtain ⟨c, text, htext, -, hbracket⟩ := hitem.opens
    rw [htext, List.cons_append] at hitems ⊢
    simp [hitems, hbracket]

end ReadsBack

/-- A member whose key has a text and whose value is read back. -/
structure MemberReadsBack (layout : Layout) (depth : Nat) (member : Option String × Json) :
    Prop where
  key : member.1.isSome
  value : ReadsBack layout depth member.2

namespace MemberReadsBack

variable {layout : Layout} {depth : Nat} {member : Option String × Json}

theorem opens (h : MemberReadsBack layout depth member) :
    ∃ text, renderMember layout depth member = '"' :: text := by
  obtain ⟨_ | key, value⟩ := member
  · cases h.key
  · exact ⟨_, rfl⟩

theorem skipSpace_append (h : MemberReadsBack layout depth member) (rest : List Char) :
    skipSpace (renderMember layout depth member ++ rest) =
      renderMember layout depth member ++ rest := by
  obtain ⟨text, htext⟩ := h.opens
  rw [htext, List.cons_append, skipSpace_of_solid (by decide)]

/-- A member is read back, up to whatever does not go on with a number. -/
theorem parseMember_append (h : MemberReadsBack layout depth member) (fuel : Nat)
    (rest : List Char) (hfuel : 3 * (renderMember layout depth member).length ≤ fuel)
    (hrest : EndsNumber rest) :
    parseMember fuel (renderMember layout depth member ++ rest) = some (member, rest) := by
  obtain ⟨_ | key, value⟩ := member
  · cases h.key
  have hvalue : ReadsBack layout depth value := h.value
  obtain ⟨gap, hcolon, hgap⟩ := exists_colon layout
  simp only [renderMember, renderString, hcolon, List.length_append, List.length_cons,
    List.length_nil] at hfuel
  obtain ⟨fuel, rfl⟩ := Nat.exists_eq_add_one_of_ne_zero (n := fuel) (by omega)
  simp only [renderMember, renderString, hcolon, List.append_assoc, List.cons_append,
    List.nil_append]
  rw [parseMember, parseString_flatMap_escape]
  simp only [skipSpace_of_solid (show isSpace ':' = false by decide), hgap,
    hvalue.skipSpace_append]
  rw [hvalue.reads fuel rest (by omega) hrest]
  rfl

/-- **Members are read back in order**, up to the closing brace. -/
theorem parseMembers_append {members : List (Option String × Json)}
    (hmember : MemberReadsBack layout depth member)
    (hmembers : ∀ member ∈ members, MemberReadsBack layout depth member) (outer fuel : Nat)
    (rest : List Char)
    (hfuel : 3 * ((renderMember layout depth member).length +
      (renderMembers layout depth members).length) < fuel) :
    parseMembers fuel (renderMember layout depth member ++
      (renderMembers layout depth members ++ (layout.lineBreak outer ++ '\x7d' :: rest))) =
        some (member :: members, rest) := by
  obtain ⟨fuel, rfl⟩ := Nat.exists_eq_add_one_of_ne_zero (Nat.ne_zero_of_lt hfuel)
  -- Three units of fuel a character are enough for the members that are left, too.
  induction members generalizing member fuel with
  | nil =>
    rw [renderMembers, List.nil_append, parseMembers, hmember.parseMember_append fuel _ (by omega)
      (endsNumber_lineBreak layout outer (.inr rfl) rest)]
    simp only [skipSpace_lineBreak]
    rfl
  | cons next members ih =>
    have hnext := hmembers next List.mem_cons_self
    rw [renderMembers] at hfuel ⊢
    simp only [List.length_append, List.length_singleton] at hfuel
    simp only [List.append_assoc, List.cons_append, List.nil_append]
    rw [parseMembers, hmember.parseMember_append fuel _ (by omega) (by rintro c ⟨⟩; decide)]
    simp only [skipSpace_of_solid (show isSpace ',' = false by decide), skipSpace_lineBreak,
      hnext.skipSpace_append]
    obtain ⟨fuel, rfl⟩ := Nat.exists_eq_add_one_of_ne_zero (n := fuel) (by omega)
    rw [ih hnext (fun member hmem => hmembers member (List.mem_cons_of_mem _ hmem)) fuel
      (by omega)]
    rfl

end MemberReadsBack

/-- **An object of members that are read back is read back.** -/
theorem ReadsBack.object {layout : Layout} {depth : Nat} {members : List (Option String × Json)}
    (h : ∀ member ∈ members, MemberReadsBack layout (depth + 1) member) :
    ReadsBack layout depth (.object members) := by
  cases members with
  | nil => exact .of_succ ⟨'\x7b', _, rfl, by decide, by decide⟩ fun _ _ _ _ => rfl
  | cons member members =>
    have hmember := h member List.mem_cons_self
    refine .of_succ ⟨'\x7b', _, rfl, by decide, by decide⟩ fun fuel rest hfuel _ => ?_
    rw [renderAt] at hfuel ⊢
    simp only [List.length_append, List.length_singleton] at hfuel
    simp only [List.append_assoc, List.cons_append, List.nil_append]
    have hmembers := hmember.parseMembers_append
      (fun member hmem => h member (List.mem_cons_of_mem _ hmem)) depth fuel rest (by omega)
    rw [parseValue, skipSpace_lineBreak, hmember.skipSpace_append]
    obtain ⟨text, htext⟩ := hmember.opens
    rw [htext, List.cons_append] at hmembers ⊢
    simp [hmembers]

/-- A faithful document is read back at every depth. -/
theorem Faithful.readsBack {json : Json} (h : Faithful json) (layout : Layout) (depth : Nat) :
    ReadsBack layout depth json := by
  induction h generalizing depth with
  | null => exact .null
  | bool value => exact .bool value
  | number hinteger => exact .number hinteger
  | text content => exact .text content
  | array _ ih => exact .array fun item hmem => ih item hmem (depth + 1)
  | object hkeys _ ih =>
    exact .object fun member hmem => ⟨hkeys member hmem, ih member hmem (depth + 1)⟩

/-- **A faithful document is read back from its text**, in either layout. -/
theorem Faithful.parse?_render {json : Json} (h : Faithful json) (layout : Layout) :
    parse? (json.render layout) = some json := by
  have hreads := h.readsBack layout 0
  have hskip : skipSpace (renderAt layout 0 json) = renderAt layout 0 json := by
    simpa using hreads.skipSpace_append []
  have hvalue := hreads.reads (3 * (renderAt layout 0 json).length + 3) [] (by omega) nofun
  rw [List.append_nil] at hvalue
  simp only [parse?, render, String.toList_ofList, hskip, hvalue]
  rfl

end Dialogue.Json
