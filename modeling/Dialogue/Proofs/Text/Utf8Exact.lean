import Dialogue.Proofs.Text.Utf8
import Mathlib.Data.List.Basic

/-!
# Bytes that spell a text

Reading bytes as characters undoes the encoding of texts, and does nothing else: a sequence of bytes
is read as a character only if it is the sequence of that character. All bytes are a text and then
a sequence that is none, unless they are a text as a whole; so the characters before the first
failure are the longest text with which the bytes start.

## Main definitions

* `Utf8.LongestText bytes text`: the longest text with which the bytes start

## Main results

* `Utf8.exists_encoded`: a first byte and its followers are the bytes of a character
* `Utf8.exists_encoded_or_failed`: bytes start with a character, or are read as a failure
* `Utf8.exists_longestText`: bytes are read as the longest text with which they start, and as a
  failure after it if they go on
-/

namespace Dialogue

namespace Utf8

variable {lead second third fourth : UInt8}

/-! ## Sequences of bytes that make a character -/

/-- The first bytes of each length. -/
theorem announced_cases {n : Nat} (h : announced lead = some n) :
    n = 0 ∧ lead.toNat ≤ 0x7F ∨ n = 1 ∧ 0xC2 ≤ lead.toNat ∧ lead.toNat ≤ 0xDF ∨
      n = 2 ∧ 0xE0 ≤ lead.toNat ∧ lead.toNat ≤ 0xEF ∨
      n = 3 ∧ 0xF0 ≤ lead.toNat ∧ lead.toNat ≤ 0xF4 := by
  rw [announced_eq] at h
  split_ifs at h <;> cases h <;> omega

/-- Followers fit if the second byte may follow the first one, and the others are followers. -/
theorem fitting_eq_length_iff (lead second : UInt8) (more : List UInt8) :
    fitting lead (second :: more) = (second :: more).length ↔
      mayFollow lead second = true ∧ ∀ b ∈ more, isFollower b = true := by
  rw [← List.takeWhile_eq_self_iff, fitting, List.length_cons]
  split
  · rename_i hsecond
    have hprefix : more.takeWhile isFollower <+: more := List.takeWhile_prefix _
    refine ⟨fun h => ⟨hsecond, hprefix.eq_of_length (by omega)⟩, fun h => ?_⟩
    rw [h.2, Nat.add_comm]
  · rename_i hsecond
    exact iff_of_false (by omega) fun h => hsecond h.1

theorem ofNat_eq_of_toNat (b : UInt8) {n : Nat} (h : n = b.toNat) : UInt8.ofNat n = b := by
  rw [h, UInt8.ofNat_toNat]

/-- A code point that is no surrogate and not above the last one is that of a character. -/
theorem exists_char (code : Nat) (h : code < 0xD800 ∨ 0xDFFF < code ∧ code < 0x110000) :
    ∃ c : Char, c.val.toNat = code := by
  refine ⟨Char.ofNat code, ?_⟩
  rw [Char.ofNat, dif_pos h]
  rfl

theorem exists_encoded_one (hlead : lead.toNat ≤ 0x7F) :
    ∃ c, [lead] = String.utf8EncodeChar c := by
  obtain ⟨c, hc⟩ := exists_char lead.toNat (by omega)
  refine ⟨c, ?_⟩
  rw [String.utf8EncodeChar, hc, if_pos hlead, UInt8.ofNat_toNat]

theorem exists_encoded_two (hlead : 0xC2 ≤ lead.toNat ∧ lead.toNat ≤ 0xDF)
    (hsecond : mayFollow lead second = true) :
    ∃ c, [lead, second] = String.utf8EncodeChar c := by
  have hbounds : 0x80 ≤ second.toNat ∧ second.toNat ≤ 0xBF := by
    rw [mayFollow_iff] at hsecond
    split_ifs at hsecond <;> omega
  obtain ⟨c, hc⟩ := exists_char ((lead.toNat - 0xC0) * 64 + (second.toNat - 0x80)) (by omega)
  refine ⟨c, ?_⟩
  rw [String.utf8EncodeChar, hc, if_neg (by omega), if_pos (by omega),
    ofNat_eq_of_toNat lead (by omega), ofNat_eq_of_toNat second (by omega)]

/-- The second byte keeps out the shorter forms and the surrogates. -/
theorem exists_encoded_three (hlead : 0xE0 ≤ lead.toNat ∧ lead.toNat ≤ 0xEF)
    (hsecond : mayFollow lead second = true) (hthird : isFollower third = true) :
    ∃ c, [lead, second, third] = String.utf8EncodeChar c := by
  have hbounds : 0x80 ≤ second.toNat ∧ second.toNat ≤ 0xBF ∧
      (lead.toNat = 0xE0 → 0xA0 ≤ second.toNat) ∧ (lead.toNat = 0xED → second.toNat ≤ 0x9F) := by
    rw [mayFollow_iff] at hsecond
    split_ifs at hsecond <;> omega
  have hthird := (isFollower_iff third).mp hthird
  obtain ⟨c, hc⟩ := exists_char
    ((lead.toNat - 0xE0) * 4096 + (second.toNat - 0x80) * 64 + (third.toNat - 0x80)) (by omega)
  refine ⟨c, ?_⟩
  rw [String.utf8EncodeChar, hc, if_neg (by omega), if_neg (by omega), if_pos (by omega),
    ofNat_eq_of_toNat lead (by omega), ofNat_eq_of_toNat second (by omega),
    ofNat_eq_of_toNat third (by omega)]

/-- The second byte keeps out the shorter forms and what is above the last code point. -/
theorem exists_encoded_four (hlead : 0xF0 ≤ lead.toNat ∧ lead.toNat ≤ 0xF4)
    (hsecond : mayFollow lead second = true) (hthird : isFollower third = true)
    (hfourth : isFollower fourth = true) :
    ∃ c, [lead, second, third, fourth] = String.utf8EncodeChar c := by
  have hbounds : 0x80 ≤ second.toNat ∧ second.toNat ≤ 0xBF ∧
      (lead.toNat = 0xF0 → 0x90 ≤ second.toNat) ∧ (lead.toNat = 0xF4 → second.toNat ≤ 0x8F) := by
    rw [mayFollow_iff] at hsecond
    split_ifs at hsecond <;> omega
  have hthird := (isFollower_iff third).mp hthird
  have hfourth := (isFollower_iff fourth).mp hfourth
  obtain ⟨c, hc⟩ := exists_char
    ((lead.toNat - 0xF0) * 262144 + (second.toNat - 0x80) * 4096 + (third.toNat - 0x80) * 64 +
      (fourth.toNat - 0x80)) (by omega)
  refine ⟨c, ?_⟩
  rw [String.utf8EncodeChar, hc, if_neg (by omega), if_neg (by omega), if_neg (by omega),
    ofNat_eq_of_toNat lead (by omega), ofNat_eq_of_toNat second (by omega),
    ofNat_eq_of_toNat third (by omega), ofNat_eq_of_toNat fourth (by omega)]

/-- **A first byte and the followers that fit are the bytes of a character.** -/
theorem exists_encoded {tail : List UInt8} (hannounced : announced lead = some tail.length)
    (hfitting : fitting lead tail = tail.length) :
    ∃ c, lead :: tail = String.utf8EncodeChar c := by
  rcases announced_cases hannounced with ⟨hlength, hlead⟩ | ⟨hlength, hlead⟩ | ⟨hlength, hlead⟩ |
    ⟨hlength, hlead⟩
  · obtain rfl := List.length_eq_zero_iff.mp hlength
    exact exists_encoded_one hlead
  · obtain ⟨second, rfl⟩ := List.length_eq_one_iff.mp hlength
    obtain ⟨hsecond, -⟩ := (fitting_eq_length_iff _ _ _).mp hfitting
    exact exists_encoded_two hlead hsecond
  · obtain ⟨second, third, rfl⟩ := List.length_eq_two.mp hlength
    obtain ⟨hsecond, hmore⟩ := (fitting_eq_length_iff _ _ _).mp hfitting
    exact exists_encoded_three hlead hsecond (hmore third (by simp))
  · obtain ⟨second, third, fourth, rfl⟩ := List.length_eq_three.mp hlength
    obtain ⟨hsecond, hmore⟩ := (fitting_eq_length_iff _ _ _).mp hfitting
    exact exists_encoded_four hlead hsecond (hmore third (by simp)) (hmore fourth (by simp))

/-! ## Bytes up to the first failure -/

/-- Bytes that end within a character are a failure. -/
theorem decode_short {missing : Nat} {bytes : List UInt8} (h : bytes.length ≤ missing)
    (front : List UInt8) :
    decode (some ⟨lead, front, missing⟩) (bytes.map .item) = [.failed .truncated] := by
  induction bytes generalizing missing front with
  | nil => rfl
  | cons b bytes ih =>
    obtain ⟨missing, rfl⟩ : ∃ more, missing = more + 1 :=
      Nat.exists_eq_succ_of_ne_zero (by rw [List.length_cons] at h; omega)
    exact ih (Nat.le_of_succ_le_succ h) (front ++ [b])

theorem exists_followers {missing : Nat} {bytes : List UInt8} (h : missing < bytes.length) :
    ∃ second more rest, bytes = second :: (more ++ rest) ∧ more.length = missing := by
  obtain ⟨second, tail, rfl⟩ := List.exists_cons_of_length_pos (Nat.zero_lt_of_lt h)
  refine ⟨second, tail.take missing, tail.drop missing, ?_, ?_⟩
  · rw [List.take_append_drop]
  · exact List.length_take_of_le (Nat.le_of_lt_succ h)

/-- **Bytes start with those of a character, or they are read as a failure.** -/
theorem exists_encoded_or_failed (lead : UInt8) (bytes : List UInt8) :
    (∃ c rest, lead :: bytes = String.utf8EncodeChar c ++ rest) ∨
      ∃ error later, decode none ((lead :: bytes).map .item) = .failed error :: later := by
  cases hannounced : announced lead with
  | none =>
    refine Or.inr ⟨.leadingByte, decode none (bytes.map .item), ?_⟩
    simp only [List.map_cons, decode, hannounced]
  | some count =>
    cases count with
    | zero =>
      have hlead : announced lead = some ([] : List UInt8).length := hannounced
      obtain ⟨c, hc⟩ := exists_encoded hlead rfl
      exact Or.inl ⟨c, bytes, by rw [← hc]; rfl⟩
    | succ missing =>
      have hlead : decode none ((lead :: bytes).map .item) =
          decode (some ⟨lead, [], missing⟩) (bytes.map .item) := by
        simp only [List.map_cons, decode, hannounced]
      rw [hlead]
      rcases Nat.lt_or_ge missing bytes.length with hlong | hshort
      · -- All followers are there, and are judged together.
        obtain ⟨second, more, rest, rfl, rfl⟩ := exists_followers hlong
        rw [← List.cons_append, List.map_append, decode_partial, List.nil_append]
        by_cases hfitting : fitting lead (second :: more) = (second :: more).length
        · obtain ⟨c, hc⟩ := exists_encoded hannounced hfitting
          exact Or.inl ⟨c, rest, by rw [← hc]; rfl⟩
        · rw [assemble, if_neg hfitting]
          exact Or.inr ⟨_, _, rfl⟩
      · exact Or.inr ⟨_, _, decode_short hshort []⟩

/-- Bytes are those of a text, and then there is nothing or what is read as a failure. -/
theorem exists_text_append (bytes : List UInt8) :
    ∃ (text : List Char) (more : List UInt8),
      bytes = text.flatMap String.utf8EncodeChar ++ more ∧
        (more = [] ∨ ∃ error later, decode none (more.map .item) = .failed error :: later) := by
  -- On the number of the bytes, of which each character takes some.
  induction hlength : bytes.length using Nat.strongRecOn generalizing bytes with
  | ind length ih =>
    cases bytes with
    | nil => exact ⟨[], [], rfl, Or.inl rfl⟩
    | cons lead bytes =>
      rcases exists_encoded_or_failed lead bytes with ⟨c, rest, hbytes⟩ | hfailed
      · have hless : rest.length < length := by
          have hpos := List.length_pos_iff.mpr (String.utf8EncodeChar_ne_nil (c := c))
          rw [← hlength, hbytes, List.length_append]
          omega
        obtain ⟨text, more, hrest, hmore⟩ := ih _ hless rest rfl
        refine ⟨c :: text, more, ?_, hmore⟩
        rw [hbytes, hrest, List.flatMap_cons, List.append_assoc]
      · exact ⟨[], lead :: bytes, rfl, Or.inr hfailed⟩

/-! ## The longest text -/

/-- Bytes are valid if they are those of a text. -/
theorem isValidUTF8_iff {bytes : List UInt8} :
    bytes.toByteArray.IsValidUTF8 ↔ ∃ text, encode text = bytes := by
  constructor
  · rintro ⟨text, htext⟩
    have hbytes := congrArg (·.data.toList) htext
    refine ⟨String.ofList text, ?_⟩
    rw [encode_eq, String.toList_ofList]
    simpa [List.utf8Encode] using hbytes.symm
  · rintro ⟨text, rfl⟩
    exact ⟨text.toList, by rw [encode_eq]; rfl⟩

/-- The longest text with which bytes start. -/
structure LongestText (bytes : List UInt8) (text : String) : Prop where
  isPrefix : encode text <+: bytes
  longest : ∀ other, encode other <+: bytes → encode other <+: encode text

/-- Valid bytes are those of their longest text. -/
theorem LongestText.isValid_iff {bytes : List UInt8} {text : String} (h : LongestText bytes text) :
    bytes.toByteArray.IsValidUTF8 ↔ encode text = bytes := by
  rw [isValidUTF8_iff]
  constructor
  · rintro ⟨other, rfl⟩
    exact h.isPrefix.eq_of_length_le (h.longest other List.prefix_rfl).length_le
  · exact fun htext => ⟨text, htext⟩

theorem decode_of_isPrefix {bytes : List UInt8} {text : String} (h : encode text <+: bytes) :
    ∃ rest, decode none (bytes.map .item) = text.toList.map .item ++ rest := by
  obtain ⟨more, rfl⟩ := h
  rw [encode_eq, List.map_append, decode_flatMap_append]
  exact ⟨_, rfl⟩

/-- Characters that are read before a failure, or before the end, are all that is read before it. -/
theorem isPrefix_of_signals {first second : List Char} {rest tail : List (Signal Char)}
    (h : first.map .item ++ rest = second.map .item ++ tail)
    (htail : tail = [] ∨ ∃ error later, tail = .failed error :: later) : first <+: second := by
  induction first generalizing second with
  | nil => exact List.nil_prefix
  | cons c first ih =>
    cases second with
    | nil =>
      rw [List.map_nil, List.nil_append, List.map_cons, List.cons_append] at h
      rcases htail with rfl | ⟨error, later, rfl⟩
      · cases h
      · cases h
    | cons d second =>
      rw [List.map_cons, List.map_cons, List.cons_append, List.cons_append, List.cons.injEq,
        Signal.item.injEq] at h
      obtain ⟨rfl, h⟩ := h
      exact List.cons_prefix_cons.mpr ⟨rfl, ih h⟩

/-- **Bytes are read as the longest text with which they start**, and as a failure after it if they
go on. -/
theorem exists_longestText (bytes : List UInt8) : ∃ text, LongestText bytes text ∧
    (encode text = bytes ∧ decode none (bytes.map .item) = text.toList.map .item ∨
      encode text ≠ bytes ∧ ∃ error later,
        decode none (bytes.map .item) = text.toList.map .item ++ .failed error :: later) := by
  obtain ⟨text, more, hbytes, hmore⟩ := exists_text_append bytes
  have hencode : encode (String.ofList text) = text.flatMap String.utf8EncodeChar := by
    rw [encode_eq, String.toList_ofList]
  have hdecode : decode none (bytes.map .item) =
      text.map .item ++ decode none (more.map .item) := by
    rw [hbytes, List.map_append, decode_flatMap_append]
  refine ⟨String.ofList text, ⟨⟨more, by rw [hencode, hbytes]⟩, ?_⟩, ?_⟩
  · -- Another text is read from the same bytes, so it does not go beyond the failure.
    intro other hother
    obtain ⟨rest, hrest⟩ := decode_of_isPrefix hother
    have htail : decode none (more.map .item) = [] ∨
        ∃ error later, decode none (more.map .item) = .failed error :: later :=
      hmore.imp_left fun hnil => by rw [hnil]; rfl
    obtain ⟨after, hafter⟩ := isPrefix_of_signals (hrest.symm.trans hdecode) htail
    rw [hencode, encode_eq, ← hafter, List.flatMap_append]
    exact List.prefix_append _ _
  · rw [hencode, hdecode, String.toList_ofList]
    rcases hmore with rfl | ⟨error, later, hfailed⟩
    · exact Or.inl ⟨by rw [hbytes, List.append_nil], List.append_nil _⟩
    · refine Or.inr ⟨?_, error, later, by rw [hfailed]⟩
      intro hwhole
      rw [hbytes, List.self_eq_append_right] at hwhole
      rw [hwhole] at hfailed
      cases hfailed

end Utf8

end Dialogue
