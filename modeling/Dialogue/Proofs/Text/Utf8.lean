import Dialogue.Input.Utf8
import Mathlib.Data.List.TakeWhile

/-!
# Encoded texts

The bytes of a text are read as its characters. So a source that delivers the bytes of a text at
once shows a reader nothing but the text.

## Main results

* `Utf8.decode_encoded`: the bytes of a character are read as that character, whatever follows
* `charSignals_deliver_encode`: a source of the bytes of a text shows the text
-/

namespace Dialogue

namespace Utf8

/-! ## Bytes of a text as a list -/

theorem toList_loop (bytes : ByteArray) (i : Nat) (front : List UInt8) :
    ByteArray.toList.loop bytes i front = front.reverse ++ bytes.data.toList.drop i := by
  fun_induction ByteArray.toList.loop bytes i front with
  | case1 i front h ih =>
    have hi : i < bytes.data.toList.length := by simpa using h
    rw [ih, List.drop_eq_getElem_cons hi]
    simp [ByteArray.get!, h]
  | case2 i front h =>
    rw [List.drop_eq_nil_of_le (by simpa using Nat.le_of_not_lt h), List.append_nil]

/-- The bytes of a text are those of its characters, one after the other. -/
theorem encode_eq (text : String) : encode text = text.toList.flatMap String.utf8EncodeChar := by
  have hbytes : text.toUTF8 = (text.toList.flatMap String.utf8EncodeChar).toByteArray :=
    calc text.toUTF8 = (String.ofList text.toList).toUTF8 := by rw [String.ofList_toList]
      _ = (text.toList.flatMap String.utf8EncodeChar).toByteArray := rfl
  rw [encode, hbytes, ByteArray.toList, toList_loop, List.toList_data_toByteArray]
  rfl

/-! ## Bytes by their numbers -/

theorem announced_eq (b : UInt8) :
    announced b =
      if b.toNat ≤ 0x7F then some 0
      else if 0xC2 ≤ b.toNat ∧ b.toNat ≤ 0xDF then some 1
      else if 0xE0 ≤ b.toNat ∧ b.toNat ≤ 0xEF then some 2
      else if 0xF0 ≤ b.toNat ∧ b.toNat ≤ 0xF4 then some 3
      else none := by
  simp only [announced, UInt8.le_iff_toNat_le, Bool.and_eq_true, decide_eq_true_eq]
  rfl

theorem isFollower_iff (b : UInt8) : isFollower b = true ↔ 0x80 ≤ b.toNat ∧ b.toNat ≤ 0xBF := by
  simp only [isFollower, UInt8.le_iff_toNat_le, Bool.and_eq_true, decide_eq_true_eq]
  rfl

theorem mayFollow_iff (lead b : UInt8) :
    mayFollow lead b = true ↔
      if lead.toNat = 0xE0 then 0xA0 ≤ b.toNat ∧ b.toNat ≤ 0xBF
      else if lead.toNat = 0xED then 0x80 ≤ b.toNat ∧ b.toNat ≤ 0x9F
      else if lead.toNat = 0xF0 then 0x90 ≤ b.toNat ∧ b.toNat ≤ 0xBF
      else if lead.toNat = 0xF4 then 0x80 ≤ b.toNat ∧ b.toNat ≤ 0x8F
      else 0x80 ≤ b.toNat ∧ b.toNat ≤ 0xBF := by
  simp only [mayFollow, isFollower, ← UInt8.toNat_inj, UInt8.le_iff_toNat_le, apply_ite (· = true),
    Bool.and_eq_true, decide_eq_true_eq]
  rfl

theorem leadBits_eq (lead : UInt8) :
    leadBits lead =
      if lead.toNat ≤ 0x7F then lead.toNat
      else if lead.toNat ≤ 0xDF then lead.toNat % 0x20
      else if lead.toNat ≤ 0xEF then lead.toNat % 0x10
      else lead.toNat % 0x08 := by
  simp only [leadBits, UInt8.le_iff_toNat_le]
  rfl

theorem toNat_ofNat_of_lt {n : Nat} (h : n < 0x100) : (UInt8.ofNat n).toNat = n := by
  rw [UInt8.toNat_ofNat']
  exact Nat.mod_eq_of_lt h

/-! ## The bytes of a character -/

variable {lead second : UInt8}

/-- The bytes that are still to come are judged together with those that have come. -/
theorem decode_partial (front more : List UInt8) (b : UInt8) (rest : List (Signal UInt8)) :
    decode (some ⟨lead, front, more.length⟩) ((b :: more).map .item ++ rest) =
      assemble lead (front ++ b :: more) :: decode none rest := by
  induction more generalizing front b with
  | nil => rfl
  | cons next more ih =>
    have hnext := ih (front ++ [b]) next
    rw [List.append_assoc, List.singleton_append] at hnext
    exact hnext

/-- Bytes that may follow a first byte make a character with it. -/
theorem assemble_of_fitting {more : List UInt8} (hsecond : mayFollow lead second = true)
    (hmore : ∀ b ∈ more, isFollower b = true) :
    assemble lead (second :: more) = .item (Char.ofNat (codePoint lead (second :: more))) := by
  have hfitting : fitting lead (second :: more) = (second :: more).length := by
    rw [fitting, if_pos hsecond, List.takeWhile_eq_self_iff.mpr hmore, List.length_cons,
      Nat.add_comm]
  rw [assemble, if_pos hfitting]

/-- A first byte and the bytes that it announces are read as one character. -/
theorem decode_sequence {more : List UInt8} {code : Nat}
    (hannounced : announced lead = some (more.length + 1))
    (hsecond : mayFollow lead second = true) (hmore : ∀ b ∈ more, isFollower b = true)
    (hcode : codePoint lead (second :: more) = code) (rest : List (Signal UInt8)) :
    decode none ((lead :: second :: more).map .item ++ rest) =
      .item (Char.ofNat code) :: decode none rest := by
  have hlead : decode none ((lead :: second :: more).map .item ++ rest) =
      decode (some ⟨lead, [], more.length⟩) ((second :: more).map .item ++ rest) := by
    simp only [List.map_cons, List.cons_append, decode, hannounced]
  rw [hlead, decode_partial, List.nil_append, assemble_of_fitting hsecond hmore, hcode]

/-- A byte of a character after its first one. -/
theorem isFollower_ofNat {n : Nat} (h : n < 0x40) :
    (UInt8.ofNat (n + 0x80)).toNat = n + 0x80 ∧ isFollower (UInt8.ofNat (n + 0x80)) = true := by
  have hbyte := toNat_ofNat_of_lt (show n + 0x80 < 0x100 by omega)
  exact ⟨hbyte, (isFollower_iff _).mpr (by omega)⟩

/-- **The bytes of a character are read as that character**, whatever follows. -/
theorem decode_encoded (c : Char) (rest : List (Signal UInt8)) :
    decode none ((String.utf8EncodeChar c).map .item ++ rest) = .item c :: decode none rest := by
  have hvalid : c.toNat < 0xD800 ∨ 0xDFFF < c.toNat ∧ c.toNat < 0x110000 := c.valid
  have hc : Char.ofNat c.toNat = c := Char.ofNat_toNat c
  rw [String.utf8EncodeChar, show c.val.toNat = c.toNat from rfl]
  generalize c.toNat = code at hvalid hc ⊢
  rw [← hc]
  obtain ⟨hlow, hlow'⟩ := isFollower_ofNat (show code % 64 < 0x40 by omega)
  obtain ⟨hmiddle, hmiddle'⟩ := isFollower_ofNat (show code / 64 % 64 < 0x40 by omega)
  obtain ⟨hhigh, -⟩ := isFollower_ofNat (show code / 4096 % 64 < 0x40 by omega)
  -- One case for each number of bytes; the numbers of the bytes give back the code point.
  split_ifs with hone htwo hthree
  · have hlead := toNat_ofNat_of_lt (show code < 0x100 by omega)
    have hannounced : announced (UInt8.ofNat code) = some 0 := by
      rw [announced_eq, hlead, if_pos hone]
    simp only [List.map_cons, List.map_nil, List.cons_append, List.nil_append, decode, hannounced,
      hlead]
  · have hlead := toNat_ofNat_of_lt (show code / 64 % 32 + 192 < 0x100 by omega)
    refine decode_sequence ?_ ?_ (by simp) ?_ rest
    · rw [announced_eq, if_neg (by omega), if_pos (by omega)]
      rfl
    · rw [mayFollow_iff]
      split_ifs <;> omega
    · simp only [codePoint, List.foldl_cons, List.foldl_nil, leadBits_eq]
      split_ifs <;> omega
  · have hlead := toNat_ofNat_of_lt (show code / 4096 % 16 + 224 < 0x100 by omega)
    refine decode_sequence ?_ ?_ (List.forall_mem_singleton.mpr hlow') ?_ rest
    · rw [announced_eq, if_neg (by omega), if_neg (by omega), if_pos (by omega)]
      rfl
    · rw [mayFollow_iff]
      split_ifs <;> omega
    · simp only [codePoint, List.foldl_cons, List.foldl_nil, leadBits_eq]
      split_ifs <;> omega
  · have hlead := toNat_ofNat_of_lt (show code / 262144 % 8 + 240 < 0x100 by omega)
    refine decode_sequence ?_ ?_
      (List.forall_mem_cons.mpr ⟨hmiddle', List.forall_mem_singleton.mpr hlow'⟩) ?_ rest
    · rw [announced_eq, if_neg (by omega), if_neg (by omega), if_neg (by omega),
        if_pos (by omega)]
      rfl
    · rw [mayFollow_iff]
      split_ifs <;> omega
    · simp only [codePoint, List.foldl_cons, List.foldl_nil, leadBits_eq]
      split_ifs <;> omega

/-- The bytes of a text are read as its characters, whatever follows. -/
theorem decode_flatMap_append (text : List Char) (rest : List (Signal UInt8)) :
    decode none ((text.flatMap String.utf8EncodeChar).map .item ++ rest) =
      text.map .item ++ decode none rest := by
  induction text with
  | nil => rfl
  | cons c text ih =>
    rw [List.flatMap_cons, List.map_append, List.append_assoc, decode_encoded, ih]
    rfl

/-- The bytes of a text are read as its characters. -/
theorem decode_flatMap_encoded (text : List Char) :
    decode none ((text.flatMap String.utf8EncodeChar).map .item) = text.map .item := by
  have happend := decode_flatMap_append text []
  rwa [List.append_nil, decode, List.append_nil] at happend

end Utf8

theorem byteSignals_deliver {bytes : List UInt8} (h : bytes ≠ []) :
    byteSignals (deliver bytes) = bytes.map .item := by
  cases bytes with
  | nil => exact absurd rfl h
  | cons b bytes => simp [byteSignals, deliver, Delivery.signals]

/-- **A source of the bytes of a text shows the text.** -/
theorem charSignals_deliver_encode {text : String} (h : text.toList ≠ []) :
    charSignals (deliver (Utf8.encode text)) = textSignals text := by
  have hbytes : Utf8.encode text ≠ [] := by
    obtain ⟨c, tail, htext⟩ := List.exists_cons_of_ne_nil h
    rw [Utf8.encode_eq, htext, List.flatMap_cons]
    exact List.append_ne_nil_of_left_ne_nil String.utf8EncodeChar_ne_nil _
  rw [charSignals, byteSignals_deliver hbytes, Utf8.encode_eq, Utf8.decode_flatMap_encoded,
    textSignals]

end Dialogue
