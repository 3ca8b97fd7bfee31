import Dialogue.Proofs.Text.Runs
import Dialogue.Text.Quoted

/-!
# Quoted texts

A quoted text stays on one line, and shows where it ends: what is written of a character says which
character it is and how far it goes, and nothing that is written of one starts with a quote. So if
two lines start with quoted texts and are the same, the texts are the same, and so is what follows
them.

## Main results

* `append_stop_inj`: a text without some character shows where it ends if the character follows it
* `escape_cases`: the three ways to write a character inside quotes
* `escape_append_inj`: what is written of a character shows which one it is and where it ends
* `quote_append_inj`: the same of a quoted text
* `isLine_quote`: a quoted text stays on one line, whatever it holds
-/

namespace Dialogue.Text

/-- Two texts without some character, each with that character behind it, are the same if what they
start is. -/
theorem append_stop_inj {stop : Char} {word word' rest rest' : List Char}
    (hword : ∀ c ∈ word, c ≠ stop) (hword' : ∀ c ∈ word', c ≠ stop)
    (h : word ++ stop :: rest = word' ++ stop :: rest') : word = word' ∧ rest = rest' := by
  have hstops : ∀ rest, Refuses (· != stop) (stop :: rest) :=
    fun rest => refuses_cons.mpr (bne_self_eq_false stop)
  obtain ⟨hsame, hrest⟩ := append_inj_of_refuses (fun c hc => bne_iff_ne.mpr (hword c hc))
    (hstops rest) (fun c hc => bne_iff_ne.mpr (hword' c hc)) (hstops rest') h
  exact ⟨hsame, (List.cons.inj hrest).2⟩

/-! ## Digits -/

/-- A hexadecimal digit is one of sixteen. -/
theorem exists_digitChar_of_mem_toDigits {value : Nat} {c : Char}
    (h : c ∈ Nat.toDigits 16 value) : ∃ digit < 16, c = Nat.digitChar digit := by
  induction value using Nat.strongRecOn with
  | ind value ih =>
    rw [Nat.toDigits_eq_if (by decide)] at h
    split at h
    · rename_i hsmall
      exact ⟨value, hsmall, List.mem_singleton.mp h⟩
    · rcases List.mem_append.mp h with hfront | hlast
      · exact ih (value / 16) (by omega) hfront
      · exact ⟨value % 16, by omega, List.mem_singleton.mp hlast⟩

/-- No digit is a brace, and none ends a line. -/
theorem ne_of_mem_toDigits {value : Nat} {c : Char} (h : c ∈ Nat.toDigits 16 value) :
    c ≠ '\x7d' ∧ c ≠ '\n' := by
  obtain ⟨digit, hdigit, rfl⟩ := exists_digitChar_of_mem_toDigits h
  have hdigits : ∀ digit < 16, Nat.digitChar digit ≠ '\x7d' ∧ Nat.digitChar digit ≠ '\n' := by
    decide
  exact hdigits digit hdigit

/-- Different numbers have different digits. -/
theorem toDigits_injective {base value value' : Nat} (hbase : 1 < base) (hdigits : base ≤ 16)
    (h : Nat.toDigits base value = Nat.toDigits base value') : value = value' := by
  have hdigit : ∀ digit < 16, ∀ digit' < 16,
      Nat.digitChar digit = Nat.digitChar digit' → digit = digit' := by decide
  -- On the number, from its last digit on.
  induction value using Nat.strongRecOn generalizing value' with
  | ind value ih =>
    have hremainder := Nat.mod_lt value (Nat.zero_lt_of_lt hbase)
    have hremainder' := Nat.mod_lt value' (Nat.zero_lt_of_lt hbase)
    rw [Nat.toDigits_eq_if hbase, Nat.toDigits_eq_if (n := value') hbase] at h
    have hfront : ∀ front : Nat, Nat.toDigits base front ≠ [] := fun _ => Nat.toDigits_ne_nil
    split at h
    · rename_i hsmall
      split at h
      · rename_i hsmall'
        exact hdigit value (by omega) value' (by omega) (by simpa using h)
      · exact absurd (List.append_eq_singleton_iff.mp h.symm) (by simp [hfront])
    · rename_i hlarge
      split at h
      · exact absurd (List.append_eq_singleton_iff.mp h) (by simp [hfront])
      · obtain ⟨hsame, hlast⟩ := List.append_inj' h rfl
        have hless : value / base < value := Nat.div_lt_self (by omega) hbase
        have hquotient := ih (value / base) hless hsame
        have hlow := hdigit (value % base) (by omega) (value' % base) (by omega)
          (by simpa using hlast)
        rw [← Nat.div_add_mod value base, ← Nat.div_add_mod value' base, hquotient, hlow]

/-- A code point in braces shows which one it is and where it ends. -/
theorem codeEscape_append_inj {c d : Char} {rest rest' : List Char}
    (h : codeEscape c ++ rest = codeEscape d ++ rest') : c = d ∧ rest = rest' := by
  have hdigits : Nat.toDigits 16 c.toNat ++ '\x7d' :: rest =
      Nat.toDigits 16 d.toNat ++ '\x7d' :: rest' := by simpa [codeEscape] using h
  obtain ⟨hsame, hrest⟩ := append_stop_inj (fun _ hx => (ne_of_mem_toDigits hx).1)
    (fun _ hx => (ne_of_mem_toDigits hx).1) hdigits
  exact ⟨Char.toNat_inj.mp (toDigits_injective (by decide) (by decide) hsame), hrest⟩

/-! ## Characters inside quotes -/

/-- The character that a letter after a backslash stands for. -/
def named (letter : Char) : Char :=
  if letter = '0' then '\x00'
  else if letter = 't' then '\t'
  else if letter = 'r' then '\r'
  else if letter = 'n' then '\n'
  else letter

/-- **A character is written with a backslash and a letter, by its code point, or as it is.** -/
theorem escape_cases (c : Char) :
    (∃ letter, escape c = ['\\', letter] ∧ named letter = c ∧ letter ≠ 'u' ∧ letter ≠ '\n') ∨
      escape c = codeEscape c ∨
      escape c = [c] ∧ c ≠ '\\' ∧ c ≠ '"' ∧ c ≠ '\n' := by
  unfold escape
  split
  · exact Or.inl ⟨'0', by subst c; decide⟩
  split
  · exact Or.inl ⟨'t', by subst c; decide⟩
  split
  · exact Or.inl ⟨'r', by subst c; decide⟩
  split
  · exact Or.inl ⟨'n', by subst c; decide⟩
  split
  · exact Or.inl ⟨'\\', by subst c; decide⟩
  split
  · exact Or.inl ⟨'"', by subst c; decide⟩
  split
  · exact Or.inr (Or.inl rfl)
  · exact Or.inr (Or.inr ⟨rfl, by assumption, by assumption, by assumption⟩)

/-- **What is written of a character shows which one it is and where it ends.** -/
theorem escape_append_inj {c d : Char} {rest rest' : List Char}
    (h : escape c ++ rest = escape d ++ rest') : c = d ∧ rest = rest' := by
  -- Only two characters that are written in the same way can be written alike at all.
  rcases escape_cases c with ⟨letter, hc, rfl, hletter, -⟩ | hc | ⟨hc, hbackslash, -⟩
  · rcases escape_cases d with ⟨letter', hd, rfl, -⟩ | hd | ⟨hd, hbackslash', -⟩
    · rw [hc, hd] at h
      obtain ⟨rfl, rfl⟩ : letter = letter' ∧ rest = rest' := by simpa using h
      exact ⟨rfl, rfl⟩
    · rw [hc, hd] at h
      simp [codeEscape, hletter] at h
    · rw [hc, hd] at h
      simp [hbackslash'.symm] at h
  · rcases escape_cases d with ⟨letter', hd, -, hletter', -⟩ | hd | ⟨hd, hbackslash', -⟩
    · rw [hc, hd] at h
      simp [codeEscape, hletter'.symm] at h
    · rw [hc, hd] at h
      exact codeEscape_append_inj h
    · rw [hc, hd] at h
      simp [codeEscape, hbackslash'.symm] at h
  · rcases escape_cases d with ⟨letter', hd, -⟩ | hd | ⟨hd, -⟩
    · rw [hc, hd] at h
      simp [hbackslash] at h
    · rw [hc, hd] at h
      simp [codeEscape, hbackslash] at h
    · rw [hc, hd] at h
      simpa using h

/-- Nothing that is written of a character starts with a quote. -/
theorem escape_append_ne_quote (c : Char) (rest rest' : List Char) :
    escape c ++ rest ≠ '"' :: rest' := by
  rcases escape_cases c with ⟨letter, hc, -⟩ | hc | ⟨hc, -, hquote, -⟩
  · simp [hc]
  · simp [hc, codeEscape]
  · simp [hc, hquote]

theorem isLine_escape (c : Char) : IsLine (escape c) := by
  rcases escape_cases c with ⟨letter, hc, -, -, hline⟩ | hc | ⟨hc, -, -, hline⟩
  · simp [hc, IsLine, hline]
  · intro d hd
    rw [hc, codeEscape] at hd
    simp only [List.mem_append, List.mem_cons, List.not_mem_nil, or_false] at hd
    rcases hd with ((rfl | rfl | rfl) | hdigit) | rfl
    · decide
    · decide
    · decide
    · exact (ne_of_mem_toDigits hdigit).2
    · decide
  · simp [hc, IsLine, hline]

/-! ## Whole texts -/

theorem flatMap_escape_append_inj {text text' rest rest' : List Char}
    (h : text.flatMap escape ++ '"' :: rest = text'.flatMap escape ++ '"' :: rest') :
    text = text' ∧ rest = rest' := by
  induction text generalizing text' with
  | nil =>
    cases text' with
    | nil => exact ⟨rfl, (List.cons.inj h).2⟩
    | cons d text' =>
      rw [List.flatMap_cons, List.append_assoc] at h
      exact absurd h.symm (escape_append_ne_quote d _ _)
  | cons c text ih =>
    rw [List.flatMap_cons, List.append_assoc] at h
    cases text' with
    | nil => exact absurd h (escape_append_ne_quote c _ _)
    | cons d text' =>
      rw [List.flatMap_cons, List.append_assoc] at h
      obtain ⟨rfl, hrest⟩ := escape_append_inj h
      obtain ⟨rfl, hsame⟩ := ih hrest
      exact ⟨rfl, hsame⟩

theorem toList_quote (text : String) :
    (quote text).toList = '"' :: (text.toList.flatMap escape ++ ['"']) :=
  String.toList_ofList

/-- **A quoted text shows which one it is and where it ends**, whatever follows it. -/
theorem quote_append_inj {text text' : String} {rest rest' : List Char}
    (h : (quote text).toList ++ rest = (quote text').toList ++ rest') :
    text = text' ∧ rest = rest' := by
  rw [toList_quote, toList_quote, List.cons_append, List.cons_append, List.append_assoc,
    List.append_assoc] at h
  obtain ⟨hsame, hrest⟩ := flatMap_escape_append_inj (List.cons.inj h).2
  exact ⟨String.toList_inj.mp hsame, hrest⟩

/-- **A quoted text stays on one line**, whatever it holds. -/
theorem isLine_quote (text : String) : IsLine (quote text).toList := by
  intro c hc
  rw [toList_quote, List.mem_cons, List.mem_append, List.mem_singleton, List.mem_flatMap] at hc
  rcases hc with rfl | ⟨d, -, hd⟩ | rfl
  · decide
  · exact isLine_escape d c hd
  · decide

end Dialogue.Text
