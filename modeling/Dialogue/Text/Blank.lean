/-!
# Blanks

White space as Unicode has it, and the removal of white space at the end of a text. A line feed
is a blank like any other here; that it alone ends a line is said where lines are read.

## Main definitions

* `isBlank c`: `c` has the property `White_Space`
* `trimEnd text`: `text` without the blanks at its end
-/

namespace Dialogue.Text

/-- Characters with the Unicode property `White_Space`. -/
def isBlank (c : Char) : Bool :=
  (0x9 ≤ c.toNat && c.toNat ≤ 0xD) || c.toNat == 0x20 || c.toNat == 0x85 || c.toNat == 0xA0 ||
    c.toNat == 0x1680 || (0x2000 ≤ c.toNat && c.toNat ≤ 0x200A) || c.toNat == 0x2028 ||
    c.toNat == 0x2029 || c.toNat == 0x202F || c.toNat == 0x205F || c.toNat == 0x3000

/-- The text without the blanks at its end. -/
def trimEnd : List Char → List Char
  | [] => []
  | c :: cs =>
    match trimEnd cs with
    | [] => if isBlank c then [] else [c]
    | d :: ds => c :: d :: ds

/-- A line feed is a blank. -/
@[simp] theorem isBlank_newline : isBlank '\n' = true := rfl

/-- What ends with a character that is no blank keeps its end. -/
theorem trimEnd_concat (text : List Char) {c : Char} (h : isBlank c = false) :
    trimEnd (text ++ [c]) = text ++ [c] := by
  induction text with
  | nil => simp [trimEnd, h]
  | cons d text ih =>
    rw [List.cons_append, trimEnd, ih]
    cases text <;> rfl

end Dialogue.Text
