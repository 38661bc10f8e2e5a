/- # The alphabet

The classes of characters that the lexical rules speak of.  They hold ASCII characters only, by
the rules of the language: every character beyond ASCII is in none of them.  No character is in
two of them.
-/

namespace MonkeyTokens

/-- Blanks stand between lexemes and belong to none: `is_whitespace`. -/
def isBlank (c : Char) : Bool := c = ' ' || c = '\t' || c = '\n' || c = '\r'

/-- The letters that words are made of; the underscore is one of them: `is_letter`. -/
def isLetter (c : Char) : Bool := c.isAlpha || c = '_'

/-- The digits that numbers are made of: `is_digit`. -/
def isDigit (c : Char) : Bool := c.isDigit

/-- A blank is not a letter. -/
theorem isLetter_of_isBlank {c : Char} (h : isBlank c = true) : isLetter c = false := by
  simp only [isBlank, Bool.or_eq_true, decide_eq_true_eq] at h
  rcases h with ((rfl | rfl) | rfl) | rfl <;> decide

/-- A blank is not a digit. -/
theorem isDigit_of_isBlank {c : Char} (h : isBlank c = true) : isDigit c = false := by
  simp only [isBlank, Bool.or_eq_true, decide_eq_true_eq] at h
  rcases h with ((rfl | rfl) | rfl) | rfl <;> decide

/-- A letter is not a digit. -/
theorem isDigit_of_isLetter {c : Char} (h : isLetter c = true) : isDigit c = false := by
  delta isLetter Char.isAlpha Char.isUpper Char.isLower at h
  simp only [Bool.or_eq_true, Bool.and_eq_true, decide_eq_true_eq, UInt32.le_iff_toNat_le,
    ge_iff_le] at h
  rcases h with (⟨ha, hz⟩ | ⟨ha, hz⟩) | rfl
  · have hA : 'A'.val.toNat = 65 := rfl
    have h9 : '9'.val.toNat = 57 := rfl
    simp only [isDigit, Char.isDigit, Bool.and_eq_false_iff, decide_eq_false_iff_not,
      UInt32.le_iff_toNat_le, ge_iff_le]
    omega
  · have hA : 'a'.val.toNat = 97 := rfl
    have h9 : '9'.val.toNat = 57 := rfl
    simp only [isDigit, Char.isDigit, Bool.and_eq_false_iff, decide_eq_false_iff_not,
      UInt32.le_iff_toNat_le, ge_iff_le]
    omega
  · decide

/-- A letter is not a blank. -/
theorem isBlank_of_isLetter {c : Char} (h : isLetter c = true) : isBlank c = false :=
  Bool.eq_false_iff.2 fun hb => Bool.eq_false_iff.1 (isLetter_of_isBlank hb) h

/-- A digit is not a blank. -/
theorem isBlank_of_isDigit {c : Char} (h : isDigit c = true) : isBlank c = false :=
  Bool.eq_false_iff.2 fun hb => Bool.eq_false_iff.1 (isDigit_of_isBlank hb) h

/-- A digit is not a letter. -/
theorem isLetter_of_isDigit {c : Char} (h : isDigit c = true) : isLetter c = false :=
  Bool.eq_false_iff.2 fun hl => Bool.eq_false_iff.1 (isDigit_of_isLetter hl) h

end MonkeyTokens
