/- # Quoted text

Texts and single characters in their quoted form: between delimiters, with an escape for the
delimiter, for the backslash, for the four control characters that have a letter of their own, and
for every other shapeless character.

Main statement: `Quoted.escape_of_plain` (a character with a shape that is neither backslash nor
delimiter stands for itself).
-/
import MonkeyTokens.Text
import MonkeyTokens.Text.Shapeless

namespace MonkeyTokens

namespace Quoted

/-- How one character is written between two delimiters `mark`. -/
def escape (mark : Char) (c : Char) : Text :=
  if c = '\x00' then ['\\', '0']
  else if c = '\t' then ['\\', 't']
  else if c = '\r' then ['\\', 'r']
  else if c = '\n' then ['\\', 'n']
  else if c = '\\' ∨ c = mark then ['\\', c]
  else if isShapeless c then "\\u\x7b".toList ++ Text.hexadecimal c.toNat ++ ['\x7d']
  else [c]

/-- A text between quotation marks. -/
def text (t : Text) : Text := '\x22' :: t.flatMap (escape '\x22') ++ ['\x22']

/-- A character between apostrophes. -/
def char (c : Char) : Text := '\x27' :: escape '\x27' c ++ ['\x27']

/-- A character with a shape that is neither the backslash nor the delimiter stands for itself. -/
theorem escape_of_plain {mark c : Char} (hs : isShapeless c = false) (hb : c ≠ '\\')
    (hm : c ≠ mark) : escape mark c = [c] := by
  have hne : ∀ d : Char, isShapeless d = true → c ≠ d := by
    rintro d hd rfl
    simp [hs] at hd
  simp [escape, hs, hb, hm, hne '\x00' (by decide), hne '\t' (by decide), hne '\r' (by decide),
    hne '\n' (by decide)]

/-- A text of such characters is quoted by its delimiters alone. -/
theorem text_of_plain {t : Text}
    (h : ∀ c ∈ t, isShapeless c = false ∧ c ≠ '\\' ∧ c ≠ '\x22') :
    text t = '\x22' :: t ++ ['\x22'] := by
  have hf : t.flatMap (escape '\x22') = t := by
    induction t with
    | nil => rfl
    | cons c t ih =>
      obtain ⟨hs, hb, hm⟩ := h c (by simp)
      rw [List.flatMap_cons, escape_of_plain hs hb hm, ih fun d hd => h d (by simp [hd])]
      rfl
  rw [text, hf]

end Quoted

end MonkeyTokens
