/- # Layouts and tokenization

Every text is laid out in one way: blanks, a lexeme, blanks, a lexeme, and so on, then blanks
again.  `Layout.ofText` finds that layout by taking the longest lexeme each time, and the tokens of
the text are its lexemes at their byte offsets, with the end-of-text token after them.

Main statement: `Layout.written_ofText` (the layout of a text is written as that text).
-/
import MonkeyTokens.Lexeme

namespace MonkeyTokens

/-- Lexemes with the blanks before each of them, and the blanks after the last. -/
structure Layout where
  items : List (Text × Lexeme)
  trail : Text
deriving DecidableEq

/-- A lexeme at the byte offset where it starts. -/
structure Spot where
  start : Nat
  lexeme : Lexeme
deriving DecidableEq

namespace Spot

/-- The offset just past the lexeme. -/
def stop (s : Spot) : Nat := s.start + s.lexeme.written.extent

/-- The token of the lexeme. -/
def token (s : Spot) : Token := s.lexeme.token s.start

end Spot

namespace Layout

/-! ## 1. Reading and writing a layout -/

/-- The layout of a text. -/
def ofText (t : Text) : Layout :=
  match _h : t.dropWhile isBlank with
  | [] => ⟨[], t⟩
  | c :: r =>
    let rest := ofText (Lexeme.leading c r).2
    ⟨(t.takeWhile isBlank, (Lexeme.leading c r).1) :: rest.items, rest.trail⟩
termination_by t.length
decreasing_by
  have h1 := Lexeme.length_leading_lt c r
  have h2 : (c :: r).length ≤ t.length := _h ▸ (List.dropWhile_sublist _).length_le
  omega

/-- The text of a layout. -/
def written (l : Layout) : Text :=
  (l.items.flatMap fun (w, x) => w ++ x.written) ++ l.trail

/-- The lexemes of a list of items that starts at byte `offset`, each where it starts. -/
def spotsFrom (offset : Nat) : List (Text × Lexeme) → List Spot
  | [] => []
  | (w, x) :: r =>
    let s : Spot := ⟨offset + w.extent, x⟩
    s :: spotsFrom s.stop r

/-- The lexemes of a layout where they start. -/
def spots (l : Layout) : List Spot := spotsFrom 0 l.items

/-- The tokens of a layout: one for each lexeme, and the end of the text. -/
def tokens (l : Layout) : List Token :=
  l.spots.map Spot.token ++ [Token.eof l.written.extent]

/-- A text of blanks alone has no lexeme. -/
theorem ofText_of_blank {t : Text} (h : t.dropWhile isBlank = []) : ofText t = ⟨[], t⟩ := by
  rw [ofText]
  split
  · rfl
  · simp_all

/-- Any other text starts with blanks and the longest lexeme after them. -/
theorem ofText_of_cons {t r : Text} {c : Char} (h : t.dropWhile isBlank = c :: r) :
    ofText t =
      ⟨(t.takeWhile isBlank, (Lexeme.leading c r).1) :: (ofText (Lexeme.leading c r).2).items,
        (ofText (Lexeme.leading c r).2).trail⟩ := by
  rw [ofText]
  split
  · simp_all
  · next c' r' h' =>
    rw [h] at h'
    cases h'
    rfl

/-- **The layout of a text is written as that text.** -/
theorem written_ofText (t : Text) : (ofText t).written = t := by
  fun_induction ofText t with
  | case1 t h => rfl
  | case2 t c r h rest ih =>
    have hl := Lexeme.written_append_leading c r
    have hb := List.takeWhile_append_dropWhile (p := isBlank) (l := t)
    simp only [written] at ih ⊢
    rw [List.flatMap_cons, List.append_assoc, ih, List.append_assoc, hl, ← h, hb]

end Layout

/-! ## 2. The tokens of a text -/

/-- The lexemes of a text where they start. -/
def spots (source : Text) : List Spot := (Layout.ofText source).spots

/-- The tokens of a text; the last one is the end of the text: `tokenize`. -/
def tokenize (source : Text) : List Token := (Layout.ofText source).tokens

/-- The tokens of a text are those of its lexemes, then the end at its length. -/
theorem tokenize_eq (source : Text) :
    tokenize source = (spots source).map Spot.token ++ [Token.eof source.extent] := by
  simp [tokenize, spots, Layout.tokens, Layout.written_ofText]

end MonkeyTokens
