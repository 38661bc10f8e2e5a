/- # What remains of a stream

A cursor has the tokens of the text ahead before it, and a token that is taken is the first of
them.  Only the end-of-text token is not used up: past it the same token remains.

* `Cursor.token_cases`: what taking a token leaves.
* `Cursor.position_token`: where it leaves the cursor.
* `Stream.nth?_eq_take`: passing over tokens is taking them.
* `Stream.drain_start`: a stream that is read to its end gives the tokens of its text.
-/
import MonkeyTokens.Stream
import MonkeyTokens.Proofs.Settled

namespace MonkeyTokens

/-! ## 1. The first token of a text -/

namespace Token

@[simp] theorem shift_zero (t : Token) : t.shift 0 = t := by
  simp [shift, Span.shift]

theorem shift_shift (m n : Nat) (t : Token) : (t.shift n).shift m = t.shift (m + n) := by
  simp [shift, Span.shift, Nat.add_assoc]

theorem shift_eof (m n : Nat) : (eof n).shift m = eof (m + n) := rfl

end Token

namespace Layout

/-- The tokens of a layout are that of its first lexeme and, further on, those of the others. -/
theorem tokens_cons (w : Text) (x : Lexeme) (p : List (Text × Lexeme)) (u : Text) :
    tokens ⟨(w, x) :: p, u⟩ =
      x.token w.extent ::
        (tokens ⟨p, u⟩).map (Token.shift (w.extent + x.written.extent)) := by
  have hspots : spotsFrom (w.extent + x.written.extent) p =
      (spotsFrom 0 p).map (Spot.shift (w.extent + x.written.extent)) :=
    spotsFrom_add _ 0 p
  simp [tokens, spots, spotsFrom, Spot.stop, hspots, Token.shift_eof, Nat.add_assoc]
  rfl

/-- No text has more lexemes than characters. -/
theorem length_items_le (t : Text) : (ofText t).items.length ≤ t.length := by
  fun_induction ofText t with
  | case1 t h => exact Nat.zero_le _
  | case2 t c r h rest ih =>
    have h1 := Lexeme.length_leading_lt c r
    have h2 : (c :: r).length ≤ t.length := h ▸ (List.dropWhile_sublist _).length_le
    have hrest : rest.items.length ≤ (Lexeme.leading c r).2.length := ih
    rw [List.length_cons]
    omega

end Layout

/-- Blanks alone have only the end-of-text token. -/
theorem tokenize_of_blank {t : Text} (h : t.dropWhile isBlank = []) :
    tokenize t = [Token.eof t.extent] := by
  rw [tokenize, Layout.ofText_of_blank h]
  simp [Layout.tokens, Layout.spots, Layout.spotsFrom]

/-- Any other text has the token of its leading lexeme, and then those of what follows it. -/
theorem tokenize_of_cons {t r : Text} {d : Char} (h : t.dropWhile isBlank = d :: r) :
    tokenize t =
      (Lexeme.leading d r).1.token (Text.extent (t.takeWhile isBlank)) ::
        (tokenize (Lexeme.leading d r).2).map (Token.shift
          (Text.extent (t.takeWhile isBlank) + (Lexeme.leading d r).1.written.extent)) := by
  rw [tokenize, Layout.ofText_of_cons h, Layout.tokens_cons]
  rfl

/-- No text has more tokens than characters, and one. -/
theorem length_tokenize_le (t : Text) : (tokenize t).length ≤ t.length + 1 := by
  have hlexemes := congrArg List.length (Layout.map_lexeme_spotsFrom 0 (Layout.ofText t).items)
  rw [List.length_map, List.length_map] at hlexemes
  simpa [tokenize, Layout.tokens, Layout.spots, hlexemes] using Layout.length_items_le t

/-! ## 2. The tokens before a cursor -/

namespace Cursor

/-- The tokens that a cursor still has before it. -/
def rest (c : Cursor) : List Token := (tokenize c.ahead).map (Token.shift c.position)

@[simp] theorem rest_start (t : Text) : (start t).rest = tokenize t := by
  have h : Token.shift 0 = id := funext Token.shift_zero
  simp [rest, start, h]

theorem length_rest_le (c : Cursor) : c.rest.length ≤ c.ahead.length + 1 := by
  simpa [rest] using length_tokenize_le c.ahead

theorem rest_ne_nil (c : Cursor) : c.rest ≠ [] := by
  simp [rest, tokenize, Layout.tokens]

/-- Moving over a front of the text ahead. -/
theorem skip_length {c : Cursor} {a b : Text} (h : c.ahead = a ++ b) :
    (c.skip a.length).ahead = b ∧ (c.skip a.length).position = c.position + a.extent := by
  simp [skip, h]

theorem skipBlanks_eq (c : Cursor) :
    c.skipBlanks.ahead = c.ahead.dropWhile isBlank ∧
      c.skipBlanks.position = c.position + Text.extent (c.ahead.takeWhile isBlank) :=
  skip_length List.takeWhile_append_dropWhile.symm

/-- At the end of the text a cursor gives the end-of-text token. -/
theorem token_of_blank {c : Cursor} (h : c.ahead.dropWhile isBlank = []) :
    c.token = (Token.eof c.skipBlanks.position, c.skipBlanks) := by
  unfold token
  simp only [c.skipBlanks_eq.1, h]

/-- Before the end it gives the token of the leading lexeme. -/
theorem token_of_cons {c : Cursor} {d : Char} {r : Text}
    (h : c.ahead.dropWhile isBlank = d :: r) :
    c.token = ((Lexeme.leading d r).1.token c.skipBlanks.position,
      c.skipBlanks.skip (Lexeme.leading d r).1.written.length) := by
  unfold token
  simp only [c.skipBlanks_eq.1, h]

/-- The leading lexeme is what the cursor moves over to the place behind it. -/
theorem skip_leading {c : Cursor} {d : Char} {r : Text}
    (h : c.ahead.dropWhile isBlank = d :: r) :
    c.token.2.ahead = (Lexeme.leading d r).2 ∧
      c.token.2.position = c.skipBlanks.position + (Lexeme.leading d r).1.written.extent := by
  rw [token_of_cons h]
  exact skip_length (c.skipBlanks_eq.1.trans (h.trans (Lexeme.written_append_leading d r).symm))

/-- **Taking a token leaves the others**, but the end of the text leaves itself. -/
theorem token_cases (c : Cursor) :
    (c.token.1.isEof = true ∧ c.rest = [c.token.1] ∧ c.token.2.rest = [c.token.1]) ∨
      (c.token.1.isEof = false ∧ c.rest = c.token.1 :: c.token.2.rest) := by
  obtain ⟨hahead, hposition⟩ := c.skipBlanks_eq
  cases h : c.ahead.dropWhile isBlank with
  | nil =>
    have hblank := List.takeWhile_append_dropWhile (p := isBlank) (l := c.ahead)
    rw [h, List.append_nil] at hblank
    rw [hblank] at hposition
    refine Or.inl ?_
    rw [token_of_blank h]
    refine ⟨rfl, ?_, ?_⟩
    · rw [rest, tokenize_of_blank h, List.map_singleton, Token.shift_eof, hposition]
    · rw [rest, hahead, h, tokenize_of_blank rfl, List.map_singleton, Token.shift_eof]
      rfl
  | cons d r =>
    obtain ⟨hahead', hposition'⟩ := skip_leading h
    have htoken : c.token.1 = (Lexeme.leading d r).1.token c.skipBlanks.position := by
      rw [token_of_cons h]
    refine Or.inr ⟨?_, ?_⟩
    · rw [htoken]
      exact decide_eq_false (Lexeme.kind_ne_eof _)
    · rw [rest, tokenize_of_cons h, List.map_cons, Lexeme.shift_token, ← hposition, ← htoken,
        List.map_map]
      have hshift : Token.shift c.position ∘
          Token.shift (Text.extent (c.ahead.takeWhile isBlank) +
            (Lexeme.leading d r).1.written.extent) = Token.shift c.token.2.position := by
        funext t
        rw [Function.comp_apply, Token.shift_shift, hposition', hposition, Nat.add_assoc]
      rw [hshift, ← hahead']
      rfl

/-- **A cursor stands behind the token that it gave.** -/
theorem position_token (c : Cursor) : c.token.2.position = c.token.1.span.stop := by
  cases h : c.ahead.dropWhile isBlank with
  | nil =>
    rw [token_of_blank h]
    rfl
  | cons d r =>
    rw [(skip_leading h).2, token_of_cons h]
    rfl

end Cursor

/-! ## 3. Taking tokens -/

namespace Stream

/-- The tokens that `next?` and what is built on it still give. -/
def rest (s : Stream) : List Token := if s.finished then [] else s.cursor.rest

/-- A stream gives the first of its tokens and keeps the others. -/
theorem next?_cases (s : Stream) :
    (s.rest = [] ∧ s.next? = (none, s)) ∨
      ∃ t s', s.next? = (some t, s') ∧ s.rest = t :: s'.rest := by
  unfold next? rest
  by_cases hf : s.finished
  · exact Or.inl (by simp [hf])
  · refine Or.inr ⟨s.cursor.token.1, ⟨s.cursor.token.2, s.cursor.token.1.isEof⟩, ?_, ?_⟩
    · simp [hf, pull]
    · obtain ⟨he, hr, -⟩ | ⟨he, hr⟩ := s.cursor.token_cases
      · simp [hf, he, hr]
      · simp [hf, he, hr]

/-- **What is taken is the front of what remains.** -/
theorem take_fst (n : Nat) (s : Stream) : (s.take n).1 = s.rest.take n := by
  induction n generalizing s with
  | zero => simp [take]
  | succ n ih =>
    obtain ⟨hr, h⟩ | ⟨t, s', h, hr⟩ := s.next?_cases
    · simp [take, h, hr]
    · simp [take, h, hr, ih]

/-- **Passing over tokens is taking them.** -/
theorem nth?_eq_take (n : Nat) (s : Stream) :
    s.nth? n = (s.rest[n]?, (s.take (n + 1)).2) := by
  induction n generalizing s with
  | zero =>
    obtain ⟨hr, h⟩ | ⟨t, s', h, hr⟩ := s.next?_cases
    · simp [nth?, take, h, hr]
    · simp [nth?, take, h, hr]
  | succ n ih =>
    obtain ⟨hr, h⟩ | ⟨t, s', h, hr⟩ := s.next?_cases
    · simp [nth?, take, h, hr]
    · rw [nth?, take]
      simp [h, hr, ih]

/-- No more tokens remain than characters are ahead, and one. -/
theorem length_rest_le (s : Stream) : s.rest.length ≤ s.cursor.ahead.length + 1 := by
  unfold rest
  split
  · exact Nat.zero_le _
  · exact s.cursor.length_rest_le

/-- **All tokens that remain are collected.** -/
theorem drain_fst (s : Stream) : s.drain.1 = s.rest := by
  rw [drain, take_fst, List.take_of_length_le s.length_rest_le]

/-- **The tokens of a text are those that its stream gives.** -/
theorem drain_start (source : Text) : (start source).drain.1 = tokenize source := by
  rw [drain_fst]
  exact Cursor.rest_start source

/-- **The end that was pulled is given once more** to `next?`, and then nothing is. -/
theorem next?_pull_of_isEof (s : Stream) (hf : s.finished = false) (he : s.pull.1.isEof = true) :
    s.pull.2.next?.1 = some s.pull.1 ∧ s.pull.2.next?.2.next?.1 = none := by
  have hrest : s.pull.2.rest = [s.pull.1] := by
    obtain ⟨-, -, hr⟩ | ⟨hne, -⟩ := s.cursor.token_cases
    · simp [rest, pull, hf, hr]
    · exact absurd (he.symm.trans hne) (by decide)
  obtain ⟨hr, -⟩ | ⟨t, s', h, hr⟩ := s.pull.2.next?_cases
  · exact absurd (hrest.symm.trans hr) (List.cons_ne_nil _ _)
  · obtain ⟨rfl, hr'⟩ := List.cons.inj (hrest.symm.trans hr)
    obtain ⟨-, h'⟩ | ⟨t, s'', -, hr''⟩ := s'.next?_cases
    · rw [h, h']
      exact ⟨rfl, rfl⟩
    · exact absurd (hr'.trans hr'') (List.cons_ne_nil _ _).symm

end Stream

end MonkeyTokens
