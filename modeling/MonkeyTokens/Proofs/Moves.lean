/- # Moves of a cursor

A cursor is moved over a text in any order: by one character, over what a test accepts, over blanks;
and it is copied into slots and brought back from them.  Whatever was done, all that it shows is
known from one number, how many characters it has passed.

* `Cursor.shows_of_input`: a cursor in a text shows what the number of characters passed tells.
* `Cursor.since?_eq_of_shows`: and so it gives back the text passed since an earlier place.
* `Move.apply_input`, `Move.le_passed`: no move leaves the text, and only a copy that is brought
  back takes the cursor back.

Main statement: `Cursor.shows_after`.
-/
import Mathlib.Data.List.Induction
import MonkeyTokens.Proofs.Grammar
import MonkeyTokens.Proofs.Requests

namespace MonkeyTokens

/-! ## 1. Moves -/

/-- What can be done with a cursor.  A test that remembers is given with its memory. -/
inductive Move : Type 1
  | advance
  | eatWhile (σ : Type) (test : σ → Char → Bool × σ) (memory : σ)
  | skipBlanks
  /-- A copy of the cursor is kept in a slot. -/
  | save (slot : Nat)
  /-- The copy in a slot takes the place of the cursor. -/
  | restore (slot : Nat)

namespace Move

/-- What a move leaves of a cursor and of the copies in the slots. -/
def apply : Move → Desk Cursor → Desk Cursor
  | advance, d => { d with now := d.now.advance }
  | eatWhile _ test memory, d => { d with now := (d.now.eatWhile test memory).2 }
  | skipBlanks, d => { d with now := d.now.skipBlanks }
  | save k, d => { d with kept := fun j => if j = k then d.now else d.kept j }
  | restore k, d => { d with now := d.kept k }

/-- The move brings back a copy. -/
def IsRestore : Move → Prop
  | restore _ => True
  | _ => False

end Move

/-- The cursor of a text after moves in order, with the copies in the slots.  At first the cursor
stands before the text, and so do the copies. -/
def Cursor.after (input : Text) (moves : List Move) : Desk Cursor :=
  moves.foldl (fun d m => m.apply d) ⟨.start input, fun _ => .start input⟩

/-! ## 2. What a cursor shows -/

namespace Text

/-- The characters before an index take fewer bytes than those before a later one. -/
theorem extent_take_lt {t : Text} {j k : Nat} (hj : j < k) (hk : k ≤ t.length) :
    extent (t.take j) < extent (t.take k) := by
  have hsplit : t.take k = t.take j ++ (t.take k).drop j := by
    have h := List.take_append_drop j (t.take k)
    rwa [List.take_take, Nat.min_eq_left (Nat.le_of_lt hj), eq_comm] at h
  have hne : extent ((t.take k).drop j) ≠ 0 := by
    rw [Ne, extent_eq_zero_iff, List.drop_eq_nil_iff, List.length_take]
    omega
  rw [hsplit, extent_append]
  omega

/-- A character that stands behind the first ones is found at the byte where these end. -/
theorem charAt?_extent_take (t : Text) (k : Nat) :
    charAt? (extent (t.take k)) t = t[k]? := by
  have h := charAt?_append (t.take k) (t.drop k)
  rwa [List.take_append_drop, List.head?_drop] at h

/-- The character after it is found behind its last byte.  At the end of the text there is neither,
and no byte to add. -/
theorem charAt?_extent_take_add (t : Text) (k : Nat) :
    charAt? (extent (t.take k) + (t[k]?).elim 0 Char.utf8Size) t = t[k + 1]? := by
  cases hk : t[k]? with
  | none =>
    have hle : t.length ≤ k := List.getElem?_eq_none_iff.1 hk
    have hnone : t[k + 1]? = none := List.getElem?_eq_none (by omega)
    exact (charAt?_extent_take t k).trans (hk.trans hnone.symm)
  | some d =>
    have htake : t.take (k + 1) = t.take k ++ [d] := by
      rw [List.take_add_one, hk]
      rfl
    have hend : extent (t.take (k + 1)) = extent (t.take k) + d.utf8Size := by
      rw [htake, extent_append]
      rfl
    rw [← charAt?_extent_take t (k + 1), hend]
    rfl

end Text

namespace Cursor

/-- All that a cursor shows when it has passed `k` characters of a text: where these end, the
character behind them and the byte where that one ends, the character behind that, the end of the
text, and the text. -/
structure Shows (input : Text) (k : Nat) (c : Cursor) : Prop where
  le_length : k ≤ input.length
  position_eq : c.position = Text.extent (input.take k)
  current?_eq : c.current? = input[k]?
  /-- The next position is behind the current character, and at the end it is the position. -/
  nextPosition_eq : c.nextPosition = c.position + (input[k]?).elim 0 Char.utf8Size
  next?_eq : c.next? = input[k + 1]?
  atEnd_iff : c.atEnd = true ↔ c.position = input.extent
  input_eq : c.input = input
  /-- The two characters are those that start at the two positions. -/
  charAt?_position : input.charAt? c.position = c.current?
  charAt?_nextPosition : input.charAt? c.nextPosition = c.next?

/-- The number of characters passed cannot be mistaken for another one. -/
theorem Shows.unique {input : Text} {j k : Nat} {c : Cursor} (hj : c.Shows input j)
    (hk : c.Shows input k) : j = k := by
  have hextent := hj.position_eq.symm.trans hk.position_eq
  rcases Nat.lt_trichotomy j k with h | h | h
  · exact absurd hextent (Nat.ne_of_lt (Text.extent_take_lt h hk.le_length))
  · exact h
  · exact absurd hextent.symm (Nat.ne_of_lt (Text.extent_take_lt h hj.le_length))

/-- The text, cut where the cursor stands. -/
theorem take_length_passed (c : Cursor) :
    c.input.take c.passed.length = c.passed.reverse ∧ c.input.drop c.passed.length = c.ahead := by
  have hlength : c.passed.length = c.passed.reverse.length := List.length_reverse.symm
  rw [input, hlength, List.take_left, List.drop_left]
  exact ⟨rfl, rfl⟩

/-- **A cursor shows what the number of characters passed tells.** -/
theorem shows_of_input {c : Cursor} {input : Text} (h : c.input = input) :
    c.Shows input c.passed.length := by
  subst h
  obtain ⟨htake, hdrop⟩ := c.take_length_passed
  have hposition : c.position = Text.extent (c.input.take c.passed.length) := by
    rw [htake, Text.extent_reverse]
    exact c.position_eq
  have hget : ∀ i, c.ahead[i]? = c.input[c.passed.length + i]? := by
    intro i
    rw [← hdrop, List.getElem?_drop]
  have hcurrent : c.current? = c.input[c.passed.length]? := hget 0
  have hnext : c.next? = c.input[c.passed.length + 1]? := hget 1
  refine ⟨?_, hposition, hcurrent, ?_, hnext, ?_, rfl, ?_, ?_⟩
  · rw [input, List.length_append, List.length_reverse]
    exact Nat.le_add_right _ _
  · rw [nextPosition, hcurrent]
  · have hextent : c.input.extent = c.position + Text.extent c.ahead := by
      rw [input, Text.extent_append, Text.extent_reverse, ← c.position_eq]
    rw [atEnd, List.isEmpty_iff, ← Text.extent_eq_zero_iff, hextent]
    omega
  · rw [hposition, Text.charAt?_extent_take, hcurrent]
  · rw [nextPosition, hcurrent, hnext, hposition]
    exact Text.charAt?_extent_take_add c.input c.passed.length

/-- **The text passed since an earlier place** is given back, character by character. -/
theorem since?_eq_of_shows {input : Text} {j k : Nat} {c : Cursor} (h : c.Shows input k)
    (hj : j ≤ k) : c.since? (Text.extent (input.take j)) = some ((input.take k).drop j) := by
  have hpassed : c.passed.reverse = input.take k := by
    have hown := c.take_length_passed.1
    rw [h.input_eq, (shows_of_input h.input_eq).unique h] at hown
    exact hown.symm
  rw [since?_eq_some_iff]
  refine ⟨input.take j, ?_, rfl⟩
  have hsplit := List.take_append_drop j (input.take k)
  rw [List.take_take, Nat.min_eq_left hj] at hsplit
  rw [hpassed, hsplit]

/-! ## 3. What a move does -/

theorem length_passed_skip (c : Cursor) (n : Nat) :
    (c.skip n).passed.length = c.passed.length + min n c.ahead.length := by
  rw [skip, List.length_append, List.length_reverse, List.length_take, Nat.add_comm]

/-- A cursor at the end of the text stays there. -/
theorem skip_of_ahead_eq_nil {c : Cursor} (h : c.ahead = []) (n : Nat) : c.skip n = c := by
  obtain ⟨passed, ahead, position, hp⟩ := c
  obtain rfl : ahead = [] := h
  simp [skip]

theorem length_input (c : Cursor) : c.input.length = c.passed.length + c.ahead.length := by
  rw [input, List.length_append, List.length_reverse]

end Cursor

namespace Move

/-- A move leaves the cursor where it is, moves it on, or brings back a copy. -/
theorem exists_apply_eq_skip (m : Move) (d : Desk Cursor) :
    (m.apply d).now = d.now ∨ (∃ n, (m.apply d).now = d.now.skip n) ∨
      ∃ k, m = restore k ∧ (m.apply d).now = d.kept k := by
  cases m with
  | advance => exact Or.inr (Or.inl ⟨1, rfl⟩)
  | eatWhile σ test memory => exact Or.inr (Or.inl ⟨_, rfl⟩)
  | skipBlanks => exact Or.inr (Or.inl ⟨_, rfl⟩)
  | save k => exact Or.inl rfl
  | restore k => exact Or.inr (Or.inr ⟨k, rfl, rfl⟩)

/-- **No move leaves the text**, and no copy does. -/
theorem apply_input {input : Text} {d : Desk Cursor} (hnow : d.now.input = input)
    (hkept : ∀ k, (d.kept k).input = input) (m : Move) :
    (m.apply d).now.input = input ∧ ∀ k, ((m.apply d).kept k).input = input := by
  refine ⟨?_, ?_⟩
  · obtain h | ⟨n, h⟩ | ⟨k, -, h⟩ := m.exists_apply_eq_skip d
    · rw [h, hnow]
    · rw [h, Cursor.input_skip, hnow]
    · rw [h, hkept k]
  · intro j
    cases m with
    | save k =>
      simp only [apply]
      split
      · exact hnow
      · exact hkept j
    | _ => exact hkept j

/-- **Only a copy that is brought back takes the cursor back.** -/
theorem le_passed {m : Move} (h : ¬ m.IsRestore) (d : Desk Cursor) :
    d.now.passed.length ≤ (m.apply d).now.passed.length := by
  obtain hm | ⟨n, hm⟩ | ⟨k, rfl, -⟩ := m.exists_apply_eq_skip d
  · exact Nat.le_of_eq (by rw [hm])
  · rw [hm, Cursor.length_passed_skip]
    exact Nat.le_add_right _ _
  · exact absurd trivial h

/-- A copy stays in its slot until another one is kept there. -/
theorem apply_kept {m : Move} {k : Nat} (h : m ≠ save k) (d : Desk Cursor) :
    (m.apply d).kept k = d.kept k := by
  cases m with
  | save j =>
    have hne : k ≠ j := by
      rintro rfl
      exact h rfl
    exact if_neg hne
  | _ => rfl

end Move

namespace Cursor

/-! ## 4. Moves in order -/

theorem after_concat (input : Text) (moves : List Move) (m : Move) :
    after input (moves ++ [m]) = m.apply (after input moves) := by
  rw [after, List.foldl_append]
  rfl

/-- Whatever was done, the cursor and its copies are in the text. -/
theorem after_input (input : Text) (moves : List Move) :
    (after input moves).now.input = input ∧ ∀ k, ((after input moves).kept k).input = input := by
  induction moves using List.reverseRecOn with
  | nil => exact ⟨rfl, fun k => rfl⟩
  | append_singleton moves m ih =>
    rw [after_concat]
    exact m.apply_input ih.1 ih.2

/-- To advance is to pass one character more, if there is one. -/
theorem length_passed_after_advance (input : Text) (moves : List Move) :
    (after input (moves ++ [.advance])).now.passed.length =
      min ((after input moves).now.passed.length + 1) input.length := by
  have hlength := (after input moves).now.length_input
  rw [(after_input input moves).1] at hlength
  have hstep : (after input (moves ++ [.advance])).now.passed.length =
      (after input moves).now.passed.length + min 1 (after input moves).now.ahead.length := by
    rw [after_concat]
    exact length_passed_skip _ 1
  omega

/-- A copy is the cursor as it was when the copy was made. -/
theorem after_kept (input : Text) (earlier later : List Move) (k : Nat)
    (h : Move.save k ∉ later) :
    (after input (earlier ++ .save k :: later)).kept k = (after input earlier).now := by
  induction later using List.reverseRecOn with
  | nil =>
    rw [after_concat]
    exact if_pos rfl
  | append_singleton later m ih =>
    have hm : m ≠ Move.save k := by
      rintro rfl
      exact h (List.mem_append_right _ (List.mem_singleton_self _))
    have hlater : Move.save k ∉ later := fun hmem => h (List.mem_append_left _ hmem)
    rw [← List.cons_append, ← List.append_assoc, after_concat, Move.apply_kept hm, ih hlater]

/-- **A cursor is the number of characters that it has passed.**  After any moves there is such a
number, and no other: it tells the positions, the characters and the end that the cursor shows, the
two positions tell the two characters, and the text is still the same.

To advance is to add one to the number, and nothing at the end of the text.  No move takes the
cursor back, but to bring back a copy; this gives the cursor as it was when the copy was made.  The
text passed since a position that was shown is given back, unless the cursor has gone back behind
it. -/
theorem shows_after (input : Text) (moves : List Move) :
    ∃ k, (after input moves).now.Shows input k ∧
      (∀ j, (after input moves).now.Shows input j → j = k) ∧
      (after input (moves ++ [.advance])).now.Shows input (min (k + 1) input.length) ∧
      (k = input.length → after input (moves ++ [.advance]) = after input moves) ∧
      (∀ m : Move, ¬ m.IsRestore →
        ∃ k', k ≤ k' ∧ (after input (moves ++ [m])).now.Shows input k') ∧
      (∀ earlier later j, moves = earlier ++ later → (after input earlier).now.Shows input j →
        j ≤ k → (after input moves).now.since? (after input earlier).now.position =
          some ((input.take k).drop j)) ∧
      ∀ earlier slot later, moves = earlier ++ .save slot :: later → .save slot ∉ later →
        (after input (moves ++ [.restore slot])).now = (after input earlier).now := by
  have hin : ∀ ms, (after input ms).now.input = input := fun ms => (after_input input ms).1
  have hshows := shows_of_input (hin moves)
  have hlength := (after input moves).now.length_input
  rw [hin] at hlength
  refine ⟨_, hshows, fun j hj => hj.unique hshows, ?_, ?_, ?_, ?_, ?_⟩
  · have hnext := shows_of_input (hin (moves ++ [.advance]))
    rwa [length_passed_after_advance] at hnext
  · intro hend
    have hahead : (after input moves).now.ahead = [] := List.length_eq_zero_iff.1 (by omega)
    rw [after_concat, Move.apply, advance, skip_of_ahead_eq_nil hahead]
  · intro m hm
    have hle := Move.le_passed hm (after input moves)
    rw [← after_concat] at hle
    exact ⟨_, hle, shows_of_input (hin (moves ++ [m]))⟩
  · intro earlier later j _ hj hle
    rw [hj.position_eq]
    exact since?_eq_of_shows hshows hle
  · intro earlier slot later hmoves hlater
    rw [after_concat, hmoves]
    exact after_kept input earlier later slot hlater

end Cursor

end MonkeyTokens
