/- # Scanning by byte offsets

A text can be scanned with byte offsets alone: a place is an offset, the character there is looked
up, and the text of a token is cut out between two offsets.  A cut fails when the offsets are in the
wrong order, leave the text or stand inside a character, and a loop fails when it makes more steps
than it was given.  Here cursors and streams work so, and a failure ends all that follows.  None
occurs: they give the tokens that cursors and streams give which know the characters ahead.

* `Cursor.offsets_advance`, `Cursor.eatWhile?_offsets`: offsets move from character to character.
* `ByteCursor.isBehind_after`: after any moves the fields of such a cursor are known from how many
  characters it has passed.
* `Cursor.lexeme?_offsets`: what the cursor passed can be cut out.
* `Stream.collect?_offsets`, `Stream.pullUntil?_offsets`: loops over a stream end.

Main statement: `Cursor.token?_offsets`.
-/
import MonkeyTokens.Proofs.Moves
import MonkeyTokens.Proofs.Progress
import MonkeyTokens.Proofs.Trials

namespace MonkeyTokens

/-! ## 1. Cursors of offsets -/

/-- A place in a text as offsets tell it, in the fields `input`, `position`, `read_position` and
`current`. -/
structure ByteCursor where
  input : Text
  position : Nat
  /-- The offset behind the current character; the position itself at the end. -/
  nextPosition : Nat
  /-- The character that was found at the position. -/
  current? : Option Char
deriving DecidableEq

namespace ByteCursor

/-- Goes behind the current character and looks up what is there. -/
def advance (b : ByteCursor) : ByteCursor where
  input := b.input
  position := b.nextPosition
  nextPosition :=
    b.nextPosition + (b.input.charAt? b.nextPosition).elim 0 Char.utf8Size
  current? := b.input.charAt? b.nextPosition

/-- The place before the first character of a text. -/
def start (input : Text) : ByteCursor := advance ⟨input, 0, 0, none⟩

/-- The character after the current one. -/
def next? (b : ByteCursor) : Option Char := b.input.charAt? b.nextPosition

/-- The place is the end of the text. -/
def atEnd (b : ByteCursor) : Bool := b.current?.isNone

/-- Goes over the characters that a test with a memory accepts: `eat_while`.  The test is called
with the current character as long as there is one; the loop fails after `n` rounds. -/
def eatWhile? {σ : Type} (test : σ → Char → Bool × σ) :
    Nat → σ → ByteCursor → Option (σ × ByteCursor)
  | 0, _, _ => none
  | n + 1, m, b =>
    match b.current? with
    | none => some (m, b)
    | some d =>
      match test m d with
      | (false, m') => some (m', b)
      | (true, m') => eatWhile? test n m' b.advance

/-- As many rounds as a loop over the text can need. -/
def rounds (b : ByteCursor) : Nat := b.input.length + 1

/-- Goes over the characters of a class. -/
def skipWhile? (p : Char → Bool) (b : ByteCursor) : Option ByteCursor :=
  (b.eatWhile? (Cursor.ofClass p) b.rounds ()).map Prod.snd

/-- The text cut out from byte `start` to the place: `slice_from`. -/
def since? (start : Nat) (b : ByteCursor) : Option Text := b.input.slice? start b.position

/-- The token whose text is cut out from byte `start` to the place. -/
def lexeme? (start : Nat) (kindOf : Text → Kind) (b : ByteCursor) :
    Option (Token × ByteCursor) :=
  (b.since? start).map fun t => (⟨kindOf t, t, ⟨start, b.position⟩⟩, b)

/-- The token of a symbol at the place; with an equals sign after it the longer symbol wins. -/
def mark? (s : Symbol) (b : ByteCursor) : Option (Token × ByteCursor) :=
  match s.withEquals?, b.next? with
  | some d, some '=' => b.advance.advance.lexeme? b.position fun _ => .symbol d
  | _, _ => b.advance.lexeme? b.position fun _ => .symbol s

/-- The token of the run of a class at the place. -/
def run? (p : Char → Bool) (kindOf : Text → Kind) (b : ByteCursor) : Option (Token × ByteCursor) :=
  (b.skipWhile? p).bind (lexeme? b.position kindOf)

/-- The token at the place, where `c` stands, which is no blank. -/
def leading? (c : Char) (b : ByteCursor) : Option (Token × ByteCursor) :=
  match Symbol.ofChar? c with
  | some s => b.mark? s
  | none =>
    if isLetter c then b.run? isLetter Kind.ofWord
    else if isDigit c then b.run? isDigit fun _ => .int
    else some (⟨.illegal, Token.illegalText, ⟨b.position, b.advance.position⟩⟩, b.advance)

/-- The token after blanks, and the place behind it. -/
def token? (b : ByteCursor) : Option (Token × ByteCursor) := do
  let b ← b.skipWhile? isBlank
  match b.current? with
  | none => some (Token.eof b.position, b)
  | some c => b.leading? c

end ByteCursor

/-! ## 2. Cursors told by offsets -/

namespace Cursor

/-- The place of a cursor as offsets tell it. -/
def offsets (c : Cursor) : ByteCursor := ⟨c.input, c.position, c.nextPosition, c.current?⟩

theorem offsets_start (input : Text) : (start input).offsets = .start input := by
  cases input <;> rfl

/-- The place behind the current character is where the cursor goes. -/
theorem offsets_advance (c : Cursor) : c.advance.offsets = c.offsets.advance := by
  have hinput : c.advance.input = c.input := input_skip c 1
  have hposition : c.advance.position = c.nextPosition := by
    cases h : c.ahead <;> simp [advance, skip, nextPosition, current?, h]
  have hcurrent : c.advance.current? = c.input.charAt? c.nextPosition := by
    rw [← hposition]
    exact (shows_of_input hinput).charAt?_position.symm
  rw [offsets, nextPosition, hinput, hposition, hcurrent]
  rfl

theorem next?_offsets (c : Cursor) : c.offsets.next? = c.ahead.tail.head? := by
  have hnext : c.offsets.next? = c.next? := (shows_of_input rfl).charAt?_nextPosition
  rw [hnext, next?, List.head?_tail]

/-- **A loop with a test ends** where the cursor ends, and with the same memory, after one round for
each character ahead and one more at the most. -/
theorem eatWhile?_offsets {σ : Type} (test : σ → Char → Bool × σ) {m : σ} {c : Cursor} {n : Nat}
    (h : c.ahead.length < n) :
    c.offsets.eatWhile? test n m = some ((c.eatWhile test m).1, (c.eatWhile test m).2.offsets) := by
  induction n generalizing m c with
  | zero => exact absurd h (Nat.not_lt_zero _)
  | succ n ih =>
    have hcurrent : c.offsets.current? = c.ahead.head? := List.head?_eq_getElem?.symm
    rw [ByteCursor.eatWhile?, hcurrent]
    cases hahead : c.ahead with
    | nil =>
      rw [eatWhile_of_ahead_eq_nil hahead]
      rfl
    | cons d t =>
      cases htest : test m d with
      | mk b m' =>
        cases b with
        | false =>
          rw [eatWhile_of_refuses hahead htest]
          simp [htest]
        | true =>
          rw [hahead, List.length_cons] at h
          have hshorter : c.advance.ahead.length < n := by
            rw [ahead_advance hahead]
            exact Nat.lt_of_succ_lt_succ h
          have hrest := ih (m := m') hshorter
          rw [offsets_advance] at hrest
          rw [eatWhile_of_accepts hahead htest]
          simp [htest, hrest]

theorem length_ahead_lt_rounds (c : Cursor) : c.ahead.length < c.offsets.rounds := by
  rw [ByteCursor.rounds, offsets, length_input]
  omega

/-- **A loop over a class ends** where the cursor ends. -/
theorem skipWhile?_offsets (p : Char → Bool) (c : Cursor) :
    c.offsets.skipWhile? p = some (c.skipWhile p).offsets := by
  have hclass : c.eatWhile (ofClass p) () = ((), c.skipWhile p) := eatWhile_of_class p c
  rw [ByteCursor.skipWhile?, eatWhile?_offsets (ofClass p) c.length_ahead_lt_rounds, hclass]
  rfl

/-- **What the cursor passed can be cut out.** -/
theorem lexeme?_offsets {c : Cursor} {w r : Text} (h : c.ahead = w ++ r)
    (kindOf : Text → Kind) :
    (c.skip w.length).offsets.lexeme? c.position kindOf =
      some (⟨kindOf w, w, ⟨c.position, c.position + w.extent⟩⟩, (c.skip w.length).offsets) := by
  have hposition := (skip_length h).2
  have hslice := slice?_input h
  simp [ByteCursor.lexeme?, ByteCursor.since?, offsets, hposition, hslice]

theorem mark?_offsets {c : Cursor} {d : Char} {r : Text} {s : Symbol} (h : c.ahead = d :: r)
    (hs : s.spelling = [d]) :
    c.offsets.mark? s = some ((Lexeme.leadingMark s r).1.token c.position,
      (c.skip (Lexeme.leadingMark s r).1.written.length).offsets) := by
  have hnext : c.offsets.next? = r.head? := by rw [next?_offsets, h, List.tail_cons]
  unfold ByteCursor.mark? Lexeme.leadingMark
  rw [hnext, ← offsets_advance, ← offsets_advance]
  split
  · next e hw hequals =>
    obtain ⟨r', rfl⟩ := List.head?_eq_some_iff.1 hequals
    have htwo : c.ahead = e.spelling ++ r' := by
      rw [h, Symbol.spelling_withEquals? hw, hs]
      rfl
    have hgo : c.advance.advance = c.skip e.spelling.length := by
      rw [Symbol.spelling_withEquals? hw, hs, advance, advance, skip_skip]
      rfl
    rw [hw, hgo]
    exact lexeme?_offsets htwo fun _ => .symbol e
  · next hnot =>
    have hone : c.ahead = s.spelling ++ r := by
      rw [h, hs]
      rfl
    have hgo : c.advance = c.skip s.spelling.length := by
      rw [hs]
      rfl
    split
    · next e r' hw => exact absurd rfl (hnot e hw)
    · rw [hgo]
      exact lexeme?_offsets hone fun _ => .symbol s

theorem run?_offsets {c : Cursor} {d : Char} {r : Text} {p : Char → Bool} (h : c.ahead = d :: r)
    (hd : p d = true) (kindOf : Text → Kind) :
    c.offsets.run? p kindOf =
      some (⟨kindOf (d :: r.takeWhile p), d :: r.takeWhile p,
          ⟨c.position, c.position + Text.extent (d :: r.takeWhile p)⟩⟩,
        (c.skip (d :: r.takeWhile p).length).offsets) := by
  have hrun : c.ahead = (d :: r.takeWhile p) ++ r.dropWhile p := by
    rw [h, List.cons_append, List.takeWhile_append_dropWhile]
  have hskip : c.skipWhile p = c.skip (d :: r.takeWhile p).length := by
    rw [skipWhile, h, List.takeWhile_cons_of_pos hd]
  rw [ByteCursor.run?, skipWhile?_offsets, hskip]
  exact lexeme?_offsets hrun kindOf

/-- **The leading lexeme is found by offsets.** -/
theorem leading?_offsets {c : Cursor} {d : Char} {r : Text} (h : c.ahead = d :: r) :
    c.offsets.leading? d = some ((Lexeme.leading d r).1.token c.position,
      (c.skip (Lexeme.leading d r).1.written.length).offsets) := by
  unfold ByteCursor.leading?
  split
  · next s hs =>
    have hspelling := Symbol.ofChar?_eq_some_iff.1 hs
    obtain ⟨e, v, hev, -, hleading⟩ := Lexeme.leading_spelling s
    obtain ⟨rfl, rfl⟩ := List.cons.inj (hev.symm.trans hspelling)
    rw [mark?_offsets h hspelling, ← hleading r, List.nil_append]
  · next hs =>
    unfold Lexeme.leading
    split
    · next hd => exact run?_offsets h hd Kind.ofWord
    · split
      · next hd => exact run?_offsets h hd fun _ => .int
      · have hone : c.ahead = [d] ++ r := h
        have hstop : c.advance.position = c.position + (Lexeme.stray d).written.extent :=
          (skip_length hone).2
        have htoken : (⟨.illegal, Token.illegalText, ⟨c.position, c.advance.position⟩⟩ : Token) =
            (Lexeme.stray d).token c.position := by
          rw [hstop]
          rfl
        rw [hs, ← offsets_advance]
        exact congrArg (fun t => some (t, c.advance.offsets)) htoken

/-- **By offsets every cursor gives the token that it gives**, and no cut fails. -/
theorem token?_offsets (c : Cursor) : c.offsets.token? = some (c.token.1, c.token.2.offsets) := by
  have hblanks : c.offsets.skipWhile? isBlank = some c.skipBlanks.offsets :=
    c.skipWhile?_offsets isBlank
  have hcurrent : c.skipBlanks.offsets.current? = c.skipBlanks.ahead.head? :=
    List.head?_eq_getElem?.symm
  have hahead := c.skipBlanks_eq.1
  rw [ByteCursor.token?, hblanks, Option.bind_eq_bind, Option.bind_some, hcurrent, hahead]
  cases h : c.ahead.dropWhile isBlank with
  | nil =>
    rw [token_of_blank h]
    rfl
  | cons d r =>
    rw [token_of_cons h]
    exact leading?_offsets (hahead.trans h)

end Cursor

/-! ## 3. Moves by offsets -/

namespace Move

/-- What a move leaves of a cursor of offsets and of the copies in the slots. -/
def follow? : Move → Desk ByteCursor → Option (Desk ByteCursor)
  | advance, d => some { d with now := d.now.advance }
  | eatWhile _ test memory, d =>
    (d.now.eatWhile? test d.now.rounds memory).map fun (_, b) => { d with now := b }
  | skipBlanks, d => (d.now.skipWhile? isBlank).map fun b => { d with now := b }
  | save k, d => some { d with kept := fun j => if j = k then d.now else d.kept j }
  | restore k, d => some { d with now := d.kept k }

theorem follow?_offsets (m : Move) (d : Desk Cursor) :
    m.follow? (d.map Cursor.offsets) = some ((m.apply d).map Cursor.offsets) := by
  cases m with
  | advance =>
    simp only [follow?, apply, Desk.map, Cursor.offsets_advance]
  | eatWhile σ test memory =>
    have hloop := Cursor.eatWhile?_offsets test (m := memory) d.now.length_ahead_lt_rounds
    simp only [follow?, apply, Desk.map, hloop, Option.map_some]
  | skipBlanks =>
    have hloop := d.now.skipWhile?_offsets isBlank
    simp only [follow?, apply, Desk.map, hloop, Option.map_some, Cursor.skipBlanks]
  | save k =>
    rw [follow?, apply, Desk.map_save]
  | restore k => rfl

theorem foldlM_offsets (moves : List Move) (d : Desk Cursor) :
    moves.foldlM (fun d m => m.follow? d) (d.map Cursor.offsets) =
      some ((moves.foldl (fun d m => m.apply d) d).map Cursor.offsets) := by
  induction moves generalizing d with
  | nil => rfl
  | cons m moves ih =>
    rw [List.foldlM_cons, follow?_offsets, Option.bind_eq_bind, Option.bind_some, ih,
      List.foldl_cons]

end Move

namespace ByteCursor

/-- The cursor of offsets of a text after moves in order, with the copies in the slots. -/
def after? (input : Text) (moves : List Move) : Option (Desk ByteCursor) :=
  moves.foldlM (fun d m => m.follow? d) ⟨start input, fun _ => start input⟩

/-- **By offsets a cursor goes where it goes**, whatever the moves, and no loop fails. -/
theorem after?_eq (input : Text) (moves : List Move) :
    after? input moves = some ((Cursor.after input moves).map Cursor.offsets) := by
  have hfresh : (⟨start input, fun _ => start input⟩ : Desk ByteCursor) =
      Desk.map Cursor.offsets ⟨.start input, fun _ => .start input⟩ := by
    simp only [Desk.map, Cursor.offsets_start]
  rw [after?, hfresh, Move.foldlM_offsets, Cursor.after]

/-- All that the fields of a cursor of offsets tell when it is behind `k` characters of a text. -/
structure IsBehind (input : Text) (k : Nat) (b : ByteCursor) : Prop where
  le_length : k ≤ input.length
  input_eq : b.input = input
  position_eq : b.position = Text.extent (input.take k)
  current?_eq : b.current? = input[k]?
  nextPosition_eq : b.nextPosition = b.position + (input[k]?).elim 0 Char.utf8Size
  next?_eq : b.next? = input[k + 1]?
  atEnd_iff : b.atEnd = true ↔ b.position = input.extent

end ByteCursor

theorem Cursor.Shows.isBehind {input : Text} {k : Nat} {c : Cursor} (h : c.Shows input k) :
    c.offsets.IsBehind input k where
  le_length := h.le_length
  input_eq := h.input_eq
  position_eq := h.position_eq
  current?_eq := h.current?_eq
  nextPosition_eq := h.nextPosition_eq
  next?_eq := by
    rw [Cursor.next?_offsets, List.head?_tail]
    exact h.next?_eq
  atEnd_iff := by
    have hnone : c.offsets.atEnd = c.atEnd := by
      rw [ByteCursor.atEnd, Cursor.offsets, Cursor.current?, ← List.head?_eq_getElem?, Cursor.atEnd]
      cases c.ahead <;> rfl
    rw [hnone]
    exact h.atEnd_iff

namespace ByteCursor

/-- What a cursor of offsets has passed since it was behind `j` characters is cut out. -/
theorem IsBehind.since?_eq {input : Text} {j k : Nat} {b : ByteCursor} (h : b.IsBehind input k)
    (hj : j ≤ k) : b.since? (Text.extent (input.take j)) = some ((input.take k).drop j) := by
  have hfront : input.take k = input.take j ++ (input.take k).drop j := by
    have hsplit := List.take_append_drop j (input.take k)
    rwa [List.take_take, Nat.min_eq_left hj, eq_comm] at hsplit
  rw [since?, h.input_eq, h.position_eq, Text.slice?_eq_some_iff]
  refine ⟨input.take j, input.drop k, ?_, rfl, ?_⟩
  · rw [← hfront, List.take_append_drop]
  · rw [← Text.extent_append, ← hfront]

/-- **The fields of a cursor of offsets are kept in step.**  After any moves there is a number of
characters that tells the input, the two positions and the current character, and so do they for
every copy in a slot.  To advance adds one to the number, and nothing at the end of the text; only a
copy that is brought back makes it smaller.  What was passed since the cursor was at an earlier
place, unless it went back behind it, can be cut out. -/
theorem isBehind_after (input : Text) (moves : List Move) :
    ∃ d k, after? input moves = some d ∧ d.now.IsBehind input k ∧
      (∀ slot, ∃ j, (d.kept slot).IsBehind input j) ∧
      (∃ d', after? input (moves ++ [.advance]) = some d' ∧
        d'.now.IsBehind input (min (k + 1) input.length)) ∧
      (∀ m : Move, ¬ m.IsRestore → ∃ d' k', after? input (moves ++ [m]) = some d' ∧ k ≤ k' ∧
        d'.now.IsBehind input k') ∧
      ∀ earlier later, moves = earlier ++ later →
        ∃ e j, after? input earlier = some e ∧ e.now.IsBehind input j ∧
          (j ≤ k → d.now.since? e.now.position = some ((input.take k).drop j)) := by
  have hin : ∀ ms, (Cursor.after input ms).now.input = input := fun ms =>
    (Cursor.after_input input ms).1
  have hbehind : ∀ ms, (Cursor.after input ms).now.offsets.IsBehind input
      (Cursor.after input ms).now.passed.length := fun ms =>
    (Cursor.shows_of_input (hin ms)).isBehind
  refine ⟨_, _, after?_eq input moves, hbehind moves, ?_, ?_, ?_, ?_⟩
  · intro slot
    exact ⟨_, (Cursor.shows_of_input ((Cursor.after_input input moves).2 slot)).isBehind⟩
  · refine ⟨_, after?_eq input _, ?_⟩
    have hnext := hbehind (moves ++ [.advance])
    rwa [Cursor.length_passed_after_advance] at hnext
  · intro m hm
    have hle := Move.le_passed hm (Cursor.after input moves)
    rw [← Cursor.after_concat] at hle
    exact ⟨_, _, after?_eq input _, hle, hbehind _⟩
  · rintro earlier later rfl
    refine ⟨_, _, after?_eq input earlier, hbehind earlier, fun hle => ?_⟩
    have hposition := (hbehind earlier).position_eq
    exact hposition ▸ (hbehind (earlier ++ later)).since?_eq hle

end ByteCursor

/-! ## 4. Streams -/

/-- A stream whose place is told by offsets. -/
structure ByteStream where
  cursor : ByteCursor
  finished : Bool
deriving DecidableEq

namespace ByteStream

/-- The stream before the first token of a text. -/
def start (source : Text) : ByteStream := ⟨.start source, false⟩

/-- The next token; at the end of the text, the end-of-text token every time. -/
def pull? (s : ByteStream) : Option (Token × ByteStream) :=
  s.cursor.token?.map fun (t, b) => (t, { s with cursor := b })

/-- The next token; nothing once the end-of-text token has been given this way. -/
def next? (s : ByteStream) : Option (Option Token × ByteStream) :=
  if s.finished then some (none, s)
  else s.pull?.map fun (t, s') => (some t, { s' with finished := t.isEof })

/-- Passes over `n` tokens and gives the one after them. -/
def nth? : Nat → ByteStream → Option (Option Token × ByteStream)
  | 0, s => s.next?
  | n + 1, s => do
    match ← s.next? with
    | (none, s') => some (none, s')
    | (some _, s') => nth? n s'

/-- The next `n` tokens, or all that are left when there are fewer. -/
def take? : Nat → ByteStream → Option (List Token × ByteStream)
  | 0, s => some ([], s)
  | n + 1, s => do
    match ← s.next? with
    | (none, s') => some ([], s')
    | (some t, s') =>
      let (ts, s'') ← take? n s'
      some (t :: ts, s'')

/-- The tokens that are left, asked for until there is none; fails after `n` calls. -/
def collect? : Nat → ByteStream → Option (List Token × ByteStream)
  | 0, _ => none
  | n + 1, s => do
    match ← s.next? with
    | (none, s') => some ([], s')
    | (some t, s') =>
      let (ts, s'') ← collect? n s'
      some (t :: ts, s'')

/-- All tokens that are left.  One call more than a scan of the text can give tokens is made. -/
def drain? (s : ByteStream) : Option (List Token × ByteStream) :=
  s.collect? (s.cursor.input.length + 2)

/-- Tokens are pulled up to one that stops the loop; fails after `n` calls. -/
def pullUntil? (stop : Token → Bool) : Nat → ByteStream → Option (List Token)
  | 0, _ => none
  | n + 1, s => do
    let (t, s') ← s.pull?
    if stop t then some [t] else (pullUntil? stop n s').map (t :: ·)

end ByteStream

namespace Stream

/-- A stream with its place told by offsets. -/
def offsets (s : Stream) : ByteStream := ⟨s.cursor.offsets, s.finished⟩

theorem offsets_start (source : Text) : (start source).offsets = .start source := by
  rw [offsets, start, Cursor.offsets_start]
  rfl

theorem pull?_offsets (s : Stream) : s.offsets.pull? = some (s.pull.1, s.pull.2.offsets) := by
  rw [ByteStream.pull?, offsets, Cursor.token?_offsets]
  rfl

theorem next?_offsets (s : Stream) : s.offsets.next? = some (s.next?.1, s.next?.2.offsets) := by
  have hfinished : s.offsets.finished = s.finished := rfl
  rw [ByteStream.next?, pull?_offsets, hfinished, next?]
  split <;> rfl

theorem nth?_offsets (n : Nat) (s : Stream) :
    s.offsets.nth? n = some ((s.nth? n).1, (s.nth? n).2.offsets) := by
  induction n generalizing s with
  | zero => exact s.next?_offsets
  | succ n ih =>
    obtain ⟨-, h⟩ | ⟨t, s', h, -⟩ := s.next?_cases
    · simp [ByteStream.nth?, next?_offsets, nth?, h]
    · simp [ByteStream.nth?, next?_offsets, nth?, h, ih]

theorem take?_offsets (n : Nat) (s : Stream) :
    s.offsets.take? n = some ((s.take n).1, (s.take n).2.offsets) := by
  induction n generalizing s with
  | zero => rfl
  | succ n ih =>
    obtain ⟨-, h⟩ | ⟨t, s', h, -⟩ := s.next?_cases
    · simp [ByteStream.take?, next?_offsets, take, h]
    · simp [ByteStream.take?, next?_offsets, take, h, ih]

/-- **A loop that asks for the next token ends**, with what is taken at once. -/
theorem collect?_offsets {n k : Nat} {s : Stream} (hn : s.rest.length < n)
    (hk : s.rest.length ≤ k) :
    s.offsets.collect? n = some ((s.take k).1, (s.take k).2.offsets) := by
  induction n generalizing k s with
  | zero => exact absurd hn (Nat.not_lt_zero _)
  | succ n ih =>
    obtain ⟨hr, h⟩ | ⟨t, s', h, hr⟩ := s.next?_cases
    · cases k with
      | zero => simp [ByteStream.collect?, next?_offsets, take, h]
      | succ k => simp [ByteStream.collect?, next?_offsets, take, h]
    · rw [hr, List.length_cons] at hn hk
      cases k with
      | zero => exact absurd hk (Nat.not_succ_le_zero _)
      | succ k =>
        have hrest := ih (Nat.lt_of_succ_lt_succ hn) (Nat.le_of_succ_le_succ hk)
        simp [ByteStream.collect?, next?_offsets, take, h, hrest]

theorem drain?_offsets (s : Stream) :
    s.offsets.drain? = some (s.drain.1, s.drain.2.offsets) := by
  have hrest := s.length_rest_le
  have hlength := s.cursor.length_input
  refine collect?_offsets ?_ hrest
  simp only [offsets, Cursor.offsets]
  omega

/-- **A loop that pulls tokens ends** when it is given as many calls as there are tokens to pull. -/
theorem pullUntil?_offsets {stop : Token → Bool} {s : Stream} {ts : List Token} {n : Nat}
    (h : PullsUntil stop s ts) (hn : ts.length ≤ n) :
    s.offsets.pullUntil? stop n = some ts := by
  induction h generalizing n with
  | @last s hlast =>
    cases n with
    | zero => exact absurd hn (Nat.not_succ_le_zero _)
    | succ n => simp [ByteStream.pullUntil?, pull?_offsets, hlast]
  | @more s ts hmore _ ih =>
    cases n with
    | zero => exact absurd hn (Nat.not_succ_le_zero _)
    | succ n =>
      have hrest := ih (Nat.le_of_succ_le_succ hn)
      simp [ByteStream.pullUntil?, pull?_offsets, hmore, hrest]

end Stream

end MonkeyTokens
