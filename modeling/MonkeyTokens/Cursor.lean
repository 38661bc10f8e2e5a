/- # Cursors

A cursor stands in a text, before one of its characters or at its end.  It knows the characters
passed, the characters ahead and its byte position.  Cursors are values: to come back to a place,
keep the cursor that stands there.

Main statements: `Cursor.input_skip` (moving never changes the text) and
`Cursor.since?_eq_some_iff` (the text passed since a byte offset exists exactly when that offset is
the length of a part of the text passed).
-/
import MonkeyTokens.Alphabet
import MonkeyTokens.Text.Dump

namespace MonkeyTokens

/-- A place in a text: `Cursor`.  What was read and what is ahead stand here in place of offsets. -/
structure Cursor where
  /-- The characters passed, the nearest first. -/
  passed : Text
  /-- The characters ahead, the current one first. -/
  ahead : Text
  /-- The byte offset of the place. -/
  position : Nat
  position_eq : position = passed.extent
deriving DecidableEq

namespace Cursor

/-! ## 1. What a cursor shows -/

/-- The cursor before the first character of a text. -/
def start (input : Text) : Cursor := ⟨[], input, 0, rfl⟩

/-- The whole text. -/
def input (c : Cursor) : Text := c.passed.reverse ++ c.ahead

/-- The character that the cursor stands before; none at the end: `current`. -/
def current? (c : Cursor) : Option Char := c.ahead[0]?

/-- The character after the current one: `peek`. -/
def next? (c : Cursor) : Option Char := c.ahead[1]?

/-- The byte offset of the character after the current one; the position itself at the end:
`read_position`. -/
def nextPosition (c : Cursor) : Nat := c.position + (c.current?.elim 0 Char.utf8Size)

/-- The cursor stands at the end of the text: `is_eof`. -/
def atEnd (c : Cursor) : Bool := c.ahead.isEmpty

/-- The text passed since byte `start`; none when that offset is past the position or inside a
character, where `slice_from` would fail. -/
def since? (c : Cursor) (start : Nat) : Option Text :=
  if start ≤ c.position then
    (Text.takeBytes? (c.position - start) c.passed).map List.reverse
  else none

/-! ## 2. Moving -/

/-- Moves over `n` characters, or to the end when there are fewer. -/
def skip (c : Cursor) (n : Nat) : Cursor where
  passed := (c.ahead.take n).reverse ++ c.passed
  ahead := c.ahead.drop n
  position := c.position + Text.extent (c.ahead.take n)
  position_eq := by simp [c.position_eq, Nat.add_comm]

/-- Moves over the current character; at the end it stays: `advance`. -/
def advance (c : Cursor) : Cursor := c.skip 1

/-- The longest front of a text whose characters a test accepts one after the other, and the
memory of the test then.  The test may remember: it takes its memory from call to call, and it is
called on each accepted character and on the first one that it refuses. -/
def accepted {σ : Type} (test : σ → Char → Bool × σ) : σ → Text → Text × σ
  | m, [] => ([], m)
  | m, c :: t =>
    match test m c with
    | (false, m') => ([], m')
    | (true, m') =>
      let (a, m'') := accepted test m' t
      (c :: a, m'')

/-- Moves over the characters that a test with a memory accepts: `eat_while`. -/
def eatWhile {σ : Type} (test : σ → Char → Bool × σ) (memory : σ) (c : Cursor) : σ × Cursor :=
  let (a, m) := accepted test memory c.ahead
  (m, c.skip a.length)

/-- Moves over the characters of a class. -/
def skipWhile (p : Char → Bool) (c : Cursor) : Cursor := c.skip (c.ahead.takeWhile p).length

/-- Moves over blanks: `eat_whitespace`. -/
def skipBlanks (c : Cursor) : Cursor := c.skipWhile isBlank

/-- The structural dump. -/
def dump (c : Cursor) : Text :=
  Dump.struct "Cursor"
    [("input", Quoted.text c.input), ("position", Text.decimal c.position),
      ("read_position", Text.decimal c.nextPosition), ("current", Dump.char? c.current?)]

/-! ## 3. Laws -/

@[simp] theorem input_start (t : Text) : (start t).input = t := rfl

/-- **Moving never changes the text.** -/
@[simp] theorem input_skip (c : Cursor) (n : Nat) : (c.skip n).input = c.input := by
  simp [input, skip, List.take_append_drop]

/-- A class is a test without memory. -/
theorem accepted_of_class (p : Char → Bool) (t : Text) :
    accepted (fun (_ : Unit) c => (p c, ())) () t = (t.takeWhile p, ()) := by
  induction t with
  | nil => rfl
  | cons c t ih =>
    simp only [accepted, List.takeWhile_cons]
    cases h : p c with
    | false => simp
    | true => simp [ih]

/-- Moving over a class is moving with a test that has no memory. -/
theorem eatWhile_of_class (p : Char → Bool) (c : Cursor) :
    c.eatWhile (fun (_ : Unit) d => (p d, ())) () = ((), c.skipWhile p) := by
  simp [eatWhile, skipWhile, accepted_of_class]

/-- **The text passed since an offset** is the last part of the text passed, and the offset is the
length of what stands before it. -/
theorem since?_eq_some_iff {c : Cursor} {start : Nat} {t : Text} :
    c.since? start = some t ↔ ∃ a, c.passed.reverse = a ++ t ∧ Text.extent a = start := by
  have hp := c.position_eq
  unfold since?
  split
  · next h =>
    simp only [Option.map_eq_some_iff, Text.takeBytes?_eq_some_iff]
    constructor
    · rintro ⟨near, ⟨far, hs, hn⟩, rfl⟩
      rw [hs, Text.extent_append] at hp
      exact ⟨far.reverse, by simp [hs], by simp; omega⟩
    · rintro ⟨a, hs, ha⟩
      have hs' : c.passed = t.reverse ++ a.reverse := by
        rw [← List.reverse_append, ← hs, List.reverse_reverse]
      rw [hs', Text.extent_append, Text.extent_reverse, Text.extent_reverse] at hp
      exact ⟨t.reverse, ⟨a.reverse, hs', by simp; omega⟩, by simp⟩
  · next h =>
    simp only [reduceCtorEq, false_iff]
    rintro ⟨a, hs, ha⟩
    have hl : Text.extent c.passed.reverse = Text.extent a + Text.extent t := by
      rw [hs, Text.extent_append]
    rw [Text.extent_reverse, ← hp] at hl
    omega

end Cursor

end MonkeyTokens
