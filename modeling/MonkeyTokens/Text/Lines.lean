/- # Lines

Input that arrives as a list, of bytes or of characters, is cut after each line feed, where
`read_line` stops.  What stands after the last one is the unfinished line; it may be empty.

Main statement: `Lines.join_cut` (the cut loses nothing).
-/
import MonkeyTokens.Text

namespace MonkeyTokens

/-- A list cut after each occurrence of a mark. -/
structure Lines (α : Type) where
  /-- The lines that end with the mark, which belongs to them. -/
  complete : List (List α)
  /-- What stands after the last mark. -/
  unfinished : List α
deriving DecidableEq, Repr

namespace Lines

variable {α : Type} [DecidableEq α]

/-- One more element in front of the first line. -/
def push (x : α) (l : Lines α) : Lines α :=
  match l.complete with
  | [] => ⟨[], x :: l.unfinished⟩
  | p :: ps => ⟨(x :: p) :: ps, l.unfinished⟩

/-- The lines of a list whose line mark is `mark`. -/
def cut (mark : α) : List α → Lines α
  | [] => ⟨[], []⟩
  | x :: xs =>
    let l := cut mark xs
    if x = mark then ⟨[x] :: l.complete, l.unfinished⟩ else l.push x

/-- The lines one after the other. -/
def join (l : Lines α) : List α := l.complete.flatten ++ l.unfinished

/-- Every line, the unfinished one only when it holds something. -/
def all (l : Lines α) : List (List α) :=
  l.complete ++ if l.unfinished.isEmpty then [] else [l.unfinished]

omit [DecidableEq α] in
@[simp] theorem join_push (x : α) (l : Lines α) : (l.push x).join = x :: l.join := by
  unfold push join
  split <;> simp_all

/-- **Cutting loses nothing**: the lines joined are the list. -/
theorem join_cut (mark : α) (xs : List α) : (cut mark xs).join = xs := by
  induction xs with
  | nil => rfl
  | cons x xs ih =>
    simp only [cut]
    split
    · simpa [join] using ih
    · simp [ih]

omit [DecidableEq α] in
/-- Every line in order, joined, is the whole as well. -/
theorem flatten_all (l : Lines α) : l.all.flatten = l.join := by
  unfold all join
  split <;> simp_all

end Lines

/-- The byte that ends a line. -/
def lineFeed : UInt8 := 10

end MonkeyTokens
