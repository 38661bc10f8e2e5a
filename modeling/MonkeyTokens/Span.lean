/- # Spans

A span is a range of byte offsets in a text.  Spans that come from scanning are in order and fall
between characters; a span made by hand may be anything, so its length and its slice are partial.
-/
import MonkeyTokens.Text

namespace MonkeyTokens

/-- The bytes from offset `start` up to, not including, offset `stop`: `Span`. -/
structure Span where
  start : Nat
  stop : Nat
deriving DecidableEq

namespace Span

/-- The empty span at an offset: `point`. -/
def point (offset : Nat) : Span := ⟨offset, offset⟩

/-- The number of bytes covered: `len`, with none where it fails, when the span ends before it
starts. -/
def length? (s : Span) : Option Nat :=
  if s.start ≤ s.stop then some (s.stop - s.start) else none

/-- The span covers nothing: `is_empty`. -/
def isEmpty (s : Span) : Bool := s.start = s.stop

/-- The part of `source` that the span covers: `slice`; none when the span is reversed, leaves the
text or cuts a character. -/
def slice? (s : Span) (source : Text) : Option Text := source.slice? s.start s.stop

/-- The span moved `n` bytes on. -/
def shift (n : Nat) (s : Span) : Span := ⟨n + s.start, n + s.stop⟩

/-- The written form, `start..stop`. -/
def text (s : Span) : Text := Text.decimal s.start ++ "..".toList ++ Text.decimal s.stop

/-- A length exists exactly for spans in order, and added to the start it gives the end. -/
theorem length?_eq_some_iff {s : Span} {n : Nat} : s.length? = some n ↔ s.start + n = s.stop := by
  unfold length?
  split
  · simp only [Option.some.injEq]
    omega
  · simp only [reduceCtorEq, false_iff]
    omega

end Span

end MonkeyTokens
