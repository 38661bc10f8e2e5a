/- # Slices

A slice is a part of a text, told by the byte offsets of its ends.  A span cuts it out of the text;
a cursor cuts out what it has passed since an offset.  Both work on characters.  Here they are
compared with two other accounts of a slice, at any offsets, however absurd.

* A slice is the part between two others, of the lengths that the offsets tell (`Span.CutsOut`).
  There is none when the offsets are in the wrong order, when they leave the text and when one of
  them is inside a character (`Span.slice?_eq_none_iff`).
* A slice is a range of the bytes, and only the two bytes at its ends are looked at
  (`Text.map_bytes_slice?`).

What a cursor gives back is such a slice as well (`Cursor.since?_eq_slice?`).

Main statement: `slices_agree`.
-/
import MonkeyTokens.Proofs.Unfailing

namespace MonkeyTokens

/-! ## 1. Bytes -/

namespace Utf8

/-- Bytes can be parted at an offset: a character starts there, or they end there. -/
def StartsAt (bs : List UInt8) (n : Nat) : Prop := n = bs.length ∨ ∃ b ∈ bs[n]?, b.IsUTF8FirstByte

instance (bs : List UInt8) (n : Nat) : Decidable (StartsAt bs n) :=
  inferInstanceAs (Decidable (_ ∨ _))

/-- The bytes between two offsets at which they can be parted. -/
def slice? (start stop : Nat) (bs : List UInt8) : Option (List UInt8) :=
  if start ≤ stop ∧ StartsAt bs start ∧ StartsAt bs stop then some (bs.extract start stop) else none

theorem startsAt_append_of_le {as bs : List UInt8} {n : Nat} (h : as.length ≤ n) :
    StartsAt (as ++ bs) n ↔ StartsAt bs (n - as.length) := by
  rw [StartsAt, StartsAt, List.getElem?_append_right h, List.length_append]
  refine or_congr_left ?_
  omega

/-- Inside the bytes of a character only the first one starts a character. -/
theorem startsAt_encode_append {c : Char} {bs : List UInt8} {n : Nat} (h : n < c.utf8Size) :
    StartsAt (String.utf8EncodeChar c ++ bs) n ↔ n = 0 := by
  have hn : n < (String.utf8EncodeChar c).length := by rwa [String.length_utf8EncodeChar]
  have hne : n ≠ (String.utf8EncodeChar c ++ bs).length := by
    rw [List.length_append]
    omega
  rw [StartsAt, or_iff_right hne, List.getElem?_append_left hn, List.getElem?_eq_getElem hn]
  simp [UInt8.isUTF8FirstByte_getElem_utf8EncodeChar]

end Utf8

/-! ## 2. Offsets between characters and inside them -/

namespace Text

/-- The offset is inside a character of the text. -/
def Splits (t : Text) (n : Nat) : Prop :=
  ∃ (a : Text) (c : Char) (b : Text), t = a ++ c :: b ∧ a.extent < n ∧ n < a.extent + c.utf8Size

theorem isBoundary_nil {n : Nat} : IsBoundary [] n ↔ n = 0 := by
  constructor
  · rintro ⟨a, b, h, rfl⟩
    rw [(List.append_eq_nil_iff.1 h.symm).1, extent_nil]
  · rintro rfl
    exact ⟨[], [], rfl, rfl⟩

theorem isBoundary_cons {c : Char} {t : Text} {n : Nat} :
    IsBoundary (c :: t) n ↔ n = 0 ∨ c.utf8Size ≤ n ∧ IsBoundary t (n - c.utf8Size) := by
  constructor
  · rintro ⟨a, b, h, rfl⟩
    cases a with
    | nil => exact Or.inl rfl
    | cons d a =>
      obtain ⟨rfl, rfl⟩ := List.cons.inj h
      refine Or.inr ⟨Nat.le_add_right _ _, a, b, rfl, ?_⟩
      rw [extent_cons]
      omega
  · rintro (rfl | ⟨hle, a, b, rfl, ha⟩)
    · exact ⟨[], c :: t, rfl, rfl⟩
    · refine ⟨c :: a, b, rfl, ?_⟩
      rw [extent_cons]
      omega

theorem splits_nil {n : Nat} : ¬ Splits [] n := by
  rintro ⟨a, c, b, h, -⟩
  exact List.append_ne_nil_of_right_ne_nil a (List.cons_ne_nil c b) h.symm

theorem splits_cons {c : Char} {t : Text} {n : Nat} :
    Splits (c :: t) n ↔
      (0 < n ∧ n < c.utf8Size) ∨ c.utf8Size ≤ n ∧ Splits t (n - c.utf8Size) := by
  constructor
  · rintro ⟨a, d, b, h, hlo, hhi⟩
    cases a with
    | nil =>
      obtain ⟨rfl, rfl⟩ := List.cons.inj h
      exact Or.inl ⟨hlo, by simpa using hhi⟩
    | cons e a =>
      obtain ⟨rfl, rfl⟩ := List.cons.inj h
      rw [extent_cons] at hlo hhi
      exact Or.inr ⟨by omega, a, d, b, rfl, by omega, by omega⟩
  · rintro (⟨hlo, hhi⟩ | ⟨hle, a, d, b, rfl, hlo, hhi⟩)
    · exact ⟨[], c, t, rfl, hlo, by simpa using hhi⟩
    · refine ⟨c :: a, d, b, rfl, ?_, ?_⟩
      · rw [extent_cons]
        omega
      · rw [extent_cons]
        omega

/-- **An offset that is not between characters** is behind the text or inside a character. -/
theorem not_isBoundary_iff {t : Text} {n : Nat} :
    ¬ t.IsBoundary n ↔ t.extent < n ∨ t.Splits n := by
  induction t generalizing n with
  | nil =>
    rw [isBoundary_nil, or_iff_left splits_nil, extent_nil]
    omega
  | cons c t ih =>
    have hpos := c.utf8Size_pos
    rw [isBoundary_cons, splits_cons, extent_cons]
    by_cases h : c.utf8Size ≤ n
    · -- the first character is passed, and the rest of the text decides
      obtain ⟨k, rfl⟩ := Nat.exists_eq_add_of_le h
      have hzero : ¬ c.utf8Size + k = 0 := by omega
      have hinside : ¬ (0 < c.utf8Size + k ∧ c.utf8Size + k < c.utf8Size) := by omega
      rw [Nat.add_sub_cancel_left, Nat.add_lt_add_iff_left, or_iff_right hzero,
        or_iff_right hinside, and_iff_right h, and_iff_right h]
      exact ih
    · have hbehind : ¬ c.utf8Size + extent t < n := by omega
      rw [or_iff_left fun hn => h hn.1, or_iff_right hbehind, or_iff_left fun hn => h hn.1]
      omega

theorem IsBoundary.le_extent {t : Text} {n : Nat} (h : t.IsBoundary n) : n ≤ t.extent :=
  Nat.le_of_not_lt fun hlt => not_isBoundary_iff.2 (Or.inl hlt) h

/-- **Whether an offset is between characters can be told from the byte there.** -/
theorem isBoundary_iff_startsAt {t : Text} {n : Nat} :
    t.IsBoundary n ↔ Utf8.StartsAt t.bytes n := by
  induction t generalizing n with
  | nil => simp [isBoundary_nil, Utf8.StartsAt]
  | cons c t ih =>
    rw [isBoundary_cons, bytes_cons]
    by_cases h : n < c.utf8Size
    · rw [Utf8.startsAt_encode_append h, or_iff_left fun hle => absurd h (Nat.not_lt.2 hle.1)]
    · have hle := Nat.le_of_not_lt h
      have hpos := c.utf8Size_pos
      have hbytes : (String.utf8EncodeChar c).length ≤ n := by rwa [String.length_utf8EncodeChar]
      rw [Utf8.startsAt_append_of_le hbytes, String.length_utf8EncodeChar, ← ih,
        and_iff_right hle, or_iff_right (by omega)]

/-- The bytes at the two offsets tell whether a text can be cut there. -/
theorem slice?_isSome_iff_startsAt {start stop : Nat} {t : Text} :
    (t.slice? start stop).isSome ↔
      start ≤ stop ∧ Utf8.StartsAt t.bytes start ∧ Utf8.StartsAt t.bytes stop := by
  rw [slice?_isSome_iff, ← isBoundary_iff_startsAt, ← isBoundary_iff_startsAt]
  constructor
  · rintro ⟨hle, -, h⟩
    exact ⟨hle, h⟩
  · rintro ⟨hle, h⟩
    exact ⟨hle, h.2.le_extent, h⟩

/-- **A slice is a range of the bytes.** -/
theorem map_bytes_slice? (start stop : Nat) (t : Text) :
    (t.slice? start stop).map bytes = Utf8.slice? start stop t.bytes := by
  have hends := @slice?_isSome_iff_startsAt start stop t
  unfold Utf8.slice?
  cases hm : t.slice? start stop with
  | none =>
    rw [if_neg fun h => by simpa [hm] using hends.2 h]
    rfl
  | some m =>
    rw [if_pos (hends.1 (Option.isSome_of_eq_some hm))]
    obtain ⟨a, b, rfl, rfl, rfl⟩ := slice?_eq_some_iff.1 hm
    simp [← length_bytes]

end Text

/-! ## 3. Spans -/

namespace Span

/-- The span cuts `t` out of a text: `t` is between a part whose length is the start and another
part, and it ends where the span does. -/
def CutsOut (s : Span) (source t : Text) : Prop :=
  ∃ a b, source = a ++ t ++ b ∧ a.extent = s.start ∧ a.extent + t.extent = s.stop

theorem slice?_eq_some_iff {s : Span} {source t : Text} :
    s.slice? source = some t ↔ s.CutsOut source t := Text.slice?_eq_some_iff

/-- A span cuts out one part at the most. -/
theorem CutsOut.unique {s : Span} {source t u : Text} (ht : s.CutsOut source t)
    (hu : s.CutsOut source u) : t = u :=
  Option.some.inj ((slice?_eq_some_iff.2 ht).symm.trans (slice?_eq_some_iff.2 hu))

/-- **A span cuts out nothing** when it is reversed, leaves the text or has an end inside a
character. -/
theorem slice?_eq_none_iff {s : Span} {source : Text} :
    s.slice? source = none ↔
      s.stop < s.start ∨ source.extent < s.stop ∨ source.Splits s.start ∨ source.Splits s.stop := by
  have hsome : (s.slice? source).isSome ↔ s.start ≤ s.stop ∧ s.stop ≤ source.extent ∧
      source.IsBoundary s.start ∧ source.IsBoundary s.stop := Text.slice?_isSome_iff
  -- where the start is behind the text, the stop is before the start or behind the text as well
  have hleaves : source.extent < s.start → s.stop < s.start ∨ source.extent < s.stop := by omega
  rw [← Option.not_isSome_iff_eq_none, hsome, not_and_or, not_and_or, not_and_or, Nat.not_le,
    Nat.not_le, Text.not_isBoundary_iff, Text.not_isBoundary_iff]
  grind

end Span

/-! ## 4. Cursors -/

namespace Cursor

/-- **The text passed since an offset is a slice**, from that offset to the place of the cursor. -/
theorem since?_eq_slice? (c : Cursor) (start : Nat) :
    c.since? start = Span.slice? ⟨start, c.position⟩ c.input := by
  have hposition : Text.extent c.passed.reverse = c.position := by
    rw [Text.extent_reverse, c.position_eq]
  refine Option.ext fun t => ?_
  rw [since?_eq_some_iff, Span.slice?_eq_some_iff]
  constructor
  · rintro ⟨a, hpassed, rfl⟩
    refine ⟨a, c.ahead, ?_, rfl, ?_⟩
    · rw [input, hpassed]
    · rw [← Text.extent_append, ← hpassed, hposition]
  · rintro ⟨a, b, hinput, rfl, hstop⟩
    rw [← Text.extent_append, ← hposition] at hstop
    obtain ⟨w, hpassed, -⟩ :=
      Text.exists_append_of_extent_le hinput.symm (Nat.le_of_eq hstop)
    -- the part passed has the length of the first two parts, so nothing is left of it
    have hw : w = [] := by
      rw [hpassed, Text.extent_append (a ++ t)] at hstop
      exact Text.extent_eq_zero_iff.1 (Nat.left_eq_add.1 hstop)
    refine ⟨a, ?_, rfl⟩
    rw [hpassed, hw, List.append_nil]

/-- **Nothing is given back** since an offset that is ahead of the cursor or inside a character. -/
theorem since?_eq_none_iff {c : Cursor} {start : Nat} :
    c.since? start = none ↔ c.position < start ∨ c.input.Splits start := by
  have hboundary : c.input.IsBoundary c.position := by
    refine ⟨c.passed.reverse, c.ahead, rfl, ?_⟩
    rw [Text.extent_reverse, c.position_eq]
  have hinside : ¬ (c.input.extent < c.position ∨ c.input.Splits c.position) := fun h =>
    Text.not_isBoundary_iff.2 h hboundary
  rw [not_or] at hinside
  rw [since?_eq_slice?, Span.slice?_eq_none_iff, or_iff_right hinside.1, or_iff_left hinside.2]

end Cursor

/-! ## 5. All together -/

/-- **All accounts of a slice agree**, at any offsets.  What a span cuts out of a text is the one
part that is between two others of the lengths that the span tells.  There is none exactly when the
span is reversed, leaves the text or has an end inside a character.  By bytes alone the same is cut
out.

Whatever was done with a cursor of the text, what it gives back since an offset is what the span
from there to its place cuts out.  It fails exactly when there is no such part: when the offset is
ahead of its place or inside a character. -/
theorem slices_agree (source : Text) :
    (∀ (s : Span) (t : Text), s.slice? source = some t ↔ s.CutsOut source t) ∧
    (∀ (s : Span) (t u : Text), s.CutsOut source t → s.CutsOut source u → t = u) ∧
    (∀ s : Span, s.slice? source = none ↔
      s.stop < s.start ∨ source.extent < s.stop ∨ source.Splits s.start ∨ source.Splits s.stop) ∧
    (∀ s : Span, (s.slice? source).map Text.bytes = Utf8.slice? s.start s.stop source.bytes) ∧
    ∀ moves start,
      (Cursor.after source moves).now.since? start =
        Span.slice? ⟨start, (Cursor.after source moves).now.position⟩ source ∧
      ((Cursor.after source moves).now.since? start = none ↔
        (Cursor.after source moves).now.position < start ∨ source.Splits start) := by
  refine ⟨fun s t => Span.slice?_eq_some_iff, fun s t u ht hu => ht.unique hu,
    fun s => Span.slice?_eq_none_iff, fun s => Text.map_bytes_slice? s.start s.stop source, ?_⟩
  intro moves start
  have hinput := (Cursor.after_input source moves).1
  have hslice := (Cursor.after source moves).now.since?_eq_slice? start
  have hnone := @Cursor.since?_eq_none_iff (Cursor.after source moves).now start
  rw [hinput] at hslice hnone
  exact ⟨hslice, hnone⟩

/-- Characters of one to four bytes, which start at the bytes 0, 1, 3 and 6. -/
theorem slices_agree_widths :
    (Span.mk 1 6).slice? ['a', 'é', '€', '𐍈'] = some ['é', '€'] ∧
      (∀ u, (Span.mk 1 6).CutsOut ['a', 'é', '€', '𐍈'] u → ['é', '€'] = u) ∧
      (Span.mk 2 6).slice? ['a', 'é', '€', '𐍈'] = none ∧
      (Span.mk 6 18446744073709551615).slice? ['a', 'é', '€', '𐍈'] = none ∧
      Utf8.slice? 1 3 (Text.bytes ['a', 'é', '€', '𐍈']) = some [0xC3, 0xA9] ∧
      (Cursor.after ['a', 'é', '€', '𐍈'] [.advance, .advance]).now.since? 1 = some ['é'] ∧
      (Cursor.after ['a', 'é', '€', '𐍈'] [.advance, .advance]).now.since? 2 = none := by
  obtain ⟨hsome, hunique, hnone, hbytes, hcursor⟩ := slices_agree ['a', 'é', '€', '𐍈']
  have hcut : (Span.mk 1 6).CutsOut ['a', 'é', '€', '𐍈'] ['é', '€'] :=
    ⟨['a'], ['𐍈'], rfl, rfl, rfl⟩
  have hone : (Span.mk 1 3).slice? ['a', 'é', '€', '𐍈'] = some ['é'] :=
    (hsome _ _).2 ⟨['a'], ['€', '𐍈'], rfl, rfl, rfl⟩
  have hinside : Text.Splits ['a', 'é', '€', '𐍈'] 2 :=
    ⟨['a'], 'é', ['€', '𐍈'], rfl, by decide, by decide⟩
  refine ⟨(hsome _ _).2 hcut, fun u hu => hunique _ _ _ hcut hu,
    (hnone _).2 (Or.inr (Or.inr (Or.inl hinside))), (hnone _).2 (Or.inr (Or.inl (by decide))), ?_,
    (hcursor [.advance, .advance] 1).1.trans hone, (hcursor _ _).2.2 (Or.inr hinside)⟩
  have hrange := hbytes ⟨1, 3⟩
  rw [hone] at hrange
  exact hrange.symm.trans rfl

end MonkeyTokens
