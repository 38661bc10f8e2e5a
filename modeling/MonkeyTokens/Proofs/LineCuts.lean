/- # Where lines are cut

Cutting a list after each mark writes it as lines: each complete line ends with its only mark, and
the unfinished one has none.  There is no other way to write it so, hence what is known of some
lines that have this form is known of the cut.

* `Lines.isCut_cut` and `Lines.cut_join`: the cut has the form, and nothing else has it.
* `Lines.cut_bytes`: a text may be cut at its line feed characters or its bytes at the line feed
  bytes; no other character has this byte in its UTF-8 form.
-/
import MonkeyTokens.Text.Lines

namespace MonkeyTokens

/-! ## 1. The form of lines -/

namespace Lines

variable {α : Type}

/-- Each complete line ends with the mark and has it nowhere else; the unfinished line has it
nowhere. -/
structure IsCut (mark : α) (l : Lines α) : Prop where
  complete : ∀ p ∈ l.complete, ∃ w, p = w ++ [mark] ∧ mark ∉ w
  unfinished : mark ∉ l.unfinished

section

variable [DecidableEq α]

/-- A list without the mark is one unfinished line. -/
theorem cut_of_not_mem {mark : α} {w : List α} (h : mark ∉ w) : cut mark w = ⟨[], w⟩ := by
  induction w with
  | nil => rfl
  | cons x w ih =>
    obtain ⟨hx, hw⟩ := List.ne_and_not_mem_of_not_mem_cons h
    simp [cut, Ne.symm hx, ih hw, push]

/-- Up to its first mark a list is one line; the lines of the rest follow. -/
theorem cut_append_mark {mark : α} {w : List α} (h : mark ∉ w) (xs : List α) :
    cut mark (w ++ mark :: xs) =
      ⟨(w ++ [mark]) :: (cut mark xs).complete, (cut mark xs).unfinished⟩ := by
  induction w with
  | nil => simp [cut]
  | cons x w ih =>
    obtain ⟨hx, hw⟩ := List.ne_and_not_mem_of_not_mem_cons h
    rw [List.cons_append, cut, ih hw]
    simp [Ne.symm hx, push]

/-- Complete lines in front of a list are lines of the whole. -/
theorem all_cut_flatten_append {mark : α} {ps : List (List α)}
    (h : ∀ p ∈ ps, ∃ w, p = w ++ [mark] ∧ mark ∉ w) (xs : List α) :
    (cut mark (ps.flatten ++ xs)).all = ps ++ (cut mark xs).all := by
  induction ps with
  | nil => rfl
  | cons p ps ih =>
    obtain ⟨⟨w, rfl, hw⟩, hps⟩ := List.forall_mem_cons.1 h
    have hcut := cut_append_mark hw (ps.flatten ++ xs)
    have hflat : (((w ++ [mark]) :: ps).flatten ++ xs) = w ++ mark :: (ps.flatten ++ xs) := by simp
    rw [hflat, hcut, List.cons_append, ← ih hps]
    rfl

/-- **The cut has the form of lines.** -/
theorem isCut_cut (mark : α) (xs : List α) : (cut mark xs).IsCut mark := by
  induction xs with
  | nil => exact ⟨by simp [cut], by simp [cut]⟩
  | cons x xs ih =>
    by_cases hx : x = mark
    · subst hx
      have hcut : cut x (x :: xs) = ⟨[x] :: (cut x xs).complete, (cut x xs).unfinished⟩ :=
        cut_append_mark (w := []) (by simp) xs
      rw [hcut]
      refine ⟨?_, ih.unfinished⟩
      intro p hp
      rcases List.mem_cons.1 hp with rfl | hp
      · exact ⟨[], rfl, by simp⟩
      · exact ih.complete p hp
    · have hcut : cut mark (x :: xs) = (cut mark xs).push x := by simp [cut, hx]
      rw [hcut]
      generalize cut mark xs = l at ih
      obtain ⟨_ | ⟨p, ps⟩, u⟩ := l
      · exact ⟨by simp [push], by simpa [push, Ne.symm hx] using ih.unfinished⟩
      · refine ⟨?_, ih.unfinished⟩
        intro q hq
        rcases List.mem_cons.1 hq with rfl | hq
        · obtain ⟨w, rfl, hw⟩ := ih.complete p List.mem_cons_self
          exact ⟨x :: w, rfl, by simpa [Ne.symm hx] using hw⟩
        · exact ih.complete q (List.mem_cons_of_mem p hq)

/-- **Nothing else has the form of lines**: lines that have it are cut out of what they join to. -/
theorem cut_join {mark : α} {l : Lines α} (h : l.IsCut mark) : cut mark l.join = l := by
  obtain ⟨ps, u⟩ := l
  induction ps with
  | nil => simpa [join] using cut_of_not_mem h.unfinished
  | cons p ps ih =>
    obtain ⟨w, rfl, hw⟩ := h.complete p List.mem_cons_self
    have hrest : cut mark (join ⟨ps, u⟩) = ⟨ps, u⟩ :=
      ih ⟨fun q hq => h.complete q (List.mem_cons_of_mem _ hq), h.unfinished⟩
    have hjoin : join ⟨(w ++ [mark]) :: ps, u⟩ = w ++ mark :: join ⟨ps, u⟩ := by simp [join]
    rw [hjoin, cut_append_mark hw, hrest]

/-- Complete lines are known from what they join to. -/
theorem eq_of_flatten_eq {mark : α} {ps qs : List (List α)}
    (hp : ∀ p ∈ ps, ∃ w, p = w ++ [mark] ∧ mark ∉ w)
    (hq : ∀ q ∈ qs, ∃ w, q = w ++ [mark] ∧ mark ∉ w) (h : ps.flatten = qs.flatten) : ps = qs := by
  have hps := cut_join (l := ⟨ps, []⟩) ⟨hp, List.not_mem_nil⟩
  have hqs := cut_join (l := ⟨qs, []⟩) ⟨hq, List.not_mem_nil⟩
  simp only [join, List.append_nil, h] at hps hqs
  exact (Lines.mk.inj (hps.symm.trans hqs)).1

end

/-! ## 2. Lines of a text and lines of its bytes -/

/-- The lines in their UTF-8 form. -/
def bytes (l : Lines Char) : Lines UInt8 := ⟨l.complete.map Text.bytes, Text.bytes l.unfinished⟩

end Lines

/-- A byte below 128 is the UTF-8 form of one character, and in no longer form. -/
theorem toNat_eq_of_mem_utf8EncodeChar {c : Char} {b : UInt8} (h : b ∈ String.utf8EncodeChar c)
    (hb : b.toNat < 128) : c.toNat = b.toNat := by
  -- the bytes of the longer forms are all 128 or more
  have hlong : ∀ n, 128 ≤ n → n < 256 → b ≠ UInt8.ofNat n := by
    rintro n hn hn' rfl
    rw [UInt8.toNat_ofNat'] at hb
    omega
  dsimp only [String.utf8EncodeChar] at h
  split at h
  · next hle =>
    have hmod : c.val.toNat % 2 ^ 8 = c.val.toNat := Nat.mod_eq_of_lt (by omega)
    rw [List.mem_singleton.1 h, UInt8.toNat_ofNat', hmod]
    rfl
  · exfalso
    split at h
    · simp only [List.mem_cons, List.not_mem_nil, or_false] at h
      rcases h with h | h
      all_goals exact hlong _ (by omega) (by omega) h
    · split at h
      all_goals
        simp only [List.mem_cons, List.not_mem_nil, or_false] at h
      · rcases h with h | h | h
        all_goals exact hlong _ (by omega) (by omega) h
      · rcases h with h | h | h | h
        all_goals exact hlong _ (by omega) (by omega) h

/-- The line feed byte is in the UTF-8 form of the line feed character only. -/
theorem Text.lineFeed_mem_bytes {t : Text} : lineFeed ∈ t.bytes ↔ '\n' ∈ t := by
  rw [bytes, List.mem_flatMap]
  constructor
  · rintro ⟨c, hc, h⟩
    have hn : c = '\n' := Char.toNat_inj.1 (toNat_eq_of_mem_utf8EncodeChar h (by decide))
    rwa [← hn]
  · exact fun h => ⟨'\n', h, by decide⟩

namespace Lines

@[simp] theorem join_bytes (l : Lines Char) : l.bytes.join = Text.bytes l.join := by
  obtain ⟨ps, u⟩ := l
  induction ps with
  | nil => rfl
  | cons p ps ih => simpa [join, bytes] using ih

/-- **A text and its bytes have the same lines.** -/
theorem cut_bytes (t : Text) : cut lineFeed (Text.bytes t) = (cut '\n' t).bytes := by
  have hcut := isCut_cut '\n' t
  have hform : (cut '\n' t).bytes.IsCut lineFeed := by
    refine ⟨?_, ?_⟩
    · intro p hp
      obtain ⟨q, hq, rfl⟩ := List.mem_map.1 hp
      obtain ⟨w, rfl, hw⟩ := hcut.complete q hq
      exact ⟨Text.bytes w, Text.bytes_append w ['\n'], fun h => hw (Text.lineFeed_mem_bytes.1 h)⟩
    · exact fun h => hcut.unfinished (Text.lineFeed_mem_bytes.1 h)
  have h := cut_join hform
  rwa [join_bytes, join_cut] at h

theorem all_bytes (l : Lines Char) : l.bytes.all = l.all.map Text.bytes := by
  obtain ⟨ps, u⟩ := l
  cases u with
  | nil => simp [all, bytes]
  | cons c u => simp [all, bytes]

end Lines

end MonkeyTokens
