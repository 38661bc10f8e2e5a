/- # Lines that show tokens

A token is shown on a line of its own: by kind and text in a session, in a listing with its span
too.  Names, texts and numbers are written with glyphs.  So the signs between them, a blank, a
quotation mark, a dot, stand only where the line puts them, and the line feed stands at its end;
what the line shows can be read back from it, and lines written one after the other can be told
apart.

* `Token.eq_of_entry_eq`: the line of a session tells kind and text.
* `Listing.line_eq`: the line of a listing, with the text as it is, for nothing in it is escaped.
* `Listing.eq_of_line_eq`: the line of a listing tells the token.
-/
import MonkeyTokens.Listing
import MonkeyTokens.Proofs.Glyphs
import MonkeyTokens.Proofs.LineCuts

namespace MonkeyTokens

/-! ## 1. Reading back -/

/-- What stands before the first occurrence of a sign, and what stands behind it. -/
theorem eq_of_append_cons_eq {α : Type} {m : α} {a b r s : List α} (ha : m ∉ a) (hb : m ∉ b)
    (h : a ++ m :: r = b ++ m :: s) : a = b ∧ r = s := by
  induction a generalizing b with
  | nil =>
    cases b with
    | nil => exact ⟨rfl, (List.cons.inj h).2⟩
    | cons y b => exact absurd (List.cons.inj h).1 (List.ne_of_not_mem_cons hb)
  | cons x a ih =>
    cases b with
    | nil => exact absurd (List.cons.inj h).1.symm (List.ne_of_not_mem_cons ha)
    | cons y b =>
      obtain ⟨rfl, htail⟩ := List.cons.inj h
      obtain ⟨rfl, rfl⟩ := ih (List.not_mem_of_not_mem_cons ha) (List.not_mem_of_not_mem_cons hb)
        htail
      exact ⟨rfl, rfl⟩

/-- What is no glyph is not in a text of glyphs. -/
theorem not_mem_of_isGlyph {t : Text} (h : ∀ c ∈ t, isGlyph c = true) {m : Char}
    (hm : isGlyph m = false) : m ∉ t :=
  fun hc => Bool.eq_false_iff.1 hm (h m hc)

/-- A kind is known from its name. -/
theorem Kind.eq_of_name_eq {k j : Kind} (h : k.name = j.name) : k = j := by
  have hall : ∀ k ∈ Kind.all, ∀ j ∈ Kind.all, k.name = j.name → k = j := by decide
  exact hall k k.mem_all j j.mem_all h

/-- A number is known from its digits. -/
theorem Text.eq_of_decimal_eq {m n : Nat} (h : decimal m = decimal n) : m = n := by
  have hm := number?_decimal m
  rw [h, number?_decimal] at hm
  exact (Option.some.inj hm).symm

/-- A number is written with glyphs. -/
theorem Text.isGlyph_of_mem_decimal {n : Nat} : ∀ c ∈ decimal n, isGlyph c = true := by
  intro c hc
  have hd : isDigit c = true := Nat.isDigit_of_mem_toDigits (by decide) (by decide) hc
  simp [isGlyph, hd]

/-! ## 2. Lines of a session -/

namespace Token

/-- The line that shows a token in a session. -/
def entry (t : Token) : Text :=
  "\x7bType:".toList ++ t.kind.name ++ " Literal:".toList ++ t.text ++ "\x7d\n".toList

/-- It is the one-line form of the token and a line feed. -/
theorem line_append_feed (t : Token) : t.line ++ "\n".toList = t.entry := by
  have hend : "\x7d".toList ++ "\n".toList = "\x7d\n".toList := by decide
  unfold line entry
  rw [List.append_assoc, hend]

theorem entry_eq (t : Token) :
    t.entry = "\x7bType:".toList ++ (t.kind.name ++ ' ' :: ("Literal:".toList ++
      (t.text ++ "\x7d\n".toList))) := by
  unfold entry
  simp

/-- The line of a session ends with its only line feed. -/
theorem exists_entry_eq {t : Token} (h : ∀ c ∈ t.text, isGlyph c = true) :
    ∃ w, t.entry = w ++ ['\n'] ∧ '\n' ∉ w := by
  refine ⟨t.line, t.line_append_feed.symm, ?_⟩
  have hname : '\n' ∉ t.kind.name := not_mem_of_isGlyph t.kind.isGlyph_of_mem_name (by decide)
  have htext : '\n' ∉ t.text := not_mem_of_isGlyph h (by decide)
  unfold line
  simp [hname, htext]

/-- **The line of a session tells kind and text.** -/
theorem eq_of_entry_eq {t u : Token} (h : t.entry = u.entry) :
    t.kind = u.kind ∧ t.text = u.text := by
  have hblank : ∀ k : Kind, ' ' ∉ k.name := fun k =>
    not_mem_of_isGlyph k.isGlyph_of_mem_name (by decide)
  rw [entry_eq, entry_eq] at h
  obtain ⟨hname, htail⟩ :=
    eq_of_append_cons_eq (hblank t.kind) (hblank u.kind) (List.append_cancel_left h)
  exact ⟨Kind.eq_of_name_eq hname, List.append_cancel_right (List.append_cancel_left htail)⟩

/-- The place of a token is not shown in a session. -/
@[simp] theorem entry_shift (n : Nat) (t : Token) : (t.shift n).entry = t.entry := rfl

end Token

/-! ## 3. Lines of a listing -/

namespace Listing

/-- **The line of a listing**: name, text and span as they are. -/
theorem line_eq {t : Token} (h : ∀ c ∈ t.text, isGlyph c = true) :
    line t = "  ".toList ++ t.kind.name ++ " \x22".toList ++ t.text ++ "\x22 @ ".toList ++
      Text.decimal t.span.start ++ "..".toList ++ Text.decimal t.span.stop ++ "\n".toList := by
  unfold line
  simp [Quoted.text_of_isGlyph h, Span.text]

/-- The line of a listing ends with its only line feed. -/
theorem exists_line_eq {t : Token} (h : ∀ c ∈ t.text, isGlyph c = true) :
    ∃ w, line t = w ++ ['\n'] ∧ '\n' ∉ w := by
  refine ⟨_, line_eq h, ?_⟩
  have hname : '\n' ∉ t.kind.name := not_mem_of_isGlyph t.kind.isGlyph_of_mem_name (by decide)
  have htext : '\n' ∉ t.text := not_mem_of_isGlyph h (by decide)
  have hnumber : ∀ n, '\n' ∉ Text.decimal n := fun n =>
    not_mem_of_isGlyph Text.isGlyph_of_mem_decimal (by decide)
  simp [hname, htext, hnumber]

/-- **The line of a listing tells the token.** -/
theorem eq_of_line_eq {t u : Token} (ht : ∀ c ∈ t.text, isGlyph c = true)
    (hu : ∀ c ∈ u.text, isGlyph c = true) (h : line t = line u) : t = u := by
  -- the line, cut before the signs that end what it shows: a blank, a quotation mark, a dot, a feed
  have hform : ∀ v : Token, (∀ c ∈ v.text, isGlyph c = true) →
      line v = "  ".toList ++ (v.kind.name ++ ' ' :: '\x22' :: (v.text ++ '\x22' ::
        (" @ ".toList ++ (Text.decimal v.span.start ++ '.' :: '.' ::
          (Text.decimal v.span.stop ++ ['\n']))))) := by
    intro v hv
    simp [line_eq hv]
  have hname : ∀ k : Kind, ' ' ∉ k.name := fun k =>
    not_mem_of_isGlyph k.isGlyph_of_mem_name (by decide)
  have hdot : ∀ n, '.' ∉ Text.decimal n := fun n =>
    not_mem_of_isGlyph Text.isGlyph_of_mem_decimal (by decide)
  rw [hform t ht, hform u hu] at h
  obtain ⟨hk, h⟩ :=
    eq_of_append_cons_eq (hname t.kind) (hname u.kind) (List.append_cancel_left h)
  obtain ⟨htext, h⟩ := eq_of_append_cons_eq (not_mem_of_isGlyph ht (by decide))
    (not_mem_of_isGlyph hu (by decide)) (List.cons.inj h).2
  obtain ⟨hstart, h⟩ := eq_of_append_cons_eq (hdot _) (hdot _) (List.append_cancel_left h)
  have hstop := List.append_cancel_right (List.cons.inj h).2
  obtain ⟨k, x, a, b⟩ := t
  obtain ⟨k', x', a', b'⟩ := u
  obtain rfl : k = k' := Kind.eq_of_name_eq hk
  obtain rfl : x = x' := htext
  obtain rfl : a = a' := Text.eq_of_decimal_eq hstart
  obtain rfl : b = b' := Text.eq_of_decimal_eq hstop
  rfl

end Listing

end MonkeyTokens
