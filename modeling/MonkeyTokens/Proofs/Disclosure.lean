/- # What a listing discloses

A listing shows the tokens of a source, and from it they can be read back.  The tokens tell every
glyph of the source and where it stands.  Of the other characters they tell that they are blanks,
or that they are stray, and how many bytes they have, but not which ones they are.

* `Alike`: two characters that cannot be told apart by the tokens.
* `tokenize_eq_iff`: two sources have the same tokens exactly when they are alike, character by
  character.  One direction compares their layouts item by item; the other one lays out the second
  source as the first one is.
* `Listing.eq_of_flatMap_line_eq`: a listing tells its tokens.

Main statement: `Listing.deliver_ofSource_eq_iff`.
-/
import Mathlib.Data.List.Forall2
import MonkeyTokens.Proofs.Strays
import MonkeyTokens.Proofs.ShownLines

namespace MonkeyTokens

/-! ## 1. Characters that are alike -/

/-- The same character, or two blanks, or two stray characters of one size. -/
def Alike (c d : Char) : Prop :=
  c = d ∨ (isBlank c = true ∧ isBlank d = true) ∨
    (isStray c = true ∧ isStray d = true ∧ c.utf8Size = d.utf8Size)

instance : DecidableRel Alike := fun c d =>
  inferInstanceAs (Decidable (c = d ∨ (isBlank c = true ∧ isBlank d = true) ∨
    (isStray c = true ∧ isStray d = true ∧ c.utf8Size = d.utf8Size)))

theorem Alike.refl (c : Char) : Alike c c := Or.inl rfl

/-- Every blank has one byte. -/
theorem utf8Size_of_isBlank {c : Char} (h : isBlank c = true) : c.utf8Size = 1 := by
  simp only [isBlank, Bool.or_eq_true, decide_eq_true_eq] at h
  rcases h with ((rfl | rfl) | rfl) | rfl <;> decide

/-- Only glyphs are absorbed. -/
theorem Kind.isGlyph_of_absorbs {k : Kind} {c : Char} (h : k.absorbs c = true) :
    isGlyph c = true := by
  cases k with
  | ident =>
    have hc : isLetter c = true := h
    simp [isGlyph, hc]
  | keyword k =>
    have hc : isLetter c = true := h
    simp [isGlyph, hc]
  | int =>
    have hc : isDigit c = true := h
    simp [isGlyph, hc]
  | symbol s =>
    rw [absorbs_symbol, Bool.and_eq_true, decide_eq_true_eq] at h
    rw [h.2]
    decide
  | eof => exact absurd h (by simp [absorbs])
  | illegal => exact absurd h (by simp [absorbs])

namespace Alike

variable {c d : Char}

theorem utf8Size_eq (h : Alike c d) : c.utf8Size = d.utf8Size := by
  rcases h with rfl | ⟨hc, hd⟩ | ⟨-, -, hsize⟩
  · rfl
  · rw [utf8Size_of_isBlank hc, utf8Size_of_isBlank hd]
  · exact hsize

/-- **A glyph is like itself only.** -/
theorem eq_of_isGlyph (h : Alike c d) (hg : isGlyph c = true ∨ isGlyph d = true) : c = d := by
  rcases h with rfl | ⟨hc, hd⟩ | ⟨hc, hd, -⟩
  · rfl
  · rw [isGlyph_of_isBlank hc, isGlyph_of_isBlank hd] at hg
    simp at hg
  · simp only [isStray_eq, Bool.not_eq_true', Bool.or_eq_false_iff] at hc hd
    simp [hc.2, hd.2] at hg

theorem isBlank_of_isBlank (h : Alike c d) (hc : isBlank c = true) : isBlank d = true := by
  rcases h with rfl | ⟨-, hd⟩ | ⟨hs, -, -⟩
  · exact hc
  · exact hd
  · exact absurd hs (by simp [isStray_of_isBlank hc])

theorem isStray_of_isStray (h : Alike c d) (hc : isStray c = true) : isStray d = true := by
  rcases h with rfl | ⟨hb, -⟩ | ⟨-, hd, -⟩
  · exact hc
  · exact absurd hc (by simp [isStray_of_isBlank hb])
  · exact hd

/-- No kind tells them apart by absorbing one and not the other. -/
theorem absorbs_eq (h : Alike c d) (k : Kind) : k.absorbs c = k.absorbs d := by
  refine Bool.eq_iff_iff.2 ⟨fun hc => ?_, fun hd => ?_⟩
  · rwa [← h.eq_of_isGlyph (Or.inl (Kind.isGlyph_of_absorbs hc))]
  · rwa [h.eq_of_isGlyph (Or.inr (Kind.isGlyph_of_absorbs hd))]

end Alike

/-! ## 2. Texts that are alike -/

/-- The texts are alike, character by character. -/
def Text.Alike (s t : Text) : Prop := List.Forall₂ MonkeyTokens.Alike s t

namespace Text

theorem alike_refl (t : Text) : t.Alike t :=
  List.forall₂_same.2 fun c _ => MonkeyTokens.Alike.refl c

theorem Alike.append {a a' b b' : Text} (ha : a.Alike a') (hb : b.Alike b') :
    (a ++ b).Alike (a' ++ b') := List.rel_append ha hb

/-- What is like two texts, one after the other, is two such texts. -/
theorem Alike.exists_append {a b t : Text} (h : (a ++ b).Alike t) :
    ∃ a' b', t = a' ++ b' ∧ a.Alike a' ∧ b.Alike b' := by
  have htake := List.forall₂_take a.length h
  have hdrop := List.forall₂_drop a.length h
  rw [List.take_left] at htake
  rw [List.drop_left] at hdrop
  exact ⟨_, _, (List.take_append_drop _ _).symm, htake, hdrop⟩

/-- Texts that are alike start alike. -/
theorem Alike.exists_mem_head? {s t : Text} (h : s.Alike t) {d : Char} (hd : d ∈ t.head?) :
    ∃ c ∈ s.head?, MonkeyTokens.Alike c d := by
  cases h with
  | nil => simp at hd
  | cons hc _ =>
    obtain rfl := Option.some.inj hd
    exact ⟨_, rfl, hc⟩

theorem Alike.extent_eq {s t : Text} (h : s.Alike t) : s.extent = t.extent := by
  induction h with
  | nil => rfl
  | cons hc _ ih => rw [extent_cons, extent_cons, hc.utf8Size_eq, ih]

/-- What is like a text of glyphs is that text. -/
theorem Alike.eq_of_isGlyph {s t : Text} (h : s.Alike t) (hs : ∀ c ∈ s, isGlyph c = true) :
    s = t := by
  induction h with
  | nil => rfl
  | cons hc _ ih =>
    obtain ⟨hg, hs⟩ := List.forall_mem_cons.1 hs
    rw [hc.eq_of_isGlyph (Or.inl hg), ih hs]

theorem Alike.isBlank {s t : Text} (h : s.Alike t) (hs : ∀ c ∈ s, isBlank c = true) :
    ∀ d ∈ t, MonkeyTokens.isBlank d = true := by
  induction h with
  | nil => simp
  | cons hc _ ih =>
    obtain ⟨hb, hs⟩ := List.forall_mem_cons.1 hs
    exact List.forall_mem_cons.2 ⟨hc.isBlank_of_isBlank hb, ih hs⟩

/-- Blanks are as many as they have bytes. -/
theorem length_of_isBlank {w : Text} (h : ∀ c ∈ w, isBlank c = true) : w.length = w.extent := by
  induction w with
  | nil => rfl
  | cons c w ih =>
    obtain ⟨hc, hw⟩ := List.forall_mem_cons.1 h
    rw [List.length_cons, extent_cons, utf8Size_of_isBlank hc, ih hw, Nat.add_comm]

/-- Blanks of the same size are alike. -/
theorem alike_of_isBlank {w v : Text} (hw : ∀ c ∈ w, isBlank c = true)
    (hv : ∀ c ∈ v, isBlank c = true) (h : w.extent = v.extent) : w.Alike v := by
  refine List.forall₂_iff_get.2 ⟨?_, fun i hi hj => Or.inr (Or.inl ⟨?_, ?_⟩)⟩
  · rw [length_of_isBlank hw, length_of_isBlank hv, h]
  · exact hw _ (List.get_mem _ _)
  · exact hv _ (List.get_mem _ _)

end Text

/-! ## 3. Lexemes of one token -/

namespace Lexeme

/-- What a token tells of its lexeme: kind, text, place and size. -/
theorem of_token_eq {x y : Lexeme} {m n : Nat} (h : x.token m = y.token n) :
    x.kind = y.kind ∧ x.tokenText = y.tokenText ∧ m = n ∧ x.written.extent = y.written.extent := by
  obtain ⟨hkind, htext, hspan⟩ := Token.mk.inj h
  obtain ⟨rfl, hstop⟩ := Span.mk.inj hspan
  exact ⟨hkind, htext, rfl, Nat.add_left_cancel hstop⟩

/-- **Lexemes of one kind, token text and size are written alike.** -/
theorem alike_written {x y : Lexeme} (hx : x.IsProper) (hy : y.IsProper) (hk : x.kind = y.kind)
    (ht : x.tokenText = y.tokenText) (he : x.written.extent = y.written.extent) :
    x.written.Alike y.written := by
  rcases x.eq_stray_or with ⟨c, rfl⟩ | ⟨hxk, hxt⟩
  · rcases y.eq_stray_or with ⟨d, rfl⟩ | ⟨hyk, -⟩
    · have hsize : c.utf8Size = d.utf8Size := by simpa [written] using he
      exact List.Forall₂.cons (Or.inr (Or.inr ⟨hx, hy, hsize⟩)) List.Forall₂.nil
    · exact absurd hk.symm hyk
  · rcases y.eq_stray_or with ⟨d, rfl⟩ | ⟨-, hyt⟩
    · exact absurd hk hxk
    · rw [← hxt, ← hyt, ht]
      exact Text.alike_refl _

/-- **What is written like a lexeme is a lexeme with the same token.** -/
theorem exists_of_alike {x : Lexeme} {t : Text} (hx : x.IsProper) (h : x.written.Alike t) :
    ∃ y : Lexeme, y.IsProper ∧ y.written = t ∧ ∀ n, y.token n = x.token n := by
  rcases x.eq_stray_or with ⟨c, rfl⟩ | ⟨hk, -⟩
  · cases h with
    | cons hc hnil =>
      cases hnil
      next d =>
      refine ⟨stray d, hc.isStray_of_isStray hx, rfl, fun n => ?_⟩
      simp [token, kind, tokenText, written, hc.utf8Size_eq]
  · exact ⟨x, hx, h.eq_of_isGlyph (isGlyph_of_mem_written hx hk), fun n => rfl⟩

end Lexeme

/-! ## 4. Sources of the same tokens -/

namespace Layout

/-- **From tokens to characters**: plain layouts with the same tokens and of the same size are
written alike. -/
theorem alike_written {p q : List (Text × Lexeme)} {u v : Text} {n : Nat}
    (hp : IsPlain ⟨p, u⟩) (hq : IsPlain ⟨q, v⟩)
    (h : (spotsFrom n p).map Spot.token = (spotsFrom n q).map Spot.token)
    (he : (written ⟨p, u⟩).extent = (written ⟨q, v⟩).extent) :
    (written ⟨p, u⟩).Alike (written ⟨q, v⟩) := by
  induction p generalizing q n with
  | nil =>
    cases q with
    | nil => exact Text.alike_of_isBlank (isPlain_nil.1 hp) (isPlain_nil.1 hq) he
    | cons j q => simp [spotsFrom] at h
  | cons i p ih =>
    cases q with
    | nil => simp [spotsFrom] at h
    | cons j q =>
      obtain ⟨w, x⟩ := i
      obtain ⟨w', y⟩ := j
      obtain ⟨hw, hx, hp⟩ := isPlain_cons.1 hp
      obtain ⟨hw', hy, hq⟩ := isPlain_cons.1 hq
      obtain ⟨htoken, htail⟩ := List.cons.inj h
      obtain ⟨hkind, htext, hstart, hsize⟩ := Lexeme.of_token_eq htoken
      have hgap : w.extent = w'.extent := Nat.add_left_cancel hstart
      rw [Spot.stop, Spot.stop, hgap, hsize] at htail
      rw [written_cons, written_cons]
      simp only [written_cons, Text.extent_append, hgap, hsize] at he
      refine (Text.alike_of_isBlank hw hw' hgap).append ?_
      exact (Lexeme.alike_written hx hy hkind htext hsize).append (ih hp hq htail (by omega))

/-- **From characters to tokens**: what is written like a plain and settled layout is another one,
with the same tokens. -/
theorem exists_of_alike {p : List (Text × Lexeme)} {u t : Text} (hp : IsPlain ⟨p, u⟩)
    (hs : Settled p u) (h : (written ⟨p, u⟩).Alike t) :
    ∃ q v, IsPlain ⟨q, v⟩ ∧ Settled q v ∧ written ⟨q, v⟩ = t ∧
      ∀ n, (spotsFrom n q).map Spot.token = (spotsFrom n p).map Spot.token := by
  induction p generalizing t with
  | nil =>
    exact ⟨[], t, isPlain_nil.2 (h.isBlank (isPlain_nil.1 hp)), trivial, rfl, fun n => rfl⟩
  | cons i p ih =>
    obtain ⟨w, x⟩ := i
    obtain ⟨hw, hx, hp⟩ := isPlain_cons.1 hp
    rw [written_cons] at h
    obtain ⟨w', t', rfl, hgap, h⟩ := h.exists_append
    obtain ⟨m, r, rfl, hlexeme, hrest⟩ := h.exists_append
    obtain ⟨y, hy, rfl, htoken⟩ := Lexeme.exists_of_alike hx hlexeme
    obtain ⟨q, v, hq, hset, rfl, htail⟩ := ih hp hs.2 hrest
    have hkind : y.kind = x.kind := congrArg Token.kind (htoken 0)
    refine ⟨(w', y) :: q, v, isPlain_cons.2 ⟨hgap.isBlank hw, hy, hq⟩, ⟨?_, hset⟩,
      written_cons _ _ _ _, fun n => ?_⟩
    · -- what stands behind the lexeme is like what its twin does not absorb
      intro d hd
      obtain ⟨c, hc, hcd⟩ := hrest.exists_mem_head? hd
      rw [hkind, ← hcd.absorbs_eq]
      exact hs.1 c hc
    · simp only [spotsFrom, List.map_cons, Spot.token, Spot.stop, htoken, htail, hgap.extent_eq,
        hlexeme.extent_eq]

end Layout

/-- **Two sources have the same tokens exactly when they are alike.** -/
theorem tokenize_eq_iff {s t : Text} : tokenize s = tokenize t ↔ s.Alike t := by
  have hs := Layout.written_ofText s
  have ht := Layout.written_ofText t
  constructor
  · intro h
    rw [tokenize_eq, tokenize_eq] at h
    obtain ⟨hbody, hend⟩ := List.append_inj' h rfl
    have he : s.extent = t.extent :=
      congrArg (fun t => t.span.start) (List.singleton_inj.1 hend)
    have halike := Layout.alike_written (Layout.isPlain_ofText s) (Layout.isPlain_ofText t) hbody
      (by rw [hs, ht, he])
    rwa [hs, ht] at halike
  · intro h
    obtain ⟨q, v, hq, hset, hw, hspots⟩ :=
      Layout.exists_of_alike (Layout.isPlain_ofText s) (Layout.settled_ofText s) (hs.symm ▸ h)
    have hof : Layout.ofText t = ⟨q, v⟩ := hw ▸ Layout.ofText_written hq hset
    have htokens : (spots t).map Spot.token = (spots s).map Spot.token := by
      rw [spots, hof]
      exact hspots 0
    rw [tokenize_eq, tokenize_eq, htokens, h.extent_eq]

/-! ## 5. Listings -/

namespace Listing

/-- The lines of tokens, each on its own. -/
theorem exists_mem_map_line_eq {ts : List Token} (h : ∀ t ∈ ts, ∀ c ∈ t.text, isGlyph c = true) :
    ∀ l ∈ ts.map line, ∃ w, l = w ++ ['\n'] ∧ '\n' ∉ w :=
  List.forall_mem_map.2 fun t ht => exists_line_eq (h t ht)

/-- **A listing tells its tokens**, when their texts are of glyphs. -/
theorem eq_of_flatMap_line_eq {ts us : List Token}
    (ht : ∀ t ∈ ts, ∀ c ∈ t.text, isGlyph c = true)
    (hu : ∀ u ∈ us, ∀ c ∈ u.text, isGlyph c = true) (h : ts.flatMap line = us.flatMap line) :
    ts = us := by
  have hmap : ts.map line = us.map line :=
    Lines.eq_of_flatten_eq (exists_mem_map_line_eq ht) (exists_mem_map_line_eq hu)
      (by simpa only [List.flatMap_def] using h)
  clear h
  induction ts generalizing us with
  | nil => exact (List.map_eq_nil_iff.1 hmap.symm).symm
  | cons t ts ih =>
    cases us with
    | nil => exact absurd hmap (by simp)
    | cons u us =>
      obtain ⟨hline, hmap⟩ := List.cons.inj hmap
      obtain ⟨ht, hts⟩ := List.forall_mem_cons.1 ht
      obtain ⟨hu, hus⟩ := List.forall_mem_cons.1 hu
      rw [eq_of_line_eq ht hu hline, ih hts hus hmap]

/-- The listing of a source to an output that takes everything. -/
theorem deliver_ofSource (s : Text) :
    (ofSource false s).deliver .unbounded =
      (Text.bytes ((tokenize s).flatMap line), .ok (tokenize s).length) := by
  have hwrites : ∀ ts : List Token,
      (ts.map fun t => Event.write (line t)).flatMap Event.written = ts.flatMap line := by
    intro ts
    simp [List.flatMap_map, Event.written]
  rw [Run.deliver_unbounded, ofSource, if_neg (by simp)]
  simp only [Run.output, List.flatMap_append, Event.flatMap_written_log, hwrites,
    List.nil_append]

/-- **What a listing discloses.**  The listings of two sources are the same bytes exactly when the
sources have the same number of characters, and at each index the same character, or two blanks, or
two stray characters of the same size.  Then they report the same number of tokens too.

Every line of a listing shows name, text and span as they are, for nothing in the text is escaped;
and no other tokens whose texts are of glyphs have this listing. -/
theorem deliver_ofSource_eq_iff (s t : Text) :
    (((ofSource false s).deliver .unbounded).1 = ((ofSource false t).deliver .unbounded).1 ↔
      s.length = t.length ∧
        ∀ i (hi : i < s.length) (hj : i < t.length), Alike (s.get ⟨i, hi⟩) (t.get ⟨i, hj⟩)) ∧
    (((ofSource false s).deliver .unbounded).1 = ((ofSource false t).deliver .unbounded).1 →
      ((ofSource false s).deliver .unbounded).2 = ((ofSource false t).deliver .unbounded).2) ∧
    (∀ u ∈ tokenize s, line u =
      "  ".toList ++ u.kind.name ++ " \x22".toList ++ u.text ++ "\x22 @ ".toList ++
        Text.decimal u.span.start ++ "..".toList ++ Text.decimal u.span.stop ++ "\n".toList) ∧
    ((ofSource false s).deliver .unbounded).1 = Text.bytes ((tokenize s).flatMap line) ∧
    ∀ us : List Token, (∀ u ∈ us, ∀ c ∈ u.text, isGlyph c = true) →
      Text.bytes (us.flatMap line) = ((ofSource false s).deliver .unbounded).1 →
        us = tokenize s := by
  have htext : ∀ s : Text, ∀ u ∈ tokenize s, ∀ c ∈ u.text, isGlyph c = true := fun s u hu =>
    Token.isGlyph_of_mem_text hu
  have htokens : Text.bytes ((tokenize s).flatMap line) = Text.bytes ((tokenize t).flatMap line) ↔
      tokenize s = tokenize t := by
    refine ⟨fun h => ?_, fun h => by rw [h]⟩
    exact eq_of_flatMap_line_eq (htext s) (htext t) (Text.bytes_injective h)
  rw [deliver_ofSource, deliver_ofSource]
  refine ⟨?_, ?_, fun u hu => line_eq (htext s u hu), rfl, fun us hus h => ?_⟩
  · exact htokens.trans (tokenize_eq_iff.trans List.forall₂_iff_get)
  · intro h
    rw [htokens.1 h]
  · exact eq_of_flatMap_line_eq hus (htext s) (Text.bytes_injective h)

/-- Other blanks and other stray characters of the same size make no difference; a stray character
of another size does. -/
theorem deliver_ofSource_eq_strays :
    (ofSource false ['a', ' ', 'é']).deliver .unbounded =
        (ofSource false ['a', '\n', 'à']).deliver .unbounded ∧
      ((ofSource false ['a', ' ', 'é']).deliver .unbounded).1 ≠
        ((ofSource false ['a', ' ', '$']).deliver .unbounded).1 := by
  have hsame := (deliver_ofSource_eq_iff ['a', ' ', 'é'] ['a', '\n', 'à']).1.2 (by decide)
  refine ⟨Prod.ext hsame ((deliver_ofSource_eq_iff _ _).2.1 hsame), fun h => ?_⟩
  exact absurd ((deliver_ofSource_eq_iff ['a', ' ', 'é'] ['a', ' ', '$']).1.1 h) (by decide)

end Listing

end MonkeyTokens
