/- # The lexical grammar

What the tokens of a text are, said without scanning it.  Every token covers a part of the text
that its kind spells, the parts stand in order, only blanks are left between them, and none of
them could be longer.  `Describes` lists these rules.

Main statement: `eq_tokenize_iff` (a list of tokens obeys the rules and ends with the end of the
text exactly when it is the list of the tokens of that text; so the rules leave no choice).

* One direction reads the rules off the layout of the text, which is plain and settled.
* The other one builds a layout from a list that obeys the rules, token by token
  (`Describes.exists_layout`).  That layout is plain and settled, so it is the one of the text.
-/
import MonkeyTokens.Proofs.Glyphs

namespace MonkeyTokens

/-! ## 1. The rules -/

/-- The character of a text that starts at byte `n`. -/
def Text.charAt? (n : Nat) (t : Text) : Option Char := (dropBytes? n t).bind List.head?

/-- Byte `k` is one of the bytes of the span. -/
def Span.Covers (s : Span) (k : Nat) : Prop := s.start ≤ k ∧ k < s.stop

/-- The texts that tokens of a kind are made of: a character outside the alphabet, letters that are
no reserved word, digits, and what the sheet of the kinds has for reserved words and symbols. -/
def Kind.Spells : Kind → Text → Prop
  | eof, m => m = []
  | illegal, m => ∃ c, m = [c] ∧ ¬ InAlphabet c
  | ident, m => (∀ c ∈ m, ('a' ≤ c ∧ c ≤ 'z') ∨ ('A' ≤ c ∧ c ≤ 'Z') ∨ c = '_') ∧
      ∀ w name, (keyword w, name, some m) ∉ sheet
  | int, m => ∀ c ∈ m, '0' ≤ c ∧ c ≤ '9'
  | symbol s, m => ∃ name, (symbol s, name, some m) ∈ sheet
  | keyword w, m => ∃ name, (keyword w, name, some m) ∈ sheet

/-- The rules that the tokens of a text obey, without the one of its end. -/
structure Describes (ts : List Token) (source : Text) : Prop where
  /-- The end of the text is none of them. -/
  not_eof : ∀ t ∈ ts, t.kind ≠ .eof
  /-- Every token covers something. -/
  nonempty : ∀ t ∈ ts, t.span.start < t.span.stop
  /-- They come in order and do not overlap. -/
  ordered : ts.Pairwise fun t u => t.span.stop ≤ u.span.start
  /-- Every byte that no token covers belongs to a blank. -/
  covered : ∀ (a : Text) (c : Char) (b : Text), source = a ++ c :: b →
    ∀ k, a.extent ≤ k → k < a.extent + c.utf8Size → (∀ t ∈ ts, ¬ t.span.Covers k) →
      c ∈ [' ', '\t', '\n', '\r']
  /-- A token starts and ends between characters.  Its kind spells the source there, which is its
  text as well; only a stray character has a fixed text in its place. -/
  spelled : ∀ t ∈ ts, ∃ m, t.span.slice? source = some m ∧ t.kind.Spells m ∧
    t.text = if t.kind = .illegal then "Illegal".toList else m
  /-- No token could be longer: the character after it is not absorbed. -/
  longest : ∀ t ∈ ts, ∀ c ∈ source.charAt? t.span.stop, t.kind.absorbs c = false

/-! ## 2. Lexemes and kinds -/

theorem Text.charAt?_append (a b : Text) : Text.charAt? a.extent (a ++ b) = b.head? := by
  have h : Text.dropBytes? a.extent (a ++ b) = some b :=
    Text.dropBytes?_eq_some_iff.2 ⟨a, rfl, rfl⟩
  simp [Text.charAt?, h]

/-- A keyword spells the word that is looked up as it, which is of letters. -/
theorem Kind.spells_keyword_iff {w : Keyword} {m : Text} :
    (keyword w).Spells m ↔ (∀ c ∈ m, isLetter c = true) ∧ ofWord m = keyword w := by
  rw [Spells, exists_mem_sheet_iff, fixedLexeme?, Option.some.injEq, ofWord_eq_elim]
  constructor
  · rintro rfl
    have hletters : w.word.all isLetter = true := by cases w <;> decide
    exact ⟨List.all_eq_true.1 hletters, by rw [Keyword.ofText?_eq_some_iff.2 rfl]; rfl⟩
  · rintro ⟨-, h⟩
    cases hm : Keyword.ofText? m with
    | none => simp [hm] at h
    | some v =>
      rw [hm, Option.elim_some, keyword.injEq] at h
      exact h ▸ Keyword.ofText?_eq_some_iff.1 hm

namespace Lexeme

/-- No lexeme is empty. -/
theorem extent_written_pos {x : Lexeme} (hx : x.IsProper) : 0 < x.written.extent := by
  obtain ⟨c, v, hc, -, -⟩ := leading_written_append hx
  have hpos := c.utf8Size_pos
  rw [hc, Text.extent_cons]
  omega

/-- Only a stray character has a token text of its own. -/
theorem tokenText_eq (x : Lexeme) :
    x.tokenText = if x.kind = .illegal then "Illegal".toList else x.written := by
  cases x with
  | word t =>
    rcases Kind.ofWord_eq t with h | ⟨k, h⟩
    · simp [kind, h, tokenText]
    · simp [kind, h, tokenText]
  | number t => rfl
  | mark s => rfl
  | stray c => rfl

/-- The kind of a lexeme spells it. -/
theorem spells_written {x : Lexeme} (hx : x.IsProper) : x.kind.Spells x.written := by
  cases x with
  | word t =>
    rcases Kind.ofWord_eq t with h | ⟨w, h⟩
    · rw [kind, h]
      refine ⟨fun c hc => isLetter_iff.1 (hx.2 c hc), fun w name hrow => ?_⟩
      have hkeyword := (Kind.spells_keyword_iff.1 ⟨name, hrow⟩).2
      exact Kind.noConfusion (h.symm.trans hkeyword)
    · rw [kind, h]
      exact Kind.spells_keyword_iff.2 ⟨hx.2, h⟩
  | number t => exact fun c hc => isDigit_iff.1 (hx.2 c hc)
  | mark s => exact Kind.exists_mem_sheet_iff.2 rfl
  | stray c => exact ⟨c, rfl, isStray_eq_true_iff.1 hx⟩

/-- **What a kind spells is a lexeme of that kind**, unless it is empty. -/
theorem exists_of_spells {k : Kind} {m : Text} (h : k.Spells m) (hm : m ≠ []) :
    ∃ x : Lexeme, x.IsProper ∧ x.kind = k ∧ x.written = m := by
  cases k with
  | eof => exact absurd h hm
  | illegal =>
    obtain ⟨c, rfl, hc⟩ := h
    exact ⟨stray c, isStray_eq_true_iff.2 hc, rfl, rfl⟩
  | ident =>
    obtain ⟨hletters, hfree⟩ := h
    have hword : ∀ c ∈ m, isLetter c = true := fun c hc => isLetter_iff.2 (hletters c hc)
    refine ⟨word m, ⟨hm, hword⟩, ?_, rfl⟩
    rcases Kind.ofWord_eq m with hident | ⟨w, hkeyword⟩
    · exact hident
    · obtain ⟨name, hrow⟩ := Kind.spells_keyword_iff.2 ⟨hword, hkeyword⟩
      exact absurd hrow (hfree w name)
  | int => exact ⟨number m, ⟨hm, fun c hc => isDigit_iff.2 (h c hc)⟩, rfl, rfl⟩
  | symbol s => exact ⟨mark s, trivial, rfl, Option.some.inj (Kind.exists_mem_sheet_iff.1 h)⟩
  | keyword w =>
    obtain ⟨hword, hkeyword⟩ := Kind.spells_keyword_iff.1 h
    exact ⟨word m, ⟨hm, hword⟩, hkeyword, rfl⟩

end Lexeme

/-! ## 3. The tokens of a text obey the rules -/

theorem describes_spots (source : Text) : Describes ((spots source).map Spot.token) source := by
  have hsplit : ∀ t ∈ (spots source).map Spot.token, ∃ s ∈ spots source, s.token = t :=
    fun t ht => List.mem_map.1 ht
  refine ⟨?_, ?_, ?_, ?_, ?_, ?_⟩
  · intro t ht
    obtain ⟨s, -, rfl⟩ := hsplit t ht
    exact Lexeme.kind_ne_eof s.lexeme
  · intro t ht
    obtain ⟨s, hs, rfl⟩ := hsplit t ht
    obtain ⟨a, b, -, -, hx, -⟩ := exists_split_of_mem_spots hs
    exact Nat.lt_add_of_pos_right (Lexeme.extent_written_pos hx)
  · exact List.pairwise_map.2 (Layout.pairwise_spotsFrom 0 _)
  · intro a c b h k hk hk' hnot
    rcases Layout.isBlank_or_exists_mem_spotsFrom (n := 0) (Layout.isPlain_ofText source)
      ((Layout.written_ofText source).trans h) with hc | ⟨s, hs, h1, h2⟩
    · exact isBlank_iff.1 hc
    · refine absurd ?_ (hnot s.token (List.mem_map_of_mem hs))
      exact ⟨Nat.le_trans h1 (by omega), Nat.lt_of_lt_of_le (by omega) h2⟩
  · intro t ht
    obtain ⟨s, hs, rfl⟩ := hsplit t ht
    obtain ⟨a, b, hab, ha, hx, -⟩ := exists_split_of_mem_spots hs
    refine ⟨s.lexeme.written, ?_, Lexeme.spells_written hx, Lexeme.tokenText_eq _⟩
    exact Text.slice?_eq_some_iff.2 ⟨a, b, by rw [hab, List.append_assoc], ha, by rw [ha]; rfl⟩
  · intro t ht c hc
    obtain ⟨s, hs, rfl⟩ := hsplit t ht
    obtain ⟨a, b, hab, ha, -, hnext⟩ := exists_split_of_mem_spots hs
    have hstop : s.token.span.stop = Text.extent (a ++ s.lexeme.written) := by
      rw [Text.extent_append, ha]
      rfl
    rw [hstop, hab, ← List.append_assoc, Text.charAt?_append] at hc
    exact hnext c hc

/-! ## 4. The rules leave no choice -/

/-- A front that is no longer than another one of the same text is a front of it. -/
theorem Text.exists_append_of_extent_le {a s p r : Text} (h : a ++ s = p ++ r)
    (hle : a.extent ≤ p.extent) : ∃ w, p = a ++ w ∧ s = w ++ r := by
  rcases List.append_eq_append_iff.1 h with ⟨w, hp, hs⟩ | ⟨w, ha, hr⟩
  · exact ⟨w, hp, hs⟩
  · have hw : w = [] := by
      rw [ha, Text.extent_append] at hle
      exact Text.extent_eq_zero_iff.1 (by omega)
    subst hw
    exact ⟨[], by simpa using ha.symm, by simpa using hr.symm⟩

/-- A character that every token leaves on one of its sides is a blank. -/
theorem Describes.isBlank_of_outside {ts : List Token} {source a b : Text} {c : Char}
    (h : Describes ts source) (hs : source = a ++ c :: b)
    (hout : ∀ t ∈ ts, t.span.stop ≤ a.extent ∨ a.extent < t.span.start) : isBlank c = true := by
  have hpos := c.utf8Size_pos
  refine isBlank_iff.2 (h.covered a c b hs a.extent (Nat.le_refl _) (by omega) ?_)
  intro t ht hc
  obtain ⟨h1, h2⟩ := hc
  rcases hout t ht with h3 | h3
  · omega
  · omega

/-- A token that obeys the rules is made by a lexeme that stands at its span. -/
theorem Describes.exists_lexeme {ts : List Token} {source : Text} {t : Token}
    (h : Describes ts source) (ht : t ∈ ts) :
    ∃ (p : Text) (x : Lexeme) (b : Text), source = p ++ (x.written ++ b) ∧
      t = x.token p.extent ∧ x.IsProper ∧ ∀ c ∈ b.head?, x.kind.absorbs c = false := by
  obtain ⟨m, hm, hspells, htext⟩ := h.spelled t ht
  obtain ⟨p, b, hp, hstart, hstop⟩ := Text.slice?_eq_some_iff.1 hm
  have hne : m ≠ [] := by
    rintro rfl
    have hlt := h.nonempty t ht
    rw [Text.extent_nil] at hstop
    omega
  obtain ⟨x, hx, hkind, rfl⟩ := Lexeme.exists_of_spells hspells hne
  have htoken : t = x.token p.extent := by
    rw [Lexeme.token, Lexeme.tokenText_eq, hkind, ← htext, hstop, hstart]
  refine ⟨p, x, b, by rw [hp, List.append_assoc], htoken, hx, ?_⟩
  intro c hc
  have hat : source.charAt? t.span.stop = b.head? := by
    rw [← hstop, ← Text.extent_append, hp, Text.charAt?_append]
  rw [hkind]
  exact h.longest t ht c (hat ▸ hc)

/-- **From a list that obeys the rules to a layout.**  The tokens `done` end before byte
`a.extent`, where the text `s` starts; the tokens `rest` are those of a plain and settled layout
of `s`. -/
theorem Describes.exists_layout {source : Text} {done rest : List Token} {a s : Text}
    (h : Describes (done ++ rest) source) (hs : source = a ++ s)
    (hdone : ∀ t ∈ done, t.span.stop ≤ a.extent)
    (hrest : ∀ t ∈ rest, a.extent ≤ t.span.start) :
    ∃ l : Layout, l.IsPlain ∧ Layout.Settled l.items l.trail ∧ l.written = s ∧
      (Layout.spotsFrom a.extent l.items).map Spot.token = rest := by
  induction rest generalizing done a s with
  | nil =>
    refine ⟨⟨[], s⟩, Layout.isPlain_nil.2 fun c hc => ?_, trivial, rfl, rfl⟩
    obtain ⟨u, v, rfl⟩ := List.append_of_mem hc
    refine h.isBlank_of_outside (a := a ++ u) (b := v) (by simp [hs]) fun t ht => Or.inl ?_
    have ht' := hdone t (by simpa using ht)
    rw [Text.extent_append]
    omega
  | cons t rest ih =>
    obtain ⟨p, x, b, hp, rfl, hx, hnext⟩ := h.exists_lexeme (t := t) (by simp)
    have hafter : ∀ u ∈ rest, p.extent + x.written.extent ≤ u.span.start :=
      (List.pairwise_cons.1 (List.pairwise_append.1 h.ordered).2.1).1
    -- `w` is what stands between this lexeme and the tokens before it
    obtain ⟨w, rfl, rfl⟩ := Text.exists_append_of_extent_le (hs.symm.trans hp)
      (hrest _ List.mem_cons_self)
    have hblank : ∀ c ∈ w, isBlank c = true := by
      intro c hc
      obtain ⟨u, v, rfl⟩ := List.append_of_mem hc
      have hpos := c.utf8Size_pos
      refine h.isBlank_of_outside (a := a ++ u) (b := v ++ (x.written ++ b)) (by simp [hs]) ?_
      intro t ht
      simp only [Text.extent_append, Text.extent_cons] at hafter ⊢
      rcases List.mem_append.1 ht with ht | ht
      · have h1 := hdone t ht
        omega
      · rcases List.mem_cons.1 ht with rfl | ht
        · simp only [Lexeme.token, Text.extent_append, Text.extent_cons]
          omega
        · have h1 := hafter t ht
          omega
    have hdone' : ∀ t ∈ done ++ [x.token (a ++ w).extent],
        t.span.stop ≤ Text.extent (a ++ w ++ x.written) := by
      intro t ht
      rw [Text.extent_append]
      rcases List.mem_append.1 ht with ht | ht
      · have h1 := hdone t ht
        rw [Text.extent_append]
        omega
      · rw [List.mem_singleton.1 ht]
        exact Nat.le_refl _
    have hrules : Describes (done ++ [x.token (a ++ w).extent] ++ rest) source := by
      simpa using h
    have hsource : source = a ++ w ++ x.written ++ b := by simp [hs]
    obtain ⟨l, hl, hset, rfl, hspots⟩ :=
      ih hrules hsource hdone' (by rwa [Text.extent_append])
    refine ⟨⟨(w, x) :: l.items, l.trail⟩, Layout.isPlain_cons.2 ⟨hblank, hx, hl⟩, ⟨hnext, hset⟩,
      Layout.written_cons _ _ _ _, ?_⟩
    simp only [Layout.spotsFrom, List.map_cons, Spot.token, Spot.stop, ← hspots,
      Text.extent_append]

/-- **The lexical grammar.**  A list is the list of the tokens of a text exactly when it ends with
the end of the text, at its length in bytes, and what stands before obeys the rules. -/
theorem eq_tokenize_iff {source : Text} {ts : List Token} :
    ts = tokenize source ↔
      ∃ body, ts = body ++ [⟨.eof, "eof".toList, ⟨source.extent, source.extent⟩⟩] ∧
        Describes body source := by
  constructor
  · rintro rfl
    exact ⟨_, tokenize_eq source, describes_spots source⟩
  · rintro ⟨body, rfl, h⟩
    obtain ⟨l, hp, hset, hw, hl⟩ :=
      Describes.exists_layout (a := []) (List.nil_append body ▸ h) rfl (by simp) (by simp)
    have hof : Layout.ofText source = l := hw ▸ Layout.ofText_written hp hset
    rw [tokenize_eq, spots, Layout.spots, hof, ← hl]
    rfl

end MonkeyTokens
