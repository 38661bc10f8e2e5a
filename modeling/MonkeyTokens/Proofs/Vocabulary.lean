/- # The vocabularies of the language

How a kind is written is said in four places: where words are looked up, in the table of reserved
words, in the fixed lexemes of kinds, and where texts are scanned.  Here they are shown to say the
same.

* `Keyword.kindOf?_eq_some_iff`: the table of reserved words holds what is looked up.
* `Lexeme.eq_of_written_eq`: a text is written by one lexeme at most.
* `Lexeme.fixedLexeme?_kind`: a lexeme whose kind has a fixed lexeme is written as that one.
* `Lexeme.isSome_fixedLexeme?_iff`: no other lexeme is written as a fixed lexeme.
* `tokenize_written`: a lexeme that stands alone is scanned as itself.

Main statement: `vocabularies_agree`.
-/
import MonkeyTokens.Proofs.Grammar

namespace MonkeyTokens

/-! ## 1. Reserved words -/

namespace Keyword

theorem table_eq : table = all.map fun k => (k.word, .keyword k) := rfl

theorem mem_table_iff {t : Text} {k : Kind} :
    (t, k) ∈ table ↔ ∃ w : Keyword, w.word = t ∧ .keyword w = k := by
  simp [table_eq, mem_all]

/-- **The table holds what is looked up.** -/
theorem kindOf?_eq_some_iff {t : Text} {k : Kind} : kindOf? t = some k ↔ (t, k) ∈ table := by
  rw [kindOf?_eq, mem_table_iff, Option.map_eq_some_iff]
  simp only [ofText?_eq_some_iff]

/-- **The table holds the fixed lexemes of the kinds of reserved words.** -/
theorem mem_table_iff_fixedLexeme? {t : Text} {k : Kind} :
    (t, k) ∈ table ↔ k.isKeyword = true ∧ k.fixedLexeme? = some t := by
  rw [mem_table_iff]
  constructor
  · rintro ⟨w, rfl, rfl⟩
    exact ⟨rfl, rfl⟩
  · rintro ⟨hkeyword, hlexeme⟩
    cases k with
    | keyword w => exact ⟨w, Option.some.inj hlexeme, rfl⟩
    | _ => simp [Kind.isKeyword] at hkeyword

end Keyword

/-! ## 2. Lexemes and fixed lexemes -/

namespace Lexeme

/-- **A text is written by one lexeme at most.** -/
theorem eq_of_written_eq {x y : Lexeme} (hx : x.IsProper) (hy : y.IsProper)
    (h : x.written = y.written) : x = y := by
  -- read from a text with nothing behind them, both are the longest lexeme
  have hlead : ∀ {z : Lexeme}, z.IsProper → ∃ c v, z.written = c :: v ∧ (leading c v).1 = z := by
    intro z hz
    obtain ⟨c, v, hc, -, hl⟩ := leading_written_append hz
    have hnil : z.kind.absorbed [] = [] := Kind.absorbed_eq_nil (by simp)
    have h := hl []
    rw [List.append_nil, hnil, grow_nil] at h
    exact ⟨c, v, hc, h⟩
  obtain ⟨c, v, hc, hcx⟩ := hlead hx
  obtain ⟨d, w, hd, hdy⟩ := hlead hy
  obtain ⟨rfl, rfl⟩ := List.cons.inj (hc.symm.trans (h.trans hd))
  exact hcx.symm.trans hdy

/-- A lexeme whose kind has a fixed lexeme is written as that one. -/
theorem fixedLexeme?_kind (x : Lexeme) {t : Text} (h : x.kind.fixedLexeme? = some t) :
    x.written = t := by
  cases x with
  | word letters =>
    rw [kind, Kind.ofWord_eq_elim] at h
    cases hw : Keyword.ofText? letters with
    | none => simp [hw, Kind.fixedLexeme?] at h
    | some w =>
      have hword : w.word = letters := Keyword.ofText?_eq_some_iff.1 hw
      simp only [hw, Option.elim_some, Kind.fixedLexeme?, Option.some.injEq] at h
      exact hword.symm.trans h
  | number digits => simp [kind, Kind.fixedLexeme?] at h
  | mark s => exact Option.some.inj h
  | stray c => simp [kind, Kind.fixedLexeme?] at h

/-- **A fixed lexeme is a lexeme of its kind.** -/
theorem exists_of_fixedLexeme? {k : Kind} {t : Text} (h : k.fixedLexeme? = some t) :
    ∃ x : Lexeme, x.IsProper ∧ x.kind = k ∧ x.written = t ∧ x.tokenText = t := by
  cases k with
  | symbol s => exact ⟨mark s, trivial, rfl, Option.some.inj h, Option.some.inj h⟩
  | keyword w =>
    obtain rfl : w.word = t := Option.some.inj h
    have hletters : w.word ≠ [] ∧ w.word.all isLetter = true := by cases w <;> decide
    have hkind : Kind.ofWord w.word = .keyword w := by
      rw [Kind.ofWord_eq_elim, Keyword.ofText?_eq_some_iff.2 rfl]
      rfl
    exact ⟨word w.word, ⟨hletters.1, List.all_eq_true.1 hletters.2⟩, hkind, rfl, rfl⟩
  | _ => simp [Kind.fixedLexeme?] at h

/-- **A lexeme has a kind with a fixed lexeme when it is written as a fixed lexeme**, be it that of
another kind. -/
theorem isSome_fixedLexeme?_iff {x : Lexeme} (hx : x.IsProper) :
    x.kind.fixedLexeme?.isSome = true ↔ ∃ k : Kind, k.fixedLexeme? = some x.written := by
  constructor
  · intro h
    obtain ⟨t, ht⟩ := Option.isSome_iff_exists.1 h
    exact ⟨x.kind, by rw [ht, x.fixedLexeme?_kind ht]⟩
  · rintro ⟨k, hk⟩
    obtain ⟨y, hy, rfl, hwritten, -⟩ := exists_of_fixedLexeme? hk
    rw [← eq_of_written_eq hy hx hwritten, hk]
    rfl

/-- A kind without a fixed lexeme, other than the sentinels, is that of a number or of a word that
is not reserved: the characters tell which one. -/
theorem kind_of_fixedLexeme?_eq_none {x : Lexeme} (hx : x.IsProper)
    (hkind : x.kind.isSentinel = false) (h : x.kind.fixedLexeme? = none) :
    (x.kind = .int ∨ x.kind = .ident) ∧
      (x.kind = .int ↔ ∀ c ∈ x.written, isDigit c = true) ∧
      (x.kind = .ident ↔ ∀ c ∈ x.written, isLetter c = true) := by
  have hneither : ∀ c, ¬ (isDigit c = true ∧ isLetter c = true) := fun c hc =>
    Bool.eq_false_iff.1 (isDigit_of_isLetter hc.2) hc.1
  cases x with
  | word letters =>
    rcases Kind.ofWord_eq letters with hword | ⟨w, hword⟩
    · obtain ⟨c, hc⟩ := List.exists_mem_of_ne_nil _ hx.1
      have hident : (word letters).kind = .ident := hword
      rw [hident]
      refine ⟨Or.inr rfl, iff_of_false (by decide) ?_, iff_of_true rfl hx.2⟩
      exact fun hdigits => hneither c ⟨hdigits c hc, hx.2 c hc⟩
    · simp [kind, hword, Kind.fixedLexeme?] at h
  | number digits =>
    obtain ⟨c, hc⟩ := List.exists_mem_of_ne_nil _ hx.1
    refine ⟨Or.inl rfl, iff_of_true rfl hx.2, iff_of_false Kind.noConfusion ?_⟩
    exact fun hletters => hneither c ⟨hx.2 c hc, hletters c hc⟩
  | mark s => simp [kind, Kind.fixedLexeme?] at h
  | stray c => simp [kind, Kind.isSentinel] at hkind

end Lexeme

/-- **A lexeme that stands alone is scanned as itself.** -/
theorem tokenize_written {x : Lexeme} (hx : x.IsProper) :
    tokenize x.written = [x.token 0, Token.eof x.written.extent] := by
  have hplain : Layout.IsPlain ⟨[([], x)], []⟩ :=
    Layout.isPlain_cons.2 ⟨by simp, hx, Layout.isPlain_nil.2 (by simp)⟩
  have hsettled : Layout.Settled [([], x)] [] := ⟨by simp, trivial⟩
  have hread := Layout.ofText_written hplain hsettled
  have hwritten : Layout.written ⟨[([], x)], []⟩ = x.written := by simp
  rw [hwritten] at hread
  simp [tokenize_eq, spots, hread, Layout.spots, Layout.spotsFrom, Spot.token]

/-- A token that is no sentinel is made by a lexeme, and its text is how that is written. -/
theorem Token.exists_lexeme_of_mem {source : Text} {t : Token} (ht : t ∈ tokenize source)
    (hkind : t.kind.isSentinel = false) :
    ∃ x : Lexeme, x.IsProper ∧ x.kind = t.kind ∧ x.written = t.text := by
  rw [tokenize_eq] at ht
  rcases List.mem_append.1 ht with ht | ht
  · obtain ⟨s, hs, rfl⟩ := List.mem_map.1 ht
    obtain ⟨-, -, -, -, hx, -⟩ := exists_split_of_mem_spots hs
    refine ⟨s.lexeme, hx, rfl, ?_⟩
    have hlegal : s.lexeme.kind ≠ .illegal := by
      intro h
      simp [Spot.token, Lexeme.token, h, Kind.isSentinel] at hkind
    exact (if_neg hlegal ▸ s.lexeme.tokenText_eq).symm
  · rw [List.mem_singleton.1 ht] at hkind
    simp [Token.eof, Kind.isSentinel] at hkind

/-- **The vocabularies agree.**  A text is looked up as a kind exactly when the table of reserved
words pairs the two, and exactly when that kind is the kind of a reserved word and has the text as
its fixed lexeme.  A token of any source that is no sentinel has a kind with a fixed lexeme exactly
when its text is the fixed lexeme of some kind; it is then that of its own.  All other tokens are
numbers, of digits, and identifiers, of letters.  And the fixed lexeme of a kind, scanned alone, is
one token of that kind. -/
theorem vocabularies_agree :
    (∀ (t : Text) (k : Kind),
      (Keyword.kindOf? t = some k ↔ (t, k) ∈ Keyword.table) ∧
        ((t, k) ∈ Keyword.table ↔ k.isKeyword = true ∧ k.fixedLexeme? = some t)) ∧
    (∀ t : Text, Keyword.kindOf? t = (Keyword.ofText? t).map Kind.keyword ∧
      Kind.ofWord t = (Keyword.kindOf? t).getD .ident) ∧
    (∀ (source : Text), ∀ t ∈ tokenize source, t.kind.isSentinel = false →
      (t.kind.fixedLexeme?.isSome = true ↔ ∃ k : Kind, k.fixedLexeme? = some t.text) ∧
      (t.kind.fixedLexeme?.isSome = true → t.kind.fixedLexeme? = some t.text) ∧
      (t.kind.fixedLexeme? = none →
        (t.kind = .int ∨ t.kind = .ident) ∧
          (t.kind = .int ↔ ∀ c ∈ t.text, isDigit c = true) ∧
          (t.kind = .ident ↔ ∀ c ∈ t.text, isLetter c = true))) ∧
    ∀ (k : Kind) (t : Text), k.fixedLexeme? = some t →
      tokenize t = [⟨k, t, ⟨0, t.extent⟩⟩, Token.eof t.extent] := by
  refine ⟨?_, ?_, ?_, ?_⟩
  · exact fun t k => ⟨Keyword.kindOf?_eq_some_iff, Keyword.mem_table_iff_fixedLexeme?⟩
  · exact fun t => ⟨Keyword.kindOf?_eq t, rfl⟩
  · intro source t ht hsentinel
    obtain ⟨x, hx, hkind, htext⟩ := Token.exists_lexeme_of_mem ht hsentinel
    rw [← hkind] at hsentinel
    rw [← hkind, ← htext]
    refine ⟨Lexeme.isSome_fixedLexeme?_iff hx, ?_,
      Lexeme.kind_of_fixedLexeme?_eq_none hx hsentinel⟩
    intro h
    obtain ⟨m, hm⟩ := Option.isSome_iff_exists.1 h
    rw [hm, x.fixedLexeme?_kind hm]
  · intro k t hk
    obtain ⟨x, hx, rfl, rfl, htext⟩ := Lexeme.exists_of_fixedLexeme? hk
    rw [tokenize_written hx, Lexeme.token, htext, Nat.zero_add]

/-- Two equals signs are the fixed lexeme of one kind, and the token of that kind. -/
theorem vocabularies_agree_equal :
    tokenize ['=', '='] = [⟨.symbol .equal, ['=', '='], ⟨0, 2⟩⟩, Token.eof 2] ∧
      (Kind.symbol .equal).fixedLexeme? = some ['=', '='] := by
  have hscan := vocabularies_agree.2.2.2 (.symbol .equal) ['=', '='] rfl
  refine ⟨hscan, ?_⟩
  exact (vocabularies_agree.2.2.1 ['=', '='] ⟨.symbol .equal, ['=', '='], ⟨0, 2⟩⟩
    (hscan ▸ List.mem_cons_self) rfl).2.1 rfl

end MonkeyTokens
