/- # Stray characters

Whether a character is stray does not depend on where it stands: it makes a token of its own, no
other lexeme takes it in, and the token covers that character alone.  So the stray tokens of a text
stand for its stray characters, and the first of one for the first of the other.

* `findSome?_stray_spots`: the first stray character is found by looking at the characters one by
  one.
* `find?_isIllegal_of_split`: the first stray token covers the first stray character, so nothing has
  to stand in for it when it is reported.

Main statement: `Listing.deliver_ofSource_strict` (a strict listing writes nothing when there is a
stray character, whatever the output, and is as good as any other listing when there is none).
-/
import MonkeyTokens.Listing
import MonkeyTokens.Proofs.Glyphs

namespace MonkeyTokens

/-! ## 1. The first stray character of a text -/

namespace Text

/-- The first stray character of a text that starts at byte `n`, and the offset where it stands. -/
def strayFrom? : Nat → Text → Option (Char × Nat)
  | _, [] => none
  | n, c :: t => if isStray c then some (c, n) else strayFrom? (n + c.utf8Size) t

/-- What holds no stray character is passed over. -/
theorem strayFrom?_append {w : Text} (hw : ∀ c ∈ w, isStray c = false) (n : Nat) (t : Text) :
    strayFrom? n (w ++ t) = strayFrom? (n + w.extent) t := by
  induction w generalizing n with
  | nil => rfl
  | cons c w ih =>
    have hc : isStray c = false := hw c List.mem_cons_self
    rw [List.cons_append, strayFrom?, hc, extent_cons, ← Nat.add_assoc]
    exact ih (fun d hd => hw d (List.mem_cons_of_mem c hd)) _

theorem strayFrom?_of_forall {t : Text} (h : ∀ c ∈ t, isStray c = false) (n : Nat) :
    strayFrom? n t = none := by
  simpa [strayFrom?] using strayFrom?_append h n []

theorem strayFrom?_of_split {a b : Text} {c : Char} (ha : ∀ d ∈ a, isStray d = false)
    (hc : isStray c = true) (n : Nat) :
    strayFrom? n (a ++ c :: b) = some (c, n + a.extent) := by
  simp [strayFrom?_append ha, strayFrom?, hc]

/-- A text has a first stray character, or it has none. -/
theorem forall_or_exists_stray (t : Text) :
    (∀ c ∈ t, isStray c = false) ∨
      ∃ a c b, t = a ++ c :: b ∧ (∀ d ∈ a, isStray d = false) ∧ isStray c = true := by
  induction t with
  | nil => exact Or.inl (by simp)
  | cons c t ih =>
    cases hc : isStray c with
    | true => exact Or.inr ⟨[], c, t, rfl, by simp, hc⟩
    | false =>
      rcases ih with h | ⟨a, d, b, rfl, ha, hd⟩
      · exact Or.inl (List.forall_mem_cons.2 ⟨hc, h⟩)
      · exact Or.inr ⟨c :: a, d, b, rfl, List.forall_mem_cons.2 ⟨hc, ha⟩, hd⟩

end Text

/-! ## 2. Stray characters and their tokens -/

namespace Spot

theorem stray?_eq_some_iff {s : Spot} {c : Char} : s.stray? = some c ↔ s.lexeme = .stray c := by
  unfold stray?
  split
  · next d hd => simp [hd]
  · next hn => simpa using hn c

theorem stray?_eq_none {s : Spot} (h : s.lexeme.kind ≠ .illegal) : s.stray? = none := by
  refine Option.eq_none_iff_forall_ne_some.2 fun c hc => h ?_
  rw [stray?_eq_some_iff.1 hc]
  rfl

theorem isEof_token (s : Spot) : s.token.isEof = false :=
  decide_eq_false (Lexeme.kind_ne_eof s.lexeme)

/-- The token of a lexeme is illegal when the lexeme is a stray character. -/
theorem isIllegal_token (s : Spot) : s.token.isIllegal = s.stray?.isSome := by
  rcases s.lexeme.eq_stray_or with ⟨c, hc⟩ | ⟨hk, -⟩
  · simp [stray?, token, Lexeme.token, Token.isIllegal, hc, Lexeme.kind]
  · simp [token, Lexeme.token, Token.isIllegal, hk, stray?_eq_none hk]

end Spot

/-- **Stray lexemes stand for stray characters**: the first ones of items are found in the text of
the items by looking at every character. -/
theorem Layout.findSome?_stray_spotsFrom {l : List (Text × Lexeme)} {u : Text}
    (h : IsPlain ⟨l, u⟩) (n : Nat) :
    ((spotsFrom n l).findSome? fun s => s.stray?.map fun c => (c, s.start)) =
      Text.strayFrom? n (written ⟨l, u⟩) := by
  induction l generalizing n with
  | nil =>
    rw [written_nil]
    exact (Text.strayFrom?_of_forall (fun c hc => isStray_of_isBlank (isPlain_nil.1 h c hc)) n).symm
  | cons i l ih =>
    obtain ⟨w, x⟩ := i
    obtain ⟨hw, hx, hr⟩ := isPlain_cons.1 h
    rw [written_cons, Text.strayFrom?_append fun c hc => isStray_of_isBlank (hw c hc)]
    rcases x.eq_stray_or with ⟨c, rfl⟩ | ⟨hk, -⟩
    · have hc : isStray c = true := hx
      simp [spotsFrom, Spot.stray?, Lexeme.written, Text.strayFrom?, hc]
    · have hglyphs : ∀ c ∈ x.written, isStray c = false := fun c hc =>
        isStray_of_isGlyph (Lexeme.isGlyph_of_mem_written hx hk c hc)
      rw [Text.strayFrom?_append hglyphs, ← ih hr]
      have hnone : Spot.stray? ⟨n + w.extent, x⟩ = none := Spot.stray?_eq_none hk
      simp [spotsFrom, hnone, Spot.stop]

/-- **The first stray character is found by looking at the characters one by one.** -/
theorem findSome?_stray_spots (source : Text) :
    ((spots source).findSome? fun s => s.stray?.map fun c => (c, s.start)) =
      Text.strayFrom? 0 source := by
  have h := Layout.findSome?_stray_spotsFrom (Layout.isPlain_ofText source) 0
  rwa [Layout.written_ofText] at h

/-- **A stray lexeme covers one stray character.** -/
theorem Spot.exists_split_of_stray? {source : Text} {s : Spot} {c : Char} (hs : s ∈ spots source)
    (hc : s.stray? = some c) :
    isStray c = true ∧ (∃ a b, source = a ++ c :: b ∧ Text.extent a = s.start) ∧
      s.token.span.slice? source = some [c] := by
  have hlexeme := stray?_eq_some_iff.1 hc
  obtain ⟨a, b, hab, ha, hx, -⟩ := exists_split_of_mem_spots hs
  rw [hlexeme] at hab hx
  refine ⟨hx, ⟨a, b, hab, ha⟩, Text.slice?_eq_some_iff.2 ⟨a, b, ?_, ha, ?_⟩⟩
  · rw [hab, List.append_assoc]
    rfl
  · rw [ha, token, Lexeme.token, hlexeme]
    rfl

/-- A stray token is that of a stray lexeme. -/
theorem Token.exists_stray?_of_isIllegal {source : Text} {t : Token} (ht : t ∈ tokenize source)
    (hi : t.isIllegal = true) : ∃ s ∈ spots source, s.token = t ∧ ∃ c, s.stray? = some c := by
  rw [tokenize_eq] at ht
  rcases List.mem_append.1 ht with ht | ht
  · obtain ⟨s, hs, rfl⟩ := List.mem_map.1 ht
    rw [Spot.isIllegal_token] at hi
    exact ⟨s, hs, rfl, Option.isSome_iff_exists.1 hi⟩
  · rw [List.mem_singleton.1 ht] at hi
    exact absurd hi (by simp [isIllegal, eof])

/-- **The first stray token stands for the first stray character.** -/
theorem find?_isIllegal_of_split {source a b : Text} {c : Char} (hs : source = a ++ c :: b)
    (ha : ∀ d ∈ a, isStray d = false) (hc : isStray c = true) :
    ∃ t, (tokenize source).find? Token.isIllegal = some t ∧ t.span.slice? source = some [c] ∧
      t.span.start = a.extent := by
  have hfirst := findSome?_stray_spots source
  rw [hs, Text.strayFrom?_of_split ha hc, Nat.zero_add, ← hs] at hfirst
  obtain ⟨before, s, after, hspots, hstray, hbefore⟩ := List.findSome?_eq_some_iff.1 hfirst
  obtain ⟨d, hd, hpair⟩ := Option.map_eq_some_iff.1 hstray
  obtain ⟨rfl, hstart⟩ := Prod.mk.inj hpair
  have htoken : s.token.isIllegal = true := by rw [Spot.isIllegal_token, hd]; rfl
  have hfind : (tokenize source).find? Token.isIllegal = some s.token := by
    refine List.find?_eq_some_iff_append.2 ⟨htoken, before.map Spot.token,
      after.map Spot.token ++ [Token.eof source.extent], by simp [tokenize_eq, hspots], ?_⟩
    intro t ht
    obtain ⟨r, hr, rfl⟩ := List.mem_map.1 ht
    have hnone : r.stray? = none := Option.map_eq_none_iff.1 (hbefore r hr)
    rw [Spot.isIllegal_token, hnone]
    rfl
  have hmem : s ∈ spots source := by simp [hspots]
  exact ⟨s.token, hfind, (Spot.exists_split_of_stray? hmem hd).2.2, hstart⟩

/-- There is a stray token when there is a stray character. -/
theorem exists_isIllegal_iff {source : Text} :
    (∃ t ∈ tokenize source, t.isIllegal = true) ↔ ∃ c ∈ source, isStray c = true := by
  constructor
  · rintro ⟨t, ht, hi⟩
    obtain ⟨s, hs, -, c, hc⟩ := Token.exists_stray?_of_isIllegal ht hi
    obtain ⟨hstray, ⟨a, b, hab, -⟩, -⟩ := Spot.exists_split_of_stray? hs hc
    exact ⟨c, by simp [hab], hstray⟩
  · rintro ⟨c, hmem, hc⟩
    rcases Text.forall_or_exists_stray source with h | ⟨a, d, b, hs, ha, hd⟩
    · exact absurd hc (by simp [h c hmem])
    · obtain ⟨t, ht, -⟩ := find?_isIllegal_of_split hs ha hd
      exact ⟨t, List.mem_of_find?_eq_some ht, List.find?_some ht⟩

/-- A text without a stray character has no stray token. -/
theorem isIllegal_of_forall {source : Text} (h : ∀ c ∈ source, isStray c = false) {t : Token}
    (ht : t ∈ tokenize source) : t.isIllegal = false := by
  refine Bool.eq_false_iff.2 fun hi => ?_
  obtain ⟨c, hc, hstray⟩ := exists_isIllegal_iff.1 ⟨t, ht, hi⟩
  exact Bool.eq_false_iff.1 (h c hc) hstray

/-- Nor has it a first one. -/
theorem find?_isIllegal_of_forall {source : Text} (h : ∀ c ∈ source, isStray c = false) :
    (tokenize source).find? Token.isIllegal = none :=
  List.find?_eq_none.2 fun _ ht => Bool.eq_false_iff.1 (isIllegal_of_forall h ht)

/-! ## 3. Strict listings -/

/-- The character that the span covers is reported, when it covers one. -/
theorem Token.complaint_of_slice {source : Text} {t : Token} {c : Char}
    (h : t.span.slice? source = some [c]) : t.complaint source = .stray c t.span.start := by
  rw [complaint, h]
  rfl

namespace Listing

/-- A strict listing that meets a stray character writes nothing, whatever the output. -/
theorem deliver_ofSource_of_split {source a b : Text} {c : Char} (hs : source = a ++ c :: b)
    (ha : ∀ d ∈ a, isStray d = false) (hc : isStray c = true) (sink : Sink) :
    (ofSource true source).deliver sink = ([], .error (.stray c a.extent)) := by
  obtain ⟨t, hfind, hslice, hstart⟩ := find?_isIllegal_of_split hs ha hc
  simp only [ofSource, hfind, Token.complaint_of_slice hslice, hstart, if_true, Run.deliver,
    Sink.deliver_map_log]

/-- A strict listing that meets none is as good as any other. -/
theorem ofSource_of_forall {source : Text} (h : ∀ c ∈ source, isStray c = false) :
    ofSource true source = ofSource false source := by
  simp [ofSource, find?_isIllegal_of_forall h]

/-- **Strict listings.**  Let `c` be the first character of a source that is not in the alphabet.
Whatever the output, a strict listing writes nothing to it and fails with `c` and its byte offset;
this is also what is read off the first stray token, whose span covers `c` and nothing else, so the
replacement character never stands in.  If all characters are in the alphabet, then a strict
listing writes and ends as any other does.  So a character that is reported stands in the source at
the offset reported. -/
theorem deliver_ofSource_strict (source : Text) (sink : Sink) :
    (∀ (a : Text) (c : Char) (b : Text), source = a ++ c :: b → (∀ d ∈ a, InAlphabet d) →
        ¬ InAlphabet c →
      (ofSource true source).deliver sink = ([], .error (.stray c a.extent)) ∧
        ∃ t, (tokenize source).find? Token.isIllegal = some t ∧
          t.span.slice? source = some [c] ∧ t.complaint source = .stray c a.extent) ∧
    ((∀ c ∈ source, InAlphabet c) →
      (ofSource true source).deliver sink = (ofSource false source).deliver sink) ∧
    ∀ c n, ((ofSource true source).deliver sink).2 = .error (.stray c n) →
      ∃ (a b : Text), source = a ++ c :: b ∧ a.extent = n := by
  have hstray : ∀ c, isStray c = true ↔ ¬ InAlphabet c := fun c => by
    rw [← isStray_eq_false_iff, Bool.not_eq_false]
  refine ⟨?_, ?_, ?_⟩
  · intro a c b hs ha hc
    have ha' : ∀ d ∈ a, isStray d = false := fun d hd => isStray_eq_false_iff.2 (ha d hd)
    obtain ⟨t, ht, hslice, hstart⟩ := find?_isIllegal_of_split hs ha' ((hstray c).2 hc)
    refine ⟨deliver_ofSource_of_split hs ha' ((hstray c).2 hc) sink, t, ht, hslice, ?_⟩
    rw [Token.complaint_of_slice hslice, hstart]
  · intro h
    rw [ofSource_of_forall fun c hc => isStray_eq_false_iff.2 (h c hc)]
  · intro c n h
    rcases Text.forall_or_exists_stray source with hall | ⟨a, d, b, hs, ha, hd⟩
    · rw [ofSource_of_forall hall] at h
      rcases (ofSource false source).deliver_snd sink with hr | ⟨cause, hr⟩
      · rw [hr] at h
        simp [ofSource] at h
      · simp [hr] at h
    · rw [deliver_ofSource_of_split hs ha hd] at h
      obtain ⟨rfl, rfl⟩ := Fault.stray.inj (Except.error.inj h)
      exact ⟨a, b, hs, rfl⟩

/-- To an output that takes nothing, the first of two stray characters is reported. -/
theorem deliver_ofSource_strict_closed :
    (ofSource true ['a', ' ', 'é', '$']).deliver ⟨some 0, some 0⟩ = ([], .error (.stray 'é' 2)) ∧
      ((ofSource true ['a', ';']).deliver ⟨some 3, none⟩ =
        (ofSource false ['a', ';']).deliver ⟨some 3, none⟩) := by
  have hall : ∀ c ∈ ['a', ';'], InAlphabet c := by
    rw [List.forall_mem_cons, List.forall_mem_singleton]
    decide
  have hbefore : ∀ d ∈ ['a', ' '], InAlphabet d := by
    rw [List.forall_mem_cons, List.forall_mem_singleton]
    decide
  refine ⟨?_, (deliver_ofSource_strict ['a', ';'] ⟨some 3, none⟩).2.1 hall⟩
  exact ((deliver_ofSource_strict ['a', ' ', 'é', '$'] ⟨some 0, some 0⟩).1 ['a', ' '] 'é' ['$'] rfl
    hbefore (by decide)).1

end Listing

end MonkeyTokens
