/- # The tokens of two texts written one after the other

The tokens of `a ++ b` are those of `a` and then those of `b`, unless the last token of `a` ends
where `a` ends and absorbs the first character of `b`: then the two texts *fuse*.  Texts that fuse
share one token; it is the last one of `a`, grown by what it absorbs from `b`, and the tokens of
what is left of `b` follow.

* `Layout.append` writes one layout after another; the blanks that meet become one gap.
* `Layout.ofText_append` reads it back when the texts do not fuse.
* `Layout.ofText_append_absorbed` reads the grown lexeme when they do.

Main statement: `body_append_iff` (both cases, and that the first equation holds in the first case
only).
-/
import MonkeyTokens.Proofs.Settled

namespace MonkeyTokens

/-! ## 1. Layouts one after the other -/

namespace Layout

/-- The layout with a text before it. -/
def indent (v : Text) (l : Layout) : Layout :=
  match l.items with
  | [] => ⟨[], v ++ l.trail⟩
  | (w, x) :: r => ⟨(v ++ w, x) :: r, l.trail⟩

/-- One layout after the other. -/
def append (l m : Layout) : Layout :=
  ⟨l.items ++ (m.indent l.trail).items, (m.indent l.trail).trail⟩

theorem written_indent (v : Text) (l : Layout) : (l.indent v).written = v ++ l.written := by
  obtain ⟨_ | ⟨⟨w, x⟩, r⟩, u⟩ := l
  · rfl
  · simp [indent]

theorem isPlain_indent {v : Text} {l : Layout} (hv : ∀ c ∈ v, isBlank c = true)
    (hl : l.IsPlain) : (l.indent v).IsPlain := by
  have happ : ∀ w : Text, (∀ c ∈ w, isBlank c = true) → ∀ c ∈ v ++ w, isBlank c = true := by
    intro w hw c hc
    rcases List.mem_append.1 hc with hc | hc
    · exact hv c hc
    · exact hw c hc
  obtain ⟨_ | ⟨⟨w, x⟩, r⟩, u⟩ := l
  · exact isPlain_nil.2 (happ u (isPlain_nil.1 hl))
  · obtain ⟨hw, hx, hr⟩ := isPlain_cons.1 hl
    exact isPlain_cons.2 ⟨happ w hw, hx, hr⟩

/-- What stands before the first lexeme does not matter to the lexemes. -/
theorem settled_indent {v : Text} {l : Layout} :
    Settled (l.indent v).items (l.indent v).trail ↔ Settled l.items l.trail := by
  obtain ⟨_ | ⟨⟨w, x⟩, r⟩, u⟩ := l
  · exact Iff.rfl
  · exact Iff.rfl

theorem spots_indent (v : Text) (l : Layout) :
    (l.indent v).spots = l.spots.map (Spot.shift v.extent) := by
  obtain ⟨_ | ⟨⟨w, x⟩, r⟩, u⟩ := l
  · rfl
  · simp [indent, spots, spotsFrom, Spot.shift, Spot.stop, Nat.add_assoc,
      spotsFrom_add v.extent]

theorem written_append_layout (l m : Layout) : (l.append m).written = l.written ++ m.written := by
  rw [append, written_append, written_indent, written_trail_append]

theorem isPlain_append {l m : Layout} (hl : l.IsPlain) (hm : m.IsPlain) :
    (l.append m).IsPlain := by
  have hi := isPlain_indent hl.blank_trail hm
  refine ⟨?_, ?_, hi.blank_trail⟩
  · intro p hp
    rcases List.mem_append.1 hp with hp | hp
    · exact hl.blank_gap p hp
    · exact hi.blank_gap p hp
  · intro p hp
    rcases List.mem_append.1 hp with hp | hp
    · exact hl.proper p hp
    · exact hi.proper p hp

theorem spots_append (l m : Layout) :
    (l.append m).spots = l.spots ++ m.spots.map (Spot.shift l.written.extent) := by
  have h := spotsFrom_add (written ⟨l.items, []⟩).extent 0 (m.indent l.trail).items
  have hw : (written ⟨l.items, []⟩).extent + l.trail.extent = l.written.extent := by
    rw [← Text.extent_append, ← written_trail_append, List.nil_append]
  have hm := spots_indent l.trail m
  rw [spots] at hm
  rw [append, spots, spotsFrom_append, Nat.zero_add, ← Nat.add_zero (Text.extent _), h, hm,
    List.map_map, ← hw]
  congr 2
  funext s
  simp [Spot.shift, Nat.add_assoc]

theorem settled_append_layout {l m : Layout} :
    Settled (l.append m).items (l.append m).trail ↔
      Settled l.items (l.trail ++ m.written) ∧ Settled m.items m.trail := by
  rw [← written_indent]
  exact settled_append.trans (and_congr Iff.rfl settled_indent)

/-- The last lexeme stands after all other items and its blanks. -/
theorem spotsFrom_concat (n : Nat) (p : List (Text × Lexeme)) (w : Text) (x : Lexeme) :
    spotsFrom n (p ++ [(w, x)]) = spotsFrom n p ++ [⟨n + (written ⟨p, w⟩).extent, x⟩] := by
  have hw : written ⟨p, w⟩ = written ⟨p, []⟩ ++ w := by
    rw [← written_trail_append, List.nil_append]
  simp [spotsFrom_append, spotsFrom, hw, Nat.add_assoc]

/-- A layout has one last lexeme, and one text behind it. -/
theorem last_eq_of_eq {p p' : List (Text × Lexeme)} {w w' u u' : Text} {x x' : Lexeme}
    (h : Layout.mk (p ++ [(w, x)]) u = ⟨p' ++ [(w', x')], u'⟩) : x = x' ∧ u = u' := by
  obtain ⟨hitems, hu⟩ := Layout.mk.inj h
  obtain ⟨-, hlast⟩ := List.append_inj' hitems rfl
  exact ⟨(Prod.mk.inj (List.singleton_inj.1 hlast)).2, hu⟩

/-- The items see only the first character of what follows them. -/
theorem settled_of_head?_eq {p : List (Text × Lexeme)} {u u' : Text} (hu : u.head? = u'.head?)
    (h : Settled p u) : Settled p u' := by
  induction p with
  | nil => trivial
  | cons i p ih =>
    obtain ⟨w, x⟩ := i
    refine ⟨?_, ih h.2⟩
    have hw : ∀ v : Text, (written ⟨p, v⟩).head? = (written ⟨p, []⟩).head?.or v.head? := by
      intro v
      rw [← List.head?_append, ← written_trail_append, List.nil_append]
    rw [hw, ← hu, ← hw]
    exact h.1

/-- A lexeme at the end sees what follows it; the items before it do not. -/
theorem settled_concat {p : List (Text × Lexeme)} {w u u' : Text} {x x' : Lexeme}
    (hx : x.IsProper) (hx' : ∃ v, x'.written = x.written ++ v)
    (h : Settled (p ++ [(w, x)]) u) (hnext : ∀ c ∈ u'.head?, x'.kind.absorbs c = false) :
    Settled (p ++ [(w, x')]) u' := by
  obtain ⟨v, hv⟩ := hx'
  obtain ⟨c, r, hc, -, -⟩ := Lexeme.leading_written_append hx
  refine settled_append.2 ⟨settled_of_head?_eq ?_ (settled_append.1 h).1, hnext, trivial⟩
  simp [hv, hc, List.head?_append]

/-- Items remain settled when more text follows, unless it follows the last lexeme at once and is
absorbed by it. -/
theorem settled_trail_append {l : Layout} {b : Text} (hp : l.IsPlain)
    (h : Settled l.items l.trail)
    (hlast : ∀ p w x, l = ⟨p ++ [(w, x)], []⟩ → ∀ c ∈ b.head?, x.kind.absorbs c = false) :
    Settled l.items (l.trail ++ b) := by
  obtain ⟨items, u⟩ := l
  cases u with
  | cons c u => exact settled_of_head?_eq (u := c :: u) rfl h
  | nil =>
    rcases List.eq_nil_or_concat items with rfl | ⟨p, ⟨w, x⟩, rfl⟩
    · trivial
    · rw [List.concat_eq_append] at h hp hlast ⊢
      exact settled_concat (hp.proper (w, x) (by simp)) ⟨[], by simp⟩ h (hlast p w x rfl)

end Layout

/-! ## 2. Texts that fuse -/

/-- The tokens of a text without the one of its end. -/
def body (source : Text) : List Token := (tokenize source).dropLast

theorem body_eq (source : Text) : body source = (spots source).map Spot.token := by
  rw [body, tokenize_eq, List.dropLast_concat]

/-- The last token of `a` ends where `a` ends, and absorbs the first character of `b`. -/
def Fuses (a b : Text) : Prop :=
  ∃ t ∈ (body a).getLast?, t.span.stop = a.extent ∧ ∃ c ∈ b.head?, t.kind.absorbs c = true

/-- To fuse, read off the layout of the first text: nothing is behind its last lexeme, which
absorbs what follows. -/
theorem fuses_iff {a b : Text} :
    Fuses a b ↔ ∃ p w x, Layout.ofText a = ⟨p ++ [(w, x)], []⟩ ∧
      ∃ c ∈ b.head?, x.kind.absorbs c = true := by
  have hwrit := Layout.written_ofText a
  rw [Fuses, body_eq, spots, Layout.spots]
  generalize Layout.ofText a = l at hwrit ⊢
  obtain ⟨items, u⟩ := l
  rcases List.eq_nil_or_concat items with rfl | ⟨p, ⟨w, x⟩, rfl⟩
  · simp [Layout.spotsFrom]
  rw [List.concat_eq_append] at hwrit ⊢
  have hlast : (List.map Spot.token (Layout.spotsFrom 0 (p ++ [(w, x)]))).getLast? =
      some (x.token (Layout.written ⟨p, w⟩).extent) := by
    simp [Layout.spotsFrom_concat, Spot.token]
  have hend : (x.token (Layout.written ⟨p, w⟩).extent).span.stop + u.extent = a.extent := by
    rw [← hwrit, Layout.written_concat, Text.extent_append, Text.extent_append, ← Nat.add_assoc]
    rfl
  rw [hlast]
  constructor
  · rintro ⟨t, ht, hstop, hc⟩
    obtain rfl := Option.some.inj ht
    have hu : u = [] := Text.extent_eq_zero_iff.1 (by omega)
    subst hu
    exact ⟨p, w, x, rfl, hc⟩
  · rintro ⟨p', w', x', hl, hc⟩
    obtain ⟨rfl, rfl⟩ := Layout.last_eq_of_eq hl
    exact ⟨_, rfl, hend, hc⟩

/-- **Texts that do not fuse are laid out one after the other.** -/
theorem Layout.ofText_append {a b : Text} (h : ¬ Fuses a b) :
    ofText (a ++ b) = (ofText a).append (ofText b) := by
  have hplain := isPlain_append (isPlain_ofText a) (isPlain_ofText b)
  have hwrit := written_append_layout (ofText a) (ofText b)
  rw [written_ofText, written_ofText] at hwrit
  rw [← hwrit]
  refine ofText_written hplain (settled_append_layout.2 ⟨?_, settled_ofText b⟩)
  rw [written_ofText]
  refine settled_trail_append (isPlain_ofText a) (settled_ofText a) ?_
  intro p w x hl c hc
  exact Bool.eq_false_iff.2 fun hx => h (fuses_iff.2 ⟨p, w, x, hl, c, hc, hx⟩)

/-- **The tokens of texts that do not fuse** are the ones of the first text, then the ones of the
second, moved. -/
theorem body_append_of_not_fuses {a b : Text} (h : ¬ Fuses a b) :
    body (a ++ b) = body a ++ (body b).map (Token.shift a.extent) := by
  have hs : spots (a ++ b) = spots a ++ (spots b).map (Spot.shift a.extent) := by
    rw [spots, Layout.ofText_append h, Layout.spots_append, Layout.written_ofText]
    rfl
  rw [body_eq, hs, body_eq, body_eq]
  simp [Function.comp_def]

/-! ## 3. What texts that fuse share -/

/-- A text that is one lexeme has one token. -/
theorem body_written {x : Lexeme} (hx : x.IsProper) : body x.written = [x.token 0] := by
  have hplain : Layout.IsPlain ⟨[([], x)], []⟩ :=
    Layout.isPlain_cons.2 ⟨by simp, hx, Layout.isPlain_nil.2 (by simp)⟩
  have hof := Layout.ofText_written hplain ⟨by simp, trivial⟩
  simp only [Layout.written_cons, Layout.written_nil, List.nil_append, List.append_nil] at hof
  rw [body_eq, spots, hof]
  rfl

/-- A lexeme that absorbs something is its own token text. -/
theorem Lexeme.tokenText_of_absorbs {x : Lexeme} {c : Char} (h : x.kind.absorbs c = true) :
    x.tokenText = x.written := by
  cases x with
  | stray d => exact absurd h (by simp [kind, Kind.absorbs])
  | _ => rfl

/-- **The layout of texts that fuse**: the last lexeme of the first text grows by what it absorbs,
and after that nothing fuses any more. -/
theorem Layout.ofText_append_absorbed {a b r : Text} {p : List (Text × Lexeme)} {w : Text}
    {x : Lexeme} (hl : ofText a = ⟨p ++ [(w, x)], []⟩) (hr : b = x.kind.absorbed b ++ r) :
    ofText (a ++ x.kind.absorbed b) = ⟨p ++ [(w, x.grow (x.kind.absorbed b))], []⟩ ∧
      ¬ Fuses (a ++ x.kind.absorbed b) r := by
  have hplain := isPlain_ofText a
  have hset := settled_ofText a
  have hwrit := written_ofText a
  rw [hl] at hplain hset hwrit
  obtain ⟨hp, hw, hx⟩ := isPlain_concat.1 hplain
  have hgrown : ofText (a ++ x.kind.absorbed b) =
      ⟨p ++ [(w, x.grow (x.kind.absorbed b))], []⟩ := by
    have htext : a ++ x.kind.absorbed b =
        written ⟨p ++ [(w, x.grow (x.kind.absorbed b))], []⟩ := by
      rw [← hwrit, written_concat, written_concat, Lexeme.written_grow, List.append_nil,
        List.append_nil, List.append_assoc]
    rw [htext]
    exact ofText_written (isPlain_concat.2 ⟨hp, hw, Lexeme.isProper_grow hx b⟩)
      (settled_concat hx ⟨_, Lexeme.written_grow x b⟩ hset (by simp))
  refine ⟨hgrown, ?_⟩
  intro hf
  obtain ⟨p', w', x', hl', c, hc, ha⟩ := fuses_iff.1 hf
  obtain ⟨rfl, -⟩ := last_eq_of_eq (hgrown.symm.trans hl')
  exact Bool.eq_false_iff.1 (Lexeme.not_absorbs_grow hx hr c hc) ha

/-- How two texts share a token: the tokens of `a` end with `t`, which absorbs `q` from `b` and
leaves `r`; the token `m` stands for both. -/
structure Shares (a b : Text) (ts : List Token) (t m : Token) (q r : Text) : Prop where
  body_left : body a = ts ++ [t]
  /-- What is absorbed: the longest run of letters or of digits, or one equals sign. -/
  absorbed : q = t.kind.absorbed b
  ne_nil : q ≠ []
  rest : b = q ++ r
  /-- The shared token is written over both. -/
  text : m.text = t.text ++ q
  span : m.span = ⟨t.span.start, a.extent + q.extent⟩
  /-- It is the token that its text has on its own. -/
  alone : body m.text = [{ m with span := ⟨0, m.text.extent⟩ }]
  /-- The tokens before it are those of `a`; behind it are those of what is left of `b`. -/
  body_append : body (a ++ b) = ts ++ [m] ++ (body r).map (Token.shift (a.extent + q.extent))

/-- **Texts that fuse share a token.** -/
theorem Fuses.exists_shares {a b : Text} (h : Fuses a b) :
    ∃ ts t m q r, Shares a b ts t m q r := by
  obtain ⟨p, w, x, hl, c, hc, ha⟩ := fuses_iff.1 h
  obtain ⟨r, hr⟩ := Kind.exists_absorbed_append x.kind b
  obtain ⟨hgrown, hnot⟩ := Layout.ofText_append_absorbed hl hr
  have hwrit := Layout.written_ofText a
  have hplain := Layout.isPlain_ofText a
  rw [hl] at hwrit hplain
  have hx := Lexeme.isProper_grow (hplain.proper (w, x) (by simp)) b
  have hextent : (x.grow (x.kind.absorbed b)).written.extent =
      x.written.extent + (x.kind.absorbed b).extent := by
    rw [Lexeme.written_grow, Text.extent_append]
  have ha' : (Layout.written ⟨p, w⟩).extent + x.written.extent = a.extent := by
    rw [← hwrit, Layout.written_concat, Text.extent_append, List.append_nil]
  have hbody : ∀ y : Lexeme, (Layout.spotsFrom 0 (p ++ [(w, y)])).map Spot.token =
      (Layout.spotsFrom 0 p).map Spot.token ++ [y.token (Layout.written ⟨p, w⟩).extent] := by
    intro y
    simp [Layout.spotsFrom_concat, Spot.token]
  refine ⟨(Layout.spotsFrom 0 p).map Spot.token, x.token (Layout.written ⟨p, w⟩).extent,
    (x.grow (x.kind.absorbed b)).token (Layout.written ⟨p, w⟩).extent, x.kind.absorbed b, r,
    ?_, rfl, Kind.absorbed_ne_nil hc ha, hr, Lexeme.tokenText_grow x b, ?_, ?_, ?_⟩
  · rw [body_eq, spots, hl, Layout.spots, hbody]
  · rw [Lexeme.token, hextent, ← ha', Nat.add_assoc]
    rfl
  · -- the token text is all of the lexeme, since the lexeme absorbs
    have htext : (x.grow (x.kind.absorbed b)).tokenText =
        (x.grow (x.kind.absorbed b)).written := by
      rw [Lexeme.tokenText_grow, Lexeme.tokenText_of_absorbs ha, Lexeme.written_grow]
    simp only [Lexeme.token, htext]
    rw [body_written hx, Lexeme.token, htext, Nat.zero_add]
  · have hab : a ++ b = a ++ x.kind.absorbed b ++ r := by rw [List.append_assoc, ← hr]
    rw [hab, body_append_of_not_fuses hnot, body_eq (a ++ _), spots, hgrown, Layout.spots, hbody,
      Text.extent_append]

/-- **The tokens of two texts written one after the other.**  The tokens of `a ++ b` are those of
`a`, then those of `b` moved by the length of `a`, exactly when the texts do not fuse.  When they
do, they share a token. -/
theorem body_append_iff (a b : Text) :
    (body (a ++ b) = body a ++ (body b).map (Token.shift a.extent) ↔ ¬ Fuses a b) ∧
      (Fuses a b → ∃ ts t m q r, Shares a b ts t m q r) := by
  refine ⟨⟨?_, body_append_of_not_fuses⟩, Fuses.exists_shares⟩
  -- a shared token is longer than the last one of `a`, which the equation puts in its place
  intro he hf
  obtain ⟨ts, t, m, q, r, hs⟩ := hf.exists_shares
  rw [hs.body_left, hs.body_append, List.append_assoc, List.append_assoc] at he
  have hm : m = t := (List.cons.inj (List.append_cancel_left he)).1
  have htext := hs.text
  rw [hm] at htext
  exact hs.ne_nil (List.self_eq_append_right.1 htext)

end MonkeyTokens
