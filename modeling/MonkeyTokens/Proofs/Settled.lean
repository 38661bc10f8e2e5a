/- # Settled layouts

A layout may be written down by hand: any lexemes with any texts before, between and after them.
It is *plain* when these texts are blanks and the lexemes are lexemes of the language, and its
items are *settled* when no lexeme absorbs the character that is written after it.

Main statements:

* `Layout.ofText_written`: a plain and settled layout is the one that is read back from its text;
* `Layout.isPlain_ofText` and `Layout.settled_ofText`: a layout that is read from a text is plain
  and settled, so these two properties single it out;
* `exists_split_of_mem_spots`: where a lexeme of a text stands in it.
-/
import MonkeyTokens.Layout
import MonkeyTokens.Proofs.Munch

namespace MonkeyTokens

/-- A character of two texts written one after the other is in the first or in the second. -/
theorem Text.append_eq_append_cons {t u a b : Text} {c : Char} (h : t ++ u = a ++ c :: b) :
    (∃ b', t = a ++ c :: b' ∧ b = b' ++ u) ∨ ∃ a', a = t ++ a' ∧ u = a' ++ c :: b := by
  rcases List.append_eq_append_iff.1 h with ⟨a', ha, hu⟩ | ⟨b', ht, hb⟩
  · exact Or.inr ⟨a', ha, hu⟩
  · rcases List.cons_eq_append_iff.1 hb with ⟨rfl, hu⟩ | ⟨b'', rfl, hb'⟩
    · exact Or.inr ⟨[], by simpa using ht.symm, hu⟩
    · exact Or.inl ⟨b'', ht, hb'⟩

namespace Layout

/-! ## 1. Writing, item by item -/

@[simp] theorem written_nil (u : Text) : written ⟨[], u⟩ = u := rfl

@[simp] theorem written_cons (w u : Text) (x : Lexeme) (r : List (Text × Lexeme)) :
    written ⟨(w, x) :: r, u⟩ = w ++ (x.written ++ written ⟨r, u⟩) := by
  simp [written]

/-- What stands after the first items is written after them. -/
theorem written_append (p q : List (Text × Lexeme)) (u : Text) :
    written ⟨p ++ q, u⟩ = written ⟨p, written ⟨q, u⟩⟩ := by
  simp [written]

/-- What is added at the end is written at the end. -/
theorem written_trail_append (p : List (Text × Lexeme)) (u v : Text) :
    written ⟨p, u ++ v⟩ = written ⟨p, u⟩ ++ v := by
  simp [written]

theorem written_concat (p : List (Text × Lexeme)) (w u : Text) (x : Lexeme) :
    written ⟨p ++ [(w, x)], u⟩ = written ⟨p, w⟩ ++ (x.written ++ u) := by
  rw [written_append, written_cons, written_trail_append, written_nil]

/-! ## 2. Plain and settled -/

/-- Only blanks stand between the lexemes, and they are lexemes of the language. -/
structure IsPlain (l : Layout) : Prop where
  blank_gap : ∀ p ∈ l.items, ∀ c ∈ p.1, isBlank c = true
  proper : ∀ p ∈ l.items, p.2.IsProper
  blank_trail : ∀ c ∈ l.trail, isBlank c = true

instance : DecidablePred Lexeme.IsProper
  | .word t => decidable_of_iff (t ≠ [] ∧ t.all isLetter = true) (by simp [Lexeme.IsProper])
  | .number t => decidable_of_iff (t ≠ [] ∧ t.all isDigit = true) (by simp [Lexeme.IsProper])
  | .mark _ => inferInstanceAs (Decidable True)
  | .stray c => inferInstanceAs (Decidable (isStray c = true))

/-- The blanks are tested along the text: over all characters they could not be. -/
instance (l : Layout) : Decidable l.IsPlain :=
  decidable_of_iff
    ((∀ p ∈ l.items, p.1.all isBlank = true) ∧ (∀ p ∈ l.items, p.2.IsProper) ∧
      l.trail.all isBlank = true)
    ⟨fun h => ⟨fun p hp => List.all_eq_true.1 (h.1 p hp), h.2.1, List.all_eq_true.1 h.2.2⟩,
      fun h => ⟨fun p hp => List.all_eq_true.2 (h.blank_gap p hp), h.proper,
        List.all_eq_true.2 h.blank_trail⟩⟩

/-- No lexeme of the items absorbs the character after it; `u` is the text after the last. -/
def Settled : List (Text × Lexeme) → Text → Prop
  | [], _ => True
  | (_, x) :: r, u =>
    (∀ c ∈ (written ⟨r, u⟩).head?, x.kind.absorbs c = false) ∧ Settled r u

theorem isPlain_nil {u : Text} : IsPlain ⟨[], u⟩ ↔ ∀ c ∈ u, isBlank c = true :=
  ⟨fun h => h.blank_trail, fun h => ⟨by simp, by simp, h⟩⟩

theorem isPlain_cons {w u : Text} {x : Lexeme} {r : List (Text × Lexeme)} :
    IsPlain ⟨(w, x) :: r, u⟩ ↔
      (∀ c ∈ w, isBlank c = true) ∧ x.IsProper ∧ IsPlain ⟨r, u⟩ := by
  constructor
  · intro h
    exact ⟨h.blank_gap _ List.mem_cons_self, h.proper _ List.mem_cons_self,
      fun p hp => h.blank_gap p (List.mem_cons_of_mem _ hp),
      fun p hp => h.proper p (List.mem_cons_of_mem _ hp), h.blank_trail⟩
  · rintro ⟨hw, hx, h⟩
    refine ⟨?_, ?_, h.blank_trail⟩
    · intro p hp
      rcases List.mem_cons.1 hp with rfl | hp
      · exact hw
      · exact h.blank_gap p hp
    · intro p hp
      rcases List.mem_cons.1 hp with rfl | hp
      · exact hx
      · exact h.proper p hp

theorem isPlain_concat {p : List (Text × Lexeme)} {w u : Text} {x : Lexeme} :
    IsPlain ⟨p ++ [(w, x)], u⟩ ↔
      IsPlain ⟨p, u⟩ ∧ (∀ c ∈ w, isBlank c = true) ∧ x.IsProper := by
  induction p with
  | nil =>
    simp only [List.nil_append, isPlain_cons, isPlain_nil, and_assoc, and_comm, and_left_comm]
  | cons i p ih =>
    obtain ⟨w', x'⟩ := i
    rw [List.cons_append, isPlain_cons, isPlain_cons, ih, and_assoc, and_assoc]

/-- To be settled is checked item by item: the first items see what is written after them. -/
theorem settled_append {p q : List (Text × Lexeme)} {u : Text} :
    Settled (p ++ q) u ↔ Settled p (written ⟨q, u⟩) ∧ Settled q u := by
  induction p with
  | nil => simp [Settled]
  | cons i p ih => simp only [List.cons_append, Settled, ih, written_append, and_assoc]

/-! ## 3. The one layout that is read back -/

/-- Blanks in front of another character are dropped, no more and no less. -/
theorem dropWhile_isBlank_append {w : Text} (hw : ∀ c ∈ w, isBlank c = true) {d : Char}
    (hd : isBlank d = false) (r : Text) :
    (w ++ d :: r).dropWhile isBlank = d :: r ∧ (w ++ d :: r).takeWhile isBlank = w := by
  simp [List.dropWhile_append_of_pos hw, List.takeWhile_append_of_pos hw, hd]

/-- A text of which nothing is left without its first blanks is all blanks. -/
theorem forall_isBlank_of_dropWhile_eq_nil {t : Text} (h : t.dropWhile isBlank = []) :
    ∀ c ∈ t, isBlank c = true := by
  have ht := List.takeWhile_append_dropWhile (p := isBlank) (l := t)
  rw [h, List.append_nil] at ht
  rw [← ht]
  exact List.all_eq_true.1 List.all_takeWhile

/-- A text that starts with blanks and a lexeme: the first item that is read is this lexeme, grown
by what it absorbs. -/
theorem ofText_gap_append {w r r' : Text} {x : Lexeme} (hw : ∀ c ∈ w, isBlank c = true)
    (hx : x.IsProper) (hr : r = x.kind.absorbed r ++ r') :
    ofText (w ++ (x.written ++ r)) =
      ⟨(w, x.grow (x.kind.absorbed r)) :: (ofText r').items, (ofText r').trail⟩ := by
  obtain ⟨c, v, r'', hc, hb, hr', hl⟩ := Lexeme.leading_eq_grow hx r
  obtain ⟨hdrop, htake⟩ := dropWhile_isBlank_append hw hb (v ++ r)
  rw [hc, List.cons_append, ofText_of_cons hdrop, htake, hl]
  rw [List.append_cancel_left (hr.symm.trans hr')]

/-- **A plain and settled layout is read back from its text.** -/
theorem ofText_written {l : Layout} (hp : l.IsPlain) (hs : Settled l.items l.trail) :
    ofText l.written = l := by
  obtain ⟨items, u⟩ := l
  induction items with
  | nil =>
    apply ofText_of_blank
    have h : (u ++ []).dropWhile isBlank = [] :=
      List.dropWhile_append_of_pos (isPlain_nil.1 hp)
    simpa using h
  | cons i r ih =>
    obtain ⟨w, x⟩ := i
    obtain ⟨hw, hx, hr⟩ := isPlain_cons.1 hp
    have hnil : x.kind.absorbed (written ⟨r, u⟩) = [] := Kind.absorbed_eq_nil hs.1
    have hcut : written ⟨r, u⟩ = x.kind.absorbed (written ⟨r, u⟩) ++ written ⟨r, u⟩ := by
      rw [hnil, List.nil_append]
    rw [written_cons, ofText_gap_append hw hx hcut, hnil, Lexeme.grow_nil, ih hr hs.2]

/-- **A layout that is read from a text is plain.** -/
theorem isPlain_ofText (t : Text) : (ofText t).IsPlain := by
  fun_induction ofText t with
  | case1 t h => exact isPlain_nil.2 (forall_isBlank_of_dropWhile_eq_nil h)
  | case2 t c r h rest ih =>
    have hc : isBlank c = false := by
      have hh := List.head?_dropWhile_not isBlank t
      rwa [h] at hh
    have hw : ∀ d ∈ t.takeWhile isBlank, isBlank d = true :=
      List.all_eq_true.1 List.all_takeWhile
    exact isPlain_cons.2 ⟨hw, Lexeme.isProper_leading r hc, ih⟩

/-- **A layout that is read from a text is settled.** -/
theorem settled_ofText (t : Text) : Settled (ofText t).items (ofText t).trail := by
  fun_induction ofText t with
  | case1 t h => trivial
  | case2 t c r h rest ih =>
    refine ⟨?_, ih⟩
    have hr : written ⟨rest.items, rest.trail⟩ = (Lexeme.leading c r).2 :=
      written_ofText (Lexeme.leading c r).2
    rw [hr]
    exact Lexeme.not_absorbs_leading c r

end Layout

/-! ## 4. Where the lexemes stand -/

theorem Lexeme.shift_token (m n : Nat) (x : Lexeme) : (x.token n).shift m = x.token (m + n) := by
  simp [token, Token.shift, Span.shift, Nat.add_assoc]

namespace Spot

/-- The lexeme moved `n` bytes on. -/
def shift (n : Nat) (s : Spot) : Spot := ⟨n + s.start, s.lexeme⟩

@[simp] theorem token_shift (n : Nat) (s : Spot) : (s.shift n).token = s.token.shift n :=
  (Lexeme.shift_token n s.start s.lexeme).symm

end Spot

namespace Layout

/-- The lexemes are those of the items, wherever these start. -/
theorem map_lexeme_spotsFrom (n : Nat) (p : List (Text × Lexeme)) :
    (spotsFrom n p).map Spot.lexeme = p.map Prod.snd := by
  induction p generalizing n with
  | nil => rfl
  | cons i p ih => simp only [spotsFrom, List.map_cons, ih]

/-- The items further on are the same lexemes, moved. -/
theorem spotsFrom_add (n k : Nat) (p : List (Text × Lexeme)) :
    spotsFrom (n + k) p = (spotsFrom k p).map (Spot.shift n) := by
  induction p generalizing k with
  | nil => rfl
  | cons i p ih =>
    obtain ⟨w, x⟩ := i
    simp only [spotsFrom, List.map_cons, Spot.shift, Spot.stop, Nat.add_assoc, ← ih]

/-- The items after the first ones start where these end. -/
theorem spotsFrom_append (n : Nat) (p q : List (Text × Lexeme)) :
    spotsFrom n (p ++ q) =
      spotsFrom n p ++ spotsFrom (n + (written ⟨p, []⟩).extent) q := by
  induction p generalizing n with
  | nil => simp [spotsFrom]
  | cons i p ih =>
    obtain ⟨w, x⟩ := i
    simp [spotsFrom, ih, Spot.stop, Nat.add_assoc]

/-- A lexeme stands after the items and the blanks before it. -/
theorem exists_items_of_mem_spotsFrom {n : Nat} {l : List (Text × Lexeme)} {s : Spot}
    (h : s ∈ spotsFrom n l) :
    ∃ p w q, l = p ++ (w, s.lexeme) :: q ∧ s.start = n + (written ⟨p, w⟩).extent := by
  induction l generalizing n with
  | nil => simp [spotsFrom] at h
  | cons i l ih =>
    obtain ⟨w, x⟩ := i
    rcases List.mem_cons.1 h with rfl | h
    · exact ⟨[], w, l, rfl, by simp⟩
    · obtain ⟨p, w', q, rfl, hs⟩ := ih h
      refine ⟨(w, x) :: p, w', q, rfl, ?_⟩
      rw [hs]
      simp [Spot.stop, Nat.add_assoc]

/-- No lexeme starts before the first item. -/
theorem le_start_of_mem_spotsFrom {n : Nat} {l : List (Text × Lexeme)} {s : Spot}
    (h : s ∈ spotsFrom n l) : n ≤ s.start := by
  obtain ⟨p, w, q, -, hs⟩ := exists_items_of_mem_spotsFrom h
  omega

/-- **Nothing but blanks stands outside the lexemes.** -/
theorem isBlank_or_exists_mem_spotsFrom {n : Nat} {l : List (Text × Lexeme)} {u a b : Text}
    {c : Char} (hp : IsPlain ⟨l, u⟩) (h : written ⟨l, u⟩ = a ++ c :: b) :
    isBlank c = true ∨
      ∃ s ∈ spotsFrom n l, s.start ≤ n + a.extent ∧ n + a.extent + c.utf8Size ≤ s.stop := by
  induction l generalizing n a with
  | nil =>
    rw [written_nil] at h
    exact Or.inl (isPlain_nil.1 hp c (by simp [h]))
  | cons i l ih =>
    obtain ⟨w, x⟩ := i
    obtain ⟨hw, -, hr⟩ := isPlain_cons.1 hp
    rw [written_cons] at h
    rcases Text.append_eq_append_cons h with ⟨b', hb, -⟩ | ⟨a', rfl, h'⟩
    · exact Or.inl (hw c (by simp [hb]))
    rcases Text.append_eq_append_cons h' with ⟨b', hb, -⟩ | ⟨a', rfl, hrest⟩
    · refine Or.inr ⟨⟨n + w.extent, x⟩, List.mem_cons_self, ?_, ?_⟩
      · simp only [Text.extent_append]
        omega
      · simp only [Spot.stop, hb, Text.extent_append, Text.extent_cons]
        omega
    · rcases ih (n := n + w.extent + x.written.extent) hr hrest with hc | ⟨s, hs, h1, h2⟩
      · exact Or.inl hc
      · refine Or.inr ⟨s, List.mem_cons_of_mem _ hs, ?_, ?_⟩
        · simp only [Text.extent_append]
          omega
        · simp only [Text.extent_append]
          omega

/-- **Lexemes stand one after the other.** -/
theorem pairwise_spotsFrom (n : Nat) (l : List (Text × Lexeme)) :
    (spotsFrom n l).Pairwise fun s t => s.stop ≤ t.start := by
  induction l generalizing n with
  | nil => exact List.Pairwise.nil
  | cons i l ih =>
    obtain ⟨w, x⟩ := i
    exact List.Pairwise.cons (fun t ht => le_start_of_mem_spotsFrom ht) (ih _)

end Layout

/-- **Where a lexeme of a text stands**: the text is split around it at its byte offset, it is a
lexeme of the language, and it absorbs nothing of what follows it. -/
theorem exists_split_of_mem_spots {source : Text} {s : Spot} (h : s ∈ spots source) :
    ∃ a b, source = a ++ (s.lexeme.written ++ b) ∧ a.extent = s.start ∧ s.lexeme.IsProper ∧
      ∀ c ∈ b.head?, s.lexeme.kind.absorbs c = false := by
  obtain ⟨p, w, q, hl, hs⟩ := Layout.exists_items_of_mem_spotsFrom h
  have hset := Layout.settled_ofText source
  have hplain := (Layout.isPlain_ofText source).proper (w, s.lexeme) (by simp [hl])
  rw [hl, Layout.settled_append] at hset
  refine ⟨Layout.written ⟨p, w⟩, Layout.written ⟨q, (Layout.ofText source).trail⟩, ?_, ?_,
    hplain, hset.2.1⟩
  · calc source = Layout.written ⟨(Layout.ofText source).items, (Layout.ofText source).trail⟩ :=
          (Layout.written_ofText source).symm
      _ = Layout.written ⟨p, w ++ (s.lexeme.written ++
            Layout.written ⟨q, (Layout.ofText source).trail⟩)⟩ := by
          rw [hl, Layout.written_append, Layout.written_cons]
      _ = _ := Layout.written_trail_append p w _
  · rw [hs, Nat.zero_add]

end MonkeyTokens
