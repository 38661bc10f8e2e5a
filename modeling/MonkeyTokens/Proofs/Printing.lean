/- # Lexemes printed and scanned back

Lexemes with blanks around them are printed one after the other.  Scanned back, they give their
own tokens unless two of them touch that *clash*: a word after a word, a number after a number, or
a symbol that starts with an equals sign after `=` or `!`.  Then even the kinds and texts of the
tokens are different, wherever they stand.

* `Lexeme.absorbs_head_eq_clash`: to clash is to absorb the first character of the other lexeme.
* `Layout.settled_iff_separated`: so the layouts without a clash are the settled ones.
* `Layout.settled_of_shown_eq`: no other layout keeps its kinds and texts.
* `Layout.getElem?_tokens`: the tokens of a layout, one by one.

Main statement: `tokenize_written_iff`.
-/
import Mathlib.Data.List.Chain
import MonkeyTokens.Proofs.Grammar

namespace MonkeyTokens

/-! ## 1. Lexemes that clash -/

/-- What a token shows without its place: kind and text. -/
def Token.shown (t : Token) : Kind × Text := (t.kind, t.text)

namespace Lexeme

/-- The two lexemes are read differently when the second follows the first at once. -/
def clash : Lexeme → Lexeme → Bool
  | word _, word _ => true
  | number _, number _ => true
  | mark s, mark d => (s = .assign || s = .bang) && (d = .assign || d = .equal)
  | _, _ => false

/-- The first character of a lexeme tells what it clashes with: words start with letters, numbers
with digits, and two symbols with an equals sign. -/
theorem head_written {y : Lexeme} (hy : y.IsProper) {c : Char} (hc : c ∈ y.written.head?) :
    isLetter c = (word []).clash y ∧ isDigit c = (number []).clash y ∧
      decide (c = '=') = (mark .assign).clash y := by
  have hequals : isLetter '=' = false ∧ isDigit '=' = false := by decide
  cases y with
  | word t =>
    have h : isLetter c = true := hy.2 c (List.mem_of_mem_head? hc)
    have he : ¬ c = '=' := by
      rintro rfl
      exact Bool.eq_false_iff.1 hequals.1 h
    exact ⟨h, isDigit_of_isLetter h, decide_eq_false he⟩
  | number t =>
    have h : isDigit c = true := hy.2 c (List.mem_of_mem_head? hc)
    have he : ¬ c = '=' := by
      rintro rfl
      exact Bool.eq_false_iff.1 hequals.2 h
    exact ⟨isLetter_of_isDigit h, h, decide_eq_false he⟩
  | mark d =>
    cases d <;> cases hc <;> decide
  | stray d =>
    obtain rfl := Option.some.inj hc
    simp only [IsProper, isStray, Bool.not_eq_true', Bool.or_eq_false_iff] at hy
    obtain ⟨⟨⟨-, hl⟩, hd⟩, hs⟩ := hy
    have he : ¬ d = '=' := by
      rintro rfl
      exact absurd hs (by decide)
    exact ⟨hl, hd, decide_eq_false he⟩

/-- **Lexemes clash when the first absorbs the first character of the second.** -/
theorem absorbs_head_eq_clash {x y : Lexeme} (hy : y.IsProper) {c : Char}
    (hc : c ∈ y.written.head?) : x.kind.absorbs c = x.clash y := by
  obtain ⟨hl, hd, he⟩ := head_written hy hc
  cases x with
  | word t =>
    rw [kind, Kind.absorbs_ofWord, hl]
    cases y <;> rfl
  | number t =>
    rw [kind, Kind.absorbs, hd]
    cases y <;> rfl
  | mark s =>
    rw [kind, Kind.absorbs_symbol, he]
    cases y with
    | mark d => cases s <;> rfl
    | _ => simp [clash]
  | stray d => rfl

end Lexeme

namespace Layout

/-- No two lexemes that touch clash. -/
def Separated (l : Layout) : Prop :=
  l.items.IsChain fun p q => q.1 = [] → p.2.clash q.2 = false

instance (l : Layout) : Decidable l.Separated :=
  inferInstanceAs (Decidable (l.items.IsChain fun p q => q.1 = [] → p.2.clash q.2 = false))

/-- **The layouts without a clash are the settled ones.** -/
theorem settled_iff_separated {l : Layout} (h : l.IsPlain) :
    Settled l.items l.trail ↔ l.Separated := by
  obtain ⟨items, u⟩ := l
  unfold Separated
  induction items with
  | nil => simp [Settled]
  | cons i items ih =>
    obtain ⟨w, x⟩ := i
    obtain ⟨-, -, hr⟩ := isPlain_cons.1 h
    cases items with
    | nil =>
      -- only blanks follow the last lexeme
      simp only [Settled, written_nil, and_true, List.isChain_singleton, iff_true]
      intro c hc
      exact Kind.not_absorbs_of_isBlank _ (isPlain_nil.1 hr c (List.mem_of_mem_head? hc))
    | cons j items =>
      obtain ⟨w', y⟩ := j
      obtain ⟨hw', hy, -⟩ := isPlain_cons.1 hr
      rw [Settled, List.isChain_cons_cons]
      refine and_congr ?_ (ih hr)
      cases w' with
      | cons c w' =>
        have hb := Kind.not_absorbs_of_isBlank x.kind (hw' c List.mem_cons_self)
        simp [hb]
      | nil =>
        obtain ⟨c, v, hc, -, -⟩ := Lexeme.leading_written_append hy
        have hclash : x.kind.absorbs c = x.clash y :=
          Lexeme.absorbs_head_eq_clash hy (by simp [hc])
        simp [hc, hclash]

theorem length_spotsFrom (n : Nat) (l : List (Text × Lexeme)) :
    (spotsFrom n l).length = l.length := by
  have h := congrArg List.length (map_lexeme_spotsFrom n l)
  rwa [List.length_map, List.length_map] at h

/-- A layout has a token for each of its items, and one more for its end. -/
theorem length_tokens (l : Layout) : l.tokens.length = l.items.length + 1 := by
  rw [tokens, List.length_append, List.length_map, spots, length_spotsFrom]
  rfl

/-- **The token of an item**: its lexeme, where it is written. -/
theorem getElem?_tokens {l : Layout} {p q : List (Text × Lexeme)} {w : Text} {x : Lexeme}
    (h : l.items = p ++ (w, x) :: q) :
    l.tokens[p.length]? = some ⟨x.kind, if x.kind = .illegal then "Illegal".toList else x.written,
      ⟨(written ⟨p, w⟩).extent, (written ⟨p, w ++ x.written⟩).extent⟩⟩ := by
  have hwritten : written ⟨p, w⟩ = written ⟨p, []⟩ ++ w := written_trail_append p [] w
  have htoken : x.token (written ⟨p, w⟩).extent =
      ⟨x.kind, if x.kind = .illegal then "Illegal".toList else x.written,
        ⟨(written ⟨p, w⟩).extent, (written ⟨p, w ++ x.written⟩).extent⟩⟩ := by
    rw [Lexeme.token, x.tokenText_eq, written_trail_append p w, Text.extent_append]
  have hbefore : ((spotsFrom 0 p).map Spot.token).length = p.length := by
    rw [List.length_map, length_spotsFrom]
  rw [tokens, spots, h, spotsFrom_append, List.map_append, List.append_assoc,
    List.getElem?_append_right (Nat.le_of_eq hbefore), hbefore, Nat.sub_self, ← htoken, hwritten,
    Text.extent_append]
  simp [spotsFrom, Spot.token]

/-- The last token of a layout is its end. -/
theorem getElem?_tokens_end (l : Layout) :
    l.tokens[l.items.length]? =
      some ⟨.eof, "eof".toList, ⟨l.written.extent, l.written.extent⟩⟩ := by
  have hbefore : (l.spots.map Spot.token).length = l.items.length := by
    rw [List.length_map, spots, length_spotsFrom]
  rw [tokens, List.getElem?_append_right (Nat.le_of_eq hbefore), hbefore, Nat.sub_self]
  rfl

/-- What the tokens of a layout show does not depend on the blanks. -/
theorem map_shown_tokens (l : Layout) :
    l.tokens.map Token.shown =
      l.items.map (fun p => (p.2.kind, p.2.tokenText)) ++ [(.eof, Token.eofText)] := by
  have hlexemes := congrArg (List.map fun x : Lexeme => (x.kind, x.tokenText))
    (map_lexeme_spotsFrom 0 l.items)
  rw [List.map_map, List.map_map] at hlexemes
  simp only [tokens, spots, List.map_append, List.map_map, List.map_singleton]
  exact congrArg (· ++ _) hlexemes

/-- **Only a settled layout keeps its kinds and texts.**  A lexeme that absorbed something would
show a longer text. -/
theorem settled_of_shown_eq {l : Layout} (h : l.IsPlain)
    (he : (ofText l.written).items.map (fun p => (p.2.kind, p.2.tokenText)) =
      l.items.map fun p => (p.2.kind, p.2.tokenText)) :
    Settled l.items l.trail := by
  obtain ⟨items, u⟩ := l
  induction items with
  | nil => trivial
  | cons i items ih =>
    obtain ⟨w, x⟩ := i
    obtain ⟨hw, hx, hr⟩ := isPlain_cons.1 h
    obtain ⟨r', hr'⟩ := Kind.exists_absorbed_append x.kind (written ⟨items, u⟩)
    rw [written_cons, ofText_gap_append hw hx hr', List.map_cons, List.map_cons] at he
    obtain ⟨hhead, htail⟩ := List.cons.inj he
    have hnil : x.kind.absorbed (written ⟨items, u⟩) = [] := by
      have htext := (Prod.mk.inj hhead).2
      rw [Lexeme.tokenText_grow] at htext
      exact List.append_right_eq_self.1 htext
    rw [hnil, List.nil_append] at hr'
    rw [← hr'] at htail
    refine ⟨?_, ih hr htail⟩
    intro c hc
    exact Bool.eq_false_iff.2 fun ha => Kind.absorbed_ne_nil hc ha hnil

end Layout

/-- **Printing and scanning back.**  Lexemes printed with blanks around them give their own tokens,
each where it was written, exactly when no two of them that touch clash.  When two do, the kinds
and texts are already others.  Their own tokens are one for each lexeme, of the kind that spells it,
with its text, or the fixed one of a stray character, and its place; and the end at the length of
the whole. -/
theorem tokenize_written_iff {l : Layout} (h : l.IsPlain) :
    (tokenize l.written = l.tokens ↔ l.Separated) ∧
      (¬ l.Separated → (tokenize l.written).map Token.shown ≠ l.tokens.map Token.shown) ∧
      (∀ i ∈ l.items, i.2.kind.Spells i.2.written) ∧
      (∀ (p : List (Text × Lexeme)) (w : Text) (x : Lexeme) (q : List (Text × Lexeme)),
        l.items = p ++ (w, x) :: q → l.tokens[p.length]? =
          some ⟨x.kind, if x.kind = .illegal then "Illegal".toList else x.written,
            ⟨(Layout.written ⟨p, w⟩).extent, (Layout.written ⟨p, w ++ x.written⟩).extent⟩⟩) ∧
      l.tokens[l.items.length]? =
        some ⟨.eof, "eof".toList, ⟨l.written.extent, l.written.extent⟩⟩ ∧
      l.tokens.length = l.items.length + 1 := by
  have hshown : (tokenize l.written).map Token.shown = l.tokens.map Token.shown →
      l.Separated := by
    intro he
    rw [tokenize, Layout.map_shown_tokens, Layout.map_shown_tokens] at he
    exact (Layout.settled_iff_separated h).1
      (Layout.settled_of_shown_eq h (List.append_cancel_right he))
  refine ⟨⟨?_, ?_⟩, ?_, ?_, ?_, l.getElem?_tokens_end, l.length_tokens⟩
  · intro he
    exact hshown (by rw [he])
  · intro hs
    rw [tokenize, Layout.ofText_written h ((Layout.settled_iff_separated h).2 hs)]
  · intro hs he
    exact hs (hshown he)
  · intro i hi
    exact Lexeme.spells_written (h.proper i hi)
  · intro p w x q hitems
    exact Layout.getElem?_tokens hitems

/-- A stray character of two bytes may touch `!`, but `!` may not touch `==`. -/
theorem tokenize_written_bang_equal :
    Layout.IsPlain ⟨[([], .stray 'é'), ([], .mark .bang), ([' '], .mark .equal)], ['\n']⟩ ∧
      tokenize ['é', '!', ' ', '=', '=', '\n'] =
        [⟨.illegal, "Illegal".toList, ⟨0, 2⟩⟩, ⟨.symbol .bang, ['!'], ⟨2, 3⟩⟩,
          ⟨.symbol .equal, ['=', '='], ⟨4, 6⟩⟩, ⟨.eof, "eof".toList, ⟨7, 7⟩⟩] ∧
      Layout.IsPlain ⟨[([], .stray 'é'), ([], .mark .bang), ([], .mark .equal)], ['\n']⟩ ∧
      (tokenize ['é', '!', '=', '=', '\n']).map Token.shown ≠
        [(.illegal, "Illegal".toList), (.symbol .bang, ['!']), (.symbol .equal, ['=', '=']),
          (.eof, "eof".toList)] := by
  have hspaced : Layout.IsPlain
      ⟨[([], .stray 'é'), ([], .mark .bang), ([' '], .mark .equal)], ['\n']⟩ := by decide
  have htouching : Layout.IsPlain
      ⟨[([], .stray 'é'), ([], .mark .bang), ([], .mark .equal)], ['\n']⟩ := by decide
  refine ⟨hspaced, ?_, htouching, ?_⟩
  · exact (tokenize_written_iff hspaced).1.2 (by decide)
  · exact (tokenize_written_iff htouching).2.1 (by decide)

end MonkeyTokens
