/- # Longest lexemes, without the search for them

`Lexeme.leading` finds the longest lexeme at the front of a text by looking for its end.  This
file says what is found without looking: every kind of token *absorbs* certain characters, those
that make such a token longer when they follow it at once.

* Words absorb letters, numbers absorb digits, and both do so again and again; `=` and `!` absorb
  one equals sign; no other kind absorbs anything (`Kind.absorbs`, `Kind.absorbed`).
* Read from a text that starts with a lexeme, the longest lexeme is that one, grown by what its
  kind absorbs from the rest (`Lexeme.leading_written_append`).
* The longest lexeme absorbs nothing of what follows it (`Lexeme.not_absorbs_leading`), so one
  that has grown does not grow further (`Lexeme.not_absorbs_grow`).

The characters that are absorbed are never blanks, so a blank ends every lexeme
(`Kind.not_absorbs_of_isBlank`).
-/
import MonkeyTokens.Lexeme

namespace MonkeyTokens

/-! ## 1. What a kind absorbs -/

/-- A symbol that an equals sign has completed is complete. -/
theorem Symbol.withEquals?_of_withEquals? {s d : Symbol} (h : s.withEquals? = some d) :
    d.withEquals? = none := by
  cases s <;> simp only [Symbol.withEquals?, reduceCtorEq, Option.some.injEq] at h <;>
    subst h <;> rfl

namespace Kind

/-- A token of this kind is longer when the character follows it at once. -/
def absorbs : Kind → Char → Bool
  | ident, c => isLetter c
  | keyword _, c => isLetter c
  | int, c => isDigit c
  | symbol .assign, c => c = '='
  | symbol .bang, c => c = '='
  | _, _ => false

/-- What a token of this kind takes in from a text that follows it at once: the longest run of
characters that it absorbs, but one equals sign at most. -/
def absorbed (k : Kind) (r : Text) : Text :=
  match k with
  | symbol _ => (r.takeWhile k.absorbs).take 1
  | _ => r.takeWhile k.absorbs

/-- Reserved or not, a word absorbs letters. -/
@[simp] theorem absorbs_ofWord (t : Text) : (ofWord t).absorbs = isLetter := by
  rcases ofWord_eq t with h | ⟨k, h⟩ <;> rw [h] <;> rfl

@[simp] theorem absorbed_ofWord (t r : Text) : (ofWord t).absorbed r = r.takeWhile isLetter := by
  rcases ofWord_eq t with h | ⟨k, h⟩ <;> rw [h] <;> rfl

@[simp] theorem absorbed_int (r : Text) : int.absorbed r = r.takeWhile isDigit := rfl

@[simp] theorem absorbed_illegal (r : Text) : illegal.absorbed r = [] := by
  cases r <;> rfl

/-- A symbol absorbs the equals sign, if the two make a symbol. -/
theorem absorbs_symbol (s : Symbol) (c : Char) :
    (symbol s).absorbs c = (s.withEquals?.isSome && decide (c = '=')) := by
  cases s <;> rfl

/-- **A blank is never absorbed.** -/
theorem not_absorbs_of_isBlank (k : Kind) {c : Char} (h : isBlank c = true) :
    k.absorbs c = false := by
  have hl : isLetter c = false := isLetter_of_isBlank h
  have hd : isDigit c = false := isDigit_of_isBlank h
  have he : ¬ c = '=' := by
    rintro rfl
    exact absurd h (by decide)
  cases k with
  | ident => exact hl
  | keyword k => exact hl
  | int => exact hd
  | symbol s => simp [absorbs_symbol, he]
  | eof => rfl
  | illegal => rfl

/-- Nothing is absorbed from a text whose first character is not. -/
theorem absorbed_eq_nil {k : Kind} {r : Text} (h : ∀ c ∈ r.head?, k.absorbs c = false) :
    k.absorbed r = [] := by
  have ht : r.takeWhile k.absorbs = [] := by
    cases r with
    | nil => rfl
    | cons c r => simp [h c rfl]
  unfold absorbed
  split <;> simp [ht]

/-- What is absorbed from a text that starts with an absorbed character is not empty. -/
theorem absorbed_ne_nil {k : Kind} {r : Text} {c : Char} (hc : c ∈ r.head?)
    (h : k.absorbs c = true) : k.absorbed r ≠ [] := by
  obtain ⟨r', rfl⟩ := List.head?_eq_some_iff.1 hc
  unfold absorbed
  split <;> simp [h]

/-- What is absorbed is the front of the text. -/
theorem exists_absorbed_append (k : Kind) (r : Text) : ∃ r', r = k.absorbed r ++ r' := by
  have hrun : ∃ r', r = r.takeWhile k.absorbs ++ r' :=
    ⟨r.dropWhile k.absorbs, List.takeWhile_append_dropWhile.symm⟩
  unfold absorbed
  split
  · obtain ⟨r', hr⟩ := hrun
    exact ⟨_, by rw [← List.append_assoc, List.take_append_drop]; exact hr⟩
  · exact hrun

/-- A symbol that an equals sign completes absorbs that sign, and nothing behind it. -/
theorem absorbed_symbol_cons {s d : Symbol} (h : s.withEquals? = some d) (r : Text) :
    (symbol s).absorbed ('=' :: r) = ['='] := by
  simp [absorbed, absorbs_symbol, h]

/-- A symbol absorbs nothing else. -/
theorem absorbed_symbol (s : Symbol) (r : Text) :
    (symbol s).absorbed r = [] ∨
      ∃ d, s.withEquals? = some d ∧ (symbol s).absorbed r = ['='] := by
  cases r with
  | nil => exact Or.inl rfl
  | cons c r =>
    by_cases h : (symbol s).absorbs c = true
    · rw [absorbs_symbol, Bool.and_eq_true, decide_eq_true_eq] at h
      obtain ⟨hs, rfl⟩ := h
      obtain ⟨d, hd⟩ := Option.isSome_iff_exists.1 hs
      exact Or.inr ⟨d, hd, absorbed_symbol_cons hd r⟩
    · refine Or.inl (absorbed_eq_nil ?_)
      intro d hd
      obtain rfl := Option.some.inj hd
      exact Bool.eq_false_iff.2 h

end Kind

/-! ## 2. Lexemes and what they absorb -/

namespace Lexeme

/-- The lexeme with what it has absorbed. -/
def grow : Lexeme → Text → Lexeme
  | word t, p => word (t ++ p)
  | number t, p => number (t ++ p)
  | mark s, [] => mark s
  | mark s, _ :: _ => mark (s.withEquals?.getD s)
  | stray c, _ => stray c

@[simp] theorem grow_nil (x : Lexeme) : x.grow [] = x := by
  cases x <;> simp [grow]

/-- **A symbol whose first character has been read** grows by the equals sign that it absorbs. -/
theorem leadingMark_eq (s : Symbol) (r : Text) :
    (leadingMark s r).1 = (mark s).grow ((Kind.symbol s).absorbed r) := by
  cases hs : s.withEquals? with
  | none =>
    have ha : (Kind.symbol s).absorbed r = [] :=
      Kind.absorbed_eq_nil fun c _ => by simp [Kind.absorbs_symbol, hs]
    simp [leadingMark, hs, ha]
  | some d =>
    by_cases he : r.head? = some '='
    · obtain ⟨r', rfl⟩ := List.head?_eq_some_iff.1 he
      simp [leadingMark, hs, Kind.absorbed_symbol_cons hs, grow]
    · have ha : (Kind.symbol s).absorbed r = [] := by
        refine Kind.absorbed_eq_nil ?_
        intro c hc
        have hne : ¬ c = '=' := fun h => he (h ▸ hc)
        simp [Kind.absorbs_symbol, hne]
      rw [ha, grow_nil]
      unfold leadingMark
      split
      · exact absurd rfl he
      · rfl

/-- A symbol starts with a character of no other class, from which it is read. -/
theorem leading_spelling (s : Symbol) :
    ∃ c v, s.spelling = c :: v ∧ isBlank c = false ∧
      ∀ r, leading c (v ++ r) = leadingMark s r := by
  cases s <;> exact ⟨_, _, rfl, rfl, fun _ => rfl⟩

/-- **The longest lexeme of a text that starts with a lexeme** is that lexeme, grown by what its
kind absorbs from the rest.  No lexeme starts with a blank. -/
theorem leading_written_append {x : Lexeme} (hx : x.IsProper) :
    ∃ c v, x.written = c :: v ∧ isBlank c = false ∧
      ∀ r, (leading c (v ++ r)).1 = x.grow (x.kind.absorbed r) := by
  cases x with
  | word t =>
    obtain ⟨hne, hall⟩ := hx
    obtain ⟨c, v, rfl⟩ := List.exists_cons_of_ne_nil hne
    have hc : isLetter c = true := hall c List.mem_cons_self
    have hv : ∀ d ∈ v, isLetter d = true := fun d hd => hall d (List.mem_cons_of_mem c hd)
    refine ⟨c, v, rfl, isBlank_of_isLetter hc, ?_⟩
    intro r
    simp [leading, hc, kind, grow, List.takeWhile_append_of_pos hv]
  | number t =>
    obtain ⟨hne, hall⟩ := hx
    obtain ⟨c, v, rfl⟩ := List.exists_cons_of_ne_nil hne
    have hc : isDigit c = true := hall c List.mem_cons_self
    have hv : ∀ d ∈ v, isDigit d = true := fun d hd => hall d (List.mem_cons_of_mem c hd)
    refine ⟨c, v, rfl, isBlank_of_isDigit hc, ?_⟩
    intro r
    simp [leading, hc, isLetter_of_isDigit hc, kind, grow, Kind.absorbed_int,
      List.takeWhile_append_of_pos hv]
  | mark s =>
    obtain ⟨c, v, hs, hb, hl⟩ := leading_spelling s
    exact ⟨c, v, hs, hb, fun r => by rw [hl, leadingMark_eq, kind]⟩
  | stray c =>
    simp only [IsProper, isStray, Bool.not_eq_true', Bool.or_eq_false_iff,
      Option.isSome_eq_false_iff, Option.isNone_iff_eq_none] at hx
    obtain ⟨⟨⟨hb, hl⟩, hd⟩, hs⟩ := hx
    refine ⟨c, [], rfl, hb, ?_⟩
    intro r
    simp [leading, hl, hd, hs, grow]

/-- What a lexeme has absorbed is written after it. -/
theorem written_grow (x : Lexeme) (r : Text) :
    (x.grow (x.kind.absorbed r)).written = x.written ++ x.kind.absorbed r := by
  cases x with
  | word t => rfl
  | number t => rfl
  | mark s =>
    rcases Kind.absorbed_symbol s r with ha | ⟨d, hd, ha⟩
    · simp [kind, ha]
    · simp [kind, ha, grow, hd, written, Symbol.spelling_withEquals? hd]
  | stray c => simp [kind, grow]

/-- What a lexeme has absorbed stands in the text of its token too. -/
theorem tokenText_grow (x : Lexeme) (r : Text) :
    (x.grow (x.kind.absorbed r)).tokenText = x.tokenText ++ x.kind.absorbed r := by
  cases x with
  | word t => rfl
  | number t => rfl
  | mark s =>
    rcases Kind.absorbed_symbol s r with ha | ⟨d, hd, ha⟩
    · simp [kind, ha]
    · simp [kind, ha, grow, hd, tokenText, written, Symbol.spelling_withEquals? hd]
  | stray c => simp [kind, grow]

/-- The longest symbol absorbs nothing of what follows it. -/
theorem not_absorbs_leadingMark (s : Symbol) (r : Text) :
    ∀ c ∈ (leadingMark s r).2.head?, (leadingMark s r).1.kind.absorbs c = false := by
  unfold leadingMark
  split
  · next d r' hd =>
    intro c _
    simp [kind, Kind.absorbs_symbol, Symbol.withEquals?_of_withEquals? hd]
  · next r hn =>
    intro c hc
    obtain ⟨r', rfl⟩ := List.head?_eq_some_iff.1 hc
    by_cases he : c = '='
    · subst he
      have hs : s.withEquals? = none :=
        Option.eq_none_iff_forall_ne_some.2 fun d hd => hn d r' hd rfl
      simp [kind, Kind.absorbs_symbol, hs]
    · simp [kind, Kind.absorbs_symbol, he]

/-- **The longest lexeme absorbs nothing of what follows it.** -/
theorem not_absorbs_leading (c : Char) (r : Text) :
    ∀ d ∈ (leading c r).2.head?, (leading c r).1.kind.absorbs d = false := by
  have hrun : ∀ (p : Char → Bool), ∀ d ∈ (r.dropWhile p).head?, p d = false := by
    intro p d hd
    have h := List.head?_dropWhile_not p r
    rw [Option.mem_def.1 hd] at h
    exact h
  unfold leading
  split
  · simpa [kind] using hrun isLetter
  · split
    · exact hrun isDigit
    · split
      · next s hs => exact not_absorbs_leadingMark s r
      · exact fun d _ => rfl

/-! ## 3. The longest lexeme, grown -/

/-- The same with the rest of the text: what is absorbed stands before it. -/
theorem leading_eq_grow {x : Lexeme} (hx : x.IsProper) (r : Text) :
    ∃ c v r', x.written = c :: v ∧ isBlank c = false ∧ r = x.kind.absorbed r ++ r' ∧
      leading c (v ++ r) = (x.grow (x.kind.absorbed r), r') := by
  obtain ⟨c, v, hc, hb, hl⟩ := leading_written_append hx
  have hwhole := written_append_leading c (v ++ r)
  rw [hl r, written_grow, ← List.cons_append, ← hc, List.append_assoc] at hwhole
  exact ⟨c, v, _, hc, hb, (List.append_cancel_left hwhole).symm, Prod.ext (hl r) rfl⟩

/-- A lexeme that has absorbed is a lexeme. -/
theorem isProper_grow {x : Lexeme} (hx : x.IsProper) (r : Text) :
    (x.grow (x.kind.absorbed r)).IsProper := by
  obtain ⟨c, v, r', -, hb, -, hl⟩ := leading_eq_grow hx r
  have h := isProper_leading (v ++ r) hb
  rwa [hl] at h

/-- A lexeme that has absorbed what it can absorbs no more. -/
theorem not_absorbs_grow {x : Lexeme} (hx : x.IsProper) {r r' : Text}
    (h : r = x.kind.absorbed r ++ r') :
    ∀ c ∈ r'.head?, (x.grow (x.kind.absorbed r)).kind.absorbs c = false := by
  obtain ⟨c, v, r'', -, -, hr, hl⟩ := leading_eq_grow hx r
  have hn := not_absorbs_leading c (v ++ r)
  rwa [hl, ← List.append_cancel_left (h.symm.trans hr)] at hn

end Lexeme

end MonkeyTokens
