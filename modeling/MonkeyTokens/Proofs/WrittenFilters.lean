/- # How filters are written

A filter is written as a list of directives between commas.  A directive is a limit for everything
(its word, in capital letters, small ones or both), a target, for which everything passes, or a
target and a limit around an equals sign.  The empty text stands for the filter that keeps errors
alone.  What is written so is read as it is meant, and nothing of it is remarked upon.

* `Directive.Written`, `Filter.Written`: the written form, and what it means.
* `Log.Directive.Written.ofText_eq`: a directive is read as it is meant.
* `Log.Filter.passes_of_trace`: there is a filter that every record passes.

Main statement: `Log.Filter.Written.ofText_eq`.
-/
import Mathlib.Data.List.Forall2
import Mathlib.Data.List.TakeWhile
import MonkeyTokens.Log.Filter

namespace MonkeyTokens

namespace Log

/-! ## 1. Words of limits -/

/-- The word of a limit. -/
def limitWord : Option Level → Text
  | none => "off".toList
  | some .error => "error".toList
  | some .warn => "warn".toList
  | some .info => "info".toList
  | some .debug => "debug".toList
  | some .trace => "trace".toList

/-- A text is the word of a limit, each letter of it capital or small. -/
def Names (w : Text) (l : Option Level) : Prop := w.map Char.toLower = limitWord l

instance (w : Text) (l : Option Level) : Decidable (Names w l) :=
  inferInstanceAs (Decidable (w.map Char.toLower = limitWord l))

/-- **A word is read as the limit that it names.** -/
theorem limitOfWord?_of_names {w : Text} {l : Option Level} (h : Names w l) :
    limitOfWord? w = some l := by
  unfold limitOfWord?
  rw [h]
  rcases l with _ | l
  · rfl
  · cases l <;> rfl

/-- Only a letter has a small letter for its lower case. -/
theorem isAlpha_of_isLower_toLower {c : Char} (h : c.toLower.isLower = true) :
    c.isAlpha = true := by
  refine Bool.or_eq_true_iff.2 ?_
  unfold Char.toLower at h
  split at h
  · next hupper => exact Or.inl (decide_eq_true hupper)
  · exact Or.inr h

/-- The word of a limit has letters only. -/
theorem isAlpha_of_names {w : Text} {l : Option Level} (h : Names w l) :
    ∀ c ∈ w, c.isAlpha = true := by
  have hword : (limitWord l).all Char.isLower = true := by
    rcases l with _ | l
    · decide
    · cases l <;> decide
  intro c hc
  refine isAlpha_of_isLower_toLower (List.all_eq_true.1 hword c.toLower ?_)
  rw [← h]
  exact List.mem_map_of_mem hc

theorem ne_nil_of_names {w : Text} {l : Option Level} (h : Names w l) : w ≠ [] := by
  rintro rfl
  rcases l with _ | l
  · exact absurd h (by decide)
  · cases l <;> exact absurd h (by decide)

/-- What has letters only writes no number. -/
theorem number?_of_isAlpha {w : Text} (h : ∀ c ∈ w, c.isAlpha = true) :
    Text.number? w = none := by
  have hnot : ∀ c ∈ w, c.isDigit = false := by
    intro c hc
    exact isDigit_of_isLetter (by simp [isLetter, h c hc])
  cases w with
  | nil => rfl
  | cons c w =>
    have hplus : c ≠ '+' := by
      rintro rfl
      exact absurd (h '+' List.mem_cons_self) (by decide)
    simp [Text.number?, hplus, hnot c List.mem_cons_self]

/-- **A limit is read from its word.** -/
theorem limitOfText?_of_names {w : Text} {l : Option Level} (h : Names w l) :
    limitOfText? w = some l := by
  rw [limitOfText?, number?_of_isAlpha (isAlpha_of_names h)]
  exact limitOfWord?_of_names h

/-! ## 2. Targets -/

/-- No target starts with space. -/
theorem Directive.isSpace_of_isInitial {c : Char} (h : isInitial c = true) : isSpace c = false := by
  -- space characters are few, so each can be looked up in the table
  have hall : ∀ n ∈ List.range' 0x9 5 ++ [0x20, 0x85, 0xa0, 0x1680] ++ List.range' 0x2000 11 ++
      [0x2028, 0x2029, 0x202f, 0x205f, 0x3000], isInitial (Char.ofNat n) = false := by
    decide +kernel
  refine Bool.eq_false_iff.2 fun hs => ?_
  rw [← Char.ofNat_toNat c, hall c.toNat ?_] at h
  · exact Bool.false_ne_true h
  · simp only [isSpace, spaceRanges, List.any_cons, List.any_nil, Bool.or_false, Bool.or_eq_true,
      Bool.and_eq_true, decide_eq_true_eq] at hs
    simp only [List.mem_append, List.mem_range'_1, List.mem_cons, List.not_mem_nil, or_false]
    omega

/-- What can stand for a target: it starts with a letter or digit, an underscore, a hyphen or a
colon, and none of the signs is in it that a filter gives a meaning to. -/
structure IsTarget (t : Text) : Prop where
  starts : ∃ c r, t = c :: r ∧ Directive.isInitial c = true
  comma : ',' ∉ t
  equals : '=' ∉ t
  bracket : '[' ∉ t

/-- The word of a limit could be a target as well. -/
theorem isTarget_of_names {w : Text} {l : Option Level} (h : Names w l) : IsTarget w := by
  have halpha := isAlpha_of_names h
  have hnot : ∀ m : Char, m.isAlpha = false → m ∉ w := fun m hm hc =>
    Bool.eq_false_iff.1 hm (halpha m hc)
  obtain ⟨c, r, rfl⟩ := List.exists_cons_of_ne_nil (ne_nil_of_names h)
  refine ⟨⟨c, r, rfl, ?_⟩, hnot _ (by decide), hnot _ (by decide), hnot _ (by decide)⟩
  have hc : c.isAlphanum = true := Bool.or_eq_true_iff.2 (Or.inl (halpha c List.mem_cons_self))
  simp [Directive.isInitial, isAlphanumeric_of_isAlphanum hc]

/-! ## 3. Directives -/

namespace Directive

/-- The written form of a directive, and what it means. -/
inductive Written : Text → Directive → Prop
  /-- A limit for everything. -/
  | limit {w : Text} {l : Option Level} (h : Names w l) : Written w ⟨[], l⟩
  /-- A target.  It must not be the limit that another text writes. -/
  | target {t : Text} (h : IsTarget t) (hlimit : limitOfText? t = none) :
      Written t ⟨t, some .trace⟩
  /-- A target and its limit. -/
  | assigned {t w : Text} {l : Option Level} (h : IsTarget t) (hw : Names w l) :
      Written (t ++ '=' :: w) ⟨t, l⟩

/-- A text that starts as targets do and holds no bracket and no equals sign is a directive without
a limit of its own. -/
theorem ofText_of_isTarget {t : Text} (h : IsTarget t) : ofText t = .ok (ofName t) := by
  obtain ⟨⟨c, r, rfl, hc⟩, -, he, hb⟩ := h
  have hs := isSpace_of_isInitial hc
  have ht : ∀ d ∈ c :: r, decide (d ≠ '=') = true := fun d hd =>
    decide_eq_true fun h => he (h ▸ hd)
  have htake : (c :: r).takeWhile (· ≠ '=') = c :: r := List.takeWhile_eq_self_iff.2 ht
  have hdrop : (c :: r).dropWhile (· ≠ '=') = [] := List.dropWhile_eq_nil_iff.2 ht
  unfold ofText
  rw [htake, hdrop, if_neg (by simp [hs, hc]), if_neg hb]

/-- **A directive is read as it is meant.** -/
theorem Written.ofText_eq {p : Text} {d : Directive} (h : Written p d) : ofText p = .ok d := by
  cases h with
  | limit h =>
    rw [ofText_of_isTarget (isTarget_of_names h), ofName, limitOfText?_of_names h]
  | target h hlimit => rw [ofText_of_isTarget h, ofName, hlimit]
  | assigned h hw =>
    obtain ⟨⟨c, r, rfl, hc⟩, -, he, hb⟩ := h
    have hs := isSpace_of_isInitial hc
    rw [ofText_assigned hc hs hb he, Directive.assigned, if_neg (ne_nil_of_names hw),
      limitOfText?_of_names hw]

/-- There is no comma in a directive, and it is not empty. -/
theorem Written.comma {p : Text} {d : Directive} (h : Written p d) : ',' ∉ p ∧ p ≠ [] := by
  have htarget : ∀ {t : Text}, IsTarget t → ',' ∉ t ∧ t ≠ [] := by
    rintro t ⟨⟨c, r, rfl, -⟩, hcomma, -, -⟩
    exact ⟨hcomma, List.cons_ne_nil c r⟩
  cases h with
  | limit h => exact htarget (isTarget_of_names h)
  | target h hlimit => exact htarget h
  | assigned h hw =>
    have hcomma := (htarget h).1
    have hw := (htarget (isTarget_of_names hw)).1
    refine ⟨?_, by simp⟩
    simp [hcomma, hw]

end Directive

/-! ## 4. Filters -/

namespace Filter

/-- The written form of a filter, and the directives that it means. -/
inductive Written : Text → List Directive → Prop
  /-- Errors alone are kept when nothing is written. -/
  | empty : Written [] [⟨[], some .error⟩]
  /-- Directives stand between commas. -/
  | directives {ps : List Text} {ds : List Directive} (h : List.Forall₂ Directive.Written ps ds)
      (hne : ps ≠ []) : Written ([','].intercalate ps) ds

/-- The pieces of a written filter are its directives. -/
theorem pieces_intercalate {ps : List Text} (h : ∀ p ∈ ps, ',' ∉ p ∧ p ≠ []) (hne : ps ≠ []) :
    pieces ([','].intercalate ps) = ps := by
  have hsplit : List.splitOn ',' ([','].intercalate ps) = ps :=
    List.splitOn_intercalate ',' (fun p hp => (h p hp).1) hne
  rw [pieces, hsplit]
  refine List.filter_eq_self.2 fun p hp => ?_
  simp [(h p hp).2]

theorem forall_of_forall₂_written {ps : List Text} {ds : List Directive}
    (h : List.Forall₂ Directive.Written ps ds) : ∀ p ∈ ps, ∃ d, Directive.Written p d := by
  induction h with
  | nil => exact fun p hp => absurd hp List.not_mem_nil
  | cons hp _ ih => exact List.forall_mem_cons.2 ⟨⟨_, hp⟩, ih⟩

/-- Directives are read one by one. -/
theorem filterMap_of_forall₂_written {ps : List Text} {ds : List Directive}
    (h : List.Forall₂ Directive.Written ps ds) :
    (ps.filterMap fun p => (Directive.ofText p).toOption) = ds := by
  induction h with
  | nil => rfl
  | cons hp _ ih =>
    rw [List.filterMap_cons, hp.ofText_eq, ih]
    rfl

/-- **A filter is read as it is meant**, and there is nothing to remark upon. -/
theorem Written.ofText_eq {t : Text} {ds : List Directive} (h : Written t ds) :
    ofText t = ⟨ds⟩ ∧ remarks t = [] := by
  cases h with
  | empty => exact ⟨rfl, rfl⟩
  | @directives ps _ h hne =>
    have hforms := forall_of_forall₂_written h
    have hpieces : pieces ([','].intercalate ps) = ps := by
      refine pieces_intercalate (fun p hp => ?_) hne
      obtain ⟨d, hd⟩ := hforms p hp
      exact hd.comma
    refine ⟨?_, remarks_eq_nil ?_⟩
    · rw [ofText, hpieces, filterMap_of_forall₂_written h]
      cases h with
      | nil => exact absurd rfl hne
      | cons _ _ => rfl
    · intro p hp
      rw [hpieces] at hp
      obtain ⟨d, hd⟩ := hforms p hp
      exact ⟨d, hd.ofText_eq⟩

example : ofText "Warn,monkey_lexer=TRACE,monkeyc".toList =
    ⟨[⟨[], some .warn⟩, ⟨"monkey_lexer".toList, some .trace⟩,
      ⟨"monkeyc".toList, some .trace⟩]⟩ := by
  decide

end Filter

end Log

end MonkeyTokens
