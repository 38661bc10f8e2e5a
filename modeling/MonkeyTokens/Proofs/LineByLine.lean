/- # A text scanned line by line

A line feed is a blank, so no token reaches over the end of a line.  Hence the tokens of a text are
those of its lines, moved to where the lines stand, and a session, which scans one line at a time,
shows of each line the tokens that the whole text has there, up to the first stray one.

* `startingIn_eq_of_all_eq`: the tokens of a text that start in a line are those of the line.
* `Session.tokenLines_output`: what the output of a session shows, without its prompts and ends.

Main statement: `Session.shows_startingIn`.
-/
import MonkeyTokens.Proofs.Grammar
import MonkeyTokens.Proofs.Concatenation
import MonkeyTokens.Proofs.Printing
import MonkeyTokens.Proofs.Transcript

namespace MonkeyTokens

/-! ## 1. Lines do not fuse -/

/-- A text that is empty or ends with a blank fuses with nothing. -/
theorem not_fuses_of_getLast? {a : Text} (h : ∀ c ∈ a.getLast?, isBlank c = true) (b : Text) :
    ¬ Fuses a b := by
  intro hf
  obtain ⟨p, w, x, hl, -⟩ := fuses_iff.1 hf
  have hplain := Layout.isPlain_ofText a
  have hwrit := Layout.written_ofText a
  rw [hl] at hplain hwrit
  have hx := hplain.proper (w, x) (by simp)
  obtain ⟨d, v, hd, -, -⟩ := Lexeme.leading_written_append hx
  have hne : x.written ≠ [] := by simp [hd]
  have hlast : a.getLast? = some (x.written.getLast hne) := by
    rw [← hwrit, Layout.written_concat, List.append_nil, List.getLast?_append_of_ne_nil _ hne,
      List.getLast?_eq_some_getLast hne]
  have hblank := Lexeme.isBlank_of_mem_written hx (List.getLast_mem hne)
  exact Bool.eq_false_iff.1 hblank (h _ hlast)

/-- Nothing fuses with the empty text. -/
theorem not_fuses_nil (a : Text) : ¬ Fuses a [] := by
  rintro ⟨t, -, -, c, hc, -⟩
  simp at hc

namespace Lines

variable {α : Type}

/-- All lines but the last one of a text are complete. -/
theorem exists_complete_eq_append {l : Lines α} {p q : List (List α)} (h : l.all = p ++ q)
    (hq : q ≠ []) : ∃ r, l.complete = p ++ r := by
  rcases List.append_eq_append_iff.1 h with ⟨r, hp, hr⟩ | ⟨r, hc, -⟩
  · -- the unfinished line cannot stand before another one
    have hlen := congrArg List.length hr
    have hq' := List.length_pos_of_ne_nil hq
    have hle : (if l.unfinished.isEmpty then [] else [l.unfinished]).length ≤ 1 := by
      split <;> simp
    rw [List.length_append] at hlen
    obtain rfl : r = [] := List.length_eq_zero_iff.1 (by omega)
    exact ⟨[], by simpa using hp.symm⟩
  · exact ⟨r, hc⟩

end Lines

/-- A line that another one follows ends with a line feed. -/
theorem getLast?_flatten_of_all_eq {x : Text} {p q : List Text}
    (h : (Lines.cut '\n' x).all = p ++ q) (hq : q ≠ []) :
    ∀ c ∈ p.flatten.getLast?, isBlank c = true := by
  obtain ⟨r, hr⟩ := Lines.exists_complete_eq_append h hq
  rcases List.eq_nil_or_concat p with rfl | ⟨p', l, rfl⟩
  · simp
  · rw [List.concat_eq_append] at hr ⊢
    obtain ⟨w, rfl, -⟩ := (Lines.isCut_cut '\n' x).complete l (by simp [hr])
    intro c hc
    rw [List.flatten_append, List.flatten_singleton, ← List.append_assoc,
      List.getLast?_concat] at hc
    obtain rfl := Option.some.inj hc
    rfl

/-! ## 2. The tokens that start in a line -/

/-- The tokens that start in the `len` bytes behind byte `n`. -/
def startingIn (n len : Nat) (ts : List Token) : List Token :=
  ts.filter fun t => n ≤ t.span.start ∧ t.span.start < n + len

section

variable {n len : Nat} {ts us : List Token}

theorem startingIn_append :
    startingIn n len (ts ++ us) = startingIn n len ts ++ startingIn n len us :=
  List.filter_append _ _

theorem startingIn_eq_self
    (h : ∀ t ∈ ts, n ≤ t.span.start ∧ t.span.start < n + len) : startingIn n len ts = ts :=
  List.filter_eq_self.2 fun t ht => decide_eq_true (h t ht)

theorem startingIn_eq_nil
    (h : ∀ t ∈ ts, t.span.start < n ∨ n + len ≤ t.span.start) : startingIn n len ts = [] := by
  refine List.filter_eq_nil_iff.2 fun t ht => ?_
  have hspan := h t ht
  simp only [decide_eq_true_eq]
  omega

end

/-- A token covers something, within its text. -/
theorem span_of_mem_body {source : Text} {t : Token} (ht : t ∈ body source) :
    t.span.start < t.span.stop ∧ t.span.stop ≤ source.extent := by
  rw [body_eq] at ht
  obtain ⟨s, hs, rfl⟩ := List.mem_map.1 ht
  obtain ⟨a, b, hab, ha, hx, -⟩ := exists_split_of_mem_spots hs
  have hpos := Lexeme.extent_written_pos hx
  have hextent := congrArg Text.extent hab
  rw [Text.extent_append, Text.extent_append] at hextent
  simp only [Spot.token, Lexeme.token]
  omega

/-- The same for a token that has been moved. -/
theorem span_of_mem_map_shift {n : Nat} {source : Text} {t : Token}
    (ht : t ∈ (body source).map (Token.shift n)) :
    n ≤ t.span.start ∧ t.span.start < t.span.stop ∧ t.span.stop ≤ n + source.extent := by
  obtain ⟨u, hu, rfl⟩ := List.mem_map.1 ht
  have hspan := span_of_mem_body hu
  simp only [Token.shift, Span.shift]
  omega

/-- **The tokens in a part of a text** that fuses with neither of its neighbours are the tokens of
that part. -/
theorem startingIn_body_append {a b c : Text} (ha : ¬ Fuses a (b ++ c)) (hb : ¬ Fuses b c) :
    startingIn a.extent b.extent (body (a ++ (b ++ c))) =
      (body b).map (Token.shift a.extent) := by
  have hbefore : startingIn a.extent b.extent (body a) = [] := startingIn_eq_nil fun t ht => by
    have hspan := span_of_mem_body ht
    omega
  have hin : startingIn a.extent b.extent ((body b).map (Token.shift a.extent)) =
      (body b).map (Token.shift a.extent) := startingIn_eq_self fun t ht => by
    have hspan := span_of_mem_map_shift ht
    omega
  have hafter : startingIn a.extent b.extent
      (((body c).map (Token.shift b.extent)).map (Token.shift a.extent)) = [] := by
    refine startingIn_eq_nil fun t ht => Or.inr ?_
    obtain ⟨u, hu, rfl⟩ := List.mem_map.1 ht
    exact Nat.add_le_add_left (span_of_mem_map_shift hu).1 a.extent
  rw [body_append_of_not_fuses ha, body_append_of_not_fuses hb, List.map_append,
    startingIn_append, startingIn_append, hbefore, hin, hafter, List.nil_append, List.append_nil]

/-- A line does not fuse with the lines behind it. -/
theorem not_fuses_of_all_eq {x line : Text} {before after : List Text}
    (h : (Lines.cut '\n' x).all = before ++ line :: after) : ¬ Fuses line after.flatten := by
  cases after with
  | nil => exact not_fuses_nil line
  | cons l after =>
    refine not_fuses_of_getLast? ?_ _
    have h' : (Lines.cut '\n' x).all = (before ++ [line]) ++ l :: after := by simpa using h
    intro c hc
    refine getLast?_flatten_of_all_eq h' (List.cons_ne_nil l after) c ?_
    rw [List.flatten_append, List.flatten_singleton, List.getLast?_append, hc]
    rfl

/-- **The tokens of a text that start in a line** are those of the line, moved to where it
stands. -/
theorem startingIn_eq_of_all_eq {x line : Text} {before after : List Text}
    (h : (Lines.cut '\n' x).all = before ++ line :: after) :
    startingIn (Text.extent before.flatten) line.extent (body x) =
      (body line).map (Token.shift (Text.extent before.flatten)) := by
  have hx : x = before.flatten ++ (line ++ after.flatten) := by
    have hflat := Lines.flatten_all (Lines.cut '\n' x)
    rw [Lines.join_cut, h] at hflat
    simpa using hflat.symm
  have hbefore := getLast?_flatten_of_all_eq h (List.cons_ne_nil line after)
  conv_lhs => rw [hx]
  exact startingIn_body_append (not_fuses_of_getLast? hbefore _) (not_fuses_of_all_eq h)

/-- The empty text has no tokens. -/
theorem body_nil : body [] = [] := by
  have hof : Layout.ofText [] = ⟨[], []⟩ := Layout.ofText_of_blank rfl
  simp [body_eq, spots, hof, Layout.spots, Layout.spotsFrom]

/-- The lines of tokens, line by line. -/
theorem map_entry_body_flatten {x : Text} {p q : List Text}
    (h : (Lines.cut '\n' x).all = p ++ q) :
    (body q.flatten).map Token.entry = q.flatMap fun l => (body l).map Token.entry := by
  induction q generalizing p with
  | nil => simp [body_nil]
  | cons l q ih =>
    have hshift : Token.entry ∘ Token.shift l.extent = Token.entry :=
      funext (Token.entry_shift l.extent)
    rw [List.flatten_cons, body_append_of_not_fuses (not_fuses_of_all_eq h), List.map_append,
      List.flatMap_cons, ← ih (p := p ++ [l]) (by simpa using h), List.map_map, hshift]

/-! ## 3. What a session shows of them -/

namespace Session

/-- Without a stray character all tokens stand before the first stray one. -/
theorem upTo_isIllegal_body {line : Text} (h : ∀ c ∈ line, isStray c = false) :
    upTo Token.isIllegal (body line) = body line := by
  have hnot : ∀ t ∈ body line, t.isIllegal = false := fun t ht =>
    isIllegal_of_forall h ((List.dropLast_sublist _).subset ht)
  simpa [upTo] using upTo_append_of_forall hnot []

/-- **The tokens shown of a line**, its end apart: up to the first stray one. -/
theorem filter_shownTokens (line : Text) :
    (shownTokens line).filter (fun t => !t.isEof) = upTo Token.isIllegal (body line) := by
  have hbody : ∀ t ∈ body line, t.isEof = false := by
    intro t ht
    rw [body_eq] at ht
    obtain ⟨s, -, rfl⟩ := List.mem_map.1 ht
    exact s.isEof_token
  by_cases h : ∃ c ∈ line, isStray c = true
  · rw [shownTokens_of_exists h, ← body_eq]
    exact List.filter_eq_self.2 fun t ht => by simp [hbody t (mem_of_mem_upTo ht)]
  · have hall : ∀ c ∈ line, isStray c = false := by simpa using h
    have hkept : (body line).filter (fun t => !t.isEof) = body line :=
      List.filter_eq_self.2 fun t ht => by simp [hbody t ht]
    rw [shownTokens_of_forall hall, tokenize_eq, ← body_eq, List.filter_append, hkept,
      upTo_isIllegal_body hall]
    simp [Token.isEof, Token.eof]

/-- A line of the output of a session, without the prompt before it. -/
def unprompted (l : Text) : Text := if prompt <+: l then l.drop prompt.length else l

/-- The lines of the output of a session that show tokens: the prompts are removed, the ends of the
lines, and the line feed at the end. -/
def tokenLines (transcript : Text) : List Text :=
  ((Lines.cut '\n' transcript).all.map unprompted).filter fun l =>
    l ≠ (Token.eof 0).entry ∧ l ≠ ['\n']

theorem unprompted_prompt_append (l : Text) : unprompted (prompt ++ l) = l := by
  simp [unprompted]

/-- The line of a token starts with another sign than a prompt does. -/
theorem unprompted_entry (t : Token) : unprompted t.entry = t.entry := by
  rw [unprompted, if_neg]
  rw [Token.entry_eq]
  exact fun h => absurd (List.cons_prefix_cons.1 h).1 (by decide)

/-- The line of a token of a text is removed when the token is the end. -/
theorem entry_ne_iff {source : Text} {t : Token} (ht : t ∈ tokenize source) :
    (t.entry ≠ (Token.eof 0).entry ∧ t.entry ≠ ['\n']) ↔ t.isEof = false := by
  have hfeed : t.entry ≠ ['\n'] := by
    rw [Token.entry_eq]
    exact fun h => absurd (List.cons.inj h).1 (by decide)
  rw [tokenize_eq] at ht
  rcases List.mem_append.1 ht with ht | ht
  · obtain ⟨s, -, rfl⟩ := List.mem_map.1 ht
    refine iff_of_true ⟨fun h => ?_, hfeed⟩ s.isEof_token
    exact Lexeme.kind_ne_eof s.lexeme (Token.eq_of_entry_eq h).1
  · obtain rfl := List.mem_singleton.1 ht
    exact iff_of_false (fun h => h.1 rfl) (by simp [Token.isEof, Token.eof])

/-- Of the lines that answer a line, those of the tokens before the end are left. -/
theorem filter_map_entry (line : Text) :
    ((shownTokens line).map Token.entry).filter
        (fun l => l ≠ (Token.eof 0).entry ∧ l ≠ ['\n']) =
      (upTo Token.isIllegal (body line)).map Token.entry := by
  rw [← filter_shownTokens, List.filter_map]
  congr 1
  refine List.filter_congr fun t ht => ?_
  rw [Function.comp_apply, Bool.eq_iff_iff, decide_eq_true_iff,
    entry_ne_iff (mem_of_mem_upTo ht), Bool.not_eq_true']

/-- **The lines of an exchange**: the first token of the line is shown behind the prompt, the
others follow. -/
theorem exists_lines_of_exchange (line : Text) :
    ∃ ls : List Text, exchange line = ls.flatten ∧
      (∀ l ∈ ls, ∃ w, l = w ++ ['\n'] ∧ '\n' ∉ w) ∧
      ls.map unprompted = (shownTokens line).map Token.entry := by
  have hline : ∀ t ∈ shownTokens line, ∃ w, t.entry = w ++ ['\n'] ∧ '\n' ∉ w := fun t ht =>
    Token.exists_entry_eq (Token.isGlyph_of_mem_text (mem_of_mem_upTo ht))
  obtain ⟨t, ts, hshown⟩ : ∃ t ts, shownTokens line = t :: ts := by
    obtain ⟨ts, t, hts, -⟩ := exists_shownTokens_eq_concat line
    exact List.exists_cons_of_ne_nil (by simp [hts])
  rw [hshown] at hline
  obtain ⟨⟨w, hw, hnot⟩, hts⟩ := List.forall_mem_cons.1 hline
  refine ⟨(prompt ++ t.entry) :: ts.map Token.entry, ?_, ?_, ?_⟩
  · simp [exchange_eq, hshown, List.flatMap_def]
  · refine List.forall_mem_cons.2 ⟨⟨prompt ++ w, by rw [hw, List.append_assoc], ?_⟩, ?_⟩
    · exact List.not_mem_append (by decide) hnot
    · exact List.forall_mem_map.2 hts
  · simp [hshown, unprompted_prompt_append, unprompted_entry, Function.comp_def]

/-- **What an exchange adds to the lines of tokens.** -/
theorem tokenLines_exchange_append (line rest : Text) :
    tokenLines (exchange line ++ rest) =
      (upTo Token.isIllegal (body line)).map Token.entry ++ tokenLines rest := by
  obtain ⟨ls, hls, hform, hstrip⟩ := exists_lines_of_exchange line
  rw [hls, tokenLines, Lines.all_cut_flatten_append hform, List.map_append, List.filter_append,
    hstrip, filter_map_entry]
  rfl

/-- **The lines of tokens in the output of a session over a text.** -/
theorem tokenLines_output (x : Text) :
    tokenLines (ofInput x.bytes .finished).output =
      (Lines.cut '\n' x).all.flatMap fun line =>
        (upTo Token.isIllegal (body line)).map Token.entry := by
  have hrun : ∀ ls : List Text, tokenLines (ls.flatMap exchange ++ (prompt ++ "\n".toList)) =
      ls.flatMap fun line => (upTo Token.isIllegal (body line)).map Token.entry := by
    intro ls
    induction ls with
    | nil => decide
    | cons l ls ih =>
      rw [List.flatMap_cons, List.append_assoc, tokenLines_exchange_append, ih, List.flatMap_cons]
  rw [(output_ofInput_bytes x .finished).1]
  exact hrun _

/-- **A session shows the tokens of the text.**  Take any line of a text.  What a session over the
text shows of it, but for the end, are the tokens of the whole text that start in the line, up to
the first stray one; these tokens lie in the line, and they are those of the line alone, moved to
where the line stands.

Without the prompts, the lines that show an end and the line feed at the end, the output shows the
tokens of the lines in this way and nothing else.  So if no character is stray, it shows the tokens
of the text: none is lost, shown twice or run together with one of the next line. -/
theorem shows_startingIn (x : Text) :
    (ofInput x.bytes .finished).output =
        (Lines.cut '\n' x).all.flatMap exchange ++ (prompt ++ "\n".toList) ∧
    (∀ before line after, (Lines.cut '\n' x).all = before ++ line :: after →
      startingIn (Text.extent before.flatten) line.extent (body x) =
        (body line).map (Token.shift (Text.extent before.flatten)) ∧
      (∀ t ∈ startingIn (Text.extent before.flatten) line.extent (body x),
        t.span.stop ≤ Text.extent before.flatten + line.extent) ∧
      ((shownTokens line).filter fun t => !t.isEof).map
          (Token.shift (Text.extent before.flatten)) =
        upTo Token.isIllegal
          (startingIn (Text.extent before.flatten) line.extent (body x))) ∧
    ((∀ c ∈ x, isStray c = false) →
      tokenLines (ofInput x.bytes .finished).output = (body x).map Token.entry) := by
  refine ⟨(output_ofInput_bytes x .finished).1, ?_, ?_⟩
  · intro before line after h
    have hin := startingIn_eq_of_all_eq h
    refine ⟨hin, ?_, ?_⟩
    · intro t ht
      rw [hin] at ht
      exact (span_of_mem_map_shift ht).2.2
    · have hshift : ∀ t : Token,
          (t.shift (Text.extent before.flatten)).isIllegal = t.isIllegal := fun t => rfl
      rw [hin, filter_shownTokens]
      exact (upTo_map hshift _).symm
  · intro h
    have hbody := map_entry_body_flatten (List.nil_append (Lines.cut '\n' x).all).symm
    rw [Lines.flatten_all, Lines.join_cut] at hbody
    rw [tokenLines_output, hbody]
    refine List.flatMap_congr fun line hline => ?_
    have hsub : ∀ c ∈ line, c ∈ x := by
      intro c hc
      rw [← Lines.join_cut '\n' x, ← Lines.flatten_all]
      exact List.mem_flatten.2 ⟨line, hline, hc⟩
    rw [upTo_isIllegal_body fun c hc => h c (hsub c hc)]

/-- Equals signs on two lines are two tokens, in the text as well as in its lines. -/
theorem shows_startingIn_equals :
    startingIn 2 3 (body ['=', '\n', '=', '$', 'b']) =
        (body ['=', '$', 'b']).map (Token.shift 2) ∧
      tokenLines (ofInput (Text.bytes ['=', '\n', '=']) .finished).output =
        (body ['=', '\n', '=']).map Token.entry := by
  have hcut : (Lines.cut '\n' ['=', '\n', '=', '$', 'b']).all =
      [['=', '\n']] ++ ['=', '$', 'b'] :: [] := by decide
  have hall : ∀ c ∈ ['=', '\n', '='], isStray c = false := by simp; decide
  exact ⟨((shows_startingIn _).2.1 _ _ _ hcut).1, (shows_startingIn _).2.2 hall⟩

end Session

end MonkeyTokens
