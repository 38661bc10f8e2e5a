/- # Transcripts read back

From what a session over a text writes, one can read back how many lines the text has and which
kinds and texts of tokens are shown of each: prompts start with a dot, lines of tokens with a brace,
and the last prompt is followed by a line feed.  Nothing else can be read back.  What stands behind
the first stray character of a line is not shown, nor is it shown which stray character that is.

* `shown_eq_of_flatMap_entry_append`: the tokens shown of a line are told apart from the prompt
  behind them.
* `Session.map_shownTokens_eq_of_transcript_eq`: the lines are told apart from each other.
* `Session.map_shown_of_split`: what is shown of a line with a stray character.

Main statement: `Session.transcript_eq_iff`.
-/
import MonkeyTokens.Proofs.Concatenation
import MonkeyTokens.Proofs.Disclosure
import MonkeyTokens.Proofs.Printing
import MonkeyTokens.Proofs.Transcript

namespace MonkeyTokens

/-! ## 1. One line -/

namespace Token

/-- The lines of tokens show their kinds and texts and nothing else. -/
theorem flatMap_entry_eq (ts : List Token) :
    ts.flatMap entry = (ts.map shown).flatMap fun p => entry ⟨p.1, p.2, .point 0⟩ := by
  rw [List.flatMap_map]
  rfl

/-- The line of a token starts with a brace. -/
theorem head?_entry_append (t : Token) (r : Text) : (t.entry ++ r).head? = some '\x7b' := rfl

end Token

/-- **The tokens of a line are told apart from the prompt behind them.** -/
theorem shown_eq_of_flatMap_entry_append {ts us : List Token} {r s : Text}
    (ht : ∀ t ∈ ts, ∀ c ∈ t.text, isGlyph c = true) (hu : ∀ u ∈ us, ∀ c ∈ u.text, isGlyph c = true)
    (h : ts.flatMap Token.entry ++ (Session.prompt ++ r) =
      us.flatMap Token.entry ++ (Session.prompt ++ s)) :
    ts.map Token.shown = us.map Token.shown ∧ r = s := by
  -- a prompt starts with another sign than the line of a token
  have hapart : ∀ (t : Token) (v w : Text), Session.prompt ++ v ≠ t.entry ++ w := by
    intro t v w heq
    have hdot : (Session.prompt ++ v).head? = some '.' := rfl
    rw [heq, t.head?_entry_append] at hdot
    exact absurd hdot (by decide)
  induction ts generalizing us with
  | nil =>
    cases us with
    | nil => exact ⟨rfl, List.append_cancel_left h⟩
    | cons u us =>
      rw [List.flatMap_cons, List.append_assoc] at h
      exact absurd h (hapart u _ _)
  | cons t ts ih =>
    cases us with
    | nil =>
      rw [List.flatMap_cons, List.append_assoc] at h
      exact absurd h.symm (hapart t _ _)
    | cons u us =>
      obtain ⟨ht, hts⟩ := List.forall_mem_cons.1 ht
      obtain ⟨hu, hus⟩ := List.forall_mem_cons.1 hu
      obtain ⟨v, hv, hvn⟩ := Token.exists_entry_eq ht
      obtain ⟨w, hw, hwn⟩ := Token.exists_entry_eq hu
      rw [List.flatMap_cons, List.flatMap_cons, hv, hw] at h
      simp only [List.append_assoc, List.singleton_append] at h
      obtain ⟨rfl, hrest⟩ := eq_of_append_cons_eq hvn hwn h
      obtain ⟨hkind, htext⟩ := Token.eq_of_entry_eq (hv.trans hw.symm)
      obtain ⟨hshown, rfl⟩ := ih hts hus hrest
      refine ⟨?_, rfl⟩
      rw [List.map_cons, List.map_cons, hshown, Token.shown, Token.shown, hkind, htext]

namespace Session

/-! ## 2. Line after line -/

/-- What a session over these lines writes. -/
def transcript (lines : List Text) : Text := lines.flatMap exchange ++ (prompt ++ "\n".toList)

theorem deliver_eq_transcript (x : Text) :
    ((ofInput x.bytes .finished).deliver .unbounded).1 =
      Text.bytes (transcript (Lines.cut '\n' x).all) := by
  rw [Run.deliver_unbounded, (output_ofInput_bytes x .finished).1]
  rfl

theorem transcript_nil : transcript [] = prompt ++ "\n".toList := rfl

theorem transcript_cons (line : Text) (lines : List Text) :
    transcript (line :: lines) =
      prompt ++ ((shownTokens line).flatMap Token.entry ++ transcript lines) := by
  simp [transcript, exchange_eq]

theorem exists_transcript_eq (lines : List Text) : ∃ r, transcript lines = prompt ++ r := by
  cases lines with
  | nil => exact ⟨_, rfl⟩
  | cons line lines => exact ⟨_, transcript_cons line lines⟩

/-- Some token is shown of every line. -/
theorem head?_shownTokens_append (line r : Text) :
    ((shownTokens line).flatMap Token.entry ++ r).head? = some '\x7b' := by
  obtain ⟨ts, t, hshown, -⟩ := exists_shownTokens_eq_concat line
  obtain ⟨u, us, hus⟩ : ∃ u us, shownTokens line = u :: us :=
    List.exists_cons_of_ne_nil (by simp [hshown])
  rw [hus, List.flatMap_cons, List.append_assoc, u.head?_entry_append]

/-- **The lines of a transcript are told apart from each other.** -/
theorem map_shownTokens_eq_of_transcript_eq {ls ms : List Text}
    (h : transcript ls = transcript ms) :
    List.Forall₂ (fun l m => (shownTokens l).map Token.shown = (shownTokens m).map Token.shown)
      ls ms := by
  have hglyphs : ∀ l : Text, ∀ t ∈ shownTokens l, ∀ c ∈ t.text, isGlyph c = true := fun l t ht =>
    Token.isGlyph_of_mem_text (mem_of_mem_upTo ht)
  -- behind the last prompt stands a line feed, behind any other one a brace
  have hlast : ∀ (m : Text) (ms : List Text), transcript [] ≠ transcript (m :: ms) := by
    intro m ms heq
    rw [transcript_nil, transcript_cons] at heq
    have hhead := congrArg List.head? (List.append_cancel_left heq)
    rw [head?_shownTokens_append] at hhead
    exact absurd hhead (by decide)
  induction ls generalizing ms with
  | nil =>
    cases ms with
    | nil => exact List.Forall₂.nil
    | cons m ms => exact absurd h (hlast m ms)
  | cons l ls ih =>
    cases ms with
    | nil => exact absurd h.symm (hlast l ls)
    | cons m ms =>
      rw [transcript_cons, transcript_cons] at h
      obtain ⟨r, hr⟩ := exists_transcript_eq ls
      obtain ⟨s, hs⟩ := exists_transcript_eq ms
      have htail := List.append_cancel_left h
      rw [hr, hs] at htail
      obtain ⟨hshown, rfl⟩ := shown_eq_of_flatMap_entry_append (hglyphs l) (hglyphs m) htail
      exact List.Forall₂.cons hshown (ih (hr.trans hs.symm))

/-- **A transcript shows nothing else** of the lines. -/
theorem transcript_eq_of_map_shownTokens_eq {ls ms : List Text}
    (h : List.Forall₂ (fun l m => (shownTokens l).map Token.shown = (shownTokens m).map Token.shown)
      ls ms) :
    transcript ls = transcript ms := by
  induction h with
  | nil => rfl
  | cons hshown _ ih =>
    rw [transcript_cons, transcript_cons, Token.flatMap_entry_eq, Token.flatMap_entry_eq, hshown,
      ih]

/-! ## 3. Behind a stray character -/

/-- A stray character is absorbed by nothing. -/
theorem not_fuses_stray {c : Char} (hc : isStray c = true) (a b : Text) : ¬ Fuses a (c :: b) := by
  rintro ⟨t, -, -, d, hd, habsorbs⟩
  obtain rfl := Option.some.inj hd
  have hglyph := Kind.isGlyph_of_absorbs habsorbs
  exact absurd hc (by simp [isStray_of_isGlyph hglyph])

/-- A stray character makes one token, and absorbs nothing. -/
theorem body_stray_cons {c : Char} (hc : isStray c = true) (b : Text) :
    body (c :: b) = (Lexeme.stray c).token 0 :: (body b).map (Token.shift c.utf8Size) := by
  have halone : body [c] = [(Lexeme.stray c).token 0] := body_written (x := .stray c) hc
  have hnot : ¬ Fuses [c] b := by
    rintro ⟨t, ht, -, d, -, habsorbs⟩
    rw [halone] at ht
    obtain rfl := Option.some.inj ht
    exact absurd habsorbs (by simp [Lexeme.token, Lexeme.kind, Kind.absorbs])
  have happ := body_append_of_not_fuses hnot
  rw [halone] at happ
  exact happ

/-- **What is shown of a line with a stray character** are the tokens before the first one, and
that there is one. -/
theorem map_shown_of_split {a b : Text} {c : Char} (ha : ∀ d ∈ a, isStray d = false)
    (hc : isStray c = true) :
    (shownTokens (a ++ c :: b)).map Token.shown =
      (body a).map Token.shown ++ [(.illegal, Token.illegalText)] := by
  have hbefore : ∀ t ∈ body a, t.isIllegal = false := fun t ht =>
    isIllegal_of_forall ha ((List.dropLast_sublist _).subset ht)
  have hexists : ∃ d ∈ a ++ c :: b, isStray d = true := ⟨c, by simp, hc⟩
  rw [shownTokens_of_exists hexists, ← body_eq, body_append_of_not_fuses (not_fuses_stray hc a b),
    upTo_append_of_forall hbefore, body_stray_cons hc, List.map_cons, upTo, List.map_append]
  rfl

/-- The lines are equal, or equal up to the first stray character that each of them has there. -/
def AlikeBeforeStray (l m : Text) : Prop :=
  l = m ∨ ∃ (a : Text) (c : Char) (b : Text) (d : Char) (e : Text),
    l = a ++ c :: b ∧ m = a ++ d :: e ∧ (∀ g ∈ a, isStray g = false) ∧ isStray c = true ∧
      isStray d = true

theorem map_shown_eq_of_alikeBeforeStray {l m : Text} (h : AlikeBeforeStray l m) :
    (shownTokens l).map Token.shown = (shownTokens m).map Token.shown := by
  rcases h with rfl | ⟨a, c, b, d, e, rfl, rfl, ha, hc, hd⟩
  · rfl
  · rw [map_shown_of_split ha hc, map_shown_of_split ha hd]

/-- **What a transcript tells.**  Sessions over two texts write the same bytes exactly when the
texts have the same number of lines and, line by line, the tokens up to the first one that is
illegal or the end of the line have the same kinds and texts.

So nothing changes when, in any lines, the first stray character is exchanged for another one and
what follows it, up to the end of the line, for anything else. -/
theorem transcript_eq_iff (x y : Text) :
    (((ofInput x.bytes .finished).deliver .unbounded).1 =
        ((ofInput y.bytes .finished).deliver .unbounded).1 ↔
      List.Forall₂ (fun l m => (shownTokens l).map Token.shown = (shownTokens m).map Token.shown)
        (Lines.cut '\n' x).all (Lines.cut '\n' y).all) ∧
    (List.Forall₂ AlikeBeforeStray (Lines.cut '\n' x).all (Lines.cut '\n' y).all →
      ((ofInput x.bytes .finished).deliver .unbounded).1 =
        ((ofInput y.bytes .finished).deliver .unbounded).1) := by
  rw [deliver_eq_transcript, deliver_eq_transcript]
  refine ⟨⟨fun h => ?_, fun h => ?_⟩, fun h => ?_⟩
  · exact map_shownTokens_eq_of_transcript_eq (Text.bytes_injective h)
  · rw [transcript_eq_of_map_shownTokens_eq h]
  · have hshown := h.imp fun l m hlm => map_shown_eq_of_alikeBeforeStray hlm
    rw [transcript_eq_of_map_shownTokens_eq hshown]

/-- A stray character of another size may stand for the first one, with other text behind it, in
the first line; the second line stays. -/
theorem transcript_eq_iff_strays :
    List.Forall₂ AlikeBeforeStray (Lines.cut '\n' ['a', '$', 'b', '\n', '=']).all
        (Lines.cut '\n' ['a', 'é', ' ', '!', '\n', '=']).all ∧
      ((ofInput (Text.bytes ['a', '$', 'b', '\n', '=']) .finished).deliver .unbounded).1 =
        ((ofInput (Text.bytes ['a', 'é', ' ', '!', '\n', '=']) .finished).deliver
          .unbounded).1 := by
  have hx : (Lines.cut '\n' ['a', '$', 'b', '\n', '=']).all = [['a', '$', 'b', '\n'], ['=']] := by
    decide
  have hy : (Lines.cut '\n' ['a', 'é', ' ', '!', '\n', '=']).all =
      [['a', 'é', ' ', '!', '\n'], ['=']] := by
    decide
  have halike : AlikeBeforeStray ['a', '$', 'b', '\n'] ['a', 'é', ' ', '!', '\n'] := by
    refine Or.inr ⟨['a'], '$', ['b', '\n'], 'é', [' ', '!', '\n'], rfl, rfl, ?_, by decide,
      by decide⟩
    simp only [List.forall_mem_singleton]
    decide
  have hlines : List.Forall₂ AlikeBeforeStray (Lines.cut '\n' ['a', '$', 'b', '\n', '=']).all
      (Lines.cut '\n' ['a', 'é', ' ', '!', '\n', '=']).all := by
    rw [hx, hy]
    exact List.Forall₂.cons halike (List.Forall₂.cons (Or.inl rfl) List.Forall₂.nil)
  exact ⟨hlines, (transcript_eq_iff _ _).2 hlines⟩

end Session

end MonkeyTokens
