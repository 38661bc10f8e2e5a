/- # What a session writes

A session writes a prompt and the tokens of a line in turn.  This file says what all of it is for
any bytes of the input, whether they are complete or break off, without the order in which the
session reads and writes.

* `Session.written_answer`: what is shown of a line are its tokens up to the first one that is
  illegal or the end of the line.
* `Session.output_run`: lines that are texts are answered; the first line that is none ends the
  session, and so does the end of the lines.

Main statement: `Session.deliver_ofInput`.
-/
import MonkeyTokens.Session
import MonkeyTokens.Proofs.Strays
import MonkeyTokens.Proofs.ShownLines

namespace MonkeyTokens

/-! ## 1. Up to the first -/

/-- A list up to the first element with a property, that element included. -/
def upTo {α : Type} (p : α → Bool) : List α → List α
  | [] => []
  | x :: xs => if p x then [x] else x :: upTo p xs

/-- Where there is such an element, it is the last one, and the only one. -/
theorem exists_upTo_eq_concat {α : Type} {p : α → Bool} {xs : List α}
    (h : ∃ x ∈ xs, p x = true) :
    ∃ ys y, upTo p xs = ys ++ [y] ∧ p y = true ∧ ∀ x ∈ ys, p x = false := by
  induction xs with
  | nil => simp at h
  | cons x xs ih =>
    cases hx : p x with
    | true => exact ⟨[], x, by simp [upTo, hx], hx, by simp⟩
    | false =>
      obtain ⟨ys, y, hy, hp, hys⟩ := ih (by simpa [hx] using h)
      exact ⟨x :: ys, y, by simp [upTo, hx, hy], hp, List.forall_mem_cons.2 ⟨hx, hys⟩⟩

/-- What is left out stands behind. -/
theorem exists_eq_upTo_append {α : Type} (p : α → Bool) (xs : List α) :
    ∃ rest, xs = upTo p xs ++ rest := by
  induction xs with
  | nil => exact ⟨[], rfl⟩
  | cons x xs ih =>
    unfold upTo
    split
    · exact ⟨xs, rfl⟩
    · obtain ⟨rest, hrest⟩ := ih
      exact ⟨rest, congrArg (x :: ·) hrest⟩

theorem mem_of_mem_upTo {α : Type} {p : α → Bool} {xs : List α} {x : α} (h : x ∈ upTo p xs) :
    x ∈ xs := by
  induction xs with
  | nil => exact h
  | cons y xs ih =>
    unfold upTo at h
    split at h
    · exact List.mem_cons.2 (Or.inl (List.mem_singleton.1 h))
    · rcases List.mem_cons.1 h with rfl | h
      · exact List.mem_cons_self
      · exact List.mem_cons_of_mem y (ih h)

/-- What follows such an element does not matter. -/
theorem upTo_append_of_exists {α : Type} {p : α → Bool} {xs : List α}
    (h : ∃ x ∈ xs, p x = true) (ys : List α) : upTo p (xs ++ ys) = upTo p xs := by
  induction xs with
  | nil => simp at h
  | cons x xs ih =>
    cases hx : p x with
    | true => simp [upTo, hx]
    | false => simp [upTo, hx, ih (by simpa [hx] using h)]

/-- What has no such element is passed over. -/
theorem upTo_append_of_forall {α : Type} {p : α → Bool} {xs : List α}
    (h : ∀ x ∈ xs, p x = false) (ys : List α) : upTo p (xs ++ ys) = xs ++ upTo p ys := by
  induction xs with
  | nil => rfl
  | cons x xs ih =>
    obtain ⟨hx, hxs⟩ := List.forall_mem_cons.1 h
    simp [upTo, hx, ih hxs]

theorem upTo_congr {α : Type} {p q : α → Bool} {xs : List α} (h : ∀ x ∈ xs, p x = q x) :
    upTo p xs = upTo q xs := by
  induction xs with
  | nil => rfl
  | cons x xs ih =>
    obtain ⟨hx, hxs⟩ := List.forall_mem_cons.1 h
    simp [upTo, hx, ih hxs]

theorem upTo_map {α β : Type} {p : α → Bool} {q : β → Bool} {f : α → β}
    (h : ∀ x, q (f x) = p x) (xs : List α) : upTo q (xs.map f) = (upTo p xs).map f := by
  induction xs with
  | nil => rfl
  | cons x xs ih =>
    rw [List.map_cons, upTo, upTo, h x, ih]
    split <;> rfl

/-! ## 2. The tokens that are shown -/

namespace Token

/-- The token is the last one that is shown of its line. -/
def closes (t : Token) : Bool := t.isIllegal || t.isEof

end Token

namespace Session

/-- The tokens that are shown of a line: up to the first stray character, or to the end. -/
def shownTokens (line : Text) : List Token := upTo Token.closes (tokenize line)

/-- What is written for a line, from the prompt for it to its last token. -/
def exchange (line : Text) : Text := "... ".toList ++ (shownTokens line).flatMap Token.entry

theorem exchange_eq (line : Text) :
    exchange line = prompt ++ (shownTokens line).flatMap Token.entry := rfl

/-- **A line with a stray character** is shown up to the first one. -/
theorem shownTokens_of_exists {line : Text} (h : ∃ c ∈ line, isStray c = true) :
    shownTokens line = upTo Token.isIllegal ((spots line).map Spot.token) := by
  obtain ⟨t, ht, hi⟩ := exists_isIllegal_iff.2 h
  obtain ⟨s, hs, rfl, -⟩ := Token.exists_stray?_of_isIllegal ht hi
  have hcloses : ∀ t ∈ (spots line).map Spot.token, t.closes = t.isIllegal := by
    intro t ht
    obtain ⟨r, -, rfl⟩ := List.mem_map.1 ht
    simp [Token.closes, r.isEof_token]
  have hmem : s.token ∈ (spots line).map Spot.token := List.mem_map_of_mem hs
  rw [shownTokens, tokenize_eq,
    upTo_append_of_exists ⟨s.token, hmem, by rw [hcloses _ hmem]; exact hi⟩, upTo_congr hcloses]

/-- **A line without a stray character** is shown to its end. -/
theorem shownTokens_of_forall {line : Text} (h : ∀ c ∈ line, isStray c = false) :
    shownTokens line = tokenize line := by
  have hnot : ∀ t ∈ (spots line).map Spot.token, t.closes = false := by
    intro t ht
    have hmem : t ∈ tokenize line := by
      rw [tokenize_eq]
      exact List.mem_append_left _ ht
    have hill := isIllegal_of_forall h hmem
    obtain ⟨r, -, rfl⟩ := List.mem_map.1 ht
    simp [Token.closes, hill, r.isEof_token]
  rw [shownTokens, tokenize_eq, upTo_append_of_forall hnot]
  rfl

/-- **How the tokens shown of a line end**: with an illegal one when the line has a stray
character, and with the end of the line when it has none; no token before the last is either. -/
theorem exists_shownTokens_eq_concat (line : Text) :
    ∃ ts t, shownTokens line = ts ++ [t] ∧
      (∀ u ∈ ts, u.isEof = false ∧ u.isIllegal = false) ∧
      (t.isIllegal = true ↔ ∃ c ∈ line, isStray c = true) ∧
      (t.isEof = true ↔ ∀ c ∈ line, isStray c = false) := by
  by_cases h : ∃ c ∈ line, isStray c = true
  · obtain ⟨t, ht, hi⟩ := exists_isIllegal_iff.2 h
    obtain ⟨s, hs, rfl, -⟩ := Token.exists_stray?_of_isIllegal ht hi
    obtain ⟨ts, t, hshown, ht, hts⟩ :=
      exists_upTo_eq_concat ⟨s.token, List.mem_map_of_mem (f := Spot.token) hs, hi⟩
    have heof : ∀ u ∈ ts ++ [t], u.isEof = false := by
      intro u hu
      rw [← hshown] at hu
      obtain ⟨r, -, rfl⟩ := List.mem_map.1 (mem_of_mem_upTo hu)
      exact r.isEof_token
    refine ⟨ts, t, (shownTokens_of_exists h).trans hshown, ?_, iff_of_true ht h, ?_⟩
    · exact fun u hu => ⟨heof u (List.mem_append_left _ hu), hts u hu⟩
    · rw [heof t (by simp)]
      obtain ⟨c, hc, hstray⟩ := h
      exact iff_of_false Bool.false_ne_true fun hall => by simp [hall c hc] at hstray
  · have hall : ∀ c ∈ line, isStray c = false := by simpa using h
    have hnot : ∀ u ∈ tokenize line, u.isIllegal = false := fun u hu => isIllegal_of_forall hall hu
    rw [shownTokens_of_forall hall]
    rw [tokenize_eq] at hnot ⊢
    refine ⟨_, _, rfl, ?_, iff_of_false (by simp [hnot]) h, iff_of_true rfl hall⟩
    intro u hu
    refine ⟨?_, hnot u (List.mem_append_left _ hu)⟩
    obtain ⟨r, -, rfl⟩ := List.mem_map.1 hu
    exact r.isEof_token

/-- How they end, said by kinds and by the alphabet. -/
theorem exists_shown_of_tokenize (line : Text) :
    ∃ ts t rest, shownTokens line = ts ++ [t] ∧ tokenize line = ts ++ t :: rest ∧
      (∀ u ∈ ts, u.kind ≠ .eof ∧ u.kind ≠ .illegal) ∧
      (t.kind = .illegal ↔ ∃ c ∈ line, ¬ InAlphabet c) ∧
      (t.kind = .eof ↔ ∀ c ∈ line, InAlphabet c) := by
  obtain ⟨ts, t, hshown, hts, hillegal, heof⟩ := exists_shownTokens_eq_concat line
  obtain ⟨rest, hrest⟩ := exists_eq_upTo_append Token.closes (tokenize line)
  have hall : tokenize line = ts ++ t :: rest := by
    rw [hrest, ← shownTokens, hshown, List.append_assoc]
    rfl
  simp only [Token.isEof, Token.isIllegal, decide_eq_true_eq, decide_eq_false_iff_not,
    isStray_eq_true_iff, isStray_eq_false_iff] at hts hillegal heof
  exact ⟨ts, t, rest, hshown, hall, hts, hillegal, heof⟩

theorem written_spot (s : Spot) : s.show.flatMap Event.written = s.token.entry := by
  simp only [Spot.show, Token.show, List.flatMap_append, Event.flatMap_written_log,
    List.flatMap_singleton, Event.written, Token.line_append_feed, List.nil_append]

theorem written_answerFrom (stop : Nat) (ss : List Spot) :
    (answerFrom stop ss).flatMap Event.written =
      (upTo Token.closes (ss.map Spot.token ++ [Token.eof stop])).flatMap Token.entry := by
  induction ss with
  | nil => rfl
  | cons s ss ih =>
    have hill := s.isIllegal_token
    cases hs : s.stray? with
    | some c =>
      simp only [hs, Option.isSome_some] at hill
      simp [answerFrom, hs, written_spot, upTo, Token.closes, hill, Event.written]
    | none =>
      simp only [hs, Option.isSome_none] at hill
      simp [answerFrom, hs, written_spot, upTo, Token.closes, hill, s.isEof_token, ih]

/-- **What is written in answer to a line.** -/
theorem written_answer (line : Text) :
    (answer line).flatMap Event.written = (shownTokens line).flatMap Token.entry := by
  rw [answer, written_answerFrom, shownTokens, tokenize_eq]

end Session

/-- The sample shows its tokens. -/
theorem Sample.output_run : Sample.run.output = (tokenize Sample.source).flatMap Token.entry := by
  have hshow : ∀ s : Spot, s.show.flatMap Event.written = s.token.entry := Session.written_spot
  rw [Run.output, Sample.run, List.flatMap_append, List.flatMap_assoc, tokenize_eq,
    List.flatMap_append, List.flatMap_map]
  simp only [hshow]
  rfl

namespace Session

/-! ## 3. Lines that are answered, and the one that is not -/

/-- Lines are texts up to the first one that is none. -/
theorem exists_texts_append (ls : List (List UInt8)) :
    ∃ (texts : List Text) (left : List (List UInt8)), ls = texts.map Text.bytes ++ left ∧
      ∀ bad ∈ left.head?, ∀ t, Text.bytes t ≠ bad := by
  induction ls with
  | nil => exact ⟨[], [], rfl, by simp⟩
  | cons l ls ih =>
    by_cases h : ∃ t, Text.bytes t = l
    · obtain ⟨t, rfl⟩ := h
      obtain ⟨texts, left, rfl, hleft⟩ := ih
      exact ⟨t :: texts, left, rfl, hleft⟩
    · refine ⟨[], l :: ls, rfl, ?_⟩
      intro bad hbad t ht
      obtain rfl := Option.some.inj hbad
      exact h ⟨t, ht⟩

/-- What a session writes after its last prompt, and how it ends there; `left` are the lines that
it has not answered. -/
def parting : Ending → List (List UInt8) → Text × Except Fault Unit
  | _, _ :: _ => ([], .error (.input .notUtf8))
  | .finished, [] => ("\n".toList, .ok ())
  | .broken cause, [] => ([], .error (.input cause))

/-- A session that cannot answer the line before it ends there. -/
theorem run_of_head? {ending : Ending} {left : List (List UInt8)}
    (h : ∀ bad ∈ left.head?, ∀ t, Text.bytes t ≠ bad) :
    (run ending left).output = prompt ++ (parting ending left).1 ∧
      (run ending left).result = (parting ending left).2 := by
  cases left with
  | nil => cases ending <;> exact ⟨rfl, rfl⟩
  | cons bad left =>
    have hnone : Text.ofBytes? bad = none := by
      refine Option.eq_none_iff_forall_ne_some.2 fun t ht => ?_
      exact h bad rfl t (Text.ofBytes?_eq_some_iff.1 ht)
    simp [run, answerBytes, hnone, Run.output, ask, Event.written, parting]

/-- **What a session over lines writes, and how it ends.** -/
theorem output_run {ending : Ending} {texts : List Text} {left : List (List UInt8)}
    (h : ∀ bad ∈ left.head?, ∀ t, Text.bytes t ≠ bad) :
    (run ending (texts.map Text.bytes ++ left)).output =
        texts.flatMap exchange ++ (prompt ++ (parting ending left).1) ∧
      (run ending (texts.map Text.bytes ++ left)).result = (parting ending left).2 := by
  obtain ⟨hout, hresult⟩ := run_of_head? h
  have hline : ∀ t : Text, (ask ++ answer t).flatMap Event.written = exchange t := by
    intro t
    rw [List.flatMap_append, written_answer, exchange_eq]
    rfl
  rw [run_append, Run.output_after, Run.result_after, hout, hresult, List.flatMap_assoc]
  simp [hline]

/-- The lines of a text that a session reads. -/
def linesOf (t : Text) : Ending → List Text
  | .finished => (Lines.cut '\n' t).all
  | .broken _ => (Lines.cut '\n' t).complete

/-- The lines read of a text are texts: cutting does not part a character. -/
theorem linesRead_bytes (t : Text) (ending : Ending) :
    linesRead t.bytes ending = (linesOf t ending).map Text.bytes := by
  cases ending with
  | finished => rw [linesRead, Lines.cut_bytes, Lines.all_bytes, linesOf]
  | broken cause => rw [linesRead, Lines.cut_bytes, Lines.bytes, linesOf]

/-- **A session over a text** answers each of its lines and ends as its input does. -/
theorem output_ofInput_bytes (t : Text) (ending : Ending) :
    (ofInput t.bytes ending).output =
        (linesOf t ending).flatMap exchange ++ (prompt ++ (parting ending []).1) ∧
      (ofInput t.bytes ending).result = (parting ending []).2 := by
  rw [ofInput, linesRead_bytes, ← List.append_nil ((linesOf t ending).map Text.bytes)]
  exact output_run (by simp)

/-- **The whole of a session.**  Its input is cut after each line feed; what stands behind the last
one is a line too, unless it is empty or the input breaks off.  The lines up to the first one that
is no UTF-8 are answered, each after a prompt, with its tokens up to the first one that is illegal
or the end of the line.  After these stands one more prompt.  If there is a line that is no UTF-8,
the session fails with it, whatever comes after it; if the input breaks off, it fails with the
cause of that; otherwise it writes a line feed and succeeds.

The tokens shown of a line are the first ones of it, and end with the only one that is illegal or
the end: illegal exactly when the line has a character outside the alphabet.  No such character
makes the session fail: over the bytes of a text it ends as its input does.  The names that the
lines show are those of the sheet. -/
theorem deliver_ofInput (bytes : List UInt8) (ending : Ending) :
    (∃ (lines : Lines UInt8) (texts : List Text) (left : List (List UInt8)),
      lines.IsCut lineFeed ∧ lines.join = bytes ∧
      (match ending with
        | .finished => lines.all
        | .broken _ => lines.complete) = texts.map Text.bytes ++ left ∧
      (∀ bad ∈ left.head?, ∀ t, Text.bytes t ≠ bad) ∧
      (ofInput bytes ending).deliver .unbounded =
        (Text.bytes (texts.flatMap (fun line =>
              "... ".toList ++ (shownTokens line).flatMap fun t =>
                "\x7bType:".toList ++ t.kind.name ++
                  " Literal:".toList ++ t.text ++ "\x7d\n".toList) ++
            ("... ".toList ++ (parting ending left).1)),
          (parting ending left).2)) ∧
    (∀ line, ∃ ts t rest, shownTokens line = ts ++ [t] ∧ tokenize line = ts ++ t :: rest ∧
      (∀ u ∈ ts, u.kind ≠ .eof ∧ u.kind ≠ .illegal) ∧
      (t.kind = .illegal ↔ ∃ c ∈ line, ¬ InAlphabet c) ∧
      (t.kind = .eof ↔ ∀ c ∈ line, InAlphabet c)) ∧
    (∀ k : Kind, (k, k.name, k.fixedLexeme?) ∈ Kind.sheet) ∧
    (∀ t : Text, (ofInput t.bytes ending).result = (parting ending []).2) ∧
    (Fault.input .notUtf8).message =
      "failed to read input: stream did not contain valid UTF-8".toList := by
  refine ⟨?_, exists_shown_of_tokenize, fun k => Kind.mem_sheet_iff.2 ⟨rfl, rfl⟩,
    fun t => (output_ofInput_bytes t ending).2, by decide⟩
  obtain ⟨texts, left, hlines, hleft⟩ := exists_texts_append (linesRead bytes ending)
  obtain ⟨hout, hresult⟩ := @output_run ending texts left hleft
  refine ⟨Lines.cut lineFeed bytes, texts, left, Lines.isCut_cut lineFeed bytes,
    Lines.join_cut lineFeed bytes, ?_, hleft, ?_⟩
  · rw [← hlines]
    cases ending <;> rfl
  · rw [Run.deliver_unbounded, ofInput, hlines, hout, hresult]
    rfl

end Session

end MonkeyTokens
