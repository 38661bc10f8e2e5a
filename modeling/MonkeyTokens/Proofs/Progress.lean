/- # Progress of a scan

Whatever was asked of a stream before, the next call of `pull` takes it on: it passes blanks and the
characters of one token, or it finds blanks alone and stands at the end, where it stays.  So whoever
pulls until a token stops him comes to an end, and so does whoever asks for the next token until
there is none.  Each token but the last takes a character that is no blank.

* `Stream.ends_or_advances`: what one call does.
* `Stream.pullsUntil_iff`, `Stream.collects_iff`: where the two loops end, and that they do.
* `length_tokenize_le_nonBlanks`: how many tokens there can be.

Main statement: `Stream.pull_progress`.
-/
import MonkeyTokens.Proofs.Grammar
import MonkeyTokens.Proofs.Remaining
import MonkeyTokens.Proofs.Transcript

namespace MonkeyTokens

/-! ## 1. One call -/

/-- Only blanks stand between two byte offsets of a text. -/
def BlankBetween (source : Text) (start stop : Nat) : Prop :=
  ∃ w, source.slice? start stop = some w ∧ ∀ c ∈ w, isBlank c = true

namespace Cursor

/-- The text ahead starts at the position. -/
theorem slice?_input {c : Cursor} {w r : Text} (h : c.ahead = w ++ r) :
    c.input.slice? c.position (c.position + w.extent) = some w := by
  rw [Text.slice?_eq_some_iff]
  refine ⟨c.passed.reverse, r, ?_, ?_, ?_⟩
  · rw [input, h, List.append_assoc]
  · rw [Text.extent_reverse, c.position_eq]
  · rw [Text.extent_reverse, c.position_eq]

theorem extent_input (c : Cursor) : c.input.extent = c.position + Text.extent c.ahead := by
  rw [input, Text.extent_append, Text.extent_reverse, ← c.position_eq]

/-- Taking a token does not change the text. -/
theorem input_token (c : Cursor) : c.token.2.input = c.input := by
  cases h : c.ahead.dropWhile isBlank with
  | nil =>
    rw [token_of_blank h]
    exact input_skip c _
  | cons d r =>
    rw [token_of_cons h, input_skip]
    exact input_skip c _

/-- At the end there is no way on. -/
theorem token_of_ahead_eq_nil {c : Cursor} (h : c.ahead = []) :
    c.token = (Token.eof c.position, c) := by
  obtain ⟨passed, ahead, position, hp⟩ := c
  obtain rfl : ahead = [] := h
  simp [token, skipBlanks, skipWhile, skip]

/-- **A cursor before blanks alone** gives the end of the text and stands there. -/
theorem token_at_end {c : Cursor} (h : c.ahead.dropWhile isBlank = []) :
    c.token.1 = Token.eof c.input.extent ∧ c.token.2.ahead = [] ∧
      c.token.2.position = c.input.extent ∧
      BlankBetween c.input c.position c.input.extent := by
  obtain ⟨hahead, hposition⟩ := c.skipBlanks_eq
  have hblank := List.takeWhile_append_dropWhile (p := isBlank) (l := c.ahead)
  rw [h, List.append_nil] at hblank
  have hend : c.skipBlanks.position = c.input.extent := by
    rw [hposition, hblank, extent_input]
  rw [token_of_blank h]
  refine ⟨congrArg Token.eof hend, hahead.trans h, hend, c.ahead, ?_, ?_⟩
  · rw [extent_input]
    exact slice?_input (List.append_nil _).symm
  · exact Layout.forall_isBlank_of_dropWhile_eq_nil h

/-- **A cursor before anything else** passes the blanks and the token behind them. -/
theorem token_before_end {c : Cursor} {d : Char} {r : Text}
    (h : c.ahead.dropWhile isBlank = d :: r) :
    c.token.1.isEof = false ∧ c.position ≤ c.token.1.span.start ∧
      c.token.1.span.start < c.token.1.span.stop ∧
      BlankBetween c.input c.position c.token.1.span.start := by
  have hd : isBlank d = false := by
    have hhead := List.head?_dropWhile_not isBlank c.ahead
    rwa [h] at hhead
  have hpos := Lexeme.extent_written_pos (Lexeme.isProper_leading r hd)
  have hposition := c.skipBlanks_eq.2
  rw [token_of_cons h]
  refine ⟨decide_eq_false (Lexeme.kind_ne_eof _), ?_, Nat.lt_add_of_pos_right hpos, ?_⟩
  · exact Nat.le.intro hposition.symm
  · refine ⟨c.ahead.takeWhile isBlank, ?_, List.all_eq_true.1 List.all_takeWhile⟩
    have hslice := slice?_input
      (List.takeWhile_append_dropWhile (p := isBlank) (l := c.ahead)).symm
    rwa [← hposition] at hslice

end Cursor

namespace Stream

/-- Where calls of `pull` and of `next?`, in any order, lead from a stream. -/
inductive Leads (s : Stream) : Stream → Prop
  | refl : Leads s s
  | pull {s' : Stream} (h : Leads s s') : Leads s s'.pull.2
  | next {s' : Stream} (h : Leads s s') : Leads s s'.next?.2

/-- The next call of `pull` gives the end of the text.  Blanks alone are passed, and whatever is
called later, the stream is at the end and gives the same token. -/
structure Ends (source : Text) (s : Stream) : Prop where
  pull_fst : s.pull.1 = Token.eof source.extent
  blank : BlankBetween source s.position source.extent
  position_pull : s.pull.2.position = source.extent
  stays : ∀ s', Leads s.pull.2 s' → s'.position = source.extent ∧ s'.pull.1 = s.pull.1 ∧
    s'.pull.2.position = source.extent

/-- The next call of `pull` gives another token.  The stream passes blanks up to the token, and
stands behind it. -/
structure Advances (source : Text) (s : Stream) : Prop where
  not_isEof : s.pull.1.isEof = false
  le_start : s.position ≤ s.pull.1.span.start
  start_lt_stop : s.pull.1.span.start < s.pull.1.span.stop
  position_pull : s.pull.2.position = s.pull.1.span.stop
  stop_le : s.pull.1.span.stop ≤ source.extent
  blank : BlankBetween source s.position s.pull.1.span.start

/-- A call of `next?` pulls, or leaves the stream as it is. -/
theorem cursor_next? (s : Stream) :
    s.next?.2.cursor = s.cursor ∨ s.next?.2.cursor = s.pull.2.cursor := by
  unfold next?
  split
  · exact Or.inl rfl
  · exact Or.inr rfl

/-- Calls do not change the text. -/
theorem Leads.input {s s' : Stream} (h : Leads s s') : s'.cursor.input = s.cursor.input := by
  induction h with
  | refl => rfl
  | pull _ ih => exact (Cursor.input_token _).trans ih
  | @next s' _ ih =>
    rcases s'.cursor_next? with hc | hc
    · rw [hc, ih]
    · rw [hc, ← ih]
      exact Cursor.input_token _

/-- Calls do not move a stream that is at the end. -/
theorem Leads.cursor_eq {s s' : Stream} (h : Leads s s') (hs : s.cursor.ahead = []) :
    s'.cursor = s.cursor := by
  have hstay : ∀ t : Stream, t.cursor = s.cursor → t.pull.2.cursor = s.cursor := by
    intro t ht
    have htoken := Cursor.token_of_ahead_eq_nil hs
    rw [← ht] at htoken ⊢
    exact congrArg Prod.snd htoken
  induction h with
  | refl => rfl
  | pull _ ih => exact hstay _ ih
  | @next s' _ ih =>
    rcases s'.cursor_next? with hc | hc
    · rw [hc, ih]
    · rw [hc]
      exact hstay s' ih

/-- **What one call does.** -/
theorem ends_or_advances {source : Text} {s : Stream} (h : Leads (start source) s) :
    s.Ends source ∨ s.Advances source := by
  have hinput : s.cursor.input = source := h.input
  cases hahead : s.cursor.ahead.dropWhile isBlank with
  | nil =>
    obtain ⟨htoken, hend, hposition, hblank⟩ := Cursor.token_at_end hahead
    rw [hinput] at htoken hposition hblank
    refine Or.inl ⟨htoken, hblank, hposition, ?_⟩
    intro s' hs'
    have hcursor : s'.cursor = s.cursor.token.2 := hs'.cursor_eq hend
    have hpull : s'.cursor.token = (Token.eof source.extent, s'.cursor) := by
      rw [hcursor, Cursor.token_of_ahead_eq_nil hend, hposition]
    have hhere : s'.position = source.extent := by
      rw [position, hcursor, hposition]
    refine ⟨hhere, ?_, ?_⟩
    · exact (congrArg Prod.fst hpull).trans htoken.symm
    · rw [← hhere]
      exact congrArg (fun p => p.2.position) hpull
  | cons d r =>
    obtain ⟨heof, hle, hlt, hblank⟩ := Cursor.token_before_end hahead
    rw [hinput] at hblank
    have hposition := s.cursor.position_token
    have hextent := s.cursor.token.2.extent_input
    rw [Cursor.input_token, hinput] at hextent
    refine Or.inr ⟨heof, hle, hlt, hposition, ?_, hblank⟩
    have hstop : s.cursor.token.1.span.stop ≤ source.extent := by omega
    exact hstop

/-! ## 2. Loops -/

/-- Tokens are pulled from a stream until one of them stops the loop; that one is the last. -/
inductive PullsUntil (stop : Token → Bool) : Stream → List Token → Prop
  | last {s : Stream} (h : stop s.pull.1 = true) : PullsUntil stop s [s.pull.1]
  | more {s : Stream} {ts : List Token} (h : stop s.pull.1 = false)
      (rest : PullsUntil stop s.pull.2 ts) : PullsUntil stop s (s.pull.1 :: ts)

/-- The next token of a stream is asked for until there is none. -/
inductive Collects : Stream → List Token → Prop
  | done {s : Stream} (h : s.next?.1 = none) : Collects s []
  | more {s : Stream} {t : Token} {ts : List Token} (h : s.next?.1 = some t)
      (rest : Collects s.next?.2 ts) : Collects s (t :: ts)

/-- A loop that the end stops comes to an end. -/
theorem pullsUntil_upTo {stop : Token → Bool} (hstop : ∀ t, t.isEof = true → stop t = true)
    (s : Stream) : PullsUntil stop s (upTo stop s.cursor.rest) := by
  obtain ⟨n, hn⟩ : ∃ n, n = s.cursor.rest.length := ⟨_, rfl⟩
  -- every token that does not stop the loop leaves one token less
  induction n generalizing s with
  | zero =>
    exact absurd (List.length_eq_zero_iff.1 hn.symm) s.cursor.rest_ne_nil
  | succ n ih =>
    obtain ⟨heof, hrest, -⟩ | ⟨-, hrest⟩ := s.cursor.token_cases
    · have hlast : stop s.pull.1 = true := hstop _ heof
      have hone : upTo stop [s.cursor.token.1] = [s.pull.1] := if_pos hlast
      rw [hrest, hone]
      exact PullsUntil.last hlast
    · rw [hrest] at hn ⊢
      rw [upTo]
      split
      · next hlast => exact PullsUntil.last hlast
      · next hmore =>
        refine PullsUntil.more (Bool.eq_false_iff.2 hmore) (ih s.pull.2 ?_)
        exact Nat.succ.inj hn

/-- **What a loop pulls**: the tokens that remain, up to the first one that stops it. -/
theorem pullsUntil_iff {stop : Token → Bool} (hstop : ∀ t, t.isEof = true → stop t = true)
    {s : Stream} {ts : List Token} :
    PullsUntil stop s ts ↔ ts = upTo stop s.cursor.rest := by
  constructor
  · intro h
    induction h with
    | @last s h =>
      obtain ⟨-, hrest, -⟩ | ⟨-, hrest⟩ := s.cursor.token_cases
      all_goals
        rw [hrest, upTo]
        exact (if_pos h).symm
    | @more s ts h _ ih =>
      obtain ⟨heof, -, -⟩ | ⟨-, hrest⟩ := s.cursor.token_cases
      · exact absurd (hstop _ heof) (Bool.eq_false_iff.1 h)
      · rw [hrest, upTo, ih]
        exact (if_neg (Bool.eq_false_iff.1 h)).symm
  · rintro rfl
    exact pullsUntil_upTo hstop s

theorem collects_rest (s : Stream) : Collects s s.rest := by
  obtain ⟨n, hn⟩ : ∃ n, n = s.rest.length := ⟨_, rfl⟩
  induction n generalizing s with
  | zero =>
    have hnil := List.length_eq_zero_iff.1 hn.symm
    obtain ⟨-, hs⟩ | ⟨t, s', -, hrest⟩ := s.next?_cases
    · rw [hnil]
      exact Collects.done (congrArg Prod.fst hs)
    · exact absurd (hnil.symm.trans hrest) (List.cons_ne_nil _ _).symm
  | succ n ih =>
    obtain ⟨hnil, -⟩ | ⟨t, s', hs, hrest⟩ := s.next?_cases
    · rw [hnil] at hn
      exact absurd hn (Nat.succ_ne_zero n)
    · have hmore : s.next?.2 = s' := congrArg Prod.snd hs
      rw [hrest] at hn ⊢
      refine Collects.more (congrArg Prod.fst hs) ?_
      rw [hmore]
      exact ih s' (Nat.succ.inj hn)

/-- **What is collected**: all tokens that remain. -/
theorem collects_iff {s : Stream} {ts : List Token} : Collects s ts ↔ ts = s.rest := by
  constructor
  · intro h
    induction h with
    | @done s h =>
      obtain ⟨hnil, -⟩ | ⟨t, s', hs, -⟩ := s.next?_cases
      · exact hnil.symm
      · rw [hs] at h
        exact absurd h (Option.some_ne_none t)
    | @more s t ts h _ ih =>
      obtain ⟨-, hs⟩ | ⟨u, s', hs, hrest⟩ := s.next?_cases
      · rw [hs] at h
        exact absurd h.symm (Option.some_ne_none t)
      · rw [hs] at h ih
        obtain rfl : u = t := Option.some.inj h
        rw [hrest, ih]
  · rintro rfl
    exact collects_rest s

end Stream

/-! ## 3. How many tokens there can be -/

/-- The number of characters that are no blanks. -/
def nonBlanks (t : Text) : Nat := t.countP fun c => !isBlank c

/-- Every lexeme takes a character that is no blank. -/
theorem Lexeme.nonBlanks_written_pos {x : Lexeme} (hx : x.IsProper) :
    0 < nonBlanks x.written := by
  obtain ⟨c, v, hc, -, -⟩ := leading_written_append hx
  have hmem : c ∈ x.written := by
    rw [hc]
    exact List.mem_cons_self
  refine List.countP_pos_iff.2 ⟨c, hmem, ?_⟩
  rw [isBlank_of_mem_written hx hmem]
  rfl

theorem Layout.length_items_le_nonBlanks {l : List (Text × Lexeme)} {u : Text}
    (h : IsPlain ⟨l, u⟩) : l.length ≤ nonBlanks (written ⟨l, u⟩) := by
  induction l with
  | nil => exact Nat.zero_le _
  | cons i l ih =>
    obtain ⟨w, x⟩ := i
    obtain ⟨-, hx, hr⟩ := isPlain_cons.1 h
    have hpos := Lexeme.nonBlanks_written_pos hx
    have hrest := ih hr
    have hsum : nonBlanks (written ⟨(w, x) :: l, u⟩) =
        nonBlanks w + (nonBlanks x.written + nonBlanks (written ⟨l, u⟩)) := by
      rw [written_cons, nonBlanks, List.countP_append, List.countP_append]
      rfl
    rw [hsum, List.length_cons]
    omega

/-- **There are no more tokens than characters that are no blanks**, but for the end. -/
theorem length_tokenize_le_nonBlanks (source : Text) :
    (tokenize source).length ≤ nonBlanks source + 1 := by
  have hitems := Layout.length_items_le_nonBlanks (Layout.isPlain_ofText source)
  have hlexemes :=
    congrArg List.length (Layout.map_lexeme_spotsFrom 0 (Layout.ofText source).items)
  have hwritten : Layout.written ⟨(Layout.ofText source).items, (Layout.ofText source).trail⟩ =
      source := Layout.written_ofText source
  rw [hwritten] at hitems
  rw [List.length_map, List.length_map] at hlexemes
  rw [tokenize_eq, List.length_append, List.length_map, spots, Layout.spots, hlexemes]
  exact Nat.succ_le_succ hitems

theorem length_upTo_le {α : Type} (p : α → Bool) (xs : List α) :
    (upTo p xs).length ≤ xs.length := by
  induction xs with
  | nil => exact Nat.le_refl 0
  | cons x xs ih =>
    rw [upTo]
    split
    · exact Nat.succ_le_succ (Nat.zero_le _)
    · exact Nat.succ_le_succ ih

/-- The end is the last token, so up to the end are all. -/
theorem upTo_isEof_tokenize (source : Text) :
    upTo Token.isEof (tokenize source) = tokenize source := by
  have hnot : ∀ t ∈ (spots source).map Spot.token, t.isEof = false := by
    intro t ht
    obtain ⟨s, -, rfl⟩ := List.mem_map.1 ht
    exact s.isEof_token
  rw [tokenize_eq, upTo_append_of_forall hnot]
  rfl

namespace Stream

/-- **A scan makes progress and ends.**  Wherever any calls of `pull` and `next?` have led from the
start of a text, the next call of `pull` either passes blanks alone and gives the end of the text,
which the stream then never leaves, or it passes blanks and gives a token that is not empty, starts
where these end, and lies in the text; the stream then stands behind it.

So the loops end, each in one way.  Pulling up to the end gives the tokens of the text, as the
sample shows them; so does asking for the next token until there is none, and a bound on the number
of calls changes nothing.  Pulling up to the first stray character or the end gives the tokens that
a session shows of a line.  There are no more of them than characters that are no blanks, and
one. -/
theorem pull_progress (source : Text) :
    (∀ s, Leads (start source) s → s.Ends source ∨ s.Advances source) ∧
    (∀ ts, PullsUntil Token.isEof (start source) ts ↔ ts = tokenize source) ∧
    Sample.run.output = (tokenize Sample.source).flatMap Token.entry ∧
    (∀ ts, PullsUntil Token.closes (start source) ts ↔ ts = Session.shownTokens source) ∧
    (Session.answer source).flatMap Event.written =
      (Session.shownTokens source).flatMap Token.entry ∧
    (∀ ts, Collects (start source) ts ↔ ts = tokenize source) ∧
    (start source).drain.1 = tokenize source ∧
    (tokenize source).length ≤ nonBlanks source + 1 ∧
    (Session.shownTokens source).length ≤ nonBlanks source + 1 := by
  have hrest : (start source).cursor.rest = tokenize source := Cursor.rest_start source
  have hcloses : ∀ t : Token, t.isEof = true → t.closes = true := by
    intro t ht
    rw [Token.closes, ht, Bool.or_true]
  refine ⟨fun s hs => ends_or_advances hs, ?_, Sample.output_run, ?_,
    Session.written_answer source, ?_, drain_start source, length_tokenize_le_nonBlanks source, ?_⟩
  · intro ts
    rw [pullsUntil_iff (fun t ht => ht), hrest, upTo_isEof_tokenize]
  · intro ts
    rw [pullsUntil_iff hcloses, hrest]
    rfl
  · intro ts
    have hall : (start source).rest = tokenize source := hrest
    rw [collects_iff, hall]
  · exact Nat.le_trans (length_upTo_le _ _) (length_tokenize_le_nonBlanks source)

end Stream

end MonkeyTokens
