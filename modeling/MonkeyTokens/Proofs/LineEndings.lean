/- # Line endings

Put a carriage return before every line feed of an input.  It is a blank, it belongs to no
character of more than one byte, and it makes no line; so the lines are the same in number, each is
UTF-8 when it was, and each has the tokens that it had.  A session cannot tell the difference, and a
scan tells it only by the offsets, which grow by the line feeds before them.

* `Lines.all_cut_widen`: the lines of the widened list are the lines, widened.
* `ofBytes?_withReturns_of_line`: a line is decoded with its carriage return as without.
* `tokenize_withReturns`: the tokens of a text with carriage returns.
* `Session.output_run_withReturns`: what a session writes over such lines.

Main statement: `Session.deliver_withReturns`.
-/
import MonkeyTokens.Proofs.FailingSinks

namespace MonkeyTokens

/-! ## 1. Marks that are widened -/

namespace Lines

variable {α : Type} [DecidableEq α] {mark extra : α}

/-- A list with `extra` put before each mark. -/
def widen (mark extra : α) (xs : List α) : List α :=
  xs.flatMap fun x => if x = mark then [extra, mark] else [x]

theorem widen_append (xs ys : List α) :
    widen mark extra (xs ++ ys) = widen mark extra xs ++ widen mark extra ys :=
  List.flatMap_append

theorem widen_flatten (ps : List (List α)) :
    widen mark extra ps.flatten = (ps.map (widen mark extra)).flatten := by
  induction ps with
  | nil => rfl
  | cons p ps ih => rw [List.flatten_cons, widen_append, ih, List.map_cons, List.flatten_cons]

theorem widen_of_not_mem {w : List α} (h : mark ∉ w) : widen mark extra w = w := by
  induction w with
  | nil => rfl
  | cons x w ih =>
    obtain ⟨hx, hw⟩ := List.ne_and_not_mem_of_not_mem_cons h
    have hne : ¬ x = mark := Ne.symm hx
    rw [widen, List.flatMap_cons, if_neg hne]
    exact congrArg (x :: ·) (ih hw)

/-- A line that ends with its only mark. -/
theorem widen_concat {w : List α} (h : mark ∉ w) :
    widen mark extra (w ++ [mark]) = w ++ [extra, mark] := by
  rw [widen_append, widen_of_not_mem h]
  simp [widen]

theorem mem_widen {xs : List α} {y : α} (h : y ∈ widen mark extra xs) : y = extra ∨ y ∈ xs := by
  obtain ⟨x, hx, hy⟩ := List.mem_flatMap.1 h
  split at hy
  · next hmark =>
    subst hmark
    rcases List.mem_cons.1 hy with rfl | hy
    · exact Or.inl rfl
    · rw [List.mem_singleton.1 hy]
      exact Or.inr hx
  · obtain rfl := List.mem_singleton.1 hy
    exact Or.inr hx

/-- A widened list starts as the list does, or with what has been put in. -/
theorem mem_head?_widen {xs : List α} {y : α} (h : y ∈ (widen mark extra xs).head?) :
    y = extra ∨ y ∈ xs.head? := by
  cases xs with
  | nil => simp [widen] at h
  | cons x xs =>
    rw [widen, List.flatMap_cons] at h
    split at h
    · exact Or.inl (Option.some.inj h).symm
    · exact Or.inr h

/-- A line has the mark at its end, or nowhere. -/
def IsLine (mark : α) (l : List α) : Prop := mark ∉ l ∨ ∃ w, l = w ++ [mark] ∧ mark ∉ w

/-- **Widening makes no lines and loses none.** -/
theorem cut_widen (hne : extra ≠ mark) (xs : List α) :
    cut mark (widen mark extra xs) =
      ⟨(cut mark xs).complete.map (widen mark extra), (cut mark xs).unfinished⟩ := by
  have hcut := isCut_cut mark xs
  have hform : IsCut mark
      ⟨(cut mark xs).complete.map (widen mark extra), (cut mark xs).unfinished⟩ := by
    refine ⟨?_, hcut.unfinished⟩
    intro p hp
    obtain ⟨q, hq, rfl⟩ := List.mem_map.1 hp
    obtain ⟨w, rfl, hw⟩ := hcut.complete q hq
    refine ⟨w ++ [extra], by simp [widen_concat hw], ?_⟩
    exact List.not_mem_append hw (by simpa using hne.symm)
  have hjoin : join ⟨(cut mark xs).complete.map (widen mark extra), (cut mark xs).unfinished⟩ =
      widen mark extra xs :=
    calc ((cut mark xs).complete.map (widen mark extra)).flatten ++ (cut mark xs).unfinished
        = widen mark extra (cut mark xs).complete.flatten ++
            widen mark extra (cut mark xs).unfinished := by
          rw [widen_flatten, widen_of_not_mem hcut.unfinished]
      _ = widen mark extra (cut mark xs).join := (widen_append _ _).symm
      _ = widen mark extra xs := by rw [join_cut]
  rw [← hjoin, cut_join hform]

theorem all_cut_widen (hne : extra ≠ mark) (xs : List α) :
    (cut mark (widen mark extra xs)).all = (cut mark xs).all.map (widen mark extra) := by
  have hrest : widen mark extra (cut mark xs).unfinished = (cut mark xs).unfinished :=
    widen_of_not_mem (isCut_cut mark xs).unfinished
  rw [cut_widen hne, all, all]
  split <;> simp [*]

end Lines

/-! ## 2. Lines with a carriage return -/

/-- The byte that is put before a line feed. -/
def carriageReturn : UInt8 := 13

/-- Bytes with a carriage return before every line feed. -/
def withReturnBytes (bytes : List UInt8) : List UInt8 := Lines.widen lineFeed carriageReturn bytes

namespace Text

/-- A text with a carriage return before every line feed. -/
def withReturns (t : Text) : Text := Lines.widen '\n' '\r' t

@[simp] theorem withReturns_append (t u : Text) :
    withReturns (t ++ u) = withReturns t ++ withReturns u := Lines.widen_append t u

theorem withReturns_of_not_mem {t : Text} (h : '\n' ∉ t) : withReturns t = t :=
  Lines.widen_of_not_mem h

/-- Carriage returns may be put into a text or into its bytes. -/
theorem bytes_withReturns (t : Text) : bytes t.withReturns = withReturnBytes t.bytes := by
  induction t with
  | nil => rfl
  | cons c t ih =>
    have hcons : withReturnBytes (bytes (c :: t)) =
        withReturnBytes (bytes [c]) ++ withReturnBytes (bytes t) := by
      rw [withReturnBytes, withReturnBytes, withReturnBytes, ← Lines.widen_append, ← bytes_append,
        List.singleton_append]
    rw [← List.singleton_append, withReturns_append, bytes_append, ih, List.singleton_append, hcons]
    congr 1
    by_cases hc : c = '\n'
    · subst hc
      decide
    · have hmem : '\n' ∉ [c] := by simpa using Ne.symm hc
      rw [withReturns_of_not_mem hmem]
      exact (Lines.widen_of_not_mem fun h => hmem (lineFeed_mem_bytes.1 h)).symm

/-- **The last byte of a text, if it is below 128, is its last character.** -/
theorem exists_concat_of_bytes_eq {t : Text} {w : List UInt8} {c : Char} {b : UInt8}
    (hc : bytes [c] = [b]) (hb : b.toNat < 128) (h : bytes t = w ++ [b]) :
    ∃ t', t = t' ++ [c] ∧ bytes t' = w := by
  rcases List.eq_nil_or_concat t with rfl | ⟨t', d, rfl⟩
  · simp at h
  · rw [List.concat_eq_append, bytes_append] at h
    have hlast : b ∈ bytes [d] := by
      rcases List.eq_nil_or_concat (bytes [d]) with hnil | ⟨v, y, hv⟩
      · have hlen := length_bytes [d]
        have hpos := d.utf8Size_pos
        rw [hnil, extent_cons, List.length_nil] at hlen
        omega
      · rw [hv, List.concat_eq_append, ← List.append_assoc] at h
        rw [hv, ← List.singleton_inj.1 (List.append_inj' h rfl).2]
        simp
    have hbytes : ∀ e : Char, bytes [e] = String.utf8EncodeChar e := fun e => List.append_nil _
    have hdb : d.toNat = b.toNat :=
      toNat_eq_of_mem_utf8EncodeChar (by rwa [← hbytes]) hb
    have hcb : c.toNat = b.toNat :=
      toNat_eq_of_mem_utf8EncodeChar (by rw [← hbytes, hc]; exact List.mem_singleton_self b) hb
    obtain rfl : d = c := Char.toNat_inj.1 (hdb.trans hcb.symm)
    rw [hc] at h
    exact ⟨t', List.concat_eq_append, List.append_cancel_right h⟩

theorem ofBytes?_concat {w : List UInt8} {c : Char} {b : UInt8} (hc : bytes [c] = [b])
    (hb : b.toNat < 128) : ofBytes? (w ++ [b]) = (ofBytes? w).map (· ++ [c]) := by
  refine Option.ext fun t => ?_
  rw [ofBytes?_eq_some_iff, Option.map_eq_some_iff]
  constructor
  · intro h
    obtain ⟨t', rfl, ht'⟩ := exists_concat_of_bytes_eq hc hb h
    exact ⟨t', ofBytes?_eq_some_iff.2 ht', rfl⟩
  · rintro ⟨t', ht', rfl⟩
    rw [bytes_append, ofBytes?_eq_some_iff.1 ht', hc]

end Text

/-- **A line is decoded with its carriage return as without.** -/
theorem ofBytes?_withReturns_of_line {l : List UInt8} (h : Lines.IsLine lineFeed l) :
    Text.ofBytes? (withReturnBytes l) = (Text.ofBytes? l).map Text.withReturns := by
  have hnone : ∀ (w : List UInt8), lineFeed ∉ w → ∀ t, Text.ofBytes? w = some t → '\n' ∉ t := by
    rintro w hw t ht hmem
    rw [← Text.ofBytes?_eq_some_iff.1 ht] at hw
    exact hw (Text.lineFeed_mem_bytes.2 hmem)
  rcases h with h | ⟨w, rfl, hw⟩
  · rw [withReturnBytes, Lines.widen_of_not_mem h]
    cases ht : Text.ofBytes? l with
    | none => rfl
    | some t => rw [Option.map_some, Text.withReturns_of_not_mem (hnone l h t ht)]
  · have hwide : withReturnBytes (w ++ [lineFeed]) = w ++ [carriageReturn] ++ [lineFeed] := by
      rw [withReturnBytes, Lines.widen_concat hw, List.append_assoc]
      rfl
    have hfeed : Text.bytes ['\n'] = [lineFeed] := by decide
    have hreturn : Text.bytes ['\r'] = [carriageReturn] := by decide
    rw [hwide, Text.ofBytes?_concat hfeed (by decide), Text.ofBytes?_concat hreturn (by decide),
      Text.ofBytes?_concat hfeed (by decide)]
    cases ht : Text.ofBytes? w with
    | none => rfl
    | some t =>
      simp only [Option.map_some, Text.withReturns, Lines.widen_concat (hnone w hw t ht),
        List.append_assoc]
      rfl

/-! ## 3. Tokens -/

/-- The number of line feeds among the first `n` bytes of a text. -/
def Text.feedsBefore (t : Text) (n : Nat) : Nat := (t.bytes.take n).count lineFeed

/-- The token with its offsets moved. -/
def Token.mapOffsets (f : Nat → Nat) (t : Token) : Token :=
  { t with span := ⟨f t.span.start, f t.span.stop⟩ }

theorem Text.extent_withReturns (t : Text) :
    t.withReturns.extent = t.extent + t.bytes.count lineFeed := by
  induction t with
  | nil => rfl
  | cons c t ih =>
    have hchar : Text.extent (withReturns [c]) = c.utf8Size + (bytes [c]).count lineFeed := by
      by_cases hc : c = '\n'
      · subst hc
        decide
      · have hmem : '\n' ∉ [c] := by simpa using Ne.symm hc
        rw [withReturns_of_not_mem hmem,
          List.count_eq_zero_of_not_mem fun h => hmem (lineFeed_mem_bytes.1 h)]
        rfl
    rw [← List.singleton_append, withReturns_append, extent_append, ih, hchar, bytes_append,
      List.count_append, List.singleton_append, extent_cons]
    omega

/-- What stands between two characters moves on by the line feeds before it. -/
theorem Text.extent_add_feedsBefore (a b : Text) :
    a.extent + feedsBefore (a ++ b) a.extent = a.withReturns.extent := by
  rw [extent_withReturns, feedsBefore, bytes_append, ← length_bytes, List.take_left]

namespace Layout

/-- The layout with a carriage return before every line feed between its lexemes. -/
def withReturns (l : Layout) : Layout :=
  ⟨l.items.map fun (w, x) => (w.withReturns, x), l.trail.withReturns⟩

theorem withReturns_cons (w : Text) (x : Lexeme) (p : List (Text × Lexeme)) (u : Text) :
    withReturns ⟨(w, x) :: p, u⟩ =
      ⟨(w.withReturns, x) :: (withReturns ⟨p, u⟩).items, (withReturns ⟨p, u⟩).trail⟩ := rfl

/-- No lexeme holds a line feed. -/
theorem withReturns_written {x : Lexeme} (hx : x.IsProper) :
    x.written.withReturns = x.written :=
  Text.withReturns_of_not_mem fun h =>
    absurd (Lexeme.isBlank_of_mem_written hx h) (by decide)

theorem written_withReturns {l : Layout} (h : l.IsPlain) :
    l.withReturns.written = l.written.withReturns := by
  obtain ⟨items, u⟩ := l
  induction items with
  | nil => rfl
  | cons i items ih =>
    obtain ⟨w, x⟩ := i
    obtain ⟨-, hx, hr⟩ := isPlain_cons.1 h
    rw [withReturns_cons, written_cons, written_cons, ih hr, Text.withReturns_append,
      Text.withReturns_append, withReturns_written hx]

theorem isPlain_withReturns {l : Layout} (h : l.IsPlain) : l.withReturns.IsPlain := by
  have hblank : ∀ w : Text, (∀ c ∈ w, isBlank c = true) →
      ∀ c ∈ w.withReturns, isBlank c = true := by
    intro w hw c hc
    rcases Lines.mem_widen hc with rfl | hc
    · decide
    · exact hw c hc
  refine ⟨?_, ?_, hblank _ h.blank_trail⟩
  · intro p hp
    obtain ⟨q, hq, rfl⟩ := List.mem_map.1 hp
    exact hblank _ (h.blank_gap q hq)
  · intro p hp
    obtain ⟨q, hq, rfl⟩ := List.mem_map.1 hp
    exact h.proper q hq

theorem settled_withReturns {l : Layout} (hp : l.IsPlain) (hs : Settled l.items l.trail) :
    Settled l.withReturns.items l.withReturns.trail := by
  obtain ⟨items, u⟩ := l
  induction items with
  | nil => trivial
  | cons i items ih =>
    obtain ⟨w, x⟩ := i
    obtain ⟨-, -, hr⟩ := isPlain_cons.1 hp
    refine ⟨?_, ih hr hs.2⟩
    intro c hc
    -- what follows the lexeme starts as it did, or with a carriage return, which is a blank
    have hwritten : written (withReturns ⟨items, u⟩) = Text.withReturns (written ⟨items, u⟩) :=
      written_withReturns hr
    rcases Lines.mem_head?_widen (hwritten ▸ hc) with rfl | hc
    · exact Kind.not_absorbs_of_isBlank x.kind (by decide)
    · exact hs.1 c hc

/-- **The layout of a text with carriage returns.** -/
theorem ofText_withReturns (t : Text) : ofText t.withReturns = (ofText t).withReturns := by
  have hplain := isPlain_ofText t
  have hwritten := written_withReturns hplain
  rw [written_ofText] at hwritten
  rw [← hwritten]
  exact ofText_written (isPlain_withReturns hplain) (settled_withReturns hplain (settled_ofText t))

/-- The lexemes of items that stand behind `a`: each has moved on by the line feeds before it. -/
theorem map_token_spotsFrom_withReturns {p : List (Text × Lexeme)} {u : Text}
    (hp : IsPlain ⟨p, u⟩) {t a : Text} (ht : t = a ++ written ⟨p, u⟩) :
    (spotsFrom a.withReturns.extent (withReturns ⟨p, u⟩).items).map Spot.token =
      ((spotsFrom a.extent p).map Spot.token).map
        (Token.mapOffsets fun n => n + t.feedsBefore n) := by
  induction p generalizing a with
  | nil => rfl
  | cons i p ih =>
    obtain ⟨w, x⟩ := i
    obtain ⟨-, hx, hr⟩ := isPlain_cons.1 hp
    have hsplit : t = a ++ w ++ x.written ++ written ⟨p, u⟩ := by
      rw [ht, written_cons]
      simp
    have hstart : a.extent + w.extent + t.feedsBefore (a.extent + w.extent) =
        a.withReturns.extent + w.withReturns.extent := by
      have h := Text.extent_add_feedsBefore (a ++ w) (x.written ++ written ⟨p, u⟩)
      rw [← List.append_assoc, ← hsplit] at h
      simpa using h
    have hstop : a.extent + w.extent + x.written.extent +
        t.feedsBefore (a.extent + w.extent + x.written.extent) =
        a.withReturns.extent + w.withReturns.extent + x.written.extent := by
      have h := Text.extent_add_feedsBefore (a ++ w ++ x.written) (written ⟨p, u⟩)
      rw [← hsplit] at h
      simpa only [Text.extent_append, Text.withReturns_append, withReturns_written hx] using h
    have hrest := ih hr hsplit
    simp only [Text.extent_append, Text.withReturns_append, withReturns_written hx] at hrest
    rw [withReturns_cons]
    simp only [spotsFrom, List.map_cons, Spot.stop, hrest]
    refine congrArg (· :: _) ?_
    simp only [Spot.token, Lexeme.token, Token.mapOffsets, hstart, hstop]

end Layout

/-- **The tokens of a text with carriage returns** are the tokens of the text, each moved on by the
line feeds before it. -/
theorem tokenize_withReturns (t : Text) :
    tokenize t.withReturns =
      (tokenize t).map (Token.mapOffsets fun n => n + t.feedsBefore n) := by
  have hplain := Layout.isPlain_ofText t
  have hspots := Layout.map_token_spotsFrom_withReturns hplain (t := t) (a := [])
    (Layout.written_ofText t).symm
  have hend := Text.extent_add_feedsBefore t []
  rw [List.append_nil] at hend
  have heof : Token.eof t.withReturns.extent =
      (Token.eof t.extent).mapOffsets fun n => n + t.feedsBefore n := by
    simp only [Token.eof, Token.mapOffsets, Span.point, hend]
  rw [tokenize_eq, tokenize_eq, List.map_append, List.map_singleton, ← heof, spots, Layout.spots,
    Layout.ofText_withReturns]
  exact congrArg (· ++ _) hspots

/-! ## 4. Sessions -/

namespace Session

theorem shownTokens_withReturns (line : Text) :
    shownTokens line.withReturns =
      (shownTokens line).map (Token.mapOffsets fun n => n + line.feedsBefore n) := by
  have hcloses : ∀ (f : Nat → Nat) (t : Token), (t.mapOffsets f).closes = t.closes :=
    fun f t => rfl
  rw [shownTokens, tokenize_withReturns, upTo_map (hcloses _)]
  rfl

/-- A line is answered as without carriage returns: offsets are not shown. -/
theorem written_answer_withReturns (line : Text) :
    (answer line.withReturns).flatMap Event.written = (answer line).flatMap Event.written := by
  have hentry : ∀ (f : Nat → Nat) (t : Token), (t.mapOffsets f).entry = t.entry := fun f t => rfl
  rw [written_answer, written_answer, shownTokens_withReturns, List.flatMap_map]
  simp only [hentry]

/-- The lines read with carriage returns are the lines read, with carriage returns. -/
theorem linesRead_withReturns (bytes : List UInt8) (ending : Ending) :
    linesRead (withReturnBytes bytes) ending = (linesRead bytes ending).map withReturnBytes := by
  have hne : carriageReturn ≠ lineFeed := by decide
  cases ending with
  | finished => exact Lines.all_cut_widen hne bytes
  | broken cause => exact congrArg Lines.complete (Lines.cut_widen hne bytes)

theorem isLine_of_mem_linesRead {bytes : List UInt8} {ending : Ending} {l : List UInt8}
    (h : l ∈ linesRead bytes ending) : Lines.IsLine lineFeed l := by
  have hcut := Lines.isCut_cut lineFeed bytes
  cases ending with
  | broken cause => exact Or.inr (hcut.complete l h)
  | finished =>
    rcases List.mem_append.1 h with h | h
    · exact Or.inr (hcut.complete l h)
    · split at h
      · exact absurd h List.not_mem_nil
      · rw [List.mem_singleton.1 h]
        exact Or.inl hcut.unfinished

/-- **What a session writes over lines with carriage returns**, and how it ends. -/
theorem output_run_withReturns {ending : Ending} {ls : List (List UInt8)}
    (h : ∀ l ∈ ls, Lines.IsLine lineFeed l) :
    (run ending (ls.map withReturnBytes)).output = (run ending ls).output ∧
      (run ending (ls.map withReturnBytes)).result = (run ending ls).result := by
  induction ls with
  | nil => exact ⟨rfl, rfl⟩
  | cons l ls ih =>
    obtain ⟨hl, hls⟩ := List.forall_mem_cons.1 h
    obtain ⟨hout, hresult⟩ := ih hls
    have hdecode := ofBytes?_withReturns_of_line hl
    rw [List.map_cons, run, run, answerBytes, answerBytes, hdecode]
    cases Text.ofBytes? l with
    | none => exact ⟨rfl, rfl⟩
    | some line =>
      refine ⟨?_, hresult⟩
      simp only [Option.map_some, Run.output_after, List.flatMap_append,
        written_answer_withReturns, hout]

/-- **Line endings make no difference.**  Put a carriage return before every line feed of an input.
Whether the bytes are UTF-8 or not, and whether the input is complete or breaks off, a session over
it leaves the same bytes on every output, as far as this takes bytes and flushes, and ends there in
the same way.

A text with these carriage returns has the tokens of the text, of the same kinds and texts; each of
their offsets has grown by the number of line feeds before it. -/
theorem deliver_withReturns (bytes : List UInt8) (ending : Ending) :
    (∀ sink, (ofInput (withReturnBytes bytes) ending).deliver sink =
      (ofInput bytes ending).deliver sink) ∧
    ∀ t : Text, t.withReturns.bytes = withReturnBytes t.bytes ∧
      tokenize t.withReturns =
        (tokenize t).map (Token.mapOffsets fun n => n + (t.bytes.take n).count lineFeed) := by
  refine ⟨fun sink => ?_, fun t => ⟨Text.bytes_withReturns t, tokenize_withReturns t⟩⟩
  have hrun := @output_run_withReturns ending (linesRead bytes ending) fun l hl =>
    isLine_of_mem_linesRead hl
  rw [← linesRead_withReturns] at hrun
  exact deliver_congr hrun.1 hrun.2 sink

end Session

end MonkeyTokens
