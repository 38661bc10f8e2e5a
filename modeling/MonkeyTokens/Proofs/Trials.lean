/- # A test tried on what is ahead

A cursor moves over the characters that a test accepts.  The test may remember from call to call, so
what it is called with matters: here it is shown to be called with the characters ahead in order,
once with each, up to and including the first one that it refuses, and never at the end of the text.

* `Cursor.Tries`: the loop as it goes, one character at a time.
* `Cursor.accepted_parts`: a test parts the text ahead into what it accepts and what is left.
* `Cursor.tries_iff`: the loop ends, in one way, and moves the cursor as `eatWhile` does.

Main statement: `Cursor.eatWhile_calls`.
-/
import MonkeyTokens.Cursor

namespace MonkeyTokens

namespace Cursor

variable {σ : Type}

/-! ## 1. A test and its calls -/

/-- What a test answers when it is called with characters one after the other, whatever it answers,
and what it remembers then. -/
def verdicts (test : σ → Char → Bool × σ) : σ → Text → List Bool × σ
  | m, [] => ([], m)
  | m, d :: t =>
    let (bs, m') := verdicts test (test m d).2 t
    ((test m d).1 :: bs, m')

/-- The same test, which remembers besides what it has been called with, in order. -/
def noting (test : σ → Char → Bool × σ) : σ × Text → Char → Bool × (σ × Text)
  | (m, called), d => ((test m d).1, (test m d).2, called ++ [d])

/-- A test that remembers nothing. -/
def ofClass (p : Char → Bool) : Unit → Char → Bool × Unit := fun _ d => (p d, ())

/-- The loop that moves a cursor over what a test accepts.  It is left at the end of the text, where
the test is not called, or at a character that the test refuses; it goes on behind one that the test
accepts.  It is told with the characters that the test is called with. -/
inductive Tries (test : σ → Char → Bool × σ) : σ → Cursor → Text → σ → Cursor → Prop
  | atEnd {m : σ} {c : Cursor} (h : c.current? = none) : Tries test m c [] m c
  | refused {m m' : σ} {c : Cursor} {d : Char} (h : c.current? = some d)
      (htest : test m d = (false, m')) : Tries test m c [d] m' c
  | taken {m m' m'' : σ} {c c' : Cursor} {d : Char} {calls : Text} (h : c.current? = some d)
      (htest : test m d = (true, m')) (rest : Tries test m' c.advance calls m'' c') :
      Tries test m c (d :: calls) m'' c'

/-! ## 2. What is accepted, and what is left -/

/-- **A test parts a text**: in order it is called with the front that it accepts and with the first
character of the rest, if there is one, which it refuses. -/
theorem accepted_parts (test : σ → Char → Bool × σ) (m : σ) (t : Text) :
    ∃ r, t = (accepted test m t).1 ++ r ∧
      verdicts test m ((accepted test m t).1 ++ r.head?.toList) =
        ((accepted test m t).1.map (fun _ => true) ++ r.head?.toList.map (fun _ => false),
          (accepted test m t).2) ∧
      ∀ called, accepted (noting test) (m, called) t =
        ((accepted test m t).1, (accepted test m t).2,
          called ++ ((accepted test m t).1 ++ r.head?.toList)) := by
  induction t generalizing m with
  | nil => exact ⟨[], rfl, rfl, fun called => by simp [accepted]⟩
  | cons d t ih =>
    cases htest : test m d with
    | mk b m' =>
      cases b with
      | false =>
        refine ⟨d :: t, by simp [accepted, htest], by simp [accepted, verdicts, htest], ?_⟩
        intro called
        simp [accepted, noting, htest]
      | true =>
        obtain ⟨r, ht, hverdicts, hnoting⟩ := ih m'
        refine ⟨r, ?_, ?_, ?_⟩
        · simpa [accepted, htest] using ht
        · simp [accepted, verdicts, htest, hverdicts]
        · intro called
          simp [accepted, noting, htest, hnoting]

/-! ## 3. The loop -/

theorem skip_zero (c : Cursor) : c.skip 0 = c := by
  simp [skip]

theorem skip_skip (c : Cursor) (n k : Nat) : (c.skip n).skip k = c.skip (n + k) := by
  simp [skip, List.take_add, Nat.add_assoc]

theorem current?_eq_some_iff {c : Cursor} {d : Char} :
    c.current? = some d ↔ ∃ t, c.ahead = d :: t := by
  rw [current?, ← List.head?_eq_getElem?, List.head?_eq_some_iff]

theorem current?_eq_none_iff {c : Cursor} : c.current? = none ↔ c.ahead = [] := by
  rw [current?, ← List.head?_eq_getElem?, List.head?_eq_none_iff]

theorem eatWhile_eq (test : σ → Char → Bool × σ) (m : σ) (c : Cursor) :
    c.eatWhile test m =
      ((accepted test m c.ahead).2, c.skip (accepted test m c.ahead).1.length) := rfl

theorem ahead_advance {c : Cursor} {d : Char} {t : Text} (h : c.ahead = d :: t) :
    c.advance.ahead = t := by
  simp [advance, skip, h]

/-- At the end of the text the test is not called. -/
theorem eatWhile_of_ahead_eq_nil {c : Cursor} (h : c.ahead = []) (test : σ → Char → Bool × σ)
    (m : σ) : c.eatWhile test m = (m, c) := by
  rw [eatWhile_eq, h, accepted, List.length_nil, skip_zero]

/-- Before a refused character the loop ends. -/
theorem eatWhile_of_refuses {test : σ → Char → Bool × σ} {m m' : σ} {c : Cursor} {d : Char}
    {t : Text} (h : c.ahead = d :: t) (htest : test m d = (false, m')) :
    c.eatWhile test m = (m', c) := by
  have hnothing : accepted test m (d :: t) = ([], m') := by simp [accepted, htest]
  rw [eatWhile_eq, h, hnothing, List.length_nil, skip_zero]

/-- Behind an accepted character the loop goes on. -/
theorem eatWhile_of_accepts {test : σ → Char → Bool × σ} {m m' : σ} {c : Cursor} {d : Char}
    {t : Text} (h : c.ahead = d :: t) (htest : test m d = (true, m')) :
    c.eatWhile test m = c.advance.eatWhile test m' := by
  rw [eatWhile_eq, eatWhile_eq, ahead_advance h, advance, skip_skip, h]
  simp [accepted, htest, Nat.add_comm]

/-- **The loop does what `eatWhile` does**, and calls the test with what is accepted and with the
first character that is left. -/
theorem Tries.eq {test : σ → Char → Bool × σ} {m m' : σ} {c c' : Cursor} {calls : Text}
    (h : Tries test m c calls m' c') :
    (m', c') = c.eatWhile test m ∧ ∃ r, c.ahead = (accepted test m c.ahead).1 ++ r ∧
      calls = (accepted test m c.ahead).1 ++ r.head?.toList := by
  induction h with
  | @atEnd m c h =>
    have hahead := current?_eq_none_iff.1 h
    rw [eatWhile_of_ahead_eq_nil hahead, hahead]
    exact ⟨rfl, [], rfl, rfl⟩
  | @refused m m' c d h htest =>
    obtain ⟨t, ht⟩ := current?_eq_some_iff.1 h
    have hnothing : accepted test m (d :: t) = ([], m') := by simp [accepted, htest]
    rw [eatWhile_of_refuses ht htest, ht, hnothing]
    exact ⟨rfl, d :: t, rfl, rfl⟩
  | @taken m m' m'' c c' d calls h htest _ ih =>
    obtain ⟨t, ht⟩ := current?_eq_some_iff.1 h
    obtain ⟨hend, r, hr, hcalls⟩ := ih
    have hfirst : (accepted test m (d :: t)).1 = d :: (accepted test m' t).1 := by
      simp [accepted, htest]
    rw [ahead_advance ht] at hr hcalls
    rw [eatWhile_of_accepts ht htest, ht, hfirst]
    exact ⟨hend, r, congrArg (d :: ·) hr, congrArg (d :: ·) hcalls⟩

/-- **The loop ends**: the text ahead gets shorter with every character that is accepted. -/
theorem exists_tries (test : σ → Char → Bool × σ) (m : σ) (c : Cursor) :
    ∃ calls m' c', Tries test m c calls m' c' := by
  obtain ⟨t, ht⟩ : ∃ t, c.ahead = t := ⟨_, rfl⟩
  induction t generalizing m c with
  | nil => exact ⟨[], m, c, .atEnd (current?_eq_none_iff.2 ht)⟩
  | cons d t ih =>
    have hcurrent : c.current? = some d := current?_eq_some_iff.2 ⟨t, ht⟩
    cases htest : test m d with
    | mk b m' =>
      cases b with
      | false => exact ⟨[d], m', c, .refused hcurrent htest⟩
      | true =>
        obtain ⟨calls, m'', c', hrest⟩ := ih m' c.advance (ahead_advance ht)
        exact ⟨d :: calls, m'', c', .taken hcurrent htest hrest⟩

/-- **The loop ends in one way.** -/
theorem tries_iff {test : σ → Char → Bool × σ} {m m' : σ} {c c' : Cursor} {calls r : Text}
    (h : c.ahead = (accepted test m c.ahead).1 ++ r) :
    Tries test m c calls m' c' ↔
      calls = (accepted test m c.ahead).1 ++ r.head?.toList ∧ (m', c') = c.eatWhile test m := by
  have hsound : ∀ {calls' : Text} {n : σ} {e : Cursor}, Tries test m c calls' n e →
      calls' = (accepted test m c.ahead).1 ++ r.head?.toList ∧ (n, e) = c.eatWhile test m := by
    intro calls' n e htries
    obtain ⟨hend, r', hr', hcalls⟩ := htries.eq
    obtain rfl : r = r' := List.append_cancel_left (h.symm.trans hr')
    exact ⟨hcalls, hend⟩
  refine ⟨hsound, ?_⟩
  rintro ⟨rfl, hend⟩
  obtain ⟨calls', n, e, htries⟩ := exists_tries test m c
  obtain ⟨rfl, hend'⟩ := hsound htries
  obtain ⟨rfl, rfl⟩ := Prod.mk.inj (hend.trans hend'.symm)
  exact htries

/-! ## 4. What is moved over -/

/-- The text between the old place and the new one is what was moved over. -/
theorem since?_skip {c : Cursor} {a r : Text} (h : c.ahead = a ++ r) :
    (c.skip a.length).since? c.position = some a := by
  refine since?_eq_some_iff.2 ⟨c.passed.reverse, ?_, ?_⟩
  · simp [skip, h]
  · rw [Text.extent_reverse, c.position_eq]

theorem ahead_skipWhile (p : Char → Bool) (c : Cursor) :
    (c.skipWhile p).ahead = c.ahead.dropWhile p := by
  have hcut : (c.ahead.takeWhile p ++ c.ahead.dropWhile p).drop (c.ahead.takeWhile p).length =
      c.ahead.dropWhile p := List.drop_left
  rwa [List.takeWhile_append_dropWhile] at hcut

/-- Over a class that the first character ahead is not in, nothing is moved. -/
theorem skipWhile_eq_self {p : Char → Bool} {c : Cursor} (h : ∀ d ∈ c.ahead.head?, p d = false) :
    c.skipWhile p = c := by
  have hnone : c.ahead.takeWhile p = [] := by
    cases hahead : c.ahead with
    | nil => rfl
    | cons d t =>
      have hd : p d = false := h d (by rw [hahead]; rfl)
      exact List.takeWhile_cons_of_neg (Bool.eq_false_iff.1 hd)
  rw [skipWhile, hnone, List.length_nil, skip_zero]

/-- To move over a class a second time is to stay. -/
theorem skipWhile_skipWhile (p : Char → Bool) (c : Cursor) :
    (c.skipWhile p).skipWhile p = c.skipWhile p := by
  refine skipWhile_eq_self fun d hd => ?_
  have hhead := List.head?_dropWhile_not p c.ahead
  rw [ahead_skipWhile] at hd
  rwa [hd] at hhead

/-- **A test is called with what is ahead, in order, up to the first character that it refuses**:
whatever the test remembers, with each of these characters once and never at the end of the text.
The cursor then stands before the refused character, or at the end, and has passed the accepted
ones.  To move over a class a second time is to stay. -/
theorem eatWhile_calls (c : Cursor) (test : σ → Char → Bool × σ) (m : σ) :
    (∃ a r, c.ahead = a ++ r ∧
      verdicts test m (a ++ r.head?.toList) =
        (a.map (fun _ => true) ++ r.head?.toList.map (fun _ => false), (c.eatWhile test m).1) ∧
      c.eatWhile (noting test) (m, []) =
        (((c.eatWhile test m).1, a ++ r.head?.toList), (c.eatWhile test m).2) ∧
      (∀ calls m' c', Tries test m c calls m' c' ↔
        calls = a ++ r.head?.toList ∧ (m', c') = c.eatWhile test m) ∧
      (a ++ r.head?.toList).length ≤ c.ahead.length ∧
      (c.eatWhile test m).2.input = c.input ∧
      (c.eatWhile test m).2.position = c.position + a.extent ∧
      (c.eatWhile test m).2.current? = r.head? ∧
      ((c.eatWhile test m).2.atEnd = true ↔ r = []) ∧
      (c.eatWhile test m).2.since? c.position = some a) ∧
    ∀ p, (c.eatWhile (ofClass p) ()).2.eatWhile (ofClass p) () =
      ((), (c.eatWhile (ofClass p) ()).2) := by
  constructor
  · obtain ⟨r, ht, hverdicts, hnoting⟩ := accepted_parts test m c.ahead
    have hbehind : (c.eatWhile test m).2.ahead = r := by
      rw [eatWhile_eq]
      exact (congrArg _ ht).trans List.drop_left
    refine ⟨(accepted test m c.ahead).1, r, ht, hverdicts, ?_, fun _ _ _ => tries_iff ht,
      ?_, ?_, ?_, ?_, ?_, ?_⟩
    · rw [eatWhile_eq, hnoting, List.nil_append]
      rfl
    · have hlength := congrArg List.length ht
      rw [List.length_append] at hlength
      rw [List.length_append, hlength]
      cases r <;> simp
    · exact input_skip c _
    · have hfront : c.ahead.take (accepted test m c.ahead).1.length =
          (accepted test m c.ahead).1 := (congrArg _ ht).trans List.take_left
      simp only [eatWhile_eq, skip, hfront]
    · rw [current?, hbehind, List.head?_eq_getElem?]
    · rw [atEnd, hbehind, List.isEmpty_iff]
    · exact since?_skip ht
  · intro p
    have honce : c.eatWhile (ofClass p) () = ((), c.skipWhile p) := eatWhile_of_class p c
    rw [honce]
    exact (eatWhile_of_class p _).trans (by rw [skipWhile_skipWhile])

end Cursor

end MonkeyTokens
