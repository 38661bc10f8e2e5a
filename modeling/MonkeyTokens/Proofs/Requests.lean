/- # Requests to a stream

A stream is asked for tokens in any order: for the next one in two ways, for one further on, for
several, for all; and its state is kept in numbered slots and brought back from them.  All that it
answers, and every position that it shows, is known from the list of tokens alone, with an index
into that list and a mark that the end has been given.

* `Reader.Simulates.run_eq`: readers whose states answer alike give the same replies to any
  requests.
* `Place.Marks.pull`, `Place.Marks.take`: taking tokens from a stream moves the index on.

Main statement: `run_ofStream`.
-/
import MonkeyTokens.Proofs.Remaining

namespace MonkeyTokens

/-! ## 1. Requests and replies -/

/-- What can be asked of something that gives tokens. -/
inductive Ask
  /-- The next token, whatever was given before. -/
  | pull
  /-- The next token, unless the end has been given. -/
  | next
  /-- The token after the next `n`. -/
  | nth (n : Nat)
  /-- The next `n` tokens. -/
  | take (n : Nat)
  /-- All tokens that remain. -/
  | drain
deriving DecidableEq

/-- What is requested: tokens, or to keep the state in a slot, or to go back to a state kept. -/
inductive Request
  | ask (a : Ask)
  | save (slot : Nat)
  | restore (slot : Nat)
deriving DecidableEq

/-- What a request is answered with. -/
inductive Answer
  | found (t? : Option Token)
  | tokens (ts : List Token)
  | done
deriving DecidableEq

/-- Something that gives tokens and shows a position. -/
structure Reader (σ : Type) where
  start : σ
  answer : Ask → σ → Answer × σ
  position : σ → Nat

/-- The state of a reader, and the states in the slots. -/
structure Desk (σ : Type) where
  now : σ
  kept : Nat → σ

namespace Desk

variable {σ τ : Type}

/-- The states seen through a function. -/
def map (f : σ → τ) (d : Desk σ) : Desk τ := ⟨f d.now, fun k => f (d.kept k)⟩

/-- To keep a state and to look through a function can be done in either order. -/
theorem map_save (f : σ → τ) (d : Desk σ) (k : Nat) :
    map f { d with kept := fun j => if j = k then d.now else d.kept j } =
      { d.map f with kept := fun j => if j = k then (d.map f).now else (d.map f).kept j } := by
  have hkept : (fun j => f (if j = k then d.now else d.kept j)) =
      fun j => if j = k then f d.now else f (d.kept j) :=
    funext fun j => apply_ite f (j = k) d.now (d.kept j)
  simp only [map, hkept]

end Desk

namespace Reader

variable {σ τ : Type}

/-- The answer to a request, and what the request leaves. -/
def serve (R : Reader σ) : Request → Desk σ → Answer × Desk σ
  | .ask a, d => ((R.answer a d.now).1, { d with now := (R.answer a d.now).2 })
  | .save k, d => (.done, { d with kept := fun j => if j = k then d.now else d.kept j })
  | .restore k, d => (.done, { d with now := d.kept k })

/-- The answers to requests in order, each with the position after it. -/
def replies (R : Reader σ) : List Request → Desk σ → List (Answer × Nat)
  | [], _ => []
  | r :: rs, d =>
    ((R.serve r d).1, R.position (R.serve r d).2.now) :: R.replies rs (R.serve r d).2

/-- The replies of a fresh reader, with its fresh state in every slot. -/
def run (R : Reader σ) (rs : List Request) : List (Answer × Nat) :=
  R.replies rs ⟨R.start, fun _ => R.start⟩

/-- Related states of two readers give the same answers, show the same position, and are followed
by related ones. -/
structure Simulates (R : Reader σ) (Q : Reader τ) (rel : σ → τ → Prop) : Prop where
  start : rel R.start Q.start
  answer : ∀ a s t, rel s t →
    (R.answer a s).1 = (Q.answer a t).1 ∧ rel (R.answer a s).2 (Q.answer a t).2
  position : ∀ s t, rel s t → R.position s = Q.position t

namespace Simulates

variable {R : Reader σ} {Q : Reader τ} {rel : σ → τ → Prop}

/-- One request keeps the states related, those in the slots too. -/
theorem serve (h : R.Simulates Q rel) (r : Request) {d : Desk σ} {e : Desk τ}
    (hnow : rel d.now e.now) (hkept : ∀ k, rel (d.kept k) (e.kept k)) :
    (R.serve r d).1 = (Q.serve r e).1 ∧ rel (R.serve r d).2.now (Q.serve r e).2.now ∧
      ∀ k, rel ((R.serve r d).2.kept k) ((Q.serve r e).2.kept k) := by
  cases r with
  | ask a =>
    obtain ⟨ha, hs⟩ := h.answer a d.now e.now hnow
    exact ⟨ha, hs, hkept⟩
  | save k =>
    refine ⟨rfl, hnow, ?_⟩
    intro j
    simp only [Reader.serve]
    split
    · exact hnow
    · exact hkept j
  | restore k => exact ⟨rfl, hkept k, hkept⟩

theorem replies_eq (h : R.Simulates Q rel) (rs : List Request) {d : Desk σ} {e : Desk τ}
    (hnow : rel d.now e.now) (hkept : ∀ k, rel (d.kept k) (e.kept k)) :
    R.replies rs d = Q.replies rs e := by
  induction rs generalizing d e with
  | nil => rfl
  | cons r rs ih =>
    obtain ⟨ha, hs, hk⟩ := h.serve r hnow hkept
    rw [replies, replies, ha, h.position _ _ hs, ih hs hk]

/-- **Readers that simulate each other give the same replies.** -/
theorem run_eq (h : R.Simulates Q rel) (rs : List Request) : R.run rs = Q.run rs :=
  h.replies_eq rs h.start fun _ => h.start

end Simulates

/-- The stream of a text as a reader. -/
def ofStream (source : Text) : Reader Stream where
  start := .start source
  answer
    | .pull, s => (.found (some s.pull.1), s.pull.2)
    | .next, s => (.found s.next?.1, s.next?.2)
    | .nth n, s => (.found (s.nth? n).1, (s.nth? n).2)
    | .take n, s => (.tokens (s.take n).1, (s.take n).2)
    | .drain, s => (.tokens s.drain.1, s.drain.2)
  position := Stream.position

end Reader

/-! ## 2. Places in the list of tokens -/

/-- The index of the end-of-text token among the tokens of a text. -/
def lastIndex (source : Text) : Nat := (tokenize source).length - 1

theorem length_tokenize (source : Text) : (tokenize source).length = lastIndex source + 1 := by
  simp [lastIndex, tokenize, Layout.tokens]

/-- An index into the tokens of a text, and whether `next` has given the end. -/
structure Place where
  index : Nat
  finished : Bool
deriving DecidableEq

namespace Place

/-- The tokens that remain at a place. -/
def rest (source : Text) (p : Place) : List Token :=
  if p.finished then [] else (tokenize source).drop (min p.index (lastIndex source))

/-- The place after tokens that remained there have been used up. -/
def pass (source : Text) (ts : List Token) (p : Place) : Place :=
  if ts = [] then p
  else ⟨min p.index (lastIndex source) + ts.length, p.finished || ts.any Token.isEof⟩

/-- The end of the last token that was used up, and 0 when there is none. -/
def position (source : Text) (p : Place) : Nat :=
  if p.index = 0 then 0
  else ((tokenize source)[min p.index (lastIndex source + 1) - 1]?).elim 0 fun t => t.span.stop

end Place

/-- The tokens of a text as a reader: it counts where it is in the list. -/
def Reader.ofTokens (source : Text) : Reader Place where
  start := ⟨0, false⟩
  answer
    | .pull, p =>
      (.found (tokenize source)[min p.index (lastIndex source)]?,
        { p with index := min p.index (lastIndex source) + 1 })
    | .next, p => (.found (p.rest source).head?, p.pass source ((p.rest source).take 1))
    | .nth n, p => (.found (p.rest source)[n]?, p.pass source ((p.rest source).take (n + 1)))
    | .take n, p => (.tokens ((p.rest source).take n), p.pass source ((p.rest source).take n))
    | .drain, p => (.tokens (p.rest source), p.pass source (p.rest source))
  position := Place.position source

/-! ## 3. The place of a stream -/

namespace Place

/-- A place that stands for a stream: the cursor has the tokens from the index on before it. -/
structure Marks (source : Text) (s : Stream) (p : Place) : Prop where
  cursor_rest : s.cursor.rest = (tokenize source).drop (min p.index (lastIndex source))
  position_eq : s.position = p.position source
  finished_eq : s.finished = p.finished

namespace Marks

variable {source : Text} {s : Stream} {p : Place}

theorem start (source : Text) : Marks source (.start source) ⟨0, false⟩ where
  cursor_rest := by simp [Stream.start]
  position_eq := rfl
  finished_eq := rfl

theorem rest_eq (h : Marks source s p) : s.rest = p.rest source := by
  rw [Stream.rest, rest, h.finished_eq, h.cursor_rest]

/-- **Pulling gives the token at the index and moves the index on**, but never past the end of the
list. -/
theorem pull (h : Marks source s p) :
    (tokenize source)[min p.index (lastIndex source)]? = some s.pull.1 ∧
      Marks source s.pull.2 { p with index := min p.index (lastIndex source) + 1 } := by
  have hrest := h.cursor_rest
  have hlength := length_tokenize source
  have hle := Nat.min_le_right p.index (lastIndex source)
  generalize min p.index (lastIndex source) = k at *
  have hdrop : (tokenize source).length - k = s.cursor.rest.length := by
    rw [hrest, List.length_drop]
  have hhead : (tokenize source)[k]? = s.cursor.rest.head? := by
    rw [hrest, List.head?_drop]
  have hposition : s.pull.2.position = s.pull.1.span.stop := s.cursor.position_token
  -- at the end the index stays where the last token is, before it the index is that of the next
  have hnext : (tokenize source)[k]? = some s.pull.1 ∧
      s.pull.2.cursor.rest = (tokenize source).drop (min (k + 1) (lastIndex source)) := by
    obtain ⟨-, hr, hr'⟩ | ⟨-, hr⟩ := s.cursor.token_cases
    · rw [hr] at hhead hdrop
      have hmin : min (k + 1) (lastIndex source) = k := by
        rw [List.length_singleton] at hdrop
        omega
      refine ⟨hhead, ?_⟩
      rw [hmin, ← hrest, hr]
      exact hr'
    · have hpos := List.length_pos_iff.2 s.cursor.token.2.rest_ne_nil
      rw [hr] at hhead hdrop
      have hmin : min (k + 1) (lastIndex source) = k + 1 := by
        rw [List.length_cons] at hdrop
        omega
      refine ⟨hhead, ?_⟩
      rw [hmin, ← List.tail_drop, ← hrest, hr]
      rfl
  refine ⟨hnext.1, hnext.2, ?_, h.finished_eq⟩
  simp [Place.position, Nat.min_eq_left hle, hnext.1, hposition]

/-- Giving one token moves the index over it, and the end sets the mark. -/
theorem next (h : Marks source s p) {t : Token} {s' : Stream} (hs : s.next? = (some t, s')) :
    Marks source s' (p.pass source [t]) := by
  obtain ⟨-, hrest, hposition, -⟩ := h.pull
  have hfinished := h.finished_eq
  unfold Stream.next? at hs
  by_cases hf : s.finished
  · simp [hf] at hs
  · simp only [hf, Bool.false_eq_true, if_false, Prod.mk.injEq, Option.some.injEq] at hs
    obtain ⟨rfl, rfl⟩ := hs
    refine ⟨hrest, hposition, ?_⟩
    simp [pass, ← hfinished, hf]

end Marks

/-- Tokens that remain are used up one after the other. -/
theorem pass_cons {source : Text} {p : Place} {t : Token} {ts es : List Token}
    (h : p.rest source = t :: ts) (he : es.length ≤ ts.length) :
    p.pass source (t :: es) = (p.pass source [t]).pass source es := by
  cases es with
  | nil => rfl
  | cons e es =>
    have hlength : (p.rest source).length ≤
        lastIndex source + 1 - min p.index (lastIndex source) := by
      unfold rest
      split
      · exact Nat.zero_le _
      · simp only [List.length_drop, length_tokenize, Nat.le_refl]
    rw [h] at hlength
    simp only [List.length_cons] at hlength he
    have hmin : min (min p.index (lastIndex source) + 1) (lastIndex source) =
        min p.index (lastIndex source) + 1 := by omega
    simp only [pass, reduceCtorEq, if_false, List.length_cons, List.length_nil, Nat.zero_add, hmin,
      List.any_cons, List.any_nil, Bool.or_false, Bool.or_assoc, Place.mk.injEq, and_true]
    omega

/-- **Taking tokens moves the index over them.** -/
theorem Marks.take {source : Text} {s : Stream} {p : Place} (h : Marks source s p) (n : Nat) :
    Marks source (s.take n).2 (p.pass source (s.rest.take n)) := by
  induction n generalizing s p with
  | zero => simpa [Stream.take, pass] using h
  | succ n ih =>
    obtain ⟨hr, hs⟩ | ⟨t, s', hs, hr⟩ := s.next?_cases
    · simpa [Stream.take, hs, hr, pass] using h
    · have hrest : p.rest source = t :: s'.rest := h.rest_eq.symm.trans hr
      have htake := ih (h.next hs)
      rw [hr, List.take_succ_cons, pass_cons hrest (List.length_take_le' n s'.rest)]
      simpa [Stream.take, hs] using htake

/-- **A stream and its place answer every request alike.** -/
theorem simulates (source : Text) :
    (Reader.ofStream source).Simulates (.ofTokens source) (Marks source) where
  start := Marks.start source
  position := fun s p h => h.position_eq
  answer := by
    intro a s p h
    have hrest := h.rest_eq
    cases a with
    | pull =>
      obtain ⟨ht, hp⟩ := h.pull
      exact ⟨congrArg Answer.found ht.symm, hp⟩
    | next =>
      have hn : s.next? = (s.rest[0]?, (s.take 1).2) := s.nth?_eq_take 0
      simp only [Reader.ofStream, Reader.ofTokens, hn, ← hrest, List.head?_eq_getElem?]
      exact ⟨trivial, h.take 1⟩
    | nth n =>
      simp only [Reader.ofStream, Reader.ofTokens, s.nth?_eq_take n, ← hrest]
      exact ⟨trivial, h.take (n + 1)⟩
    | take n =>
      simp only [Reader.ofStream, Reader.ofTokens, s.take_fst n, ← hrest]
      exact ⟨trivial, h.take n⟩
    | drain =>
      have hdrain := h.take (s.cursor.ahead.length + 1)
      rw [List.take_of_length_le s.length_rest_le] at hdrain
      simp only [Reader.ofStream, Reader.ofTokens, s.drain_fst, ← hrest]
      exact ⟨trivial, hdrain⟩

end Place

/-- **A stream is an index into the list of its tokens.**  To any requests the stream of a text
gives the answers, and shows the positions, that are known from the tokens of the text.  The mark
is set by what is given to `next`, not by what is pulled: once the end was pulled, it is given
another time, and then nothing. -/
theorem run_ofStream (source : Text) :
    (∀ rs, (Reader.ofStream source).run rs = (Reader.ofTokens source).run rs) ∧
      ∀ s : Stream, s.finished = false → s.pull.1.isEof = true →
        s.pull.2.next?.1 = some s.pull.1 ∧ s.pull.2.next?.2.next?.1 = none := by
  exact ⟨(Place.simulates source).run_eq, fun s hf he => s.next?_pull_of_isEof hf he⟩

end MonkeyTokens
