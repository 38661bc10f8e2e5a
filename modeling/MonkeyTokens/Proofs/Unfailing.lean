/- # Scans do not fail

A scan is safe when it never cuts a text at offsets that are in the wrong order, outside of it or
inside a character.  A scan by offsets fails at such a cut; here whole runs are made of it, and none
of them fails: requests to a stream in any order, listings, sessions.  The tokens that they give
have spans that can be measured and cut out of the text again.

* `Text.slice?_isSome_iff`: where a text can be cut.
* `ByteStream.run?_eq`, `Listing.byOffsets?_eq`, `Session.runByOffsets?_eq`: scans by offsets do
  what scans do.
* `Token.fits_of_mem_tokenize`: the span of a token fits its text.

Main statement: `scan_by_offsets`.
-/
import MonkeyTokens.Proofs.Logging
import MonkeyTokens.Proofs.Offsets

namespace MonkeyTokens

/-! ## 1. Cuts -/

namespace Text

/-- A byte offset between two characters of a text, or at one of its ends. -/
def IsBoundary (t : Text) (n : Nat) : Prop := ∃ a b, t = a ++ b ∧ a.extent = n

/-- **A text can be cut between two offsets** that are in order and between characters. -/
theorem slice?_isSome_iff {t : Text} {start stop : Nat} :
    (t.slice? start stop).isSome ↔
      start ≤ stop ∧ stop ≤ t.extent ∧ t.IsBoundary start ∧ t.IsBoundary stop := by
  rw [Option.isSome_iff_exists]
  constructor
  · rintro ⟨m, hm⟩
    obtain ⟨a, b, rfl, rfl, rfl⟩ := slice?_eq_some_iff.1 hm
    refine ⟨Nat.le_add_right _ _, ?_, ⟨a, m ++ b, List.append_assoc a m b, rfl⟩, a ++ m, b, rfl, ?_⟩
    · rw [extent_append, extent_append]
      exact Nat.le_add_right _ _
    · exact extent_append a m
  · rintro ⟨hle, -, ⟨a, b, rfl, rfl⟩, p, q, hpq, rfl⟩
    obtain ⟨m, rfl, rfl⟩ := exists_append_of_extent_le hpq hle
    exact ⟨m, slice?_eq_some_iff.2 ⟨a, q, hpq, rfl, (extent_append a m).symm⟩⟩

end Text

/-! ## 2. Requests, listings and sessions -/

namespace ByteStream

/-- The answer to an ask, and what it leaves. -/
def answer? : Ask → ByteStream → Option (Answer × ByteStream)
  | .pull, s => s.pull?.map fun (t, s') => (.found (some t), s')
  | .next, s => s.next?.map fun (t?, s') => (.found t?, s')
  | .nth n, s => (s.nth? n).map fun (t?, s') => (.found t?, s')
  | .take n, s => (s.take? n).map fun (ts, s') => (.tokens ts, s')
  | .drain, s => s.drain?.map fun (ts, s') => (.tokens ts, s')

/-- The answer to a request, and what it leaves of the stream and of the copies in the slots. -/
def serve? : Request → Desk ByteStream → Option (Answer × Desk ByteStream)
  | .ask a, d => (d.now.answer? a).map fun (x, s) => (x, { d with now := s })
  | .save k, d => some (.done, { d with kept := fun j => if j = k then d.now else d.kept j })
  | .restore k, d => some (.done, { d with now := d.kept k })

/-- The answers to requests in order, each with the position after it. -/
def replies? : List Request → Desk ByteStream → Option (List (Answer × Nat))
  | [], _ => some []
  | r :: rs, d => do
    let (x, d') ← serve? r d
    let rest ← replies? rs d'
    some ((x, d'.now.cursor.position) :: rest)

/-- The replies of the stream of a text, with a copy of it in every slot. -/
def run? (source : Text) (rs : List Request) : Option (List (Answer × Nat)) :=
  replies? rs ⟨start source, fun _ => start source⟩

end ByteStream

/-- A listing whose tokens are scanned by offsets.  A strict one cuts the first stray character out
of the source. -/
def Listing.byOffsets? (strict : Bool) (source : Text) : Option (Run Nat) := do
  let (tokens, _) ← (ByteStream.start source).drain?
  let noted := tokens.flatMap (Token.notes source) ++
    [Log.Record.scanned tokens.length source.extent]
  match if strict then tokens.find? Token.isIllegal else none with
  | some t =>
    let covered ← t.span.slice? source
    let c ← covered.head?
    some ⟨noted.map .log, .error (.stray c t.span.start)⟩
  | none =>
    some ⟨noted.map .log ++ tokens.map fun t => .write (line t), .ok tokens.length⟩

namespace Session

/-- A session over a list of lines, each scanned by offsets. -/
def runByOffsets? (ending : Ending) : List (List UInt8) → Option (Run Unit)
  | [] => some ((close ending).after ask)
  | l :: ls =>
    match Text.ofBytes? l with
    | none => some ⟨ask, .error (.input .notUtf8)⟩
    | some line => do
      let ts ← (ByteStream.start line).pullUntil? Token.closes (line.length + 1)
      let rest ← runByOffsets? ending ls
      some (rest.after (ask ++ ts.flatMap (tokenEvents line)))

/-- A session over an input, its lines scanned by offsets. -/
def byOffsets? (bytes : List UInt8) (ending : Ending) : Option (Run Unit) :=
  runByOffsets? ending (linesRead bytes ending)

end Session

/-! ## 3. By offsets nothing changes -/

namespace Stream

theorem answer?_offsets (source : Text) (a : Ask) (s : Stream) :
    s.offsets.answer? a = some (((Reader.ofStream source).answer a s).1,
      ((Reader.ofStream source).answer a s).2.offsets) := by
  cases a with
  | pull => simp [ByteStream.answer?, pull?_offsets, Reader.ofStream]
  | next => simp [ByteStream.answer?, next?_offsets, Reader.ofStream]
  | nth n => simp [ByteStream.answer?, nth?_offsets, Reader.ofStream]
  | take n => simp [ByteStream.answer?, take?_offsets, Reader.ofStream]
  | drain => simp [ByteStream.answer?, drain?_offsets, Reader.ofStream]

end Stream

namespace Desk

theorem serve?_offsets (source : Text) (r : Request) (d : Desk Stream) :
    ByteStream.serve? r (d.map Stream.offsets) = some (((Reader.ofStream source).serve r d).1,
      ((Reader.ofStream source).serve r d).2.map Stream.offsets) := by
  cases r with
  | ask a =>
    rw [ByteStream.serve?, map, Stream.answer?_offsets source]
    rfl
  | save k => rw [ByteStream.serve?, Reader.serve, map_save]
  | restore k => rfl

theorem replies?_offsets (source : Text) (rs : List Request) (d : Desk Stream) :
    ByteStream.replies? rs (d.map Stream.offsets) =
      some ((Reader.ofStream source).replies rs d) := by
  induction rs generalizing d with
  | nil => rfl
  | cons r rs ih =>
    rw [ByteStream.replies?, serve?_offsets source, Option.bind_eq_bind, Option.bind_some]
    dsimp only
    rw [ih, Option.bind_eq_bind, Option.bind_some]
    rfl

end Desk

/-- **By offsets a stream gives the same replies**, whatever is requested. -/
theorem ByteStream.run?_eq (source : Text) (rs : List Request) :
    run? source rs = some ((Reader.ofStream source).run rs) := by
  have hfresh : (⟨start source, fun _ => start source⟩ : Desk ByteStream) =
      Desk.map Stream.offsets ⟨.start source, fun _ => .start source⟩ := by
    simp only [Desk.map, Stream.offsets_start]
  rw [run?, hfresh]
  exact Desk.replies?_offsets source rs _

namespace Listing

/-- **By offsets a listing is the same.** -/
theorem byOffsets?_eq (strict : Bool) (source : Text) :
    byOffsets? strict source = some (ofSource strict source) := by
  have hdrain := (Stream.start source).drain?_offsets
  rw [Stream.offsets_start, Stream.drain_start] at hdrain
  rw [byOffsets?, hdrain, Option.bind_eq_bind, Option.bind_some, ofSource, scanRecords_eq]
  dsimp only
  cases strict with
  | false => rfl
  | true =>
    rcases Text.forall_or_exists_stray source with h | ⟨a, c, b, hs, ha, hc⟩
    · simp only [find?_isIllegal_of_forall h, if_true]
    · obtain ⟨t, hfind, hslice, -⟩ := find?_isIllegal_of_split hs ha hc
      simp only [hfind, hslice, Token.complaint_of_slice hslice, if_true]
      rfl

end Listing

namespace Session

/-- **By offsets a session answers every line alike.** -/
theorem runByOffsets?_eq (ending : Ending) (ls : List (List UInt8)) :
    runByOffsets? ending ls = some (run ending ls) := by
  induction ls with
  | nil => rfl
  | cons l ls ih =>
    rw [runByOffsets?, run, answerBytes]
    cases hl : Text.ofBytes? l with
    | none => rfl
    | some line =>
      have hstop : ∀ t : Token, t.isEof = true → t.closes = true := by
        intro t ht
        rw [Token.closes, ht, Bool.or_true]
      have hpulls := Stream.pullsUntil_upTo hstop (.start line)
      have hall : (Stream.start line).cursor.rest = tokenize line := Cursor.rest_start line
      rw [hall] at hpulls
      have hlength : (shownTokens line).length ≤ line.length + 1 :=
        Nat.le_trans (length_upTo_le _ _) (length_tokenize_le line)
      have hpulled := Stream.pullUntil?_offsets hpulls hlength
      rw [Stream.offsets_start] at hpulled
      dsimp only
      rw [hpulled, ih, answer_eq]
      rfl

end Session

/-! ## 4. The spans of tokens -/

/-- What the span of a token of a text is: in order, within the text and between characters, so
that it has a length and covers a part of the text.  This part is the text of the token, but for the
two sentinels: it is one character outside the alphabet for a stray one, and empty for the end. -/
structure Token.Fits (source : Text) (t : Token) : Prop where
  start_le_stop : t.span.start ≤ t.span.stop
  stop_le : t.span.stop ≤ source.extent
  start_boundary : source.IsBoundary t.span.start
  stop_boundary : source.IsBoundary t.span.stop
  exists_slice : ∃ m, t.span.slice? source = some m ∧ t.span.length? = some m.extent ∧
    (t.kind.isSentinel = false → t.text = m) ∧
    (t.kind = .illegal → ∃ c, ¬ InAlphabet c ∧ m = [c]) ∧
    (t.kind = .eof → m = [])

namespace Token

/-- A span that covers a part of a text is in order and between characters. -/
theorem Fits.of_slice {source : Text} {t : Token} {m : Text}
    (hm : t.span.slice? source = some m) (hsame : t.kind.isSentinel = false → t.text = m)
    (hillegal : t.kind = .illegal → ∃ c, ¬ InAlphabet c ∧ m = [c])
    (heof : t.kind = .eof → m = []) : t.Fits source := by
  have hcut : (source.slice? t.span.start t.span.stop).isSome := Option.isSome_iff_exists.2 ⟨m, hm⟩
  obtain ⟨hle, hstop, hfirst, hlast⟩ := Text.slice?_isSome_iff.1 hcut
  obtain ⟨a, b, -, ha, hb⟩ := Text.slice?_eq_some_iff.1 hm
  have hlength : t.span.length? = some m.extent := by
    rw [Span.length?_eq_some_iff, ← ha, hb]
  exact ⟨hle, hstop, hfirst, hlast, m, hm, hlength, hsame, hillegal, heof⟩

/-- **The span of every token fits its text.** -/
theorem fits_of_mem_tokenize {source : Text} {t : Token} (ht : t ∈ tokenize source) :
    t.Fits source := by
  rw [tokenize_eq] at ht
  rcases List.mem_append.1 ht with ht | ht
  · obtain ⟨m, hslice, hspells, htext⟩ := (describes_spots source).spelled t ht
    refine Fits.of_slice hslice ?_ ?_ ?_
    · intro hsentinel
      have hlegal : t.kind ≠ .illegal := by
        intro h
        rw [h] at hsentinel
        exact Bool.noConfusion hsentinel
      rwa [if_neg hlegal] at htext
    · intro hillegal
      rw [hillegal] at hspells
      obtain ⟨c, hm, hc⟩ := hspells
      exact ⟨c, hc, hm⟩
    · intro heof
      rwa [heof] at hspells
  · rw [List.mem_singleton.1 ht]
    have hslice : (Token.eof source.extent).span.slice? source = some [] :=
      Text.slice?_eq_some_iff.2 ⟨source, [], by simp, rfl, rfl⟩
    exact Fits.of_slice hslice nofun nofun fun _ => rfl

end Token

/-- The tokens that an answer gives. -/
def Answer.given : Answer → List Token
  | .found t? => t?.toList
  | .tokens ts => ts
  | .done => []

namespace Reader

/-- No answer gives a token that the text does not have. -/
theorem given_answer_subset (source : Text) (a : Ask) (p : Place) :
    ∀ t ∈ ((ofTokens source).answer a p).1.given, t ∈ tokenize source := by
  have hrest : ∀ t ∈ p.rest source, t ∈ tokenize source := by
    intro t ht
    unfold Place.rest at ht
    split at ht
    · exact absurd ht List.not_mem_nil
    · exact List.mem_of_mem_drop ht
  intro t ht
  cases a with
  | pull => exact List.mem_of_getElem? (Option.mem_toList.1 ht)
  | next => exact hrest t (List.mem_of_head? (Option.mem_toList.1 ht))
  | nth n => exact hrest t (List.mem_of_getElem? (Option.mem_toList.1 ht))
  | take n => exact hrest t (List.mem_of_mem_take ht)
  | drain => exact hrest t ht

/-- **Whatever is requested, the tokens given are tokens of the text.** -/
theorem given_replies_subset (source : Text) (rs : List Request) (d : Desk Place) :
    ∀ r ∈ (ofTokens source).replies rs d, ∀ t ∈ r.1.given, t ∈ tokenize source := by
  induction rs generalizing d with
  | nil => exact fun r hr => absurd hr List.not_mem_nil
  | cons q rs ih =>
    rw [replies]
    refine List.forall_mem_cons.2 ⟨?_, ih _⟩
    cases q with
    | ask a => exact given_answer_subset source a d.now
    | save k => exact fun t ht => absurd ht List.not_mem_nil
    | restore k => exact fun t ht => absurd ht List.not_mem_nil

end Reader

/-- **No scan ever fails.**  A scan that tells places by byte offsets alone, and fails when a text
is cut at offsets that are in the wrong order, outside of it or inside a character, gives what a
scan gives that knows nothing of offsets: to any requests to the stream of a text, in any order and
with copies kept and brought back; in a listing, strict or not; and in a session over any input.

The span of every token that is given anywhere is one that a text can be cut at.  Its length is that
of the part that it covers, and this part is the text of the token, but one stray character for an
illegal one, and nothing for the end of the text. -/
theorem scan_by_offsets (source : Text) :
    (∀ start stop, (source.slice? start stop).isSome ↔ start ≤ stop ∧ stop ≤ source.extent ∧
      source.IsBoundary start ∧ source.IsBoundary stop) ∧
    (∀ rs, ByteStream.run? source rs = some ((Reader.ofStream source).run rs)) ∧
    (∀ rs, ∀ r ∈ (Reader.ofStream source).run rs, ∀ t ∈ r.1.given, t.Fits source) ∧
    (∀ strict, Listing.byOffsets? strict source = some (Listing.ofSource strict source)) ∧
    (∀ t ∈ tokenize source, t.Fits source) ∧
    (∀ bytes ending, Session.byOffsets? bytes ending = some (Session.ofInput bytes ending)) ∧
    ∀ t ∈ Session.shownTokens source, t.Fits source := by
  refine ⟨fun _ _ => Text.slice?_isSome_iff, ByteStream.run?_eq source, ?_,
    fun strict => Listing.byOffsets?_eq strict source, fun t ht => Token.fits_of_mem_tokenize ht,
    fun bytes ending => Session.runByOffsets?_eq ending _, ?_⟩
  · intro rs r hr t ht
    rw [(Place.simulates source).run_eq rs] at hr
    exact Token.fits_of_mem_tokenize (Reader.given_replies_subset source rs _ r hr t ht)
  · intro t ht
    exact Token.fits_of_mem_tokenize (mem_of_mem_upTo ht)

/-- A stray character of two bytes is passed as a whole, also by a copy of the stream that is
brought back. -/
theorem scan_by_offsets_stray :
    ByteStream.run? ['é', '='] [.ask .pull, .restore 0, .ask .drain] =
        some [(.found (some ⟨.illegal, Token.illegalText, ⟨0, 2⟩⟩), 2), (.done, 0),
          (.tokens [⟨.illegal, Token.illegalText, ⟨0, 2⟩⟩, ⟨.symbol .assign, ['='], ⟨2, 3⟩⟩,
            .eof 3], 3)] ∧
      Token.Fits ['é', '='] ⟨.illegal, Token.illegalText, ⟨0, 2⟩⟩ := by
  obtain ⟨-, hrun, hgiven, -⟩ := scan_by_offsets ['é', '=']
  have hreplies : (Reader.ofStream ['é', '=']).run [.ask .pull, .restore 0, .ask .drain] =
      [(.found (some ⟨.illegal, Token.illegalText, ⟨0, 2⟩⟩), 2), (.done, 0),
        (.tokens [⟨.illegal, Token.illegalText, ⟨0, 2⟩⟩, ⟨.symbol .assign, ['='], ⟨2, 3⟩⟩, .eof 3],
          3)] := by
    decide +kernel
  have hfits := hgiven [.ask .pull, .restore 0, .ask .drain]
  rw [hreplies] at hfits
  obtain ⟨hfirst, -⟩ := List.forall_mem_cons.1 hfits
  exact ⟨(hrun _).trans (congrArg some hreplies), hfirst _ (List.mem_singleton_self _)⟩

end MonkeyTokens
