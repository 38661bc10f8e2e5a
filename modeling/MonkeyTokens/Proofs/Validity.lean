/- # Input that is no UTF-8

A session decodes its input line by line, a listing decodes a file as a whole.  A line feed is never
inside a character, so no character is lost by cutting there and none comes about by joining: both
decode the same bytes.  They differ in what they have written when they fail.  A listing has
written nothing; a session has answered the lines before.

* `isUtf8_iff_forall_lines`: bytes are UTF-8 when each of their lines is.
* `Session.deliver_snd_of_isUtf8`, `Session.exists_deliver_of_not_isUtf8`: the session over them.
* `Listing.result_ofFile_of_isUtf8`, `Listing.ofFile_of_not_isUtf8`: the listing of a file of them.

Main statement: `Session.fails_iff_listing_fails`.
-/
import MonkeyTokens.Proofs.LineByLine

namespace MonkeyTokens

/-! ## 1. UTF-8, line by line -/

/-- The bytes are the UTF-8 form of a text. -/
def IsUtf8 (bytes : List UInt8) : Prop := ∃ t, Text.bytes t = bytes

theorem isUtf8_bytes (t : Text) : IsUtf8 t.bytes := ⟨t, rfl⟩

theorem ofBytes?_eq_none_iff {bytes : List UInt8} :
    Text.ofBytes? bytes = none ↔ ¬ IsUtf8 bytes := by
  constructor
  · rintro h ⟨t, rfl⟩
    rw [Text.ofBytes?_bytes] at h
    exact absurd h (by simp)
  · intro h
    exact Option.eq_none_iff_forall_ne_some.2 fun t ht => h ⟨t, Text.ofBytes?_eq_some_iff.1 ht⟩

instance : DecidablePred IsUtf8 := fun bytes =>
  decidable_of_iff ((Text.ofBytes? bytes).isSome = true) <| by
    rw [← not_iff_not, Bool.not_eq_true, Option.isSome_eq_false_iff, Option.isNone_iff_eq_none,
      ofBytes?_eq_none_iff]

namespace Text

theorem bytes_flatten (ts : List Text) : bytes ts.flatten = (ts.map bytes).flatten := by
  induction ts with
  | nil => rfl
  | cons t ts ih => rw [List.flatten_cons, bytes_append, ih, List.map_cons, List.flatten_cons]

end Text

/-- **Bytes are UTF-8 exactly when each of their lines is.** -/
theorem isUtf8_iff_forall_lines {bytes : List UInt8} :
    IsUtf8 bytes ↔ ∀ l ∈ (Lines.cut lineFeed bytes).all, IsUtf8 l := by
  constructor
  · rintro ⟨t, rfl⟩ l hl
    rw [Lines.cut_bytes, Lines.all_bytes] at hl
    obtain ⟨line, -, rfl⟩ := List.mem_map.1 hl
    exact isUtf8_bytes line
  · intro h
    obtain ⟨texts, left, hlines, hleft⟩ :=
      Session.exists_texts_append (Lines.cut lineFeed bytes).all
    -- a line that is left would be the first one that is no text
    obtain rfl : left = [] := by
      cases left with
      | nil => rfl
      | cons bad left =>
        obtain ⟨t, ht⟩ := h bad (by simp [hlines])
        exact absurd ht (hleft bad rfl t)
    refine ⟨texts.flatten, ?_⟩
    rw [Text.bytes_flatten, ← List.append_nil (texts.map Text.bytes), ← hlines, Lines.flatten_all,
      Lines.join_cut]

/-! ## 2. Sessions -/

namespace Session

theorem deliver_snd_of_isUtf8 {bytes : List UInt8} (h : IsUtf8 bytes) :
    ((ofInput bytes .finished).deliver .unbounded).2 = .ok () := by
  obtain ⟨t, rfl⟩ := h
  rw [Run.deliver_unbounded]
  exact (output_ofInput_bytes t .finished).2

/-- **A session over bytes that are no UTF-8** answers the lines before the first one that is none,
as it would if there were no others, and fails after the prompt for this one. -/
theorem exists_deliver_of_not_isUtf8 {bytes : List UInt8} (h : ¬ IsUtf8 bytes) :
    ∃ (texts : List Text) (bad : List UInt8) (after : List (List UInt8)),
      (Lines.cut lineFeed bytes).all = texts.map Text.bytes ++ bad :: after ∧ ¬ IsUtf8 bad ∧
      (ofInput bytes .finished).deliver .unbounded =
        (Text.bytes (texts.flatMap exchange ++ prompt), .error (.input .notUtf8)) ∧
      (ofInput (Text.bytes texts.flatten) .finished).deliver .unbounded =
        (Text.bytes (texts.flatMap exchange ++ prompt) ++ [lineFeed], .ok ()) := by
  obtain ⟨texts, left, hlines, hleft⟩ := exists_texts_append (Lines.cut lineFeed bytes).all
  cases left with
  | nil =>
    refine absurd (isUtf8_iff_forall_lines.2 fun l hl => ?_) h
    rw [hlines, List.append_nil] at hl
    obtain ⟨t, -, rfl⟩ := List.mem_map.1 hl
    exact isUtf8_bytes t
  | cons bad after =>
    have hbad : ¬ IsUtf8 bad := fun ⟨t, ht⟩ => hleft bad rfl t ht
    obtain ⟨hout, hresult⟩ := @output_run .finished texts (bad :: after) hleft
    refine ⟨texts, bad, after, hlines, hbad, ?_, ?_⟩
    · have hread : ofInput bytes .finished = run .finished (texts.map Text.bytes ++ bad :: after) :=
        congrArg (run .finished) hlines
      rw [Run.deliver_unbounded, hread, hout, hresult]
      simp [parting]
    · -- the lines before the bad one end with a line feed, so they are the lines of their own text
      obtain ⟨more, hmore⟩ := Lines.exists_complete_eq_append hlines (List.cons_ne_nil bad after)
      have hform : ∀ p ∈ texts.map Text.bytes, ∃ w, p = w ++ [lineFeed] ∧ lineFeed ∉ w := by
        intro p hp
        exact (Lines.isCut_cut lineFeed bytes).complete p (by simp [hmore, hp])
      have hall : (Lines.cut lineFeed (Text.bytes texts.flatten)).all = texts.map Text.bytes := by
        rw [Text.bytes_flatten, ← List.append_nil (texts.map Text.bytes).flatten,
          Lines.all_cut_flatten_append hform]
        exact List.append_nil _
      have hread : ofInput (Text.bytes texts.flatten) .finished =
          run .finished (texts.map Text.bytes ++ []) :=
        congrArg (run .finished) (hall.trans (List.append_nil _).symm)
      obtain ⟨hout, hresult⟩ := @output_run .finished texts [] (by simp)
      have hfeed : Text.bytes "\n".toList = [lineFeed] := by decide
      rw [Run.deliver_unbounded, hread, hout, hresult]
      simp only [parting, ← List.append_assoc, Text.bytes_append _ "\n".toList, hfeed]

end Session

/-! ## 3. Listings -/

namespace Listing

/-- A file that is UTF-8 is read. -/
theorem result_ofFile_of_isUtf8 {bytes : List UInt8} (h : IsUtf8 bytes) (path : Text)
    (strict : Bool) :
    (ofFile path strict (.ok bytes)).result ≠ .error (.read path .notUtf8) ∧
      ∃ count, (ofFile path false (.ok bytes)).result = .ok count := by
  obtain ⟨t, rfl⟩ := h
  have hread : ∀ strict,
      (ofFile path strict (.ok t.bytes)).result = (ofSource strict t).result := by
    intro strict
    simp only [ofFile, Text.ofBytes?_bytes, Run.result_after]
  refine ⟨?_, (tokenize t).length, ?_⟩
  · rw [hread, ofSource]
    split <;> simp [Token.complaint]
  · rw [hread]
    rfl

/-- A file that is no UTF-8 is not: nothing is written. -/
theorem ofFile_of_not_isUtf8 {bytes : List UInt8} (h : ¬ IsUtf8 bytes) (path : Text)
    (strict : Bool) :
    ofFile path strict (.ok bytes) = ⟨[], .error (.read path .notUtf8)⟩ := by
  simp only [ofFile, ofBytes?_eq_none_iff.2 h]

end Listing

namespace Session

/-- **A session and a listing decode the same bytes.**  The session over an input that is complete
fails for want of UTF-8, the listing of a file with these bytes fails for want of UTF-8, strict or
not, and the bytes are not UTF-8: any of this holds when the others do.  Otherwise both succeed, the
listing if it is not strict.  For the bytes are UTF-8 exactly when each of their lines is.

When they fail, the listing has written nothing.  The session has answered the lines before the
first one that is no UTF-8, as it does when the input ends there, and has prompted for that line. -/
theorem fails_iff_listing_fails (bytes : List UInt8) (path : Text) (strict : Bool) :
    (((ofInput bytes .finished).deliver .unbounded).2 = .error (.input .notUtf8) ↔
      ¬ IsUtf8 bytes) ∧
    (((Listing.ofFile path strict (.ok bytes)).deliver .unbounded).2 =
        .error (.read path .notUtf8) ↔ ¬ IsUtf8 bytes) ∧
    (IsUtf8 bytes →
      ((ofInput bytes .finished).deliver .unbounded).2 = .ok () ∧
        ∃ count, ((Listing.ofFile path false (.ok bytes)).deliver .unbounded).2 = .ok count) ∧
    (IsUtf8 bytes ↔ ∀ l ∈ (Lines.cut lineFeed bytes).all, IsUtf8 l) ∧
    (¬ IsUtf8 bytes →
      ((Listing.ofFile path strict (.ok bytes)).deliver .unbounded).1 = [] ∧
      ∃ (texts : List Text) (bad : List UInt8) (after : List (List UInt8)),
        (Lines.cut lineFeed bytes).all = texts.map Text.bytes ++ bad :: after ∧ ¬ IsUtf8 bad ∧
        ((ofInput bytes .finished).deliver .unbounded).1 =
          Text.bytes (texts.flatMap exchange ++ prompt) ∧
        (ofInput (Text.bytes texts.flatten) .finished).deliver .unbounded =
          (((ofInput bytes .finished).deliver .unbounded).1 ++ [lineFeed], .ok ())) ∧
    Cause.message .notUtf8 = "stream did not contain valid UTF-8".toList := by
  simp only [Run.deliver_unbounded (Listing.ofFile _ _ _)]
  refine ⟨⟨?_, ?_⟩, ⟨?_, ?_⟩, ?_, isUtf8_iff_forall_lines, ?_, by decide⟩
  · intro h hutf
    rw [deliver_snd_of_isUtf8 hutf] at h
    exact absurd h (by simp)
  · intro h
    obtain ⟨_, _, _, -, -, hsession, -⟩ := exists_deliver_of_not_isUtf8 h
    rw [hsession]
  · intro h hutf
    exact (Listing.result_ofFile_of_isUtf8 hutf path strict).1 h
  · intro h
    rw [Listing.ofFile_of_not_isUtf8 h]
  · intro h
    exact ⟨deliver_snd_of_isUtf8 h, (Listing.result_ofFile_of_isUtf8 h path strict).2⟩
  · intro h
    obtain ⟨texts, bad, after, hlines, hbad, hsession, hbefore⟩ := exists_deliver_of_not_isUtf8 h
    refine ⟨by rw [Listing.ofFile_of_not_isUtf8 h]; rfl, texts, bad, after, hlines, hbad, ?_, ?_⟩
    · rw [hsession]
    · rw [hsession, hbefore]

/-- A character of two bytes is no UTF-8 when a line feed stands inside it. -/
theorem fails_iff_listing_fails_inside_character :
    ¬ IsUtf8 [0x61, 0x0a, 0xc3, 0x0a, 0xa9] ∧
      ((ofInput [0x61, 0x0a, 0xc3, 0x0a, 0xa9] .finished).deliver .unbounded).2 =
        .error (.input .notUtf8) ∧
      ((Listing.ofFile ['p'] true (.ok [0x61, 0x0a, 0xc3, 0x0a, 0xa9])).deliver .unbounded).1 =
        [] ∧
      IsUtf8 [0x61, 0x0a, 0xc3, 0xa9] ∧
      ((ofInput [0x61, 0x0a, 0xc3, 0xa9] .finished).deliver .unbounded).2 = .ok () := by
  have hbad : ¬ IsUtf8 [0x61, 0x0a, 0xc3, 0x0a, 0xa9] := by decide
  have hgood : IsUtf8 [0x61, 0x0a, 0xc3, 0xa9] := by decide
  have hfail := fails_iff_listing_fails [0x61, 0x0a, 0xc3, 0x0a, 0xa9] ['p'] true
  refine ⟨hbad, hfail.1.2 hbad, (hfail.2.2.2.2.1 hbad).1, hgood, ?_⟩
  exact ((fails_iff_listing_fails [0x61, 0x0a, 0xc3, 0xa9] ['p'] true).2.2.1 hgood).1

end Session

end MonkeyTokens
