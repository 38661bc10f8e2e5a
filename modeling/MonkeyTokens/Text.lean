/- # Texts and their UTF-8 bytes

A text is a list of characters.  Offsets into it are counted in bytes of its UTF-8 form, so this
file fixes that form (`Text.bytes`, `Text.ofBytes?`), its length (`Text.extent`), and the cut of a
text at byte offsets (`Text.slice?`), which exists only between two characters.

Main statements: `Text.ofBytes?_eq_some_iff` (reading bytes accepts exactly what writing a text
produces) and `Text.slice?_eq_some_iff` (a slice is the middle part of a split of the text into
three, the first two of the lengths that its offsets tell).
-/

namespace MonkeyTokens

/-- A text: its characters, in order. -/
abbrev Text := List Char

namespace Text

/-! ## 1. Bytes -/

/-- The UTF-8 form of a text. -/
def bytes (t : Text) : List UInt8 := t.flatMap String.utf8EncodeChar

/-- The text whose UTF-8 form these bytes are, when they are one. -/
def ofBytes? (bs : List UInt8) : Option Text := bs.toByteArray.utf8Decode?.map Array.toList

@[simp] theorem bytes_nil : bytes [] = [] := rfl

@[simp] theorem bytes_cons (c : Char) (t : Text) :
    bytes (c :: t) = String.utf8EncodeChar c ++ bytes t := rfl

@[simp] theorem bytes_append (t u : Text) : bytes (t ++ u) = bytes t ++ bytes u := by
  simp [bytes]

/-- The bytes of a text, as the array that the character encoder builds. -/
theorem toByteArray_bytes (t : Text) : (bytes t).toByteArray = t.utf8Encode := rfl

/-- Every text is read back from its bytes. -/
@[simp] theorem ofBytes?_bytes (t : Text) : ofBytes? (bytes t) = some t := by
  simp [ofBytes?, toByteArray_bytes]

/-- **Reading accepts exactly the UTF-8 forms of texts.** -/
theorem ofBytes?_eq_some_iff {bs : List UInt8} {t : Text} :
    ofBytes? bs = some t ↔ bytes t = bs := by
  constructor
  · intro h
    obtain ⟨a, ha, rfl⟩ := Option.map_eq_some_iff.1 h
    have hs : bs.toByteArray.utf8Decode?.isSome = true := by simp [ha]
    have he := ByteArray.utf8Encode_get_utf8Decode? (b := bs.toByteArray) (h := hs)
    simp only [ha, Option.get_some] at he
    exact List.toByteArray_inj.1 he
  · rintro rfl
    exact ofBytes?_bytes t

/-- Two texts with the same bytes are the same. -/
theorem bytes_injective {t u : Text} (h : bytes t = bytes u) : t = u := by
  have ht := ofBytes?_bytes t
  rw [h, ofBytes?_bytes] at ht
  exact (Option.some.inj ht).symm

/-! ## 2. Length in bytes -/

/-- The length of a text in bytes. -/
def extent (t : Text) : Nat := t.foldr (fun c n => c.utf8Size + n) 0

@[simp] theorem extent_nil : extent [] = 0 := rfl

@[simp] theorem extent_cons (c : Char) (t : Text) : extent (c :: t) = c.utf8Size + extent t := rfl

@[simp] theorem extent_append (t u : Text) : extent (t ++ u) = extent t + extent u := by
  induction t with
  | nil => simp
  | cons c t ih => rw [List.cons_append, extent_cons, extent_cons, ih, Nat.add_assoc]

@[simp] theorem extent_reverse (t : Text) : extent t.reverse = extent t := by
  induction t with
  | nil => rfl
  | cons c t ih => simp [ih, Nat.add_comm]

/-- The length of a text is the number of its bytes. -/
theorem length_bytes (t : Text) : (bytes t).length = extent t := by
  induction t with
  | nil => rfl
  | cons c t ih => simp [ih, String.length_utf8EncodeChar]

/-- Only the empty text has no bytes. -/
theorem extent_eq_zero_iff {t : Text} : extent t = 0 ↔ t = [] := by
  cases t with
  | nil => simp
  | cons c t =>
    have := c.utf8Size_pos
    simp only [extent_cons, reduceCtorEq, iff_false]
    omega

/-! ## 3. Cuts at byte offsets -/

/-- The first `n` bytes of a text; none when the text is shorter or byte `n` is inside a
character. -/
def takeBytes? : Nat → Text → Option Text
  | 0, _ => some []
  | _ + 1, [] => none
  | n + 1, c :: t =>
    if c.utf8Size ≤ n + 1 then (takeBytes? (n + 1 - c.utf8Size) t).map (c :: ·) else none

/-- A text without its first `n` bytes; none when the text is shorter or byte `n` is inside a
character. -/
def dropBytes? : Nat → Text → Option Text
  | 0, t => some t
  | _ + 1, [] => none
  | n + 1, c :: t => if c.utf8Size ≤ n + 1 then dropBytes? (n + 1 - c.utf8Size) t else none

/-- **The first `n` bytes are a text in front that is `n` bytes long.** -/
theorem takeBytes?_eq_some_iff {n : Nat} {t a : Text} :
    takeBytes? n t = some a ↔ ∃ b, t = a ++ b ∧ extent a = n := by
  induction t generalizing n a with
  | nil =>
    cases n with
    | zero => simp +contextual [takeBytes?, eq_comm]
    | succ n => simp +contextual [takeBytes?]
  | cons c t ih =>
    cases n with
    | zero =>
      simp only [takeBytes?, Option.some.injEq, extent_eq_zero_iff]
      constructor
      · rintro rfl
        exact ⟨c :: t, rfl, rfl⟩
      · rintro ⟨b, -, rfl⟩
        rfl
    | succ n =>
      cases a with
      | nil => simp [takeBytes?]
      | cons d a =>
        have hc := c.utf8Size_pos
        simp only [takeBytes?, List.cons_append, List.cons.injEq, extent_cons]
        split
        · next hle =>
          simp only [Option.map_eq_some_iff, ih, List.cons.injEq]
          constructor
          · rintro ⟨a', ⟨b, rfl, ha⟩, rfl, rfl⟩
            exact ⟨b, ⟨rfl, rfl⟩, by omega⟩
          · rintro ⟨b, ⟨rfl, rfl⟩, ha⟩
            exact ⟨a, ⟨b, rfl, by omega⟩, rfl, rfl⟩
        · next hgt =>
          simp only [reduceCtorEq, false_iff, not_exists, not_and]
          rintro b ⟨rfl, -⟩
          omega

/-- **What is left without the first `n` bytes follows a text of `n` bytes.** -/
theorem dropBytes?_eq_some_iff {n : Nat} {t b : Text} :
    dropBytes? n t = some b ↔ ∃ a, t = a ++ b ∧ extent a = n := by
  induction t generalizing n with
  | nil =>
    cases n with
    | zero =>
      simp only [dropBytes?, Option.some.injEq, extent_eq_zero_iff]
      constructor
      · rintro rfl
        exact ⟨[], rfl, rfl⟩
      · rintro ⟨a, h, rfl⟩
        exact h
    | succ n =>
      simp only [dropBytes?, reduceCtorEq, false_iff, not_exists, not_and]
      intro a h ha
      rw [(List.append_eq_nil_iff.1 h.symm).1, extent_nil] at ha
      omega
  | cons c t ih =>
    have hc := c.utf8Size_pos
    cases n with
    | zero =>
      simp only [dropBytes?, Option.some.injEq, extent_eq_zero_iff]
      constructor
      · rintro rfl
        exact ⟨[], rfl, rfl⟩
      · rintro ⟨a, h, rfl⟩
        exact h
    | succ n =>
      simp only [dropBytes?]
      split
      · next hle =>
        rw [ih]
        constructor
        · rintro ⟨a, rfl, ha⟩
          exact ⟨c :: a, rfl, by rw [extent_cons]; omega⟩
        · rintro ⟨a, h, ha⟩
          cases a with
          | nil => simp at ha
          | cons d a =>
            obtain ⟨rfl, rfl⟩ := List.cons.inj h
            rw [extent_cons] at ha
            exact ⟨a, rfl, by omega⟩
      · next hgt =>
        simp only [reduceCtorEq, false_iff, not_exists, not_and]
        intro a h ha
        cases a with
        | nil => simp at ha
        | cons d a =>
          obtain ⟨rfl, rfl⟩ := List.cons.inj h
          rw [extent_cons] at ha
          omega

/-- The text between two byte offsets; none when they are in the wrong order, past the end or
inside a character. -/
def slice? (start stop : Nat) (t : Text) : Option Text :=
  if start ≤ stop then (dropBytes? start t).bind (takeBytes? (stop - start)) else none

/-- **A slice is the middle part of a split of the text into three.** -/
theorem slice?_eq_some_iff {start stop : Nat} {t m : Text} :
    slice? start stop t = some m ↔
      ∃ a b, t = a ++ m ++ b ∧ extent a = start ∧ extent a + extent m = stop := by
  unfold slice?
  split
  · next h =>
    simp only [Option.bind_eq_some_iff, dropBytes?_eq_some_iff, takeBytes?_eq_some_iff]
    constructor
    · rintro ⟨r, ⟨a, rfl, ha⟩, b, rfl, hm⟩
      exact ⟨a, b, by simp, ha, by omega⟩
    · rintro ⟨a, b, rfl, ha, hm⟩
      exact ⟨m ++ b, ⟨a, by simp, ha⟩, b, rfl, by omega⟩
  · next h =>
    simp only [reduceCtorEq, false_iff]
    rintro ⟨a, b, -, ha, hm⟩
    omega

/-! ## 4. Numbers -/

/-- The decimal digits of a number. -/
def decimal (n : Nat) : Text := Nat.toDigits 10 n

/-- The hexadecimal digits of a number, in lower case and without leading zeros. -/
def hexadecimal (n : Nat) : Text := Nat.toDigits 16 n

/-- The number that decimal digits write; leading zeros count for nothing, and one plus sign may
stand in front. -/
def number? (t : Text) : Option Nat :=
  let digits := if t.head? = some '+' then t.tail else t
  if digits ≠ [] ∧ digits.all Char.isDigit then some (Nat.ofDigitChars 10 digits 0) else none

/-- A number is read back from its decimal digits. -/
theorem number?_decimal (n : Nat) : number? (decimal n) = some n := by
  have hd : ∀ c ∈ decimal n, c.isDigit = true := fun c hc =>
    Nat.isDigit_of_mem_toDigits (by decide) (by decide) hc
  have hne : decimal n ≠ [] := Nat.toDigits_ne_nil
  have hplus : (decimal n).head? ≠ some '+' := fun h =>
    absurd (hd '+' (List.mem_of_head? h)) (by decide)
  simp only [number?, hplus, if_false]
  rw [if_pos ⟨hne, List.all_eq_true.2 hd⟩, decimal, Nat.ofDigitChars_ten_toDigits]

end Text

end MonkeyTokens
