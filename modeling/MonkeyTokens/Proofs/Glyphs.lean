/- # Glyphs

A character is a blank, a stray character, or a *glyph*: a letter, a digit, or one that is a symbol
alone.  Lexemes are written with glyphs, stray characters apart, and so is all that output shows of
a token: the name of its kind and its text.

* `isStray_eq_false_iff`: the characters that are not stray, one by one.
* `Kind.mem_sheet_iff`: the names and the spellings of the kinds, one by one.
* `Lexeme.isGlyph_of_mem_written`, `Token.isGlyph_of_mem_text`, `Kind.isGlyph_of_mem_name`.
* `Quoted.text_of_isGlyph`: glyphs have a shape and need no escape, so a text of glyphs is quoted
  by its delimiters alone.
* `Quoted.written_iff`: how any character is quoted, one case for each kind of escape.
-/
import Mathlib.Tactic.SplitIfs
import MonkeyTokens.Text.Quoted
import MonkeyTokens.Proofs.Settled

namespace MonkeyTokens

/-! ## 1. The alphabet, character by character -/

/-- A letter, a digit, or a character that is a symbol alone. -/
def isGlyph (c : Char) : Bool := isLetter c || isDigit c || (Symbol.ofChar? c).isSome

/-- The characters that the language knows. -/
def InAlphabet (c : Char) : Prop :=
  c ∈ [' ', '\t', '\n', '\r'] ∨ ('a' ≤ c ∧ c ≤ 'z') ∨ ('A' ≤ c ∧ c ≤ 'Z') ∨ c = '_' ∨
    ('0' ≤ c ∧ c ≤ '9') ∨
    c ∈ ['=', '!', ';', '(', ')', ',', '+', '\x7b', '\x7d', '-', '*', '/', '<', '>']

theorem isStray_eq (c : Char) : isStray c = !(isBlank c || isGlyph c) := by
  simp [isStray, isGlyph, Bool.or_assoc]

/-- A glyph is not stray. -/
theorem isStray_of_isGlyph {c : Char} (h : isGlyph c = true) : isStray c = false := by
  simp [isStray_eq, h]

/-- A blank is not stray. -/
theorem isStray_of_isBlank {c : Char} (h : isBlank c = true) : isStray c = false := by
  simp [isStray_eq, h]

/-- A blank is not a glyph. -/
theorem isGlyph_of_isBlank {c : Char} (h : isBlank c = true) : isGlyph c = false := by
  simp only [isBlank, Bool.or_eq_true, decide_eq_true_eq] at h
  rcases h with ((rfl | rfl) | rfl) | rfl <;> decide

theorem isBlank_iff {c : Char} : isBlank c = true ↔ c ∈ [' ', '\t', '\n', '\r'] := by
  simp [isBlank, or_assoc]

theorem isLetter_iff {c : Char} :
    isLetter c = true ↔ ('a' ≤ c ∧ c ≤ 'z') ∨ ('A' ≤ c ∧ c ≤ 'Z') ∨ c = '_' := by
  delta isLetter Char.isAlpha Char.isUpper Char.isLower
  simp only [Bool.or_eq_true, Bool.and_eq_true, decide_eq_true_eq, ge_iff_le, Char.le_def,
    or_assoc]
  exact or_left_comm

theorem isDigit_iff {c : Char} : isDigit c = true ↔ '0' ≤ c ∧ c ≤ '9' := by
  simp [isDigit, Char.isDigit, Char.le_def]

theorem isSome_ofChar?_iff {c : Char} :
    (Symbol.ofChar? c).isSome = true ↔
      c ∈ ['=', '!', ';', '(', ')', ',', '+', '\x7b', '\x7d', '-', '*', '/', '<', '>'] := by
  unfold Symbol.ofChar?
  split <;> simp_all

/-- **The characters that are not stray are those of the alphabet.** -/
theorem isStray_eq_false_iff {c : Char} : isStray c = false ↔ InAlphabet c := by
  rw [isStray_eq, Bool.not_eq_false', isGlyph, Bool.or_eq_true, Bool.or_eq_true, Bool.or_eq_true,
    isBlank_iff, isLetter_iff, isDigit_iff, isSome_ofChar?_iff, InAlphabet]
  simp only [or_assoc]

theorem isStray_eq_true_iff {c : Char} : isStray c = true ↔ ¬ InAlphabet c := by
  rw [← isStray_eq_false_iff, Bool.not_eq_false]

instance : DecidablePred InAlphabet := fun c =>
  decidable_of_iff (isStray c = false) isStray_eq_false_iff

/-- A glyph is an ASCII character that prints. -/
theorem toNat_of_isGlyph {c : Char} (h : isGlyph c = true) : 0x20 < c.toNat ∧ c.toNat < 0x7f := by
  rw [isGlyph, Bool.or_eq_true, Bool.or_eq_true, isLetter_iff, isDigit_iff,
    isSome_ofChar?_iff] at h
  simp only [Char.le_def, UInt32.le_iff_toNat_le] at h
  rcases h with ((h | h | rfl) | h) | h
  · change 97 ≤ c.toNat ∧ c.toNat ≤ 122 at h
    omega
  · change 65 ≤ c.toNat ∧ c.toNat ≤ 90 at h
    omega
  · decide
  · change 48 ≤ c.toNat ∧ c.toNat ≤ 57 at h
    omega
  · simp only [List.mem_cons, List.not_mem_nil, or_false] at h
    rcases h with h | h | h | h | h | h | h | h | h | h | h | h | h | h
    all_goals subst h; decide

/-! ## 2. What is written with glyphs -/

/-- A symbol is spelled with glyphs. -/
theorem Symbol.isGlyph_of_mem_spelling (s : Symbol) : ∀ c ∈ s.spelling, isGlyph c = true := by
  -- tested along the text: over all characters it could not be
  refine List.all_eq_true.1 ?_
  cases s <;> decide

namespace Kind

/-- The sheet of the kinds: each with the name that output shows of it, and with its spelling if it
has only one.  A symbol is shown by its spelling. -/
def sheet : List (Kind × Text × Option Text) :=
  ([(eof, "EOF"), (illegal, "ILLEGAL"), (ident, "IDENT"), (int, "INT")] :
      List (Kind × String)).map (fun (k, name) => (k, name.toList, none)) ++
    ([(.assign, "="), (.plus, "+"), (.minus, "-"), (.bang, "!"), (.asterisk, "*"), (.slash, "/"),
        (.lessThan, "<"), (.greaterThan, ">"), (.equal, "=="), (.notEqual, "!="), (.comma, ","),
        (.semicolon, ";"), (.leftParen, "("), (.rightParen, ")"), (.leftBrace, "\x7b"),
        (.rightBrace, "\x7d")] :
      List (Symbol × String)).map (fun (s, sign) => (symbol s, sign.toList, some sign.toList)) ++
    ([(.functionWord, "FUNCTION", "fn"), (.letWord, "LET", "let"), (.trueWord, "TRUE", "true"),
        (.falseWord, "FALSE", "false"), (.ifWord, "IF", "if"), (.elseWord, "ELSE", "else"),
        (.returnWord, "RETURN", "return")] :
      List (Keyword × String × String)).map fun (w, name, word) =>
        (keyword w, name.toList, some word.toList)

/-- **Every kind has its row, and no other**: its name, and its spelling if there is one. -/
theorem mem_sheet_iff {k : Kind} {name : Text} {spelling? : Option Text} :
    (k, name, spelling?) ∈ sheet ↔ name = k.name ∧ spelling? = k.fixedLexeme? := by
  have hrow : (k, k.name, k.fixedLexeme?) ∈ sheet := by
    cases k with
    | symbol s => cases s <;> decide
    | keyword w => cases w <;> decide
    | _ => decide
  have honly : ∀ row ∈ sheet, row.2.1 = row.1.name ∧ row.2.2 = row.1.fixedLexeme? := by decide
  constructor
  · exact fun h => honly _ h
  · rintro ⟨rfl, rfl⟩
    exact hrow

/-- The spelling of a kind stands in its row. -/
theorem exists_mem_sheet_iff {k : Kind} {m : Text} :
    (∃ name, (k, name, some m) ∈ sheet) ↔ k.fixedLexeme? = some m := by
  simp only [mem_sheet_iff, exists_eq_left, eq_comm]

end Kind

/-- The name of a kind is written with glyphs. -/
theorem Kind.isGlyph_of_mem_name (k : Kind) : ∀ c ∈ k.name, isGlyph c = true := by
  cases k with
  | symbol s => exact s.isGlyph_of_mem_spelling
  | keyword k => exact List.all_eq_true.1 (by cases k <;> decide)
  | _ => exact List.all_eq_true.1 (by decide)

namespace Lexeme

/-- A lexeme is a stray character, or it is no such token and its own token text. -/
theorem eq_stray_or (x : Lexeme) :
    (∃ c, x = stray c) ∨ (x.kind ≠ .illegal ∧ x.tokenText = x.written) := by
  cases x with
  | word t =>
    refine Or.inr ⟨?_, rfl⟩
    rcases Kind.ofWord_eq t with h | ⟨k, h⟩
    · simp [kind, h]
    · simp [kind, h]
  | number t => exact Or.inr ⟨by simp [kind], rfl⟩
  | mark s => exact Or.inr ⟨by simp [kind], rfl⟩
  | stray c => exact Or.inl ⟨c, rfl⟩

/-- **A lexeme is written with glyphs**, or it is a stray character. -/
theorem isGlyph_of_mem_written {x : Lexeme} (hx : x.IsProper) (hk : x.kind ≠ .illegal) :
    ∀ c ∈ x.written, isGlyph c = true := by
  cases x with
  | word t => exact fun c hc => by simp [isGlyph, hx.2 c hc]
  | number t => exact fun c hc => by simp [isGlyph, hx.2 c hc]
  | mark s => exact s.isGlyph_of_mem_spelling
  | stray c => exact absurd rfl hk

/-- No lexeme holds a blank. -/
theorem isBlank_of_mem_written {x : Lexeme} (hx : x.IsProper) {c : Char} (hc : c ∈ x.written) :
    isBlank c = false := by
  refine Bool.eq_false_iff.2 fun hb => ?_
  rcases x.eq_stray_or with ⟨d, rfl⟩ | ⟨hk, -⟩
  · obtain rfl := List.mem_singleton.1 hc
    exact Bool.eq_false_iff.1 (isStray_of_isBlank hb) hx
  · exact Bool.eq_false_iff.1 (isGlyph_of_isBlank hb) (isGlyph_of_mem_written hx hk c hc)

/-- The text of its token is written with glyphs. -/
theorem isGlyph_of_mem_tokenText {x : Lexeme} (hx : x.IsProper) :
    ∀ c ∈ x.tokenText, isGlyph c = true := by
  rcases x.eq_stray_or with ⟨d, rfl⟩ | ⟨hk, ht⟩
  · exact List.all_eq_true.1 (by decide : Token.illegalText.all isGlyph = true)
  · rw [ht]
    exact isGlyph_of_mem_written hx hk

end Lexeme

/-- **The text of a token is written with glyphs.** -/
theorem Token.isGlyph_of_mem_text {source : Text} {t : Token} (ht : t ∈ tokenize source) :
    ∀ c ∈ t.text, isGlyph c = true := by
  rw [tokenize_eq] at ht
  rcases List.mem_append.1 ht with ht | ht
  · obtain ⟨s, hs, rfl⟩ := List.mem_map.1 ht
    obtain ⟨-, -, -, -, hx, -⟩ := exists_split_of_mem_spots hs
    exact Lexeme.isGlyph_of_mem_tokenText hx
  · rw [List.mem_singleton.1 ht]
    exact List.all_eq_true.1 (by decide : Token.eofText.all isGlyph = true)

/-! ## 3. Glyphs in quotes -/

/-- **A text of glyphs is quoted by its delimiters alone.** -/
theorem Quoted.text_of_isGlyph {t : Text} (h : ∀ c ∈ t, isGlyph c = true) :
    text t = '\x22' :: t ++ ['\x22'] := by
  refine text_of_plain fun c hc => ?_
  have hg := h c hc
  obtain ⟨hlow, hhigh⟩ := toNat_of_isGlyph hg
  refine ⟨?_, ?_, ?_⟩
  · rw [isShapeless_of_lt hhigh]
    exact decide_eq_false (by omega)
  · rintro rfl
    exact absurd hg (by decide)
  · rintro rfl
    exact absurd hg (by decide)

/-! ## 4. Characters in quotes -/

/-- How a character is written between apostrophes. -/
inductive Quoted.Written : Char → Text → Prop
  | nul : Written '\x00' "\\0".toList
  | tab : Written '\t' "\\t".toList
  | carriageReturn : Written '\r' "\\r".toList
  | lineFeed : Written '\n' "\\n".toList
  | backslash : Written '\\' "\\\\".toList
  | apostrophe : Written '\x27' "\\'".toList
  /-- The other characters without a shape are written by their number. -/
  | number {c : Char} (hshape : isShapeless c = true) (hnone : c ∉ ['\x00', '\t', '\r', '\n']) :
      Written c ("\\u\x7b".toList ++ Text.hexadecimal c.toNat ++ "\x7d".toList)
  | plain {c : Char} (hshape : isShapeless c = false) (hnone : c ∉ ['\\', '\x27']) : Written c [c]

/-- **Every character is written in one way.** -/
theorem Quoted.written_iff {c : Char} {w : Text} : Written c w ↔ w = escape '\x27' c := by
  constructor
  · rintro (_ | _ | _ | _ | _ | _ | ⟨hshape, hnone⟩ | ⟨hshape, hnone⟩)
    · rfl
    · rfl
    · rfl
    · rfl
    · rfl
    · rfl
    · simp only [List.mem_cons, List.not_mem_nil, or_false, not_or] at hnone
      obtain ⟨hnul, htab, hreturn, hfeed⟩ := hnone
      have hbackslash : c ≠ '\\' := by
        rintro rfl
        exact absurd hshape (by decide)
      have hmark : c ≠ '\x27' := by
        rintro rfl
        exact absurd hshape (by decide)
      simp [escape, hshape, hnul, htab, hreturn, hfeed, hbackslash, hmark]
    · simp only [List.mem_cons, List.not_mem_nil, or_false, not_or] at hnone
      exact (escape_of_plain hshape hnone.1 hnone.2).symm
  · rintro rfl
    unfold escape
    split_ifs with hnul htab hreturn hfeed hmark hshape
    · exact hnul ▸ .nul
    · exact htab ▸ .tab
    · exact hreturn ▸ .carriageReturn
    · exact hfeed ▸ .lineFeed
    · rcases hmark with rfl | rfl
      · exact .backslash
      · exact .apostrophe
    · exact .number hshape (by simp [hnul, htab, hreturn, hfeed])
    · exact .plain (Bool.eq_false_iff.2 hshape) (by simpa using hmark)

/-- A text with a quoted character in it. -/
theorem Quoted.append_char {c : Char} {w : Text} (h : Written c w) (before after : Text) :
    before ++ char c ++ after = (before ++ ['\x27']) ++ w ++ ('\x27' :: after) := by
  rw [written_iff.1 h]
  simp [char]

end MonkeyTokens
