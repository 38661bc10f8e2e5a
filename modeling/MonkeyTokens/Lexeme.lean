/- # Lexemes

A lexeme is a piece of text that makes one token: a word, a number, a symbol, or a stray
character.  `Lexeme.leading` takes the longest one from the front of a text: runs of letters and
of digits are taken whole, and `=` and `!` take an equals sign that follows them.  It is what
`next_token` does behind the blanks, with its cases `single`, `one_or_two`, `identifier`, `number`
and `illegal`.

Main statements: `Lexeme.written_append_leading` (nothing is lost) and
`Lexeme.isProper_leading` (what is taken is a lexeme of the language).
-/
import MonkeyTokens.Alphabet
import MonkeyTokens.Token

namespace MonkeyTokens

/-- A piece of text that makes one token. -/
inductive Lexeme
  /-- A run of letters. -/
  | word (letters : Text)
  /-- A run of digits. -/
  | number (digits : Text)
  | mark (s : Symbol)
  /-- A character that no lexical rule takes. -/
  | stray (c : Char)
deriving DecidableEq

/-- A character that is in no class of the alphabet and is no symbol. -/
def isStray (c : Char) : Bool :=
  !(isBlank c || isLetter c || isDigit c || (Symbol.ofChar? c).isSome)

namespace Lexeme

/-! ## 1. What a lexeme is -/

/-- The characters of a lexeme, as they stand in the source. -/
def written : Lexeme → Text
  | word t => t
  | number t => t
  | mark s => s.spelling
  | stray c => [c]

/-- The kind of the token that a lexeme makes. -/
def kind : Lexeme → Kind
  | word t => .ofWord t
  | number _ => .int
  | mark s => .symbol s
  | stray _ => .illegal

/-- The text of the token that a lexeme makes: its own, but a fixed one for a stray character. -/
def tokenText : Lexeme → Text
  | stray _ => Token.illegalText
  | l => l.written

/-- The token that a lexeme makes when it starts at byte `start`: `lexeme`. -/
def token (start : Nat) (l : Lexeme) : Token :=
  ⟨l.kind, l.tokenText, ⟨start, start + l.written.extent⟩⟩

/-- The lexemes of the language: words are of letters and numbers of digits, neither is empty, and
a stray character is one that nothing else takes. -/
def IsProper : Lexeme → Prop
  | word t => t ≠ [] ∧ ∀ c ∈ t, isLetter c = true
  | number t => t ≠ [] ∧ ∀ c ∈ t, isDigit c = true
  | mark _ => True
  | stray c => isStray c = true

/-- No lexeme is the end of a text. -/
theorem kind_ne_eof (x : Lexeme) : x.kind ≠ .eof := by
  cases x with
  | word t =>
    rcases Kind.ofWord_eq t with h | ⟨k, h⟩
    · simp [kind, h]
    · simp [kind, h]
  | number t => simp [kind]
  | mark s => simp [kind]
  | stray c => simp [kind]

/-! ## 2. The longest lexeme at the front of a text -/

/-- A symbol whose first character has been read, and what follows: with an equals sign the longer
symbol wins.  This is `one_or_two` and, for the other symbols, `single`. -/
def leadingMark (s : Symbol) (r : Text) : Lexeme × Text :=
  match s.withEquals?, r with
  | some d, '=' :: r' => (mark d, r')
  | _, _ => (mark s, r)

/-- The longest lexeme at the front of the text `c :: r`, and what follows it; `c` is no blank. -/
def leading (c : Char) (r : Text) : Lexeme × Text :=
  if isLetter c then (word (c :: r.takeWhile isLetter), r.dropWhile isLetter)
  else if isDigit c then (number (c :: r.takeWhile isDigit), r.dropWhile isDigit)
  else
    match Symbol.ofChar? c with
    | some s => leadingMark s r
    | none => (stray c, r)

/-- A symbol loses nothing of the text. -/
theorem written_append_leadingMark (s : Symbol) (r : Text) :
    (leadingMark s r).1.written ++ (leadingMark s r).2 = s.spelling ++ r := by
  unfold leadingMark
  split
  · next d r' hd => simp [written, Symbol.spelling_withEquals? hd]
  · rfl

/-- **Nothing is lost**: the lexeme taken, then the rest, are the text. -/
theorem written_append_leading (c : Char) (r : Text) :
    (leading c r).1.written ++ (leading c r).2 = c :: r := by
  unfold leading
  split
  · simp [written, List.takeWhile_append_dropWhile]
  · split
    · simp [written, List.takeWhile_append_dropWhile]
    · split
      · next s hs => simp [written_append_leadingMark, Symbol.ofChar?_eq_some_iff.1 hs]
      · rfl

/-- What is taken is never empty, so the rest is shorter. -/
theorem length_leading_lt (c : Char) (r : Text) : (leading c r).2.length < (c :: r).length := by
  unfold leading
  split
  · exact Nat.lt_succ_of_le ((List.dropWhile_sublist _).length_le)
  · split
    · exact Nat.lt_succ_of_le ((List.dropWhile_sublist _).length_le)
    · split
      · next s hs =>
        unfold leadingMark
        split <;> simp only [List.length_cons] <;> omega
      · simp

/-- A run that starts with a member of a class is within it. -/
theorem forall_mem_run {p : Char → Bool} {c : Char} {r : Text} (h : p c = true) :
    ∀ d ∈ c :: r.takeWhile p, p d = true := by
  intro d hd
  rcases List.mem_cons.1 hd with rfl | hd
  · exact h
  · exact List.all_eq_true.1 List.all_takeWhile d hd

/-- **What is taken from a text that starts with no blank is a lexeme of the language.** -/
theorem isProper_leading {c : Char} (r : Text) (hc : isBlank c = false) :
    (leading c r).1.IsProper := by
  unfold leading
  split
  · next h => exact ⟨by simp, forall_mem_run h⟩
  · next h =>
    split
    · next h' => exact ⟨by simp, forall_mem_run h'⟩
    · next h' =>
      split
      · unfold leadingMark
        split <;> trivial
      · next hs => simp [IsProper, isStray, hc, h, h', hs]

end Lexeme

end MonkeyTokens
