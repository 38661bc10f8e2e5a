/- # Symbols, keywords and kinds

What a token can be: the end of the text, a stray character, an identifier, an integer, one of
sixteen symbols, or one of seven keywords.  Symbols and keywords have one spelling each.

Main statements: `Symbol.ofChar?_eq_some_iff` and `Keyword.ofText?_eq_some_iff` (a spelling is
recognised as exactly the symbol or keyword that it spells), and `Keyword.kindOf?_eq` (to look
words up by their length first loses none).
-/
import MonkeyTokens.Text

namespace MonkeyTokens

/-! ## 1. Symbols -/

/-- The operators and delimiters. -/
inductive Symbol
  | assign | plus | minus | bang | asterisk | slash | lessThan | greaterThan | equal | notEqual
  | comma | semicolon | leftParen | rightParen | leftBrace | rightBrace
deriving DecidableEq

namespace Symbol

/-- Every symbol. -/
def all : List Symbol :=
  [assign, plus, minus, bang, asterisk, slash, lessThan, greaterThan, equal, notEqual,
    comma, semicolon, leftParen, rightParen, leftBrace, rightBrace]

/-- How a symbol is written. -/
def spelling : Symbol → Text
  | assign => ['=']
  | plus => ['+']
  | minus => ['-']
  | bang => ['!']
  | asterisk => ['*']
  | slash => ['/']
  | lessThan => ['<']
  | greaterThan => ['>']
  | equal => ['=', '=']
  | notEqual => ['!', '=']
  | comma => [',']
  | semicolon => [';']
  | leftParen => ['(']
  | rightParen => [')']
  | leftBrace => ['\x7b']
  | rightBrace => ['\x7d']

/-- The symbol that a character alone is, as `next_token` tells them apart. -/
def ofChar? (c : Char) : Option Symbol :=
  match c with
  | '=' => some assign
  | '+' => some plus
  | '-' => some minus
  | '!' => some bang
  | '*' => some asterisk
  | '/' => some slash
  | '<' => some lessThan
  | '>' => some greaterThan
  | ',' => some comma
  | ';' => some semicolon
  | '(' => some leftParen
  | ')' => some rightParen
  | '\x7b' => some leftBrace
  | '\x7d' => some rightBrace
  | _ => none

/-- The symbol that this one becomes when an equals sign follows it at once: those that
`one_or_two` is called with. -/
def withEquals? : Symbol → Option Symbol
  | assign => some equal
  | bang => some notEqual
  | _ => none

/-- The list of symbols is complete. -/
theorem mem_all (s : Symbol) : s ∈ all := by cases s <;> decide

/-- **A character is the symbol that it spells alone.** -/
theorem ofChar?_eq_some_iff {c : Char} {s : Symbol} : ofChar? c = some s ↔ s.spelling = [c] := by
  constructor
  · intro h
    unfold ofChar? at h
    split at h <;> simp_all [spelling] <;> subst h <;> rfl
  · intro h
    cases s <;> simp only [spelling, List.cons.injEq, and_true, reduceCtorEq, and_false] at h <;>
      subst h <;> rfl

/-- A symbol that an equals sign completes is spelled by the shorter one and that sign. -/
theorem spelling_withEquals? {s d : Symbol} (h : s.withEquals? = some d) :
    d.spelling = s.spelling ++ ['='] := by
  cases s <;> simp only [withEquals?, reduceCtorEq, Option.some.injEq] at h <;> subst h <;> rfl

end Symbol

/-! ## 2. Keywords -/

/-- The reserved words. -/
inductive Keyword
  | functionWord | letWord | trueWord | falseWord | ifWord | elseWord | returnWord
deriving DecidableEq

namespace Keyword

/-- Every keyword. -/
def all : List Keyword :=
  [functionWord, letWord, trueWord, falseWord, ifWord, elseWord, returnWord]

/-- How a keyword is written. -/
def word : Keyword → Text
  | functionWord => "fn".toList
  | letWord => "let".toList
  | trueWord => "true".toList
  | falseWord => "false".toList
  | ifWord => "if".toList
  | elseWord => "else".toList
  | returnWord => "return".toList

/-- The keyword that a text is; case counts.  These are the cases of `lookup`. -/
def ofText? (t : Text) : Option Keyword :=
  match t with
  | ['f', 'n'] => some functionWord
  | ['l', 'e', 't'] => some letWord
  | ['t', 'r', 'u', 'e'] => some trueWord
  | ['f', 'a', 'l', 's', 'e'] => some falseWord
  | ['i', 'f'] => some ifWord
  | ['e', 'l', 's', 'e'] => some elseWord
  | ['r', 'e', 't', 'u', 'r', 'n'] => some returnWord
  | _ => none

/-- The list of keywords is complete. -/
theorem mem_all (k : Keyword) : k ∈ all := by cases k <;> decide

/-- **A text is the keyword that it spells.** -/
theorem ofText?_eq_some_iff {t : Text} {k : Keyword} : ofText? t = some k ↔ k.word = t := by
  constructor
  · intro h
    unfold ofText? at h
    split at h <;> simp only [reduceCtorEq, Option.some.injEq] at h <;> subst h <;> rfl
  · rintro rfl
    cases k <;> rfl

end Keyword

/-! ## 3. Kinds -/

/-- The kinds of tokens: `TokenKind`. -/
inductive Kind
  /-- The end of the text. -/
  | eof
  /-- A character that no lexical rule takes. -/
  | illegal
  /-- A word that is not reserved. -/
  | ident
  /-- A run of digits. -/
  | int
  | symbol (s : Symbol)
  | keyword (k : Keyword)
deriving DecidableEq

namespace Kind

/-- Every kind, in the order of their ordinals: `ALL`. -/
def all : List Kind :=
  [eof, illegal, ident, int] ++ Symbol.all.map symbol ++ Keyword.all.map keyword

/-- The place of a kind among all of them. -/
def ordinal (k : Kind) : Nat := all.idxOf k

/-- The name that listings show: a symbol by its spelling, any other kind by a word in upper
case.  This is `name`. -/
def name : Kind → Text
  | eof => "EOF".toList
  | illegal => "ILLEGAL".toList
  | ident => "IDENT".toList
  | int => "INT".toList
  | symbol s => s.spelling
  | keyword .functionWord => "FUNCTION".toList
  | keyword .letWord => "LET".toList
  | keyword .trueWord => "TRUE".toList
  | keyword .falseWord => "FALSE".toList
  | keyword .ifWord => "IF".toList
  | keyword .elseWord => "ELSE".toList
  | keyword .returnWord => "RETURN".toList

/-- The name that structural dumps show. -/
def label : Kind → Text
  | eof => "Eof".toList
  | illegal => "Illegal".toList
  | ident => "Ident".toList
  | int => "Int".toList
  | symbol .assign => "Assign".toList
  | symbol .plus => "Plus".toList
  | symbol .minus => "Minus".toList
  | symbol .bang => "Bang".toList
  | symbol .asterisk => "Asterisk".toList
  | symbol .slash => "Slash".toList
  | symbol .lessThan => "LessThan".toList
  | symbol .greaterThan => "GreaterThan".toList
  | symbol .equal => "Eq".toList
  | symbol .notEqual => "NotEq".toList
  | symbol .comma => "Comma".toList
  | symbol .semicolon => "Semicolon".toList
  | symbol .leftParen => "LeftParen".toList
  | symbol .rightParen => "RightParen".toList
  | symbol .leftBrace => "LeftBrace".toList
  | symbol .rightBrace => "RightBrace".toList
  | keyword .functionWord => "Function".toList
  | keyword .letWord => "Let".toList
  | keyword .trueWord => "True".toList
  | keyword .falseWord => "False".toList
  | keyword .ifWord => "If".toList
  | keyword .elseWord => "Else".toList
  | keyword .returnWord => "Return".toList

/-- The kind that a structural dump shows under this name. -/
def ofLabel? (t : Text) : Option Kind := all.find? fun k => k.label = t

/-- The one spelling of a symbol or keyword; the other kinds have none: `fixed_lexeme`. -/
def fixedLexeme? : Kind → Option Text
  | symbol s => some s.spelling
  | keyword k => some k.word
  | _ => none

/-- The kind of a reserved word: `is_keyword`. -/
def isKeyword : Kind → Bool
  | keyword _ => true
  | _ => false

/-- A kind whose tokens carry a fixed text in place of their source: `is_sentinel`. -/
def isSentinel : Kind → Bool
  | eof | illegal => true
  | _ => false

/-- The list of kinds is complete. -/
theorem mem_all (k : Kind) : k ∈ all := by
  cases k with
  | symbol s => simp [all, Symbol.mem_all s]
  | keyword k => simp [all, Keyword.mem_all k]
  | _ => simp [all]

end Kind

/-! ## 4. Looking words up -/

namespace Keyword

/-- The reserved words, each with its kind: `KEYWORDS`. -/
def table : List (Text × Kind) :=
  [("fn".toList, .keyword .functionWord), ("let".toList, .keyword .letWord),
    ("true".toList, .keyword .trueWord), ("false".toList, .keyword .falseWord),
    ("if".toList, .keyword .ifWord), ("else".toList, .keyword .elseWord),
    ("return".toList, .keyword .returnWord)]

/-- The kind of a reserved word: `lookup`.  Texts that are shorter or longer than every reserved
word are not compared with them. -/
def kindOf? (t : Text) : Option Kind :=
  if 2 ≤ t.extent ∧ t.extent ≤ 6 then (ofText? t).map Kind.keyword else none

theorem extent_word (k : Keyword) : 2 ≤ k.word.extent ∧ k.word.extent ≤ 6 := by
  cases k <;> decide

/-- **No reserved word is lost by its length.** -/
theorem kindOf?_eq (t : Text) : kindOf? t = (ofText? t).map Kind.keyword := by
  unfold kindOf?
  split
  · rfl
  · next hlength =>
    cases h : ofText? t with
    | none => rfl
    | some k =>
      rw [← ofText?_eq_some_iff.1 h] at hlength
      exact absurd k.extent_word hlength

end Keyword

namespace Kind

/-- The kind of a word: a keyword when it is reserved, an identifier otherwise.  This is
`lookup_ident`. -/
def ofWord (t : Text) : Kind := (Keyword.kindOf? t).getD ident

/-- The kind of a word, from the keyword that it spells. -/
theorem ofWord_eq_elim (t : Text) : ofWord t = (Keyword.ofText? t).elim ident keyword := by
  rw [ofWord, Keyword.kindOf?_eq]
  cases Keyword.ofText? t <;> rfl

/-- A word is an identifier or a keyword. -/
theorem ofWord_eq (t : Text) : ofWord t = ident ∨ ∃ k, ofWord t = keyword k := by
  rw [ofWord_eq_elim]
  cases Keyword.ofText? t with
  | none => exact Or.inl rfl
  | some k => exact Or.inr ⟨k, rfl⟩

end Kind

end MonkeyTokens
