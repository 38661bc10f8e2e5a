/- # Tokens

A token is a kind, a text and a span.  Scanned tokens carry their source text, except the two
sentinels: the end of the text carries `eof`, and a stray character carries `Illegal`, while its
span still covers the character.
-/
import MonkeyTokens.Kind
import MonkeyTokens.Span
import MonkeyTokens.Text.Dump

namespace MonkeyTokens

/-- A classified piece of a text: `Token`. -/
structure Token where
  kind : Kind
  text : Text
  span : Span
deriving DecidableEq

namespace Token

/-- The text of the token that ends a stream: `EOF_TEXT`. -/
def eofText : Text := "eof".toList

/-- The text of every token of a stray character: `ILLEGAL_TEXT`. -/
def illegalText : Text := "Illegal".toList

/-- The token of the end of a text, at its length in bytes: `eof`. -/
def eof (offset : Nat) : Token := ⟨.eof, eofText, .point offset⟩

/-- The token ends its stream: `is_eof`. -/
def isEof (t : Token) : Bool := t.kind = .eof

/-- The token stands for a stray character: `is_illegal`. -/
def isIllegal (t : Token) : Bool := t.kind = .illegal

/-- The token moved `n` bytes on. -/
def shift (n : Nat) (t : Token) : Token := { t with span := t.span.shift n }

/-- The one-line form, `{Type:LET Literal:let}`, as `fmt` writes it. -/
def line (t : Token) : Text :=
  "\x7bType:".toList ++ t.kind.name ++ " Literal:".toList ++ t.text ++ "\x7d".toList

/-- The structural dump. -/
def dump (t : Token) : Text :=
  Dump.struct "Token"
    [("kind", t.kind.label), ("text", Quoted.text t.text), ("span", t.span.text)]

end Token

end MonkeyTokens
