/- # Listings

A listing shows every token of a source on a line of its own: name, quoted text and span.  A
strict listing shows nothing when the source holds a stray character, and fails with the first one.
The sample is a fixed source whose tokens are shown in their one-line form.
-/
import MonkeyTokens.Run

namespace MonkeyTokens

/-- How a stray token is reported by one who has the source and the token only: with the first
character that its span covers, or with the replacement character if the span covers none.  This is
`illegal_character`. -/
def Token.complaint (source : Text) (t : Token) : Fault :=
  .stray (((t.span.slice? source).bind List.head?).getD '\uFFFD') t.span.start

namespace Listing

/-- The line that shows a token. -/
def line (t : Token) : Text :=
  "  ".toList ++ t.kind.name ++ " ".toList ++ Quoted.text t.text ++ " @ ".toList ++ t.span.text
    ++ "\n".toList

/-- The listing of a source: `lex_source`.  It ends with the number of tokens shown. -/
def ofSource (strict : Bool) (source : Text) : Run Nat :=
  let tokens := tokenize source
  let noted := scanRecords source ++ [Log.Record.scanned tokens.length source.extent]
  match if strict then tokens.find? Token.isIllegal else none with
  | some t => ⟨noted.map .log, .error (t.complaint source)⟩
  | none => ⟨noted.map .log ++ tokens.map fun t => .write (line t), .ok tokens.length⟩

/-- The line above the listing of a file. -/
def heading (path : Text) : Text := "Tokens for '".toList ++ path ++ "':\n".toList

/-- The listing of a file, from what reading it has given: `lex_file`. -/
def ofFile (path : Text) (strict : Bool) (content : Except Cause (List UInt8)) : Run Nat :=
  match content with
  | .error cause => ⟨[], .error (.read path cause)⟩
  | .ok bytes =>
    match Text.ofBytes? bytes with
    | none => ⟨[], .error (.read path .notUtf8)⟩
    | some source => (ofSource strict source).after [.write (heading path)]

end Listing

/-! ## Tokens in their one-line form -/

/-- A token is shown in its one-line form. -/
def Token.show (t : Token) : Event := .write (t.line ++ "\n".toList)

/-- A lexeme is noted down and its token shown. -/
def Spot.show (s : Spot) : List Event := s.records.map Event.log ++ [s.token.show]

/-- The end of a text is noted down and shown. -/
def showEof (offset : Nat) : List Event :=
  [.log (.token (.eof offset)), (Token.eof offset).show]

namespace Sample

/-- The source that is shown when nothing else is asked for: `SAMPLE`. -/
def source : Text := "let x = 5 + 10;".toList

/-- The tokens of the sample: `run_sample`. -/
def run : Run Unit :=
  ⟨(spots source).flatMap Spot.show ++ showEof source.extent, .ok ()⟩

end Sample

end MonkeyTokens
