/- # Token streams

A stream hands out the tokens of a text one at a time, from a cursor.  It can be asked in two ways.
`pull` always answers: at the end it gives the end-of-text token again and again.  `next?` and what
is built on it give that token once and then nothing; they remember that by the mark `finished`,
which `pull` neither reads nor sets.
-/
import MonkeyTokens.Cursor
import MonkeyTokens.Lexeme

namespace MonkeyTokens

/-- A place in a text, and whether the tokens asked for by `next?` have ended: `Scanner`. -/
structure Stream where
  cursor : Cursor
  finished : Bool
deriving DecidableEq

/-- The token at a cursor, after blanks, and the cursor past it.  At the end of the text the
cursor stays there. -/
def Cursor.token (c : Cursor) : Token × Cursor :=
  let c := c.skipBlanks
  match c.ahead with
  | [] => (Token.eof c.position, c)
  | d :: r =>
    let l := (Lexeme.leading d r).1
    (l.token c.position, c.skip l.written.length)

namespace Stream

/-- The stream before the first token of a text. -/
def start (source : Text) : Stream := ⟨.start source, false⟩

/-- The byte offset where the search for the next token starts. -/
def position (s : Stream) : Nat := s.cursor.position

/-- The next token; at the end of the text, the end-of-text token every time: `next_token`. -/
def pull (s : Stream) : Token × Stream :=
  let (t, c) := s.cursor.token
  (t, { s with cursor := c })

/-- The next token; nothing once the end-of-text token has been given this way: `next`. -/
def next? (s : Stream) : Option Token × Stream :=
  if s.finished then (none, s)
  else
    let (t, s') := s.pull
    (some t, { s' with finished := t.isEof })

/-- Passes over `n` tokens and gives the one after them; nothing when the tokens end before. -/
def nth? : Nat → Stream → Option Token × Stream
  | 0, s => s.next?
  | n + 1, s =>
    match s.next? with
    | (none, s') => (none, s')
    | (some _, s') => nth? n s'

/-- The next `n` tokens, or all that are left when there are fewer. -/
def take : Nat → Stream → List Token × Stream
  | 0, s => ([], s)
  | n + 1, s =>
    match s.next? with
    | (none, s') => ([], s')
    | (some t, s') =>
      let (ts, s'') := take n s'
      (t :: ts, s'')

/-- All tokens that are left.  Each but the last passes over at least one character, so there are
at most as many as characters ahead, and one. -/
def drain (s : Stream) : List Token × Stream := s.take (s.cursor.ahead.length + 1)

/-- The structural dump. -/
def dump (s : Stream) : Text :=
  Dump.struct "Scanner" [("cursor", s.cursor.dump), ("finished", Dump.bool s.finished)]

end Stream

end MonkeyTokens
