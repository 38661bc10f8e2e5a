/- # Log records

What the program can note down while it works: every token that scanning makes, every stray
character, the end of a listing's scan, and a session's line that was given up.  A record is noted
within the scope of a command, and both have a level and a target.  A log has a line for each record
that is let through by these two.
-/
import MonkeyTokens.Layout

namespace MonkeyTokens

namespace Log

/-- How much a record matters, from the gravest; the program notes with `debug` and `trace`. -/
inductive Level
  | error | warn | info | debug | trace
deriving DecidableEq

namespace Level

/-- The place of a level; a higher one is more verbose. -/
def rank : Level → Nat
  | error => 0
  | warn => 1
  | info => 2
  | debug => 3
  | trace => 4

/-- The name that a line of the log starts with. -/
def name : Level → Text
  | error => "ERROR".toList
  | warn => "WARN".toList
  | info => "INFO".toList
  | debug => "DEBUG".toList
  | trace => "TRACE".toList

end Level

/-- What is noted down. -/
inductive Record
  /-- Scanning made a token. -/
  | token (t : Token)
  /-- Scanning met the stray character `c` at byte `offset`. -/
  | stray (c : Char) (offset : Nat)
  /-- The whole source of a listing, of so many bytes, made so many tokens. -/
  | scanned (count bytes : Nat)
  /-- A session leaves the rest of a line after a stray character at byte `offset` of it. -/
  | abandoned (offset : Nat)
deriving DecidableEq

namespace Record

/-- Tokens are noted at the most verbose level, all else one below it. -/
def level : Record → Level
  | token _ => .trace
  | _ => .debug

/-- The part of the program that the record is about. -/
def target : Record → Text
  | token _ | stray _ _ => "monkey_lexer::scanner".toList
  | scanned _ _ => "monkeyc::commands::lex".toList
  | abandoned _ => "monkeyc::commands::repl".toList

/-- The wording of a record. -/
def message : Record → Text
  | token t =>
    "token kind=".toList ++ t.kind.name ++ " text=".toList ++ Quoted.text t.text
      ++ " range=".toList ++ t.span.text
  | stray c offset =>
    "illegal character ch=".toList ++ Quoted.char c ++ " offset=".toList ++ Text.decimal offset
  | scanned count bytes =>
    "lexed source count=".toList ++ Text.decimal count ++ " bytes=".toList ++ Text.decimal bytes
  | abandoned offset =>
    "line abandoned at illegal character offset=".toList ++ Text.decimal offset

end Record

/-- The command within which records are noted: `run_sample`, `run_repl` or `lex_file`. -/
inductive Scope
  | sample
  | session
  | listing (path : Text) (strict : Bool)
deriving DecidableEq

namespace Scope

/-- Every scope has this level. -/
def level : Level := .debug

/-- The part of the program that the scope is about. -/
def target : Scope → Text
  | sample => "monkeyc::commands::sample".toList
  | session => "monkeyc::commands::repl".toList
  | listing _ _ => "monkeyc::commands::lex".toList

/-- The wording of a scope. -/
def message : Scope → Text
  | sample => "run_sample".toList
  | session => "run_repl".toList
  | listing path strict =>
    "lex_file\x7bpath=".toList ++ Quoted.text path ++ " options=".toList
      ++ Dump.struct "LexOptions" [("strict", Dump.bool strict)] ++ "\x7d".toList

end Scope

/-- The line that a record noted in a scope leaves, when `passes` lets its level and target through.
The scope shows when it passes itself. -/
def line? (passes : Level → Text → Bool) (scope : Scope) (r : Record) : Option Text :=
  if passes r.level r.target then
    some (r.level.name ++ " ".toList
      ++ (if passes Scope.level scope.target then scope.message ++ ": ".toList else [])
      ++ r.target ++ ": ".toList ++ r.message ++ "\n".toList)
  else none

end Log

/-! ## What scanning notes down -/

/-- The stray character that a lexeme is. -/
def Spot.stray? (s : Spot) : Option Char :=
  match s.lexeme with
  | .stray c => some c
  | _ => none

/-- The records of a lexeme: its token, and before it a stray character. -/
def Spot.records (s : Spot) : List Log.Record :=
  match s.stray? with
  | some c => [.stray c s.start, .token s.token]
  | none => [.token s.token]

/-- The records of a whole text, to its end. -/
def scanRecords (source : Text) : List Log.Record :=
  (spots source).flatMap Spot.records ++ [.token (.eof source.extent)]

end MonkeyTokens
