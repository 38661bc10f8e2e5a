/- # Commands

What the program can be asked to do, and how its arguments ask for it.  The first argument names
the command.  Only a listing reads the others: options and one path, in any order.
-/
import MonkeyTokens.Fault

namespace MonkeyTokens

/-- What the program is asked to do: `Command`. -/
inductive Command
  /-- Show the tokens of the sample. -/
  | sample
  /-- List the tokens of a file. -/
  | listing (path : Text) (strict : Bool)
  /-- Answer the lines of the standard input. -/
  | session
  /-- Show the usage text. -/
  | help
deriving DecidableEq

namespace Command

/-- The lines of the usage text. -/
def usageLines : List Text :=
  ["Usage: monkey [command]".toList,
    [],
    "Commands:".toList,
    "  (none)              Lex the built-in sample and print its tokens".toList,
    "  lex <file>          Lex a file and print every token with its span".toList,
    "      --strict        Fail on the first illegal character".toList,
    "  repl                Read lines from stdin and print their tokens".toList,
    "  help                Show this message".toList,
    [],
    "Set RUST_LOG (e.g. RUST_LOG=monkey_lexer=trace) for debug logging.".toList]

/-- The usage text: `USAGE`. -/
def usage : Text := usageLines.flatMap fun l => l ++ ['\n']

/-- The option of a strict listing. -/
def strictOption : Text := "--strict".toList

/-- An argument that is an option, known or not. -/
def isOption (a : Text) : Bool := a.head? = some '-'

/-- The command of a listing from its arguments, when `path?` and `strict` have been read already:
the loop of `parse`.  The first argument that does not fit is the one at fault. -/
def listingOfArgs (path? : Option Text) (strict : Bool) : List Text → Except Misuse Command
  | [] =>
    match path? with
    | some path => .ok (.listing path strict)
    | none => .error .missingPath
  | a :: rest =>
    if a = strictOption then listingOfArgs path? true rest
    else if isOption a then .error (.unknownOption a)
    else if path?.isSome then .error (.unexpectedArgument a)
    else listingOfArgs (some a) strict rest

/-- The command that arguments ask for: `parse`. -/
def ofArgs : List Text → Except Misuse Command
  | [] => .ok .sample
  | a :: rest =>
    if a = "lex".toList then listingOfArgs none false rest
    else if a = "repl".toList then .ok .session
    else if a ∈ ["help".toList, "--help".toList, "-h".toList] then .ok .help
    else .error (.unknownCommand a)

end Command

end MonkeyTokens
