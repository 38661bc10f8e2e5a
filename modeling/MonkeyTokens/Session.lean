/- # Sessions

A session reads lines and answers each with its tokens.  It prompts before every line.  A line is
answered up to its first stray character, or to its end; what follows a stray character is left
out.  The session ends well at the end of the input, and fails at a line that is no UTF-8 and where
the input breaks off.

Main statement: `Session.run_append` (a session goes on from line to line: lines that can all be
answered are followed by the session over the rest).
-/
import MonkeyTokens.Listing
import MonkeyTokens.Text.Lines

namespace MonkeyTokens

namespace Session

/-! ## 1. Reading -/

/-- What stands behind the last byte of an input. -/
inductive Ending
  /-- Nothing: the input is complete. -/
  | finished
  /-- A failure to read on. -/
  | broken (cause : Cause)
deriving DecidableEq

/-- The lines that can be read from an input, as `read_line` reads them.  An input that is complete
ends its last line even without a line feed; one that breaks off loses the line that was not
finished. -/
def linesRead (bytes : List UInt8) : Ending → List (List UInt8)
  | .finished => (Lines.cut lineFeed bytes).all
  | .broken _ => (Lines.cut lineFeed bytes).complete

/-! ## 2. Answering -/

/-- What is written before each line is read: `PROMPT`. -/
def prompt : Text := "... ".toList

/-- The prompt is written and shown at once. -/
def ask : List Event := [.write prompt, .flush]

/-- The tokens of the lexemes at hand, up to the first stray character, or to the end of the line
at byte `stop`. -/
def answerFrom (stop : Nat) : List Spot → List Event
  | [] => showEof stop
  | s :: r =>
    match s.stray? with
    | some _ => s.show ++ [.log (.abandoned s.start)]
    | none => s.show ++ answerFrom stop r

/-- The answer to a line. -/
def answer (line : Text) : List Event := answerFrom line.extent (spots line)

/-- The answer to a line as it was read; there is none when it is no UTF-8. -/
def answerBytes (bytes : List UInt8) : Except Fault (List Event) :=
  match Text.ofBytes? bytes with
  | some line => .ok (answer line)
  | none => .error (.input .notUtf8)

/-- What a session does when no line is left. -/
def close : Ending → Run Unit
  | .finished => ⟨[.write "\n".toList], .ok ()⟩
  | .broken cause => ⟨[], .error (.input cause)⟩

/-! ## 3. The session -/

/-- The session over a list of lines, with what stands behind them. -/
def run (ending : Ending) : List (List UInt8) → Run Unit
  | [] => (close ending).after ask
  | l :: ls =>
    match answerBytes l with
    | .ok es => (run ending ls).after (ask ++ es)
    | .error fault => ⟨ask, .error fault⟩

/-- The session over an input: `run_repl`. -/
def ofInput (bytes : List UInt8) (ending : Ending) : Run Unit :=
  run ending (linesRead bytes ending)

/-- **A session goes on from line to line**: lines that are texts are answered in order, and the
session over the rest follows. -/
theorem run_append (ending : Ending) (ts : List Text) (ls : List (List UInt8)) :
    run ending (ts.map Text.bytes ++ ls) =
      (run ending ls).after (ts.flatMap fun t => ask ++ answer t) := by
  induction ts with
  | nil => rfl
  | cons t ts ih =>
    rw [List.map_cons, List.cons_append, List.flatMap_cons]
    simp only [run, answerBytes, Text.ofBytes?_bytes, ih, Run.after, List.append_assoc]

end Session

end MonkeyTokens
