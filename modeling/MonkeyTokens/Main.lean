/- # The command line

The outer layer: it takes arguments, files, standard input and the log filter from the system, and
carries out what the library decides, event by event.  A session is carried out line by line, so
that each prompt stands before its line is typed.
-/
import MonkeyTokens.Program

namespace MonkeyTokens

namespace Terminal

/-- Why the system refused an action. -/
def causeOf : IO.Error → Cause
  | .noFileOrDirectory .. => .noSuchFile
  | .inappropriateType _ _ "not a directory" => .notDirectory
  | .inappropriateType _ _ "Is a directory" => .isDirectory
  | .invalidArgument _ _ "name too long" => .nameTooLong
  | e => .other (toString e).toList

/-- An action of the system, whose refusal is a fault. -/
def attempt {α : Type} (fault : Cause → Fault) (action : IO α) : ExceptT Fault IO α :=
  ExceptT.mk do
    try
      return .ok (← action)
    catch e =>
      return .error (fault (causeOf e))

/-- One event, on the standard output or in the log. -/
def perform (log : Log.Record → Text) : Event → ExceptT Fault IO Unit
  | .write t => attempt .write do (← IO.getStdout).putStr (String.ofList t)
  | .flush => attempt .write do (← IO.getStdout).flush
  | .log r => do (← IO.getStderr).putStr (String.ofList (log r))

/-- A run, to its end. -/
def carryOut (log : Log.Record → Text) (run : Run Unit) : ExceptT Fault IO Unit := do
  run.events.forM (perform log)
  ExceptT.mk (pure run.result)

/-- Bytes up to a line feed, or to the end of the input. -/
partial def readLine (input : IO.FS.Stream) (line : List UInt8) : IO (List UInt8) := do
  match (← input.read 1).toList with
  | [] => return line.reverse
  | b :: _ => if b = lineFeed then return (b :: line).reverse else readLine input (b :: line)

/-- A session on the standard input. -/
partial def converse (log : Log.Record → Text) : ExceptT Fault IO Unit := do
  Session.ask.forM (perform log)
  let line ← attempt .input do readLine (← IO.getStdin) []
  if line.isEmpty then
    carryOut log (Session.close .finished)
  else
    let events ← ExceptT.mk (pure (Session.answerBytes line))
    events.forM (perform log)
    converse log

/-- A command, from its surroundings in the system. -/
def serve (log : Log.Record → Text) (command : Command) : ExceptT Fault IO Unit := do
  match command with
  | .session => converse log
  | .listing path _ =>
    let content ← ExceptT.lift do
      try
        return .ok (← IO.FS.readBinFile (String.ofList path)).toList
      catch e =>
        return .error (causeOf e)
    carryOut log (command.run ⟨[], fun _ => content, none⟩)
  | _ => carryOut log (command.run ⟨[], fun _ => .error .noSuchFile, none⟩)
  attempt .write do (← IO.getStdout).flush

/-- The whole program; its result is the number that it exits with. -/
def run (args : List Text) : IO Nat := do
  let filter? := (← IO.getEnv "RUST_LOG").map String.toList
  (← IO.getStderr).putStr (String.ofList (Program.remarks filter?))
  let result ← match Command.ofArgs args with
    | .error misuse => pure (.error (.usage misuse))
    | .ok command => (serve (fun r => command.log filter? [r]) command).run
  (← IO.getStderr).putStr (String.ofList (Program.report result))
  return Program.exit result

end Terminal

end MonkeyTokens

def main (args : List String) : IO UInt32 := do
  return (← MonkeyTokens.Terminal.run (args.map String.toList)).toUInt32
