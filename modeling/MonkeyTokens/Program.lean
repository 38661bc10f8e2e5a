/- # The program

The program reads its arguments, runs the command that they ask for, and reports a fault on its
error output, with the usage text when the arguments are at fault.  Its surroundings are the
standard input, the way files are read, and the written form of a log filter.  When there is one,
the remarks about it come first on the error output, and the records that pass it follow in order,
before the report.  What a filter is matters to the log only through the levels and targets that it
lets through (`Command.logWith`).
-/
import MonkeyTokens.Command
import MonkeyTokens.Log.Filter
import MonkeyTokens.Session

namespace MonkeyTokens

/-- What a program finds around it. -/
structure Surroundings where
  /-- The standard input. -/
  input : List UInt8
  /-- The bytes of the file at a path. -/
  read : Text → Except Cause (List UInt8)
  /-- The log filter as it is written; none when nothing is to be logged. -/
  filter? : Option Text

/-- What a program leaves behind. -/
structure Outcome where
  exit : Nat
  output : Text
  errors : Text
deriving DecidableEq

namespace Command

/-- The scope of a command's records; the usage text is shown in none. -/
def scope? : Command → Option Log.Scope
  | sample => some .sample
  | listing path strict => some (.listing path strict)
  | session => some .session
  | help => none

/-- The run of a command: `run`. -/
def run (s : Surroundings) : Command → Run Unit
  | sample => Sample.run
  | listing path strict => (Listing.ofFile path strict (s.read path)).discard
  | session => Session.ofInput s.input .finished
  | help => ⟨[.write usage], .ok ()⟩

/-- The lines of a command's records in a log that lets through what `passes` tells, if there is a
log. -/
def logWith (passes? : Option (Log.Level → Text → Bool)) (c : Command)
    (records : List Log.Record) : Text :=
  match passes?, c.scope? with
  | some passes, some scope => (records.filterMap (Log.line? passes scope)).flatten
  | _, _ => []

/-- The lines of a command's records in the log of a written filter. -/
def log (filter? : Option Text) : Command → List Log.Record → Text :=
  logWith (filter?.map fun t => (Log.Filter.ofText t).passes)

end Command

namespace Fault

/-- The report of a fault: its wording, and for faulty arguments the usage text. -/
def report (fault : Fault) : Text :=
  "error: ".toList ++ fault.message ++ "\n".toList
    ++ if fault.isUsage then "\n".toList ++ Command.usage else []

end Fault

namespace Program

/-- The number that the program exits with. -/
def exit (result : Except Fault Unit) : Nat :=
  match result with
  | .ok _ => 0
  | .error _ => 1

/-- What the program reports at its end. -/
def report (result : Except Fault Unit) : Text :=
  match result with
  | .ok _ => []
  | .error fault => fault.report

/-- The remarks about the log filter. -/
def remarks (filter? : Option Text) : Text := filter?.elim [] Log.Filter.remarks

/-- What the program leaves behind when remarks have been made and its log lets through what
`passes?` tells, if there is a log. -/
def outcomeWith (passes? : Option (Log.Level → Text → Bool)) (remarks : Text) (s : Surroundings)
    (args : List Text) : Outcome :=
  match Command.ofArgs args with
  | .error misuse =>
    let result := .error (.usage misuse)
    ⟨exit result, [], remarks ++ report result⟩
  | .ok command =>
    let run := command.run s
    ⟨exit run.result, run.output,
      remarks ++ command.logWith passes? run.records ++ report run.result⟩

/-- What the program leaves behind: `main`. -/
def outcome (s : Surroundings) (args : List Text) : Outcome :=
  outcomeWith (s.filter?.map fun t => (Log.Filter.ofText t).passes) (remarks s.filter?) s args

end Program

end MonkeyTokens
