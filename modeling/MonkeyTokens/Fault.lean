/- # Faults

Scanning itself cannot fail.  What can is reading, writing, the arguments of the program, and a
listing that was asked to be strict.  Each fault is a cause; its wording is in one place.
-/
import MonkeyTokens.Text.Quoted

namespace MonkeyTokens

/-- Why bytes could not be read or written. -/
inductive Cause
  /-- The bytes read are no UTF-8. -/
  | notUtf8
  | noSuchFile
  | notDirectory
  | isDirectory
  | nameTooLong
  /-- A file name holds the character NUL. -/
  | nulInName
  /-- The output takes no more bytes. -/
  | sinkFull
  /-- The output could not be brought to its end. -/
  | flushFailed
  /-- The input broke off. -/
  | sourceBroken
  /-- Any other cause, in the words of the system. -/
  | other (message : Text)
deriving DecidableEq

/-- The wording of a cause. -/
def Cause.message : Cause → Text
  | notUtf8 => "stream did not contain valid UTF-8".toList
  | noSuchFile => "No such file or directory (os error 2)".toList
  | notDirectory => "Not a directory (os error 20)".toList
  | isDirectory => "Is a directory (os error 21)".toList
  | nameTooLong => "File name too long (os error 36)".toList
  | nulInName => "file name contained an unexpected NUL byte".toList
  | sinkFull => "sink full".toList
  | flushFailed => "flush failed".toList
  | sourceBroken => "source broken".toList
  | other m => m

/-- What is wrong with the arguments of the program: the faults that `parse` finds. -/
inductive Misuse
  | unknownCommand (word : Text)
  | unknownOption (word : Text)
  /-- A second path. -/
  | unexpectedArgument (word : Text)
  | missingPath
deriving DecidableEq

/-- The wording of a misuse. -/
def Misuse.message : Misuse → Text
  | unknownCommand w => "unknown command '".toList ++ w ++ "'".toList
  | unknownOption w => "unknown option '".toList ++ w ++ "'".toList
  | unexpectedArgument w => "unexpected argument '".toList ++ w ++ "'".toList
  | missingPath => "missing file path".toList

/-- What makes a command fail: `DriverError`. -/
inductive Fault
  /-- A file could not be read. -/
  | read (path : Text) (cause : Cause)
  /-- The input of a session could not be read. -/
  | input (cause : Cause)
  | write (cause : Cause)
  /-- A strict listing met the stray character `c` at byte `offset`. -/
  | stray (c : Char) (offset : Nat)
  | usage (misuse : Misuse)
deriving DecidableEq

namespace Fault

/-- The wording of a fault. -/
def message : Fault → Text
  | read path cause =>
    "failed to read '".toList ++ path ++ "': ".toList ++ cause.message
  | input cause => "failed to read input: ".toList ++ cause.message
  | write cause => "failed to write output: ".toList ++ cause.message
  | stray c offset =>
    "illegal character ".toList ++ Quoted.char c ++ " at byte ".toList ++ Text.decimal offset
  | usage misuse => misuse.message

/-- The cause behind a fault of reading or writing. -/
def cause? : Fault → Option Cause
  | read _ cause | input cause | write cause => some cause
  | _ => none

/-- The arguments are at fault, so the usage text helps: `is_usage`. -/
def isUsage : Fault → Bool
  | usage _ => true
  | _ => false

end Fault

end MonkeyTokens
