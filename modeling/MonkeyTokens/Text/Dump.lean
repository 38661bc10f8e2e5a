/- # Structural dumps

The written form of a structure for inspection: its name, then its fields by name, between braces.
-/
import MonkeyTokens.Text.Quoted

namespace MonkeyTokens

namespace Dump

/-- A structure by its name and fields: `Name { first: …, second: … }`, with blanks inside the
braces. -/
def struct (name : String) (fields : List (String × Text)) : Text :=
  name.toList ++ " \x7b ".toList
    ++ (", ".toList).intercalate (fields.map fun (f, v) => f.toList ++ ": ".toList ++ v)
    ++ " \x7d".toList

/-- A truth value. -/
def bool (b : Bool) : Text := if b then "true".toList else "false".toList

/-- A character that may be missing. -/
def char? : Option Char → Text
  | none => "None".toList
  | some c => "Some(".toList ++ Quoted.char c ++ ")".toList

end Dump

end MonkeyTokens
