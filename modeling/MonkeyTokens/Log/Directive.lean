/- # Log directives

A directive says how verbose the records of a target may be.  Its written form is a limit alone, a
target alone, or both around an equals sign; a limit is a word in any case, or a number from 0
to 5.  A piece of text that is no directive has one of two flaws: it does not start as a target
does, or what stands for its limit is none.

Main statement: `Log.Directive.ofText_assigned` (a target, an equals sign and a limit are the
directive of both).
-/
import MonkeyTokens.Log.Record
import MonkeyTokens.Text.Alphanumeric
import MonkeyTokens.Text.Space

namespace MonkeyTokens

namespace Log

/-! ## 1. Limits -/

/-- The limit of a number: nothing passes at 0, and everything at 5. -/
def limitOfNumber? : Nat → Option (Option Level)
  | 0 => some none
  | 1 => some (some .error)
  | 2 => some (some .warn)
  | 3 => some (some .info)
  | 4 => some (some .debug)
  | 5 => some (some .trace)
  | _ => none

/-- The limit of a word, in any case. -/
def limitOfWord? (t : Text) : Option (Option Level) :=
  match String.ofList (t.map Char.toLower) with
  | "off" => some none
  | "error" => some (some .error)
  | "warn" => some (some .warn)
  | "info" => some (some .info)
  | "debug" => some (some .debug)
  | "trace" => some (some .trace)
  | _ => none

/-- The limit that a text writes, by its number or its word. -/
def limitOfText? (t : Text) : Option (Option Level) :=
  match Text.number? t with
  | some n => limitOfNumber? n
  | none => limitOfWord? t

/-! ## 2. Directives -/

/-- How far records of a target may go. -/
structure Directive where
  /-- What the target of a record has to start with. -/
  target : Text
  /-- The most verbose level that passes; none when nothing does. -/
  limit : Option Level
deriving DecidableEq

/-- Why a piece of text is no directive. -/
inductive Flaw
  /-- It does not start as a target does. -/
  | form
  /-- What stands for its limit is none. -/
  | limit
deriving DecidableEq

/-- The wording of a flaw. -/
def Flaw.message : Flaw → Text
  | form => "invalid filter directive".toList
  | limit =>
    ("error parsing level filter: expected one of \"off\", \"error\", \"warn\", \"info\", ".toList
      ++ "\"debug\", \"trace\", or a number 0-5".toList)

namespace Directive

/-- A character that a target starts with: a letter or digit, an underscore, a hyphen or a
colon. -/
def isInitial (c : Char) : Bool := c = '-' || c = ':' || c = '_' || isAlphanumeric c

/-- A directive without an equals sign: a limit for all targets, or else a target that everything
passes for. -/
def ofName (t : Text) : Directive :=
  match limitOfText? t with
  | some l => ⟨[], l⟩
  | none => ⟨t, some .trace⟩

/-- A directive by what stands before its equals sign and after it.  A target whose limit is left
out lets everything pass. -/
def assigned (target limit : Text) : Except Flaw Directive :=
  if limit = [] then .ok ⟨target, some .trace⟩
  else
    match limitOfText? limit with
    | some l => .ok ⟨target, l⟩
    | none => .error .limit

/-- The directive that a text writes.  Space in front of it is passed over to see how it starts;
it then belongs to the target of a directive without an equals sign, and spoils the limit of one
with it.  Before the equals sign there is no bracket. -/
def ofText (t : Text) : Except Flaw Directive :=
  if (t.dropWhile isSpace).head?.all fun c => !isInitial c then .error .form
  else if '[' ∈ t.takeWhile (· ≠ '=') then .error .form
  else
    match t.dropWhile (· ≠ '=') with
    | [] => .ok (ofName t)
    | _ :: limit =>
      if t.head?.any isSpace then .error .limit
      else assigned (t.takeWhile (· ≠ '=')) limit

/-- A target that starts as targets do and holds no bracket and no equals sign, then that sign and
a text, are the directive of both. -/
theorem ofText_assigned {c : Char} {target limit : Text} (hc : isInitial c = true)
    (hs : isSpace c = false) (hb : '[' ∉ c :: target) (he : '=' ∉ c :: target) :
    ofText ((c :: target) ++ '=' :: limit) = assigned (c :: target) limit := by
  have ht : ∀ d ∈ c :: target, decide (d ≠ '=') = true := fun d hd =>
    decide_eq_true fun h => he (h ▸ hd)
  have htake : ((c :: target) ++ '=' :: limit).takeWhile (· ≠ '=') = c :: target := by
    rw [List.takeWhile_append_of_pos ht]
    simp
  have hdrop : ((c :: target) ++ '=' :: limit).dropWhile (· ≠ '=') = '=' :: limit := by
    rw [List.dropWhile_append_of_pos ht]
    simp
  unfold ofText
  rw [htake, hdrop, if_neg (by simp [hs, hc]), if_neg hb]
  simp [hs]

end Directive

end Log

end MonkeyTokens
