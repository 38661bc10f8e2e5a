/- # How the program ends

Without a log the program either does what it was asked for, says nothing on its error output and
exits with 0, or it meets one fault, reports it there and exits with 1.  This file lists both: what
can be the fault, when it is, and what has been written until then (`Program.Fails`), and what is
written otherwise (`Program.Succeeds`).

Commands are told by the arguments that ask for them (`Command.Asks`), and faults by their wording.

* `Program.outcome_of_ok`: without a log the outcome is what the run of the command tells.
* `Program.Fails.message_eq`: the wording of a fault.
* `Program.succeeds_or_fails`: there is no third way.
* `Program.exists_fails_iff`: the faults, by what the program finds around it.

Main statement: `Program.outcome_unlogged`.
-/
import MonkeyTokens.Program
import MonkeyTokens.Proofs.Arguments
import MonkeyTokens.Proofs.Validity

namespace MonkeyTokens

/-- The surroundings without a log filter. -/
def Surroundings.unlogged (s : Surroundings) : Surroundings := { s with filter? := none }

/-- How a misuse is worded. -/
inductive Misuse.Worded : Misuse → Text → Prop
  | unknownCommand (w : Text) :
      Worded (.unknownCommand w) ("unknown command '".toList ++ w ++ "'".toList)
  | unknownOption (w : Text) :
      Worded (.unknownOption w) ("unknown option '".toList ++ w ++ "'".toList)
  | unexpectedArgument (w : Text) :
      Worded (.unexpectedArgument w) ("unexpected argument '".toList ++ w ++ "'".toList)
  | missingPath : Worded .missingPath "missing file path".toList

theorem Misuse.worded_iff {misuse : Misuse} {wording : Text} :
    misuse.Worded wording ↔ misuse.message = wording := by
  constructor
  · intro h
    cases h <;> rfl
  · rintro rfl
    cases misuse <;> constructor

namespace Program

/-! ## 1. The two ways to end -/

/-- What the program writes when it succeeds. -/
inductive Succeeds (s : Surroundings) (args : List Text) : Text → Prop
  /-- The tokens of the sample are shown. -/
  | sample (h : Command.Asks args .sample) :
      Succeeds s args ((tokenize "let x = 5 + 10;".toList).flatMap Token.entry)
  | help (h : Command.Asks args .help) : Succeeds s args Command.usage
  /-- The file is a text, and when the listing is strict it has no stray character.  Its listing is
  written below the heading. -/
  | listing {path source : Text} {strict : Bool}
      (h : Command.Asks args (.listing path strict))
      (hread : s.read path = .ok source.bytes)
      (hstrict : strict = true → ∀ c ∈ source, InAlphabet c) :
      Succeeds s args ("Tokens for '".toList ++ path ++ "':\n".toList ++
        (Listing.ofSource strict source).output)
  /-- The input is a text.  Its lines are answered. -/
  | session {x : Text} (h : Command.Asks args .session) (hinput : s.input = x.bytes) :
      Succeeds s args
        ((Lines.cut '\n' x).all.flatMap Session.exchange ++ ("... ".toList ++ "\n".toList))

/-- The fault that makes the program fail, its wording, and what the program has written until
then. -/
inductive Fails (s : Surroundings) (args : List Text) : Fault → Text → Text → Prop
  | usage {misuse : Misuse} {wording : Text} (h : Command.ofArgs args = .error misuse)
      (hwording : misuse.Worded wording) : Fails s args (.usage misuse) wording []
  /-- The file cannot be read. -/
  | unread {path : Text} {strict : Bool} {cause : Cause}
      (h : Command.Asks args (.listing path strict))
      (hread : s.read path = .error cause) :
      Fails s args (.read path cause)
        ("failed to read '".toList ++ path ++ "': ".toList ++ cause.message) []
  /-- The file is no text. -/
  | undecoded {path : Text} {strict : Bool} {bytes : List UInt8}
      (h : Command.Asks args (.listing path strict))
      (hread : s.read path = .ok bytes) (hbytes : ¬ IsUtf8 bytes) :
      Fails s args (.read path .notUtf8)
        ("failed to read '".toList ++ path ++ "': ".toList ++
          "stream did not contain valid UTF-8".toList) []
  /-- A strict listing of a file whose first character that is not in the alphabet is `c`.  Only the
  heading has been written. -/
  | stray {path a b w : Text} {c : Char} (h : Command.Asks args (.listing path true))
      (hread : s.read path = .ok (Text.bytes (a ++ c :: b)))
      (ha : ∀ d ∈ a, InAlphabet d) (hc : ¬ InAlphabet c) (hw : Quoted.Written c w) :
      Fails s args (.stray c a.extent)
        ("illegal character '".toList ++ w ++ "' at byte ".toList ++ Nat.toDigits 10 a.extent)
        ("Tokens for '".toList ++ path ++ "':\n".toList)
  /-- A line of the input is no text.  The lines before it have been answered, and the prompt for it
  has been written. -/
  | session {texts : List Text} {bad : List UInt8} {after : List (List UInt8)}
      (h : Command.Asks args .session)
      (hlines : (Lines.cut lineFeed s.input).all = texts.map Text.bytes ++ bad :: after)
      (hbad : ¬ IsUtf8 bad) :
      Fails s args (.input .notUtf8)
        ("failed to read input: ".toList ++ "stream did not contain valid UTF-8".toList)
        (texts.flatMap Session.exchange ++ "... ".toList)

/-- **The wording of a fault** that the program meets. -/
theorem Fails.message_eq {s : Surroundings} {args : List Text} {fault : Fault} {wording out : Text}
    (h : Fails s args fault wording out) : fault.message = wording := by
  cases h with
  | usage h hwording => exact Misuse.worded_iff.1 hwording
  | unread h hread => rfl
  | undecoded h hread hbytes => rfl
  | stray h hread ha hc hw => exact congrArg (· ++ _) (Quoted.append_char hw _ _)
  | session h hlines hbad => rfl

/-! ## 2. What the run of a command tells -/

/-- Faulty arguments are all that matters. -/
theorem outcome_of_error {args : List Text} {misuse : Misuse}
    (h : Command.ofArgs args = .error misuse) (s : Surroundings) :
    outcome s.unlogged args = ⟨1, [], (Fault.usage misuse).report⟩ := by
  rw [outcome, outcomeWith, h]
  rfl

/-- **Without a log** the outcome of a command is what its run tells. -/
theorem outcome_of_ok {args : List Text} {command : Command} (h : Command.Asks args command)
    (s : Surroundings) :
    outcome s.unlogged args =
      ⟨exit (command.run s).result, (command.run s).output, report (command.run s).result⟩ := by
  have hrun : command.run s.unlogged = command.run s := by cases command <;> rfl
  rw [outcome, outcomeWith, Command.ofArgs_eq_ok_iff.2 h, ← hrun]
  rfl

/-- A run that ends with nothing wrong. -/
theorem outcome_of_run_ok {args : List Text} {command : Command} {s : Surroundings} {out : Text}
    (h : Command.Asks args command) (hout : (command.run s).output = out)
    (hresult : (command.run s).result = .ok ()) :
    outcome s.unlogged args = ⟨0, out, []⟩ := by
  rw [outcome_of_ok h, hout, hresult]
  rfl

/-- A run that ends with a fault. -/
theorem outcome_of_run_error {args : List Text} {command : Command} {s : Surroundings} {out : Text}
    {fault : Fault} (h : Command.Asks args command) (hout : (command.run s).output = out)
    (hresult : (command.run s).result = .error fault) :
    outcome s.unlogged args = ⟨1, out, fault.report⟩ := by
  rw [outcome_of_ok h, hout, hresult]
  rfl

/-- The run of a listing of a text. -/
theorem run_listing {s : Surroundings} {path source : Text} (hread : s.read path = .ok source.bytes)
    (strict : Bool) :
    ((Command.listing path strict).run s).output =
        Listing.heading path ++ (Listing.ofSource strict source).output ∧
      ((Command.listing path strict).run s).result =
        (Listing.ofSource strict source).result.map fun _ => () := by
  have hrun : (Command.listing path strict).run s =
      ((Listing.ofSource strict source).after [.write (Listing.heading path)]).discard := by
    rw [Command.run, hread, Listing.ofFile, Text.ofBytes?_bytes]
  rw [hrun]
  refine ⟨?_, rfl⟩
  have hout := (Listing.ofSource strict source).output_after [.write (Listing.heading path)]
  rwa [List.flatMap_singleton] at hout

/-- A listing that meets no stray character, or may meet some, succeeds. -/
theorem result_ofSource {strict : Bool} {source : Text}
    (h : strict = true → ∀ c ∈ source, InAlphabet c) :
    ∃ count, (Listing.ofSource strict source).result = .ok count := by
  cases strict with
  | false => exact ⟨_, rfl⟩
  | true =>
    have hnot : ∀ c ∈ source, isStray c = false := fun c hc => isStray_eq_false_iff.2 (h rfl c hc)
    rw [Listing.ofSource_of_forall hnot]
    exact ⟨_, rfl⟩

/-- A strict listing that meets one writes nothing and fails with the first. -/
theorem ofSource_of_split {a b : Text} {c : Char} (ha : ∀ d ∈ a, InAlphabet d)
    (hc : ¬ InAlphabet c) :
    (Listing.ofSource true (a ++ c :: b)).output = [] ∧
      (Listing.ofSource true (a ++ c :: b)).result = .error (.stray c a.extent) := by
  have hbefore : ∀ d ∈ a, isStray d = false := fun d hd => isStray_eq_false_iff.2 (ha d hd)
  obtain ⟨t, hfind, hslice, hstart⟩ :=
    find?_isIllegal_of_split (b := b) rfl hbefore (isStray_eq_true_iff.2 hc)
  have hcomplaint := Token.complaint_of_slice hslice
  simp [Listing.ofSource, hfind, hcomplaint, hstart, Run.output, Event.written]

/-! ## 3. No third way -/

/-- **What is written on success**, and the program exits with 0. -/
theorem Succeeds.outcome_eq {s : Surroundings} {args : List Text} {out : Text}
    (h : Succeeds s args out) : outcome s.unlogged args = ⟨0, out, []⟩ := by
  cases h with
  | sample h => exact outcome_of_run_ok h Sample.output_run rfl
  | help h =>
    refine outcome_of_run_ok h ?_ rfl
    simp [Command.run, Run.output, Event.written]
  | @listing path source strict h hread hstrict =>
    obtain ⟨hout, hresult⟩ := run_listing hread strict
    obtain ⟨count, hcount⟩ := result_ofSource hstrict
    refine outcome_of_run_ok h hout ?_
    rw [hresult, hcount]
    rfl
  | @session x h hinput =>
    obtain ⟨hout, hresult⟩ := Session.output_ofInput_bytes x .finished
    rw [← hinput] at hout hresult
    exact outcome_of_run_ok h hout hresult

/-- **What is written before a fault**, and the program reports it and exits with 1. -/
theorem Fails.outcome_eq {s : Surroundings} {args : List Text} {fault : Fault} {wording out : Text}
    (h : Fails s args fault wording out) : outcome s.unlogged args = ⟨1, out, fault.report⟩ := by
  cases h with
  | usage h hwording => exact outcome_of_error h s
  | @unread path strict cause h hread =>
    have hrun : (Command.listing path strict).run s = ⟨[], .error (.read path cause)⟩ := by
      rw [Command.run, hread]
      rfl
    exact outcome_of_run_error h (congrArg Run.output hrun) (congrArg Run.result hrun)
  | @undecoded path strict bytes h hread hbytes =>
    have hrun : (Command.listing path strict).run s = ⟨[], .error (.read path .notUtf8)⟩ := by
      rw [Command.run, hread, Listing.ofFile_of_not_isUtf8 hbytes]
      rfl
    exact outcome_of_run_error h (congrArg Run.output hrun) (congrArg Run.result hrun)
  | @stray path a b w c h hread ha hc hw =>
    obtain ⟨hout, hresult⟩ := run_listing hread true
    obtain ⟨hnothing, hfault⟩ := ofSource_of_split (b := b) ha hc
    rw [hnothing, List.append_nil] at hout
    rw [hfault] at hresult
    exact outcome_of_run_error h hout hresult
  | @session texts bad after h hlines hbad =>
    have hleft : ∀ b ∈ (bad :: after).head?, ∀ t, Text.bytes t ≠ b := by
      intro b hb t ht
      obtain rfl := Option.some.inj hb
      exact hbad ⟨t, ht⟩
    obtain ⟨hout, hresult⟩ := @Session.output_run .finished _ _ hleft
    rw [← hlines] at hout hresult
    refine outcome_of_run_error h (hout.trans ?_) hresult
    rw [Session.parting, List.append_nil, Session.prompt]

/-- A strict listing fails when there is a stray character, for then there is a first one. -/
theorem exists_fails_of_stray {s : Surroundings} {args : List Text} {path source : Text}
    (h : Command.Asks args (.listing path true)) (hread : s.read path = .ok source.bytes)
    (hstray : ∃ c ∈ source, ¬ InAlphabet c) :
    ∃ fault wording out, Fails s args fault wording out := by
  rcases Text.forall_or_exists_stray source with hall | ⟨a, c, b, rfl, ha, hc⟩
  · obtain ⟨c, hmem, hc⟩ := hstray
    exact absurd (isStray_eq_false_iff.1 (hall c hmem)) hc
  · have hbefore : ∀ d ∈ a, InAlphabet d := fun d hd => isStray_eq_false_iff.1 (ha d hd)
    exact ⟨_, _, _, .stray h hread hbefore (isStray_eq_true_iff.1 hc) (Quoted.written_iff.2 rfl)⟩

/-- A session fails when its input is no text, for then there is a first line that is none. -/
theorem exists_fails_of_input {s : Surroundings} {args : List Text}
    (h : Command.Asks args .session) (hinput : ¬ IsUtf8 s.input) :
    ∃ fault wording out, Fails s args fault wording out := by
  obtain ⟨texts, bad, after, hlines, hbad, -⟩ := Session.exists_deliver_of_not_isUtf8 hinput
  exact ⟨_, _, _, .session h hlines hbad⟩

/-- **The program succeeds or meets one fault.** -/
theorem succeeds_or_fails (s : Surroundings) (args : List Text) :
    (∃ out, Succeeds s args out) ∨ ∃ fault wording out, Fails s args fault wording out := by
  cases hargs : Command.ofArgs args with
  | error misuse => exact Or.inr ⟨_, _, _, .usage hargs (Misuse.worded_iff.2 rfl)⟩
  | ok command =>
    have hasks : Command.Asks args command := Command.ofArgs_eq_ok_iff.1 hargs
    cases command with
    | sample => exact Or.inl ⟨_, .sample hasks⟩
    | help => exact Or.inl ⟨_, .help hasks⟩
    | session =>
      by_cases hinput : IsUtf8 s.input
      · obtain ⟨x, hx⟩ := hinput
        exact Or.inl ⟨_, .session hasks hx.symm⟩
      · exact Or.inr (exists_fails_of_input hasks hinput)
    | listing path strict =>
      cases hread : s.read path with
      | error cause => exact Or.inr ⟨_, _, _, .unread hasks hread⟩
      | ok bytes =>
        by_cases hbytes : IsUtf8 bytes
        · obtain ⟨source, rfl⟩ := hbytes
          by_cases hstrict : strict = true → ∀ c ∈ source, InAlphabet c
          · exact Or.inl ⟨_, .listing hasks hread hstrict⟩
          · obtain ⟨rfl, hstray⟩ := Classical.not_imp.1 hstrict
            refine Or.inr (exists_fails_of_stray hasks hread ?_)
            simpa using hstray
        · exact Or.inr ⟨_, _, _, .undecoded hasks hread hbytes⟩

/-- The arguments ask for no command when they are at fault. -/
theorem exists_misuse_iff {args : List Text} :
    (∃ misuse, Command.ofArgs args = .error misuse) ↔ ∀ command, ¬ Command.Asks args command := by
  simp only [← Command.ofArgs_eq_ok_iff]
  cases Command.ofArgs args with
  | error misuse => simp
  | ok command => simp

/-- **When the program meets a fault.** -/
theorem exists_fails_iff {s : Surroundings} {args : List Text} :
    (∃ fault wording out, Fails s args fault wording out) ↔
      (∀ command, ¬ Command.Asks args command) ∨
      (∃ path strict, Command.Asks args (.listing path strict) ∧
        ((∃ cause, s.read path = .error cause) ∨
          ∃ bytes, s.read path = .ok bytes ∧ (¬ IsUtf8 bytes ∨
            strict = true ∧ ∃ source, Text.bytes source = bytes ∧
              ∃ c ∈ source, ¬ InAlphabet c))) ∨
      (Command.Asks args .session ∧ ¬ IsUtf8 s.input) := by
  rw [← exists_misuse_iff]
  constructor
  · rintro ⟨fault, wording, out, h⟩
    cases h with
    | usage h hwording => exact Or.inl ⟨_, h⟩
    | unread h hread => exact Or.inr (Or.inl ⟨_, _, h, Or.inl ⟨_, hread⟩⟩)
    | undecoded h hread hbytes =>
      exact Or.inr (Or.inl ⟨_, _, h, Or.inr ⟨_, hread, Or.inl hbytes⟩⟩)
    | @stray path a b w c h hread ha hc hw =>
      refine Or.inr (Or.inl ⟨_, _, h, Or.inr ⟨_, hread, Or.inr ⟨rfl, _, rfl, c, ?_, hc⟩⟩⟩)
      exact List.mem_append_right a List.mem_cons_self
    | @session texts bad after h hlines hbad =>
      refine Or.inr (Or.inr ⟨h, fun hutf => hbad ?_⟩)
      refine isUtf8_iff_forall_lines.1 hutf bad ?_
      rw [hlines]
      exact List.mem_append_right _ List.mem_cons_self
  · rintro (⟨misuse, h⟩ | ⟨path, strict, h, hfile⟩ | ⟨h, hinput⟩)
    · exact ⟨_, _, _, .usage h (Misuse.worded_iff.2 rfl)⟩
    · rcases hfile with ⟨cause, hread⟩ | ⟨bytes, hread, hbytes | ⟨rfl, source, rfl, hstray⟩⟩
      · exact ⟨_, _, _, .unread h hread⟩
      · exact ⟨_, _, _, .undecoded h hread hbytes⟩
      · exact exists_fails_of_stray h hread hstray
    · exact exists_fails_of_input h hinput

/-- **The report of a fault**: the usage text stands below its wording when the arguments are at
fault, and only then. -/
theorem report_cases {fault : Fault} {wording : Text} (h : fault.message = wording) :
    ((∃ misuse, fault = .usage misuse) ∧
        fault.report = "error: ".toList ++ wording ++ "\n\n".toList ++ Command.usage) ∨
      ((∀ misuse, fault ≠ .usage misuse) ∧
        fault.report = "error: ".toList ++ wording ++ "\n".toList) := by
  subst h
  cases fault with
  | usage misuse =>
    refine Or.inl ⟨⟨misuse, rfl⟩, ?_⟩
    have hempty : "\n\n".toList = "\n".toList ++ "\n".toList := by decide
    rw [hempty, ← List.append_assoc, List.append_assoc _ _ Command.usage]
    rfl
  | _ => exact Or.inr ⟨nofun, List.append_nil _⟩

/-- **How the program ends without a log.**  Either it exits with 0 and reports nothing, or it exits
with 1 and reports one fault: `error:`, the wording of the fault, and a line feed, and exactly when
the arguments are at fault an empty line and the usage text.

It exits with 1 exactly if the arguments ask for no command, or a file to be listed cannot be read,
is no UTF-8, or has to be without stray characters and has one, or a session is to be held and the
input is no UTF-8.  Faulty arguments are reported at once, whatever the surroundings.  What has been
written by the end is told by `Succeeds` and `Fails`. -/
theorem outcome_unlogged (s : Surroundings) (args : List Text) :
    (((outcome s.unlogged args).exit = 0 ∧ (outcome s.unlogged args).errors = [] ∧
        Succeeds s args (outcome s.unlogged args).output) ∨
      ∃ fault wording, (outcome s.unlogged args).exit = 1 ∧
        (((∃ misuse, fault = .usage misuse) ∧ (outcome s.unlogged args).errors =
            "error: ".toList ++ wording ++ "\n\n".toList ++ Command.usage) ∨
          ((∀ misuse, fault ≠ .usage misuse) ∧ (outcome s.unlogged args).errors =
            "error: ".toList ++ wording ++ "\n".toList)) ∧
        Fails s args fault wording (outcome s.unlogged args).output) ∧
    ((outcome s.unlogged args).exit = 1 ↔
      (∀ command, ¬ Command.Asks args command) ∨
      (∃ path strict, Command.Asks args (.listing path strict) ∧
        ((∃ cause, s.read path = .error cause) ∨
          ∃ bytes, s.read path = .ok bytes ∧ (¬ IsUtf8 bytes ∨
            strict = true ∧ ∃ source, Text.bytes source = bytes ∧
              ∃ c ∈ source, ¬ InAlphabet c))) ∨
      (Command.Asks args .session ∧ ¬ IsUtf8 s.input)) ∧
    ((∀ command, ¬ Command.Asks args command) →
      (outcome s.unlogged args).output = [] ∧
        ∀ s' : Surroundings, outcome s'.unlogged args = outcome s.unlogged args) ∧
    Command.usage =
      ["Usage: monkey [command]",
        "",
        "Commands:",
        "  (none)              Lex the built-in sample and print its tokens",
        "  lex <file>          Lex a file and print every token with its span",
        "      --strict        Fail on the first illegal character",
        "  repl                Read lines from stdin and print their tokens",
        "  help                Show this message",
        "",
        "Set RUST_LOG (e.g. RUST_LOG=monkey_lexer=trace) for debug logging."].flatMap
          fun line => line.toList ++ "\n".toList := by
  rw [← exists_fails_iff]
  refine ⟨?_, ⟨?_, ?_⟩, ?_, rfl⟩
  · rcases succeeds_or_fails s args with ⟨out, h⟩ | ⟨fault, wording, out, h⟩
    · rw [h.outcome_eq]
      exact Or.inl ⟨rfl, rfl, h⟩
    · rw [h.outcome_eq]
      exact Or.inr ⟨fault, wording, rfl, report_cases h.message_eq, h⟩
  · intro hexit
    rcases succeeds_or_fails s args with ⟨out, h⟩ | hfails
    · rw [h.outcome_eq] at hexit
      exact absurd hexit Nat.zero_ne_one
    · exact hfails
  · rintro ⟨fault, wording, out, h⟩
    rw [h.outcome_eq]
  · intro hnone
    obtain ⟨misuse, h⟩ := exists_misuse_iff.2 hnone
    rw [outcome_of_error h]
    exact ⟨rfl, fun s' => outcome_of_error h s'⟩

/-- A strict listing of a source with a stray character exits with 1. -/
theorem outcome_unlogged_strict :
    (outcome (Surroundings.unlogged ⟨[], fun _ => .ok (Text.bytes ['a', '$']), none⟩)
      ["lex".toList, "f".toList, "--strict".toList]).exit = 1 := by
  refine (outcome_unlogged _ _).2.1.2 (Or.inr (Or.inl ⟨"f".toList, true, ?_, Or.inr ?_⟩))
  · exact ⟨["f".toList, "--strict".toList], rfl, by decide, by decide, by decide⟩
  · exact ⟨_, rfl, Or.inr ⟨rfl, _, rfl, '$', by simp, by decide⟩⟩

end Program

end MonkeyTokens
