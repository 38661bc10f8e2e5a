/- # The arguments of a listing

A listing reads its arguments from left to right and stops at the first one that does not fit.  Said
without that order: an argument is *out of place* when it is an option that is not known, or a path
that has another path before it.  The first argument out of place is the one at fault, whatever
stands behind it.  When there is none, the arguments are the strict option any number of times and
at most one path, and then their order says nothing.

* `Command.inPlace_take_iff`: arguments are in place when they hold no unknown option and one path
  at most.
* `Command.listingOfArgs_append`: what has been read of such arguments is the path among them, and
  whether the strict option is.
* `Command.listingOfArgs_eq_ok_iff`: when the arguments make a listing, and which one.
* `Command.ofArgs_eq_ok_iff`: which command any arguments ask for.

Main statement: `Command.ofArgs_listing`.
-/
import Mathlib.Data.List.Induction
import MonkeyTokens.Command

namespace MonkeyTokens

namespace Command

/-! ## 1. Arguments out of place -/

/-- The argument is a path: it does not start as an option does.  The empty text is a path. -/
def isPath (a : Text) : Bool := a.head? ≠ some '-'

/-- The argument at index `i` is an option that is not known, or a path behind another one. -/
def OutOfPlace (args : List Text) (i : Nat) : Prop :=
  ∃ a, args[i]? = some a ∧
    ((a.head? = some '-' ∧ a ≠ "--strict".toList) ∨
      (isPath a = true ∧ ∃ j < i, ∃ b, args[j]? = some b ∧ isPath b = true))

/-- What is wrong with an argument that is out of place. -/
def misfit (a : Text) : Misuse :=
  if a.head? = some '-' then .unknownOption a else .unexpectedArgument a

theorem isOption_iff {a : Text} : isOption a = true ↔ a.head? = some '-' := decide_eq_true_iff

/-- An argument is an option or a path. -/
theorem isPath_eq (a : Text) : isPath a = !isOption a := decide_not

theorem misfit_eq (a : Text) :
    misfit a = if isOption a then .unknownOption a else .unexpectedArgument a :=
  if_congr isOption_iff.symm rfl rfl

/-- No option is unknown, and there is at most one path. -/
structure InPlace (args : List Text) : Prop where
  known : ∀ a ∈ args, isOption a = true → a = strictOption
  onePath : (args.filter isPath).length ≤ 1

theorem isPath_strictOption : isPath strictOption = false := rfl

theorem inPlace_nil : InPlace [] := ⟨by simp, by simp⟩

/-- One argument more is in place unless it is an unknown option, or a path behind a path. -/
theorem inPlace_concat {args : List Text} {a : Text} :
    InPlace (args ++ [a]) ↔
      InPlace args ∧ (isOption a = true → a = strictOption) ∧
        (isPath a = true → ∀ b ∈ args, isPath b = false) := by
  have hlength : ((args ++ [a]).filter isPath).length ≤ 1 ↔
      (args.filter isPath).length ≤ 1 ∧ (isPath a = true → ∀ b ∈ args, isPath b = false) := by
    have hnone : (args.filter isPath).length = 0 ↔ ∀ b ∈ args, isPath b = false := by
      simp [List.length_eq_zero_iff]
    rw [List.filter_append, List.length_append, ← hnone]
    cases ha : isPath a with
    | true =>
      rw [List.filter_cons_of_pos ha, List.filter_nil, List.length_singleton]
      simp only [true_imp_iff]
      omega
    | false =>
      rw [List.filter_cons_of_neg (Bool.eq_false_iff.1 ha), List.filter_nil]
      simp
  constructor
  · rintro ⟨hknown, hone⟩
    obtain ⟨hone, hpath⟩ := hlength.1 hone
    exact ⟨⟨fun b hb => hknown b (List.mem_append_left _ hb), hone⟩, hknown a (by simp), hpath⟩
  · rintro ⟨⟨hknown, hone⟩, ha, hpath⟩
    refine ⟨?_, hlength.2 ⟨hone, hpath⟩⟩
    intro b hb
    rcases List.mem_append.1 hb with hb | hb
    · exact hknown b hb
    · rw [List.mem_singleton.1 hb]
      exact ha

/-- **Index by index**: the first `n` arguments are in place when none of them is out of place. -/
theorem inPlace_take_iff {args : List Text} {n : Nat} (hn : n ≤ args.length) :
    InPlace (args.take n) ↔ ∀ i < n, ¬ OutOfPlace args i := by
  induction n with
  | zero => exact iff_of_true inPlace_nil (by simp)
  | succ n ih =>
    have hlast : args[n]? = some args[n] := List.getElem?_eq_getElem hn
    have hmem : ∀ b, b ∈ args.take n ↔ ∃ j < n, args[j]? = some b := fun b => by
      rw [List.mem_take_iff_getElem]
      constructor
      · rintro ⟨j, hj, rfl⟩
        exact ⟨j, by omega, List.getElem?_eq_getElem _⟩
      · rintro ⟨j, hj, hb⟩
        obtain ⟨hlength, rfl⟩ := List.getElem?_eq_some_iff.1 hb
        exact ⟨j, by omega, rfl⟩
    have hstrict : "--strict".toList = strictOption := rfl
    have hout : ¬ OutOfPlace args n ↔ (isOption args[n] = true → args[n] = strictOption) ∧
        (isPath args[n] = true → ∀ b ∈ args.take n, isPath b = false) := by
      simp only [OutOfPlace, hlast, Option.some.injEq, exists_eq_left', hmem, isOption_iff, hstrict]
      grind
    rw [List.take_add_one, hlast, Option.toList_some, inPlace_concat, ih (by omega), ← hout]
    constructor
    · rintro ⟨hbefore, hn'⟩ i hi
      rcases Nat.lt_succ_iff_lt_or_eq.1 hi with hi | rfl
      · exact hbefore i hi
      · exact hn'
    · intro h
      exact ⟨fun i hi => h i (by omega), h n (by omega)⟩

theorem inPlace_iff {args : List Text} : InPlace args ↔ ∀ i, ¬ OutOfPlace args i := by
  have htake := inPlace_take_iff (Nat.le_refl args.length)
  rw [List.take_length] at htake
  refine htake.trans ⟨fun h i hi => ?_, fun h i _ => h i⟩
  obtain ⟨a, ha, hmisplaced⟩ := hi
  exact h i (List.getElem?_eq_some_iff.1 ha).1 ⟨a, ha, hmisplaced⟩

/-- Arguments of which one is out of place have a first one that is. -/
theorem exists_first_of_not_inPlace {args : List Text} (h : ¬ InPlace args) :
    ∃ before a after, args = before ++ a :: after ∧ InPlace before ∧ ¬ InPlace (before ++ [a]) := by
  induction args using List.reverseRecOn with
  | nil => exact absurd inPlace_nil h
  | append_singleton args a ih =>
    by_cases hargs : InPlace args
    · exact ⟨args, a, [], rfl, hargs, h⟩
    · obtain ⟨before, b, after, rfl, hbefore, hb⟩ := ih hargs
      exact ⟨before, b, after ++ [a], by simp, hbefore, hb⟩

/-! ## 2. Reading from left to right -/

/-- **What has been read** of arguments that are in place: the path among them, and whether the
strict option is. -/
theorem listingOfArgs_append {before : List Text} (h : InPlace before) (after : List Text) :
    listingOfArgs none false (before ++ after) =
      listingOfArgs (before.find? isPath) (decide (strictOption ∈ before)) after := by
  -- the argument read last is the one that the arguments before it have to make room for
  induction before using List.reverseRecOn generalizing after with
  | nil => rfl
  | append_singleton before a ih =>
    obtain ⟨hbefore, hknown, hpath⟩ := inPlace_concat.1 h
    rw [List.append_assoc, List.singleton_append, ih hbefore, listingOfArgs, List.find?_append]
    by_cases ha : a = strictOption
    · simp [ha, isPath_strictOption]
    · have hoption : isOption a = false := Bool.eq_false_iff.2 fun ho => ha (hknown ho)
      have hisPath : isPath a = true := by rw [isPath_eq, hoption, Bool.not_false]
      have hnone : before.find? isPath = none :=
        List.find?_eq_none.2 fun b hb => Bool.eq_false_iff.1 (hpath hisPath b hb)
      simp [ha, Ne.symm ha, hoption, hnone, hisPath]

/-- The first argument out of place is the one at fault. -/
theorem listingOfArgs_of_not_inPlace {before : List Text} {a : Text} (h : InPlace before)
    (ha : ¬ InPlace (before ++ [a])) (after : List Text) :
    listingOfArgs none false (before ++ a :: after) = .error (misfit a) := by
  rw [listingOfArgs_append h, listingOfArgs]
  have hne : a ≠ strictOption := by
    rintro rfl
    exact ha (inPlace_concat.2 ⟨h, fun _ => rfl, fun hpath => absurd hpath (by decide)⟩)
  rw [if_neg hne, misfit_eq]
  cases hoption : isOption a with
  | true => rfl
  | false =>
    have hpath : ∃ b ∈ before, isPath b = true := by
      by_contra hnone
      refine ha (inPlace_concat.2 ⟨h, by simp [hoption], fun _ b hb => ?_⟩)
      exact Bool.eq_false_iff.2 fun hb' => hnone ⟨b, hb, hb'⟩
    rw [if_neg (by decide), if_pos (List.find?_isSome.2 hpath)]
    rfl

/-- Arguments that are in place make a listing of the path among them, if there is one. -/
theorem listingOfArgs_of_inPlace {args : List Text} (h : InPlace args) :
    (args.filter isPath = [] ∧ listingOfArgs none false args = .error .missingPath) ∨
      ∃ path, args.filter isPath = [path] ∧
        listingOfArgs none false args = .ok (.listing path (decide (strictOption ∈ args))) := by
  have hread := listingOfArgs_append h []
  rw [List.append_nil, ← List.head?_filter] at hread
  have hone := h.onePath
  cases hpaths : args.filter isPath with
  | nil =>
    rw [hpaths] at hread
    exact Or.inl ⟨rfl, hread⟩
  | cons path others =>
    rw [hpaths, List.length_cons] at hone
    obtain rfl : others = [] := List.length_eq_zero_iff.1 (by omega)
    rw [hpaths] at hread
    exact Or.inr ⟨path, rfl, hread⟩

/-- **When the arguments make a listing, and which one**, without their order: every option is the
strict one, and there is one path. -/
theorem listingOfArgs_eq_ok_iff {args : List Text} {command : Command} :
    listingOfArgs none false args = .ok command ↔
      (∀ a ∈ args, isOption a = true → a = strictOption) ∧
        ∃ path, args.filter isPath = [path] ∧
          command = .listing path (decide (strictOption ∈ args)) := by
  constructor
  · intro h
    by_cases hin : InPlace args
    · rcases listingOfArgs_of_inPlace hin with ⟨-, hread⟩ | ⟨path, hpath, hread⟩
      · rw [hread] at h
        exact absurd h (by simp)
      · rw [hread] at h
        exact ⟨hin.known, path, hpath, (Except.ok.inj h).symm⟩
    · obtain ⟨before, a, after, rfl, hbefore, ha⟩ := exists_first_of_not_inPlace hin
      rw [listingOfArgs_of_not_inPlace hbefore ha] at h
      exact absurd h (by simp)
  · rintro ⟨hknown, path, hpath, rfl⟩
    have hin : InPlace args := ⟨hknown, by rw [hpath]; exact Nat.le_refl 1⟩
    rcases listingOfArgs_of_inPlace hin with ⟨hnone, -⟩ | ⟨path', hpath', hread⟩
    · exact absurd (hpath.symm.trans hnone) (by simp)
    · obtain rfl : path = path' := by simpa using hpath.symm.trans hpath'
      exact hread

/-! ## 3. What arguments ask for -/

/-- The arguments ask for the command.  The first one names it.  For a listing the others are one
path and any number of times the strict option. -/
def Asks (args : List Text) : Command → Prop
  | sample => args = []
  | session => args.head? = some "repl".toList
  | help => ∃ word ∈ ["help".toList, "--help".toList, "-h".toList], args.head? = some word
  | listing path strict => ∃ rest, args = "lex".toList :: rest ∧
      (∀ a ∈ rest, a.head? = some '-' → a = "--strict".toList) ∧
      rest.filter isPath = [path] ∧ (strict = true ↔ "--strict".toList ∈ rest)

/-- The first argument alone decides, unless it is that of a listing. -/
theorem ofArgs_cons (word : Text) (rest : List Text) :
    ofArgs (word :: rest) =
      if word = "lex".toList then listingOfArgs none false rest
      else if word = "repl".toList then .ok .session
      else if word ∈ ["help".toList, "--help".toList, "-h".toList] then .ok .help
      else .error (.unknownCommand word) := rfl

theorem asks_listing_iff {rest : List Text} {path : Text} {strict : Bool} :
    Asks ("lex".toList :: rest) (.listing path strict) ↔
      (∀ a ∈ rest, isOption a = true → a = strictOption) ∧
        ∃ path', rest.filter isPath = [path'] ∧
          Command.listing path strict = .listing path' (decide (strictOption ∈ rest)) := by
  have hdecide : strict = decide (strictOption ∈ rest) ↔ (strict = true ↔ strictOption ∈ rest) := by
    rw [Bool.eq_iff_iff, decide_eq_true_iff]
  simp only [isOption_iff, listing.injEq, hdecide]
  constructor
  · rintro ⟨rest', hargs, hknown, hpath, hstrict⟩
    obtain ⟨-, rfl⟩ := List.cons.inj hargs
    exact ⟨hknown, path, hpath, rfl, hstrict⟩
  · rintro ⟨hknown, path', hpath, rfl, hstrict⟩
    exact ⟨rest, rfl, hknown, hpath, hstrict⟩

/-- **The command that is read from the arguments is the one that they ask for.** -/
theorem ofArgs_eq_ok_iff {args : List Text} {command : Command} :
    ofArgs args = .ok command ↔ Asks args command := by
  cases args with
  | nil =>
    have hnil : ofArgs [] = .ok sample := rfl
    cases command <;> simp [Asks, hnil]
  | cons word rest =>
    rw [ofArgs_cons]
    by_cases hlex : word = "lex".toList
    · rw [if_pos hlex, listingOfArgs_eq_ok_iff, hlex]
      cases command with
      | listing path strict => exact asks_listing_iff.symm
      | _ => simp [Asks]
    · rw [if_neg hlex]
      by_cases hrepl : word = "repl".toList
      · rw [if_pos hrepl, hrepl]
        cases command <;> simp [Asks]
      · rw [if_neg hrepl]
        by_cases hhelp : word ∈ ["help".toList, "--help".toList, "-h".toList]
        · rw [if_pos hhelp]
          cases command with
          | help => exact iff_of_true rfl ⟨word, hhelp, rfl⟩
          | _ => simp_all [Asks]
        · rw [if_neg hhelp]
          cases command <;> simp_all [Asks]

/-! ## 4. Arguments that say the same -/

/-- The order of the arguments of a listing says nothing. -/
theorem listingOfArgs_perm {args args' : List Text} (h : args.Perm args') {command : Command}
    (hargs : listingOfArgs none false args = .ok command) :
    listingOfArgs none false args' = .ok command := by
  obtain ⟨hknown, path, hpath, rfl⟩ := listingOfArgs_eq_ok_iff.1 hargs
  refine listingOfArgs_eq_ok_iff.2 ⟨fun a ha => hknown a (h.mem_iff.2 ha), path, ?_, ?_⟩
  · have hfilter := h.filter isPath
    rw [hpath] at hfilter
    exact List.perm_singleton.1 hfilter.symm
  · simp only [h.mem_iff]

/-- To say once more that a listing is strict says nothing either. -/
theorem listingOfArgs_repeat {before after : List Text} {command : Command}
    (hstrict : strictOption ∈ before ++ after)
    (hargs : listingOfArgs none false (before ++ after) = .ok command) :
    listingOfArgs none false (before ++ strictOption :: after) = .ok command := by
  obtain ⟨hknown, path, hpath, rfl⟩ := listingOfArgs_eq_ok_iff.1 hargs
  refine listingOfArgs_eq_ok_iff.2 ⟨?_, path, ?_, ?_⟩
  · intro a ha hoption
    rcases List.mem_append.1 ha with ha | ha
    · exact hknown a (List.mem_append_left _ ha) hoption
    · rcases List.mem_cons.1 ha with rfl | ha
      · rfl
      · exact hknown a (List.mem_append_right _ ha) hoption
  · rw [List.filter_append, List.filter_cons_of_neg (by decide), ← List.filter_append, hpath]
  · simp [hstrict]

/-- **The arguments of a listing.**  The first of them that is out of place is the one at fault,
whatever stands behind it: an option is unknown, and a path is unexpected.  When none is out of
place, the path is missing if there is none, and otherwise there is only one, and the listing is of
that path, and strict if the strict option is among the arguments.

So whenever the arguments make a listing, they make the same one in every other order, and when the
strict option is said more often. -/
theorem ofArgs_listing (args : List Text) :
    (∀ i a, args[i]? = some a → OutOfPlace args i → (∀ j < i, ¬ OutOfPlace args j) →
      ofArgs ("lex".toList :: args) = .error (misfit a) ∧
        (∀ after, ofArgs ("lex".toList :: (args.take (i + 1) ++ after)) = .error (misfit a)) ∧
        (misfit a).message =
          (if a.head? = some '-' then "unknown option '".toList else "unexpected argument '".toList)
            ++ a ++ "'".toList) ∧
    ((∀ i, ¬ OutOfPlace args i) →
      ((∀ a ∈ args, isPath a = false) →
        ofArgs ("lex".toList :: args) = .error .missingPath ∧
          Misuse.missingPath.message = "missing file path".toList) ∧
      ∀ path ∈ args, isPath path = true →
        args.filter isPath = [path] ∧
          ofArgs ("lex".toList :: args) =
            .ok (.listing path (decide ("--strict".toList ∈ args)))) ∧
    ∀ command, ofArgs ("lex".toList :: args) = .ok command →
      (∀ args', args.Perm args' → ofArgs ("lex".toList :: args') = .ok command) ∧
        ∀ before after, args = before ++ after → "--strict".toList ∈ args →
          ofArgs ("lex".toList :: (before ++ "--strict".toList :: after)) = .ok command := by
  have hlex : ∀ as, ofArgs ("lex".toList :: as) = listingOfArgs none false as := fun _ => rfl
  simp only [hlex]
  refine ⟨?_, ?_, ?_⟩
  · intro i a ha hout hfirst
    obtain ⟨hi, -⟩ := List.getElem?_eq_some_iff.1 ha
    have hbefore : InPlace (args.take i) := (inPlace_take_iff (Nat.le_of_lt hi)).2 hfirst
    have htake : args.take (i + 1) = args.take i ++ [a] := by
      rw [List.take_add_one, ha, Option.toList_some]
    have hnot : ¬ InPlace (args.take i ++ [a]) := by
      rw [← htake, inPlace_take_iff hi]
      exact fun h => h i (Nat.lt_succ_self i) hout
    have hany : ∀ after, listingOfArgs none false (args.take (i + 1) ++ after) =
        .error (misfit a) := by
      intro after
      rw [htake, List.append_assoc, List.singleton_append]
      exact listingOfArgs_of_not_inPlace hbefore hnot after
    refine ⟨?_, hany, ?_⟩
    · have h := hany (args.drop (i + 1))
      rwa [List.take_append_drop] at h
    · unfold misfit
      split <;> rfl
  · intro hout
    rcases listingOfArgs_of_inPlace (inPlace_iff.2 hout) with ⟨hnone, hread⟩ | ⟨path, hpath, hread⟩
    · refine ⟨fun _ => ⟨hread, rfl⟩, fun p hp hisPath => ?_⟩
      exact absurd hisPath (List.filter_eq_nil_iff.1 hnone p hp)
    · refine ⟨fun hnone => ?_, fun p hp hisPath => ?_⟩
      · have hmem : path ∈ args.filter isPath := by simp [hpath]
        obtain ⟨hmem, hisPath⟩ := List.mem_filter.1 hmem
        exact absurd hisPath (Bool.eq_false_iff.1 (hnone path hmem))
      · have hmem : p ∈ args.filter isPath := List.mem_filter.2 ⟨hp, hisPath⟩
        rw [hpath, List.mem_singleton] at hmem
        subst hmem
        exact ⟨hpath, hread⟩
  · intro command hargs
    refine ⟨fun args' h => listingOfArgs_perm h hargs, ?_⟩
    rintro before after rfl hstrict
    exact listingOfArgs_repeat hstrict hargs

/-- A second path is at fault before an unknown option behind it; without both the path may stand
behind the strict option. -/
theorem ofArgs_listing_secondPath :
    ofArgs ["lex".toList, "--strict".toList, "a".toList, [], "--fast".toList] =
        .error (.unexpectedArgument []) ∧
      ofArgs ["lex".toList, "a".toList, "--strict".toList] = .ok (.listing "a".toList true) ∧
      ofArgs ["lex".toList, "--strict".toList, "a".toList, "--strict".toList] =
        .ok (.listing "a".toList true) := by
  have hbefore : InPlace [strictOption, "a".toList] := ⟨by decide, by decide⟩
  have hout : OutOfPlace [strictOption, "a".toList, [], "--fast".toList] 2 :=
    ⟨[], rfl, Or.inr ⟨rfl, 1, by decide, "a".toList, rfl, rfl⟩⟩
  have hin : InPlace ["a".toList, strictOption] := ⟨by decide, by decide⟩
  have hok := (((ofArgs_listing ["a".toList, strictOption]).2.1 (inPlace_iff.1 hin)).2
    "a".toList (by decide) rfl).2
  refine ⟨?_, hok, ?_⟩
  · exact ((ofArgs_listing _).1 2 [] rfl hout ((inPlace_take_iff (by decide)).1 hbefore)).1
  · exact ((ofArgs_listing ["a".toList, strictOption]).2.2 _ hok).2 [] _ rfl (by decide)

end Command

end MonkeyTokens
