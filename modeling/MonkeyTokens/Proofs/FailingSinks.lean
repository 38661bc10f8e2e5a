/- # Outputs that fail

An output may take only so many bytes, or be flushed only so many times.  A run does not look at
what it has written, so such an output keeps the front of what the run writes, up to the first
failure, and the run ends there, whatever its own end would have been.

* `Sink.outcome`: what is left of a run, told from what it leaves on an output without bounds and
  from the offsets where it asks for a flush.
* `Run.deliver_eq_outcome`: every run, delivered to any sink, leaves this.
* `Session.flushOffsets_run`: a session asks for a flush just past each of its prompts, and these
  can be found in its output.
* `Session.deliver_congr`: so sessions with the same output and the same end cannot be told apart by
  an output that fails.

Main statement: `cutShort_commands`.
-/
import MonkeyTokens.Proofs.Transcript

namespace MonkeyTokens

/-! ## 1. What an output with bounds leaves of a run -/

/-- What a sink leaves of a run that leaves `whole` on a sink without bounds and asks for a flush
when it has written so many bytes as `flushed` tells, one after the other.

If the run does not come to the flush that the sink fails, the sink fails when it is full, and only
if it cannot hold all.  Otherwise it fails at that flush, unless it is full before. -/
def Sink.outcome {α : Type} (s : Sink) (flushed : List Nat)
    (whole : List UInt8 × Except Fault α) : List UInt8 × Except Fault α :=
  match s.room, s.flushes.bind (flushed[·]?) with
  | none, none => whole
  | some n, none =>
    if whole.1.length ≤ n then whole else (whole.1.take n, .error (.write .sinkFull))
  | none, some e => (whole.1.take e, .error (.write .flushFailed))
  | some n, some e =>
    if n < e then (whole.1.take n, .error (.write .sinkFull))
    else (whole.1.take e, .error (.write .flushFailed))

/-- The offsets at which events ask for a flush when what they write starts at byte `n`. -/
def Event.flushOffsets : Nat → List Event → List Nat
  | _, [] => []
  | n, .write t :: es => flushOffsets (n + t.extent) es
  | n, .flush :: es => n :: flushOffsets n es
  | n, .log _ :: es => flushOffsets n es

namespace Event

theorem flushOffsets_append (n : Nat) (es fs : List Event) :
    flushOffsets n (es ++ fs) =
      flushOffsets n es ++ flushOffsets (n + Text.extent (es.flatMap written)) fs := by
  induction es generalizing n with
  | nil => rfl
  | cons e es ih =>
    cases e with
    | write t => simp [flushOffsets, ih, written, Nat.add_assoc]
    | flush => simp [flushOffsets, ih, written]
    | log r => simp [flushOffsets, ih, written]

/-- What is written before moves every flush. -/
theorem flushOffsets_add (m n : Nat) (es : List Event) :
    flushOffsets (m + n) es = (flushOffsets n es).map (m + ·) := by
  induction es generalizing n with
  | nil => rfl
  | cons e es ih =>
    cases e with
    | write t => simp only [flushOffsets, Nat.add_assoc, ih]
    | flush => simp only [flushOffsets, ih, List.map_cons]
    | log r => simp only [flushOffsets, ih]

theorem flushOffsets_eq_nil {es : List Event} (h : .flush ∉ es) (n : Nat) :
    flushOffsets n es = [] := by
  induction es generalizing n with
  | nil => rfl
  | cons e es ih =>
    obtain ⟨he, hes⟩ := List.ne_and_not_mem_of_not_mem_cons h
    cases e with
    | write t => exact ih hes _
    | flush => exact absurd rfl he
    | log r => exact ih hes _

end Event

/-! ## 2. Event by event -/

namespace Sink

variable {α : Type} {flushed : List Nat}

/-- The sink after so many bytes, which it has taken. -/
def spend (s : Sink) (n : Nat) : Sink := { s with room := s.room.map (· - n) }

/-- The flush that fails moves on with all of them. -/
theorem bind_getElem?_map (flushes : Option Nat) (n : Nat) :
    flushes.bind ((flushed.map (n + ·))[·]?) = (flushes.bind (flushed[·]?)).map (n + ·) := by
  cases flushes <;> simp

/-- What is taken in front is left in front. -/
theorem outcome_append {s : Sink} {front : List UInt8} (h : ∀ n ∈ s.room, front.length ≤ n)
    (out : List UInt8) (result : Except Fault α) :
    s.outcome (flushed.map (front.length + ·)) (front ++ out, result) =
      (front ++ ((s.spend front.length).outcome flushed (out, result)).1,
        ((s.spend front.length).outcome flushed (out, result)).2) := by
  obtain ⟨room, flushes⟩ := s
  simp only [outcome, spend, bind_getElem?_map]
  generalize flushes.bind (flushed[·]?) = stuck
  have htake : ∀ e, (front ++ out).take (front.length + e) = front ++ out.take e := fun e =>
    List.take_length_add_append e
  cases room with
  | none =>
    cases stuck with
    | none => rfl
    | some e => simp [htake]
  | some n =>
    obtain ⟨m, rfl⟩ := Nat.exists_eq_add_of_le (h n rfl)
    cases stuck with
    | none =>
      simp only [Option.map_some, Option.map_none, List.length_append, Nat.add_sub_cancel_left,
        Nat.add_le_add_iff_left, htake]
      split <;> rfl
    | some e =>
      simp only [Option.map_some, Nat.add_sub_cancel_left, Nat.add_lt_add_iff_left, htake]
      split <;> rfl

/-- What does not fit fills the sink, before any flush that comes after it. -/
theorem outcome_append_of_lt {n : Nat} {flushes : Option Nat} {front : List UInt8}
    (h : n < front.length) (out : List UInt8) (result : Except Fault α) :
    outcome ⟨some n, flushes⟩ (flushed.map (front.length + ·)) (front ++ out, result) =
      (front.take n, .error (.write .sinkFull)) := by
  have htake : (front ++ out).take n = front.take n :=
    List.take_append_of_le_length (Nat.le_of_lt h)
  simp only [outcome, bind_getElem?_map]
  cases flushes.bind (flushed[·]?) with
  | none =>
    have hlong : ¬ (front ++ out).length ≤ n := by
      rw [List.length_append]
      omega
    simp only [Option.map_none, hlong, if_false, htake]
  | some e =>
    have hlate : n < front.length + e := by omega
    simp only [Option.map_some, hlate, if_true, htake]

/-- A flush at the start: it succeeds, and the others are left, or it fails at once. -/
theorem outcome_cons_zero (s : Sink) (whole : List UInt8 × Except Fault α) :
    s.outcome (0 :: flushed) whole =
      match s.flushes with
      | none => s.outcome flushed whole
      | some 0 => ([], .error (.write .flushFailed))
      | some (k + 1) => outcome ⟨s.room, some k⟩ flushed whole := by
  obtain ⟨_ | n, _ | _ | k⟩ := s <;> simp [outcome]

end Sink

namespace Run

variable {α : Type}

/-- The offsets in the output of a run at which it asks for a flush. -/
def flushOffsets (r : Run α) : List Nat := Event.flushOffsets 0 r.events

theorem deliver_write {s : Sink} {t : Text} (h : ∀ n ∈ s.room, t.extent ≤ n) (es : List Event)
    (result : Except Fault α) :
    deliver s ⟨.write t :: es, result⟩ =
      (t.bytes ++ (deliver (s.spend t.extent) ⟨es, result⟩).1,
        (deliver (s.spend t.extent) ⟨es, result⟩).2) := by
  obtain ⟨_ | n, flushes⟩ := s
  · have hspend : Sink.spend ⟨none, flushes⟩ t.extent = ⟨none, flushes⟩ := rfl
    simp only [deliver, Sink.deliver, hspend]
    cases hd : Sink.deliver ⟨none, flushes⟩ es with
    | mk out r => cases r <;> rfl
  · have hspend : Sink.spend ⟨some n, flushes⟩ t.extent = ⟨some (n - t.extent), flushes⟩ := rfl
    have hle : t.extent ≤ n := h n rfl
    simp only [deliver, Sink.deliver, hspend, hle, if_true]
    cases hd : Sink.deliver ⟨some (n - t.extent), flushes⟩ es with
    | mk out r => cases r <;> rfl

theorem deliver_write_of_lt {n : Nat} {flushes : Option Nat} {t : Text} (h : n < t.extent)
    (es : List Event) (result : Except Fault α) :
    deliver ⟨some n, flushes⟩ ⟨.write t :: es, result⟩ =
      (t.bytes.take n, .error (.write .sinkFull)) := by
  have hnot : ¬ t.extent ≤ n := Nat.not_le_of_lt h
  simp only [deliver, Sink.deliver, hnot, if_false]

theorem deliver_flush (s : Sink) (es : List Event) (result : Except Fault α) :
    deliver s ⟨.flush :: es, result⟩ =
      match s.flushes with
      | none => deliver s ⟨es, result⟩
      | some 0 => ([], .error (.write .flushFailed))
      | some (k + 1) => deliver ⟨s.room, some k⟩ ⟨es, result⟩ := by
  obtain ⟨room, _ | _ | k⟩ := s <;> rfl

/-- **What a sink takes of a run**, and how the run ends there, is told from what the run leaves on
a sink without bounds and from the offsets of its flushes. -/
theorem deliver_eq_outcome (s : Sink) (r : Run α) :
    r.deliver s = s.outcome r.flushOffsets (r.deliver .unbounded) := by
  obtain ⟨es, result⟩ := r
  rw [deliver_unbounded]
  simp only [flushOffsets, output]
  induction es generalizing s with
  | nil => obtain ⟨_ | n, _ | k⟩ := s <;> rfl
  | cons e es ih =>
    cases e with
    | log rec => exact ih s
    | flush =>
      -- the flush is at the start of what is left, and writes nothing
      rw [deliver_flush]
      refine Eq.trans ?_ (Sink.outcome_cons_zero s _).symm
      obtain ⟨room, _ | _ | k⟩ := s
      · exact ih _
      · rfl
      · exact ih _
    | write t =>
      have hflushed : Event.flushOffsets 0 (.write t :: es) =
          (Event.flushOffsets 0 es).map (t.bytes.length + ·) := by
        rw [Text.length_bytes, ← Event.flushOffsets_add]
        simp [Event.flushOffsets]
      have hbytes : Text.bytes ((Event.write t :: es).flatMap Event.written) =
          t.bytes ++ Text.bytes (es.flatMap Event.written) := by
        simp [Event.written]
      rw [hflushed, hbytes]
      by_cases hfits : ∀ n ∈ s.room, t.extent ≤ n
      · have hlength : ∀ n ∈ s.room, t.bytes.length ≤ n := by rwa [Text.length_bytes]
        rw [deliver_write hfits, ih, Sink.outcome_append hlength, Text.length_bytes]
      · obtain ⟨n, hn, hlt⟩ : ∃ n, n ∈ s.room ∧ n < t.extent := by simpa using hfits
        obtain ⟨_ | m, flushes⟩ := s
        · exact absurd hn (by simp)
        · obtain rfl := Option.some.inj hn
          rw [deliver_write_of_lt hlt, Sink.outcome_append_of_lt (by rwa [Text.length_bytes])]

end Run

/-! ## 3. Commands without a flush -/

theorem Spot.flush_not_mem_show (s : Spot) : Event.flush ∉ s.show := by
  simp [Spot.show, Token.show]

theorem flush_not_mem_showEof (n : Nat) : Event.flush ∉ showEof n := by
  simp [showEof, Token.show]

theorem Sample.flushOffsets_run : Sample.run.flushOffsets = [] := by
  refine Event.flushOffsets_eq_nil ?_ 0
  have hspots : Event.flush ∉ (spots Sample.source).flatMap Spot.show := by
    intro h
    obtain ⟨s, -, hs⟩ := List.mem_flatMap.1 h
    exact s.flush_not_mem_show hs
  exact List.not_mem_append hspots (flush_not_mem_showEof _)

namespace Listing

theorem flush_not_mem_ofSource (strict : Bool) (source : Text) :
    Event.flush ∉ (ofSource strict source).events := by
  unfold ofSource
  dsimp only
  split <;> simp

theorem flushOffsets_ofSource (strict : Bool) (source : Text) :
    (ofSource strict source).flushOffsets = [] :=
  Event.flushOffsets_eq_nil (flush_not_mem_ofSource strict source) 0

theorem flushOffsets_ofFile (path : Text) (strict : Bool) (content : Except Cause (List UInt8)) :
    (ofFile path strict content).flushOffsets = [] := by
  refine Event.flushOffsets_eq_nil ?_ 0
  unfold ofFile
  split
  · exact List.not_mem_nil
  · split
    · exact List.not_mem_nil
    · next source _ =>
      exact List.not_mem_append (by simp) (flush_not_mem_ofSource strict source)

/-- By itself a listing does not fail at writing. -/
theorem result_ofSource_ne_write (strict : Bool) (source : Text) (cause : Cause) :
    (ofSource strict source).result ≠ .error (.write cause) := by
  unfold ofSource
  dsimp only
  split <;> simp [Token.complaint]

theorem result_ofFile_ne_write (path : Text) (strict : Bool)
    (content : Except Cause (List UInt8)) (cause : Cause) :
    (ofFile path strict content).result ≠ .error (.write cause) := by
  unfold ofFile
  split
  · simp
  · split
    · simp
    · exact result_ofSource_ne_write strict _ cause

end Listing

/-! ## 4. Sessions -/

namespace Session

/-- The offsets just past the prompts in a text that starts at byte `n`. -/
def promptEnds : Nat → Text → List Nat
  | _, [] => []
  | n, c :: t =>
    if prompt <+: c :: t then (n + prompt.extent) :: promptEnds (n + c.utf8Size) t
    else promptEnds (n + c.utf8Size) t

/-- A prompt starts with a dot, so there is none where no dot is. -/
theorem promptEnds_append {w : Text} (h : '.' ∉ w) (n : Nat) (t : Text) :
    promptEnds n (w ++ t) = promptEnds (n + w.extent) t := by
  induction w generalizing n with
  | nil => rfl
  | cons c w ih =>
    obtain ⟨hc, hw⟩ := List.ne_and_not_mem_of_not_mem_cons h
    have hnot : ¬ prompt <+: c :: (w ++ t) := fun hp => hc (List.cons_prefix_cons.1 hp).1
    rw [List.cons_append, promptEnds, if_neg hnot, ih hw, Text.extent_cons, Nat.add_assoc]

/-- The dots of a prompt start one prompt only. -/
theorem promptEnds_prompt_append (n : Nat) (t : Text) :
    promptEnds n (prompt ++ t) = (n + prompt.extent) :: promptEnds (n + prompt.extent) t := by
  have hsize : '.'.utf8Size = 1 ∧ ' '.utf8Size = 1 := by decide
  simp [prompt, promptEnds, hsize, Nat.add_assoc]

/-- Two prompts, with a line of an answer between them. -/
example : promptEnds 0 "... {Type:EOF Literal:eof}\n... \n".toList = [4, 31] := by decide

theorem flush_not_mem_answer (line : Text) : Event.flush ∉ answer line := by
  unfold answer
  induction spots line with
  | nil => exact flush_not_mem_showEof _
  | cons s ss ih =>
    unfold answerFrom
    split
    · exact List.not_mem_append s.flush_not_mem_show (by simp)
    · exact List.not_mem_append s.flush_not_mem_show ih

/-- No dot is shown of a line. -/
theorem dot_not_mem_written_answer (line : Text) :
    '.' ∉ (answer line).flatMap Event.written := by
  rw [written_answer]
  intro h
  obtain ⟨t, ht, hdot⟩ := List.mem_flatMap.1 h
  have hname : '.' ∉ t.kind.name := not_mem_of_isGlyph t.kind.isGlyph_of_mem_name (by decide)
  have htext : '.' ∉ t.text :=
    not_mem_of_isGlyph (Token.isGlyph_of_mem_text (mem_of_mem_upTo ht)) (by decide)
  rw [Token.entry_eq] at hdot
  simp [hname, htext] at hdot

/-- **A session asks for a flush just past each of its prompts**, and its prompts can be found in
its output. -/
theorem flushOffsets_run (ending : Ending) (ls : List (List UInt8)) (n : Nat) :
    Event.flushOffsets n (run ending ls).events = promptEnds n (run ending ls).output := by
  have hask : ∀ (m : Nat) (es : List Event), Event.flushOffsets m (ask ++ es) =
      (m + prompt.extent) :: Event.flushOffsets (m + prompt.extent) es := fun m es => rfl
  induction ls generalizing n with
  | nil =>
    cases ending with
    | finished =>
      have hnil : promptEnds (n + prompt.extent) "\n".toList = [] :=
        promptEnds_append (w := "\n".toList) (by decide) _ []
      have hout : (run .finished []).output = prompt ++ "\n".toList := rfl
      rw [hout, promptEnds_prompt_append, hnil]
      rfl
    | broken cause =>
      have hout : (run (.broken cause) []).output = prompt ++ [] := rfl
      rw [hout, promptEnds_prompt_append]
      rfl
  | cons l ls ih =>
    unfold run
    split
    · next es hes =>
      obtain ⟨line, rfl⟩ : ∃ line, es = answer line := by
        unfold answerBytes at hes
        split at hes
        · exact ⟨_, (Except.ok.inj hes).symm⟩
        · exact absurd hes (by simp)
      have hanswer := Event.flushOffsets_eq_nil (flush_not_mem_answer line)
      have hprompt : ask.flatMap Event.written = prompt := rfl
      rw [Run.output_after, List.flatMap_append, hprompt, List.append_assoc,
        promptEnds_prompt_append, promptEnds_append (dot_not_mem_written_answer line), ← ih,
        Run.after, List.append_assoc, hask, Event.flushOffsets_append, hanswer, List.nil_append]
    · next fault _ =>
      have hout : (Run.mk ask (.error fault) : Run Unit).output = prompt ++ [] := rfl
      rw [hout, promptEnds_prompt_append]
      rfl

theorem deliver_ofInput_eq_outcome (sink : Sink) (bytes : List UInt8) (ending : Ending) :
    (ofInput bytes ending).deliver sink =
      sink.outcome (promptEnds 0 (ofInput bytes ending).output)
        ((ofInput bytes ending).output.bytes, (ofInput bytes ending).result) := by
  rw [Run.deliver_eq_outcome, Run.deliver_unbounded, Run.flushOffsets, ofInput, flushOffsets_run]

/-- **Sessions with the same output and the same end** are the same to every sink. -/
theorem deliver_congr {bytes bytes' : List UInt8} {ending ending' : Ending}
    (hout : (ofInput bytes ending).output = (ofInput bytes' ending').output)
    (hresult : (ofInput bytes ending).result = (ofInput bytes' ending').result) (sink : Sink) :
    (ofInput bytes ending).deliver sink = (ofInput bytes' ending').deliver sink := by
  rw [deliver_ofInput_eq_outcome, deliver_ofInput_eq_outcome, hout, hresult]

/-- By itself a session fails at reading only. -/
theorem result_run_ne_write (ending : Ending) (ls : List (List UInt8)) (cause : Cause) :
    (run ending ls).result ≠ .error (.write cause) := by
  induction ls with
  | nil => cases ending <;> simp [run, close]
  | cons l ls ih =>
    unfold run
    split
    · exact ih
    · next fault hfault =>
      unfold answerBytes at hfault
      split at hfault
      · exact absurd hfault (by simp)
      · obtain rfl := Except.error.inj hfault
        simp

end Session

/-! ## 5. Runs that are cut short -/

/-- How an output that fails cuts a run short: it leaves what the bounds of the output and the
flushes of the run tell, and nothing else makes the run fail at writing. -/
structure Run.CutShort {α : Type} (r : Run α) (flushed : List Nat) : Prop where
  deliver_eq : ∀ sink, r.deliver sink = sink.outcome flushed (r.deliver .unbounded)
  ne_write : ∀ cause, (r.deliver .unbounded).2 ≠ .error (.write cause)

theorem Run.cutShort_of {α : Type} {r : Run α} {flushed : List Nat}
    (hflushed : r.flushOffsets = flushed) (hwrite : ∀ cause, r.result ≠ .error (.write cause)) :
    r.CutShort flushed := by
  subst hflushed
  refine ⟨fun sink => deliver_eq_outcome sink r, fun cause => ?_⟩
  rw [deliver_unbounded]
  exact hwrite cause

/-- **Outputs that fail.**  Let an output take `n` bytes, or be flushed `k` times, or both.  Every
command, whatever its input, leaves on it what it would leave on an output without bounds, as far
as the bounds reach (`Sink.outcome`): the first `n` bytes, and it fails because the output is full;
or the bytes up to the flush behind the `k` that succeed, and it fails because of that flush; or, if
the bounds are not met, all bytes, and it ends as it would by itself.

A listing or the sample never asks for a flush.  A session does just past each prompt, and the
prompts can be found in its output.

A command that is not cut short never reports a failure to write: a failure to read is none.  Both
failures to write have a wording of their own. -/
theorem cutShort_commands :
    Sample.run.CutShort [] ∧
    (∀ strict source, (Listing.ofSource strict source).CutShort []) ∧
    (∀ path strict content, (Listing.ofFile path strict content).CutShort []) ∧
    (∀ bytes ending, (Session.ofInput bytes ending).CutShort
      (Session.promptEnds 0 (Session.ofInput bytes ending).output)) ∧
    Fault.message (.write .sinkFull) = "failed to write output: sink full".toList ∧
    Fault.message (.write .flushFailed) = "failed to write output: flush failed".toList := by
  refine ⟨?_, ?_, ?_, ?_, by decide, by decide⟩
  · exact Run.cutShort_of Sample.flushOffsets_run (by simp [Sample.run])
  · intro strict source
    exact Run.cutShort_of (Listing.flushOffsets_ofSource strict source)
      (Listing.result_ofSource_ne_write strict source)
  · intro path strict content
    exact Run.cutShort_of (Listing.flushOffsets_ofFile path strict content)
      (Listing.result_ofFile_ne_write path strict content)
  · intro bytes ending
    exact Run.cutShort_of (Session.flushOffsets_run ending _ 0)
      (Session.result_run_ne_write ending _)

end MonkeyTokens
