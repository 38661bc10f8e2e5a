/- # Runs and sinks

A run of a command is what it does in order (it writes texts, asks for them to be flushed, notes
records down) and how it ends.  A run knows nothing of the output it goes to: a sink that takes
only so many bytes, or so many flushes, stops it at the first write or flush that fails.

Main statement: `Run.deliver_unbounded` (a sink without bounds takes everything and changes
nothing).
-/
import MonkeyTokens.Fault
import MonkeyTokens.Log.Record

namespace MonkeyTokens

/-- One thing that a command does: it writes a text to its `Write`, as `writeln` does, asks for a
`flush`, or notes a record down, as `debug` and `trace` do. -/
inductive Event
  | write (t : Text)
  | flush
  | log (r : Log.Record)
deriving DecidableEq

/-- What a command does and how it ends. -/
structure Run (α : Type) where
  events : List Event
  result : Except Fault α

/-! ## 1. Runs -/

/-- The text that an event writes. -/
def Event.written : Event → Text
  | write t => t
  | _ => []

/-- Notes are not written. -/
@[simp] theorem Event.flatMap_written_log (rs : List Log.Record) :
    (rs.map Event.log).flatMap Event.written = [] := by
  simp [List.flatMap_map, Event.written]

/-- The record that an event notes down. -/
def Event.record? : Event → Option Log.Record
  | log r => some r
  | _ => none

namespace Run

variable {α : Type}

/-- All that a run writes. -/
def output (r : Run α) : Text := r.events.flatMap Event.written

/-- All that a run notes down. -/
def records (r : Run α) : List Log.Record := r.events.filterMap Event.record?

/-- The run with other events before it. -/
def after (r : Run α) (es : List Event) : Run α := { r with events := es ++ r.events }

@[simp] theorem output_after (r : Run α) (es : List Event) :
    (r.after es).output = es.flatMap Event.written ++ r.output := by
  simp [output, after]

@[simp] theorem result_after (r : Run α) (es : List Event) : (r.after es).result = r.result := rfl

/-- The run without the value that it ends with. -/
def discard (r : Run α) : Run Unit := ⟨r.events, r.result.map fun _ => ()⟩

end Run

/-! ## 2. Sinks -/

/-- What an output still takes; none is no bound. -/
structure Sink where
  /-- The number of bytes. -/
  room : Option Nat
  /-- The number of flushes. -/
  flushes : Option Nat
deriving DecidableEq

namespace Sink

/-- The sink that takes everything. -/
def unbounded : Sink := ⟨none, none⟩

/-- Events delivered to a sink: the bytes that it takes, and what is left of the sink; or, when an
event fails, the bytes that were taken until then and the cause. -/
def deliver : Sink → List Event → List UInt8 × Except Cause Sink
  | s, [] => ([], .ok s)
  | s, .log _ :: es => deliver s es
  | s, .write t :: es =>
    match s.room with
    | none =>
      let (out, r) := deliver s es
      (t.bytes ++ out, r)
    | some n =>
      if t.extent ≤ n then
        let (out, r) := deliver { s with room := some (n - t.extent) } es
        (t.bytes ++ out, r)
      else (t.bytes.take n, .error .sinkFull)
  | s, .flush :: es =>
    match s.flushes with
    | none => deliver s es
    | some 0 => ([], .error .flushFailed)
    | some (k + 1) => deliver { s with flushes := some k } es

/-- Notes are no output. -/
theorem deliver_map_log (s : Sink) (rs : List Log.Record) :
    s.deliver (rs.map .log) = ([], .ok s) := by
  induction rs with
  | nil => rfl
  | cons r rs ih => simpa [deliver] using ih

/-- A sink without bounds takes every event. -/
theorem deliver_unbounded (es : List Event) :
    unbounded.deliver es = (Text.bytes (es.flatMap Event.written), .ok unbounded) := by
  induction es with
  | nil => rfl
  | cons e es ih =>
    cases e with
    | write t =>
      have hr : unbounded.room = none := rfl
      simp [deliver, hr, ih, Event.written]
    | flush =>
      have hf : unbounded.flushes = none := rfl
      simp [deliver, hf, ih, Event.written]
    | log r => simp [deliver, ih, Event.written]

end Sink

namespace Run

variable {α : Type}

/-- A run delivered to a sink: the bytes that the sink has taken, and how the run ends there.  A
write or flush that fails ends the run, whatever its own end would have been. -/
def deliver (s : Sink) (r : Run α) : List UInt8 × Except Fault α :=
  match s.deliver r.events with
  | (out, .ok _) => (out, r.result)
  | (out, .error c) => (out, .error (.write c))

/-- A run that is delivered ends as it would by itself, or with a failure to write. -/
theorem deliver_snd (s : Sink) (r : Run α) :
    (r.deliver s).2 = r.result ∨ ∃ c, (r.deliver s).2 = .error (.write c) := by
  unfold deliver
  split
  · exact Or.inl rfl
  · next c _ => exact Or.inr ⟨c, rfl⟩

/-- **A sink without bounds takes everything and changes nothing.** -/
theorem deliver_unbounded (r : Run α) :
    r.deliver .unbounded = (r.output.bytes, r.result) := by
  simp [deliver, Sink.deliver_unbounded, output]

end Run

end MonkeyTokens
