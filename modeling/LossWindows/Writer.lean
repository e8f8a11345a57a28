import LossWindows.Text.Lines

/-!
# Writing

Whoever takes bytes need not take all that a call offers, and may take nothing any more from
some point on.  Bytes are offered until all of them are taken; a call that takes nothing ends
the writing at once, and what was taken before that stays taken.

A sink does the same with whole texts: it takes as much of a text as still fits, and once a
text did not fit it takes nothing any more.

A buffer in front of a writer keeps bytes back until there are more than it holds, and then
passes them on together.  So bytes that were written need not have been taken: they may wait.

## Main definitions

* `Attempt` — a computation that may fail, and leaves a state behind in any case.
* `Writer` — takes bytes call by call, up to a limit.
* `Writer.writeBytes` — offering bytes until all of them are taken.
* `Sink` — takes texts up to a limit.
* `Buffered` — a buffer in front of a writer.
* `Buffered.write`, `Buffered.flush` — writing through the buffer.
-/

namespace LossWindows

/-! ## Computations that may fail -/

/-- A computation that may fail, and leaves a state behind in any case. -/
abbrev Attempt (σ ε : Type) := ExceptT ε (StateM σ)

namespace Attempt

variable {σ ε α β : Type}

/-- What a computation comes to when it starts from a state. -/
def outcome (x : Attempt σ ε α) (state : σ) : Except ε α × σ :=
  (x.run.run state).run

theorem outcome_pure (a : α) (state : σ) :
    outcome (pure a : Attempt σ ε α) state = (.ok a, state) := rfl

theorem outcome_throw (e : ε) (state : σ) :
    outcome (throw e : Attempt σ ε α) state = (.error e, state) := rfl

/-- What follows a failure is not begun. -/
theorem outcome_bind (x : Attempt σ ε α) (f : α → Attempt σ ε β) (state : σ) :
    outcome (x >>= f) state =
      match outcome x state with
      | (.ok a, state) => outcome (f a) state
      | (.error e, state) => (.error e, state) := by
  simp only [outcome, ExceptT.run_bind, StateT.run_bind, Id.run_bind]
  obtain ⟨⟨⟩, state⟩ := (x.run.run state).run <;> rfl

end Attempt

/-! ## Writers -/

/-- Why writing ends early. -/
inductive WriteError
  | nothingTaken
  | refused (reason : String)
deriving DecidableEq

def WriteError.message : WriteError → String
  | nothingTaken => "failed to write whole buffer"
  | refused reason => reason

/-- Writing behind the bytes that were taken already. -/
abbrev Writing := Attempt (List UInt8) WriteError

/-- A receiver of at most `limit` bytes that need not take all of what a call offers.  How many
of `offered` bytes it takes where there is room for `room` bytes is `portion room offered`. -/
structure Writer where
  limit : Nat
  portion : (room offered : Nat) → Nat
  portion_le_room : ∀ room offered, portion room offered ≤ room
  portion_le_offered : ∀ room offered, portion room offered ≤ offered
  portion_pos : ∀ {room offered}, 0 < room → 0 < offered → 0 < portion room offered

namespace Writer

/-- The writer that takes at most `most` bytes at each call. -/
def stepwise (limit most : Nat) (h : 0 < most) : Writer where
  limit := limit
  portion room offered := min most (min room offered)
  portion_le_room := by omega
  portion_le_offered := by omega
  portion_pos := by omega

/-- How many of the bytes that are offered behind those in `taken` a call takes. -/
def count (w : Writer) (taken bytes : List UInt8) : Nat :=
  w.portion (w.limit - taken.length) bytes.length

/-- One call.  It tells how many bytes were taken. -/
def call (w : Writer) (bytes : List UInt8) : Writing Nat := do
  let taken ← get
  set (taken ++ bytes.take (w.count taken bytes))
  return w.count taken bytes

/-- Offers bytes until all of them are taken. -/
def writeBytes (w : Writer) (bytes : List UInt8) : Writing PUnit :=
  if _ : bytes = [] then pure ⟨⟩
  else do
    let count ← w.call bytes
    if _ : count = 0 then throw .nothingTaken
    else w.writeBytes (bytes.drop count)
termination_by bytes.length
decreasing_by
  have hpos : 0 < bytes.length := List.length_pos_iff.2 ‹bytes ≠ []›
  rw [List.length_drop]
  omega

theorem outcome_call (w : Writer) (bytes taken : List UInt8) :
    (w.call bytes).outcome taken =
      (.ok (w.count taken bytes), taken ++ bytes.take (w.count taken bytes)) := rfl

end Writer

/-! ## Sinks -/

/-- A receiver of at most `limit` bytes, and whether it refused a text. -/
structure Sink where
  limit : Nat
  taken : ByteArray
  refused : Bool

namespace Sink

def empty (limit : Nat) : Sink :=
  ⟨limit, .empty, false⟩

/-- Offers a text.  An empty text always fits. -/
def write (sink : Sink) (text : String) : Sink :=
  match sink with
  | ⟨limit, taken, refused⟩ =>
    let room := limit - taken.size
    if refused then ⟨limit, taken, true⟩
    else if text.utf8ByteSize ≤ room then ⟨limit, taken ++ text.toUTF8, false⟩
    else ⟨limit, taken ++ text.toUTF8.extract 0 room, true⟩

def writeAll (sink : Sink) (texts : List String) : Sink :=
  texts.foldl write sink

/-- A sink that refused a text takes nothing any more. -/
theorem write_of_refused {sink : Sink} (h : sink.refused = true) (text : String) :
    sink.write text = sink := by
  cases sink
  simp_all [write]

/-- A text that fits is taken as a whole. -/
theorem write_of_fits {sink : Sink} {text : String} (h : sink.refused = false)
    (hf : text.utf8ByteSize ≤ sink.limit - sink.taken.size) :
    sink.write text = ⟨sink.limit, sink.taken ++ text.toUTF8, false⟩ := by
  cases sink
  simp_all [write]

/-- Of a text that does not fit, as much is taken as there is room for. -/
theorem write_of_not_fits {sink : Sink} {text : String} (h : sink.refused = false)
    (hf : ¬ text.utf8ByteSize ≤ sink.limit - sink.taken.size) :
    sink.write text =
      ⟨sink.limit, sink.taken ++ text.toUTF8.extract 0 (sink.limit - sink.taken.size), true⟩ := by
  cases sink
  simp_all [write]

end Sink

/-! ## Buffers -/

/-- The bytes that a writer took, and those that wait in front of it. -/
structure Buffered where
  taken : List UInt8
  waiting : List UInt8
deriving DecidableEq

/-- Writing through a buffer. -/
abbrev Buffering := Attempt Buffered WriteError

namespace Buffered

def empty : Buffered := ⟨[], []⟩

/-- Offers bytes past the buffer. -/
def offer (w : Writer) (bytes : List UInt8) : Buffering PUnit := ExceptT.mk do
  let buffered ← get
  let (result, taken) := (w.writeBytes bytes).outcome buffered.taken
  set { buffered with taken := taken }
  return result

/-- Offers what is waiting.  What is not taken goes on waiting. -/
def flush (w : Writer) : Buffering PUnit := ExceptT.mk do
  let buffered ← get
  let (result, taken) := (w.writeBytes buffered.waiting).outcome buffered.taken
  set (mk taken (buffered.waiting.drop (taken.length - buffered.taken.length)))
  return result

def keep (bytes : List UInt8) : Buffering PUnit :=
  modify fun buffered => { buffered with waiting := buffered.waiting ++ bytes }

/-- Puts bytes into an empty buffer of the given capacity, or past it where they would fill
it on their own. -/
def store (w : Writer) (capacity : Nat) (bytes : List UInt8) : Buffering PUnit :=
  if capacity ≤ bytes.length then offer w bytes else keep bytes

/-- Writes bytes.  Where they do not fit behind what is waiting, this goes first. -/
def write (w : Writer) (capacity : Nat) (bytes : List UInt8) : Buffering PUnit := do
  let spare := capacity - (← get).waiting.length
  if spare < bytes.length then flush w
  store w capacity bytes

end Buffered

end LossWindows
