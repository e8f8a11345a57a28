import LossWindows.Drop.Kind
import LossWindows.Share

/-!
# Events

What is worth telling while drops are read and windows are made.  An event is kept
as what happened; its level, its origin and its wording are functions of it, so
that nothing but an observer depends on them.

## Main definitions

* `Level` — how much an event matters.
* `Event` — what happened.
* `Event.message` — how it is told.
-/

namespace LossWindows

/-- How much an event matters, from the most to the least. -/
inductive Level
  | error
  | warn
  | info
  | debug
  | trace
deriving DecidableEq

namespace Level

/-- All levels, from the one that matters most. -/
def all : List Level :=
  [error, warn, info, debug, trace]

/-- The place of a level in that order, counted from one. -/
def rank : Level → Nat
  | error => 1
  | warn => 2
  | info => 3
  | debug => 4
  | trace => 5

def name : Level → String
  | error => "ERROR"
  | warn => "WARN"
  | info => "INFO"
  | debug => "DEBUG"
  | trace => "TRACE"

end Level

/-- What happened. -/
inductive Event
  /-- A window from `first` to `last` was closed, because the drop of `next` was out
  of its reach. -/
  | windowClosed (first : UInt32) (last : Nat) (next : UInt32)
  | unknownKind (tag : Int64) (seq : UInt32)
  | duplicates (count : Nat)
  /-- A log was read to its end.  The counter of skipped lines has 32 bits. -/
  | logRead (records : Nat) (skipped : Int32)
  | share (kind : DropKind) (part : Share)
  | summary (windows drops : Nat)
deriving DecidableEq

namespace Event

/-- How much an event matters. -/
def level : Event → Level
  | windowClosed .. => .trace
  | unknownKind .. | duplicates .. | logRead .. => .debug
  | share .. | summary .. => .info

/-- The part of the program that an event comes from. -/
def origin : Event → String
  | windowClosed .. => "lossmap::encode"
  | unknownKind .. | share .. => "lossmap::loss"
  | duplicates .. | logRead .. => "lossmap::source"
  | summary .. => "lossmap"

def message : Event → String
  | windowClosed first last next => s!"Closing window {first}..={last} at {next}"
  | unknownKind tag seq => s!"Unknown drop kind {tag} for {seq}"
  | duplicates count => s!"Dropped {count} duplicate sequence numbers"
  | logRead records skipped => s!"Read {records} records, skipped {skipped} lines"
  | share kind part =>
    s!"Loss {kind.name}: {part.percentText} % ({part.count} of {part.total})"
  | summary windows drops => s!"{windows} windows from {drops} drops"

end Event

end LossWindows
