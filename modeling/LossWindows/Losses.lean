import LossWindows.Builder.Basic
import LossWindows.Tally
import LossWindows.Text.Lines

/-!
# Losses in a drop log

A drop log is read line by line.  Every drop line counts, however often its packet
is named; the sequence numbers themselves are kept once each and in ascending order,
as they are laid out in windows.  Other lines are skipped.

Reading stops at the first line that is not UTF-8.  What was told of the lines
before it stays told.

## Main definitions

* `ReadError` — why the content of a file cannot be had or used.
* `Losses` — the tally of a log and its sequence numbers.
* `Losses.read` — the losses in the content of a file.
* `Losses.windows` — their windows.
-/

namespace LossWindows

/-- Why a file cannot be read. -/
inductive ReadError
  | notFound
  | notDirectory
  | isDirectory
  | nameTooLong
  | nulInName
  | notUtf8
  | refused (reason : String)
deriving DecidableEq

namespace ReadError

/-- The wording of the cause on its own. -/
def cause : ReadError → String
  | notFound => "No such file or directory (os error 2)"
  | notDirectory => "Not a directory (os error 20)"
  | isDirectory => "Is a directory (os error 21)"
  | nameTooLong => "File name too long (os error 36)"
  | nulInName => "file name contained an unexpected NUL byte"
  | notUtf8 => "stream did not contain valid UTF-8"
  | refused reason => reason

def message (e : ReadError) : String :=
  s!"IO error: {e.cause}"

end ReadError

/-- What one log tells.  The sequence numbers are ascending and distinct. -/
structure Losses where
  tally : Tally
  seqs : List UInt32
deriving DecidableEq

/-- What the lines read so far come to.  The sequence numbers are in the order of the lines,
and lines that tell of no drop are counted in 32 bits. -/
structure Reading where
  tally : Tally
  seqs : Array UInt32
  skipped : Int32

namespace Reading

def empty : Reading := ⟨Tally.empty, #[], 0⟩

/-- Reads one more line.  The counter of skipped lines wraps around, as it does in a release
build; a debug build ends the run there. -/
def line (reading : Reading) (text : String) : Logged Reading :=
  match reading with
  | ⟨tally, seqs, skipped⟩ =>
    match Drop.ofLine? text with
    | some drop => (⟨·, seqs.push drop.seq, skipped⟩) <$> tally.record drop
    | none => pure ⟨tally, seqs, skipped + 1⟩

/-- Reads the remaining lines, given as bytes. -/
def linesFrom (told : Logged Reading) : List (List UInt8) → Logged (Except ReadError Reading)
  | [] => .ok <$> told
  | bytes :: rest =>
    match String.fromUTF8? bytes.toByteArray with
    | some text => linesFrom (told >>= (·.line text)) rest
    | none => (fun _ => .error .notUtf8) <$> told

/-- Tells how many drops were repetitions, if any. -/
def tellRepeated (repeated : Nat) : Logged PUnit :=
  if repeated = 0 then pure ⟨⟩ else Logged.tell (.duplicates repeated)

/-- The losses, once all lines are read. -/
def finish (reading : Reading) : Logged Losses := do
  let sorted := reading.seqs.toList.mergeSort
  let distinct := sorted.eraseReps
  tellRepeated (sorted.length - distinct.length)
  Logged.tell (.logRead reading.tally.total reading.skipped)
  return ⟨reading.tally, distinct⟩

end Reading

namespace Losses

def lines (content : ByteArray) : List (List UInt8) :=
  Text.lines '\n'.toUInt8 '\r'.toUInt8 content.data.toList

/-- The losses in the content of a file. -/
def read (content : ByteArray) : Logged (Except ReadError Losses) := do
  match ← Reading.linesFrom (pure Reading.empty) (lines content) with
  | .error e => return .error e
  | .ok reading => .ok <$> reading.finish

def windows (losses : Losses) (width : Nat) : Logged (Except BuildError (List Window)) :=
  windowsOf width losses.seqs

end Losses

end LossWindows
