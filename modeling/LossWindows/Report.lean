import LossWindows.Tally
import LossWindows.Text.Hex
import LossWindows.Window.Wire
import LossWindows.Writer

/-!
# Reports

The summary of a drop log for human readers: the tally by kind, then one line for
each window, on request with the wire words of its bitmap below.  A log without any
drop line has a report of its own, a single line.

A report is not written as one text.  Each of its lines is formatted in fragments, a bitmap
position by position, and these are written one after another.

## Main definitions

* `Report` — what a report tells.
* `Report.lines` — its lines.
* `Report.text` — its text.
* `Report.writeWith` — writing it fragment by fragment, to anything that takes texts.
* `Report.writeBy` — writing it to a writer.
* `Report.writeTo` — writing it to a sink that may be too small.
-/

namespace LossWindows

/-- What a report tells. -/
structure Report where
  name : String
  tally : Tally
  windows : List Window
  wire : Bool

namespace Report

def kindLine (tally : Tally) (kind : DropKind) : String :=
  s!"  Kind {kind.code} ({kind.name}): {tally.count kind} packets, " ++
    s!"{(tally.share kind).percentText} %"

/-- The line of a window.  Windows are numbered from one. -/
def windowLine (number : Nat) (window : Window) : String :=
  s!"  Window {number}: start={window.start}, length={window.len}, bitmap={window.bitmap}"

def wireLine (window : Window) : String :=
  let words := window.wire.toList.map fun word => String.ofList (Text.Hex.encode word)
  "    wire=[" ++ ", ".intercalate words ++ "]"

def windowLines (wire : Bool) (number : Nat) (window : Window) : List String :=
  windowLine number window :: if wire then [wireLine window] else []

def lines (report : Report) : List String :=
  if report.tally.total = 0 then
    [s!"No valid records in {report.name}"]
  else
    [s!"Analyzing {report.name}",
     s!"Total records: {report.tally.total}",
     "Drops by kind:"] ++
    DropKind.all.map (kindLine report.tally) ++
    ["", "Windows:"] ++
    (report.windows.zipIdx 1).flatMap fun (window, number) =>
      windowLines report.wire number window

/-- The lines as they are written, each with its newline. -/
def pieces (report : Report) : List String :=
  report.lines.map (· ++ "\n")

def text (report : Report) : String :=
  String.join report.pieces

/-- Writes a report piece by piece. -/
def writeTo (report : Report) (sink : Sink) : Sink :=
  sink.writeAll report.pieces

/-! ## Fragments -/

/-- The fragments of the line of a kind of drops. -/
def kindFragments (tally : Tally) (kind : DropKind) : List String :=
  ["  Kind ", toString kind.code, " (", kind.name, "): ", toString (tally.count kind),
    " packets, ", (tally.share kind).percentText, " %"]

def windowFragments (number : Nat) (window : Window) : List String :=
  ["  Window ", toString number, ": start=", toString window.start, ", length=",
    toString window.len, ", bitmap="] ++
  window.bits.map fun bit => if bit then "1" else "0"

def wireFragments (window : Window) : List String :=
  let words := window.wire.toList.map fun word => String.ofList (Text.Hex.encode word)
  ["    wire=[", ", ".intercalate words, "]"]

section Writing

variable {m : Type → Type} [Monad m]

/-- Writes a line in fragments, and its newline. -/
def writeLine (write : String → m PUnit) (fragments : List String) : m PUnit := do
  fragments.forM write
  write "\n"

/-- Writes a report fragment by fragment. -/
def writeWith (write : String → m PUnit) (report : Report) : m PUnit :=
  if report.tally.total = 0 then
    writeLine write ["No valid records in ", report.name]
  else do
    writeLine write ["Analyzing ", report.name]
    writeLine write ["Total records: ", toString report.tally.total]
    writeLine write ["Drops by kind:"]
    DropKind.all.forM fun kind => writeLine write (kindFragments report.tally kind)
    writeLine write []
    writeLine write ["Windows:"]
    (report.windows.zipIdx 1).forM fun (window, number) => do
      writeLine write (windowFragments number window)
      if report.wire then writeLine write (wireFragments window)

end Writing

/-- Writes a report to a writer, which is offered each fragment until it has taken it. -/
def writeBy (report : Report) (w : Writer) : Writing PUnit :=
  report.writeWith fun fragment => w.writeBytes (Text.encode fragment.toList)

/-! ## Lines and texts -/

/-- The parts of the line of a kind. -/
theorem kindLine_eq (tally : Tally) (kind : DropKind) :
    kindLine tally kind =
      "  Kind " ++ toString kind.code ++ " (" ++ kind.name ++ "): " ++
        toString (tally.count kind) ++ " packets, " ++
        ((tally.share kind).percentText ++ " %") := rfl

theorem windowLine_eq (number : Nat) (window : Window) :
    windowLine number window =
      "  Window " ++ toString number ++ ": start=" ++ toString window.start ++ ", length=" ++
        toString window.len ++ ", bitmap=" ++ window.bitmap := rfl

/-- A report without drops names the log and nothing else. -/
theorem lines_of_total_eq_zero {report : Report} (h : report.tally.total = 0) :
    report.lines = [s!"No valid records in {report.name}"] := by
  simp [lines, h]

/-- The text of a report is that of its lines. -/
theorem toList_text (report : Report) :
    report.text.toList = report.lines.flatMap fun line => line.toList ++ ['\n'] := by
  rw [text, pieces, String.toList_join, List.flatMap_map]
  simp only [String.toList_append]
  rfl

end Report

end LossWindows
