import LossWindows.Command.Run
import LossWindows.EventFilter

/-!
# What a run says

The texts of what a run says on standard error, and of what it says instead of running.  An
event is shown without the time at which it happened, and of a complaint about arguments the
first line is shown.

No step of a run depends on these texts, nor on how arguments and settings are read.

## Main definitions

* `Failure.text`, `Remark.text` — the texts on standard error.
* `Stop.notice` — the help text and complaints about arguments.
-/

namespace LossWindows.Command

/-- The text of a failure.  A file that cannot be read is named first and the causes
follow, from the outermost to the innermost. -/
def Failure.text : Failure → String
  | .reading file e =>
    s!"Error: reading {file}\n\nCaused by:\n    0: {e.message}\n    1: {e.cause}\n"
  | .building e => s!"Error: {e.message}\n"
  | .writing e => s!"Error: {e.message}\n"

/-- The line that shows an event, with the level in a column of five letters. -/
def eventLine (event : Event) : String :=
  let level := String.ofList (event.level.name.toList.rightpad 5 ' ')
  s!"{level} {event.origin}] {event.message}\n"

def Remark.text : Remark → String
  | .warning text | .complaint text => text
  | .event e => eventLine e
  | .failure f => f.text

def faultLine (fault : SettingFault) : String :=
  s!"warning: {fault.message}, ignoring it\n"

def helpText : String :=
  "Summarize switch packet drops of a simulation trace as bitmap windows. " ++
  "Use `RUST_LOG=debug` to increase logging verbosity\n" ++
  "\n" ++
  "Usage: lossmap [OPTIONS] <FILE>\n" ++
  "\n" ++
  "Arguments:\n" ++
  "  <FILE>  Switch drop log to analyze\n" ++
  "\n" ++
  "Options:\n" ++
  "  -w, --width <WIDTH>  Bitmap width of each window (1 to 256) [default: 16]\n" ++
  "      --wire           Also print the packed wire words of each bitmap\n" ++
  "  -h, --help           Print help\n"

/-- What is said where arguments lead to no options.  Interrupted control sequences go on
where a complaint is written to standard error. -/
def Stop.notice : Stop → Notice
  | .help => ⟨false, helpText⟩
  | .usage e => ⟨true, e.headline .pauses ++ "\n"⟩

end LossWindows.Command
