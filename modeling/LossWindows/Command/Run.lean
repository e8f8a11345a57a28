import LossWindows.Command.Options
import LossWindows.InPlace
import LossWindows.Report

/-!
# Runs of the program

A run reads its arguments, then the file, and only then looks at the width; the first of the
three that fails decides how it ends.  The report is written step by step behind all of them,
through a buffer, so that writing is the last thing that can fail.

What the run takes place on is not part of it.  A host reads the arguments and the setting of
the log, opens files, and takes what is written; the steps are the same on every host.

An environment is a host of which everything is known beforehand: what the arguments come to,
what every file holds or why it cannot be read, which events are shown, and how standard output
takes bytes.  It keeps a record of what a run does.  Bytes that standard output took are out of
hand, be it that they wait in a buffer of its own, which the last step flushes as well.  Standard
error takes whatever it is given; a complaint that it refused would be a failure in its turn,
with the same status.

## Main definitions

* `Options.report` — the report that options and a file lead to.
* `Host` — what a run takes place on.
* `Host.steps` — the steps of a run.
* `Host.run` — a run, with its exit status.
* `Environment.run` — a run in an environment, with all that it leaves behind.
-/

namespace LossWindows.Command

/-- Why a run with proper arguments fails. -/
inductive Failure
  | reading (file : String) (e : ReadError)
  | building (e : BuildError)
  | writing (e : WriteError)
deriving DecidableEq

/-- The report on what was read from a file. -/
def Options.reportOn (options : Options) (read : Except ReadError Losses) :
    Logged (Except Failure Report) := do
  match read with
  | .error e => return .error (.reading options.file e)
  | .ok losses =>
    match ← losses.windows options.width with
    | .error e => return .error (.building e)
    | .ok windows =>
      losses.tally.tellShares
      Logged.tell (.summary windows.length losses.seqs.length)
      return .ok ⟨options.file, losses.tally, windows, options.wire⟩

/-- The report on a file with the given content, or without any. -/
def Options.report (options : Options) (content : Except ReadError ByteArray) :
    Logged (Except Failure Report) := do
  match content with
  | .error e => options.reportOn (.error e)
  | .ok bytes => options.reportOn (← Losses.readInPlace bytes)

/-! ## On any host -/

/-- What is said instead of a run, to whoever asks for help or gives wrong arguments. -/
structure Notice where
  isComplaint : Bool
  text : String
deriving DecidableEq

/-- What is said on standard error.  A warning is about the setting of the log. -/
inductive Remark
  | warning (text : String)
  | event (event : Event)
  | complaint (text : String)
  | failure (failure : Failure)
deriving DecidableEq

/-- Why a run does not come to the end of its steps. -/
inductive Ending
  | exit (status : UInt8)
  | failure (failure : Failure)
deriving DecidableEq

/-- What a run takes place on: what is known of it beforehand, and what can be done there.
Standard output has a buffer in front, which is written to and flushed. -/
structure Host (m : Type → Type) where
  arguments : Except Notice Options
  warnings : List String
  shows : Event → Bool
  open? : String → m (Except ReadError ByteArray)
  say : Remark → m PUnit
  write : String → m (Except WriteError Unit)
  flush : m (Except WriteError Unit)

namespace Host

variable {m : Type → Type} [Monad m] {α : Type} (host : Host m)

/-- The options.  Without them a run ends, with a failure where the arguments are wrong, and
with none where help is asked for, even if that cannot be written. -/
def options : ExceptT Ending m Options := do
  match host.arguments with
  | .ok options => return options
  | .error notice =>
    if notice.isComplaint then
      host.say (.complaint notice.text)
      throw (.exit 1)
    else
      let _ ← host.write notice.text
      let _ ← host.flush
      throw (.exit 0)

/-- Shows what is told, and goes on with the result if there is one. -/
def follow (told : Logged (Except Failure α)) : ExceptT Ending m α := do
  (told.events.toList.filter host.shows).forM fun event => host.say (.event event)
  match told.value with
  | .ok a => return a
  | .error failure => throw (.failure failure)

/-- Goes on only if something is written. -/
def require (written : m (Except WriteError Unit)) : ExceptT Ending m PUnit := do
  match ← written with
  | .ok _ => return
  | .error e => throw (.failure (.writing e))

/-- Writes a report, and does not leave any of it waiting. -/
def deliver (report : Report) : ExceptT Ending m PUnit := do
  report.writeWith fun fragment => require (host.write fragment)
  require host.flush

/-- What follows the warnings: the arguments, the file that they name, and the report on it. -/
def analyze : ExceptT Ending m PUnit := do
  let options ← host.options
  let report ← host.follow (options.report (← host.open? options.file))
  host.deliver report

/-- The steps of a run. -/
def steps : ExceptT Ending m PUnit := do
  host.warnings.forM fun text => host.say (.warning text)
  host.analyze

/-- A run.  A failure is reported at the end, and the status is that of a failure. -/
def run : m UInt8 := do
  match ← host.steps.run with
  | .ok _ => return 0
  | .error (.exit status) => return status
  | .error (.failure failure) =>
    host.say (.failure failure)
    return 1

end Host

/-! ## In an environment -/

/-- What a run finds.  The buffer in front of standard output holds `capacity` bytes. -/
structure Environment where
  arguments : Except Notice Options
  warnings : List String
  shows : Event → Bool
  files : String → Except ReadError ByteArray
  stdout : Writer
  capacity : Nat

/-- What a run has done so far. -/
structure Activity where
  opened : List String
  stderr : List Remark
  stdout : Buffered
deriving DecidableEq

/-- What a run leaves behind. -/
structure Outcome where
  status : UInt8
  opened : List String
  stderr : List Remark
  stdout : List UInt8
deriving DecidableEq

/-- Before the first step. -/
def Activity.none : Activity := ⟨[], [], .empty⟩

namespace Environment

def output (x : Buffering PUnit) : StateM Activity (Except WriteError Unit) := do
  let (result, stdout) := x.outcome (← get).stdout
  modify ({ · with stdout := stdout })
  return result

/-- The host that keeps a record of a run. -/
def host (env : Environment) : Host (StateM Activity) where
  arguments := env.arguments
  warnings := env.warnings
  shows := env.shows
  open? name := do
    modify fun activity => { activity with opened := activity.opened ++ [name] }
    return env.files name
  say remark := modify fun activity => { activity with stderr := activity.stderr ++ [remark] }
  write text := output (Buffered.write env.stdout env.capacity (Text.encode text.toList))
  flush := output (Buffered.flush env.stdout)

def run (env : Environment) : Outcome :=
  let (status, activity) := (env.host.run.run .none).run
  ⟨status, activity.opened, activity.stderr, activity.stdout.taken⟩

end Environment

end LossWindows.Command
