import LossWindows.Command.Wording

/-!
# The program

A run on the system itself: the arguments of the process, the variable that chooses events,
the files of the system and its standard streams.
-/

namespace LossWindows

/-- The content of a file in the directory tree of the system.  A complaint about the
type of a file that comes without a name arises when it is read, not when it is
opened, so it is about a directory. -/
def readContent (name : String) : IO (Except ReadError ByteArray) := do
  try
    return .ok (← IO.FS.readBinFile name)
  catch
    | .noFileOrDirectory .. => return .error .notFound
    | .inappropriateType none .. => return .error .isDirectory
    | .inappropriateType (some _) .. => return .error .notDirectory
    | .invalidArgument .. => return .error .nameTooLong
    | .permissionDenied .. => return .error (.refused "Permission denied (os error 13)")
    | e => return .error (.refused (toString e))

/-- Whether something could be written. -/
def written (action : IO Unit) : IO (Except WriteError Unit) := do
  try
    action
    return .ok ⟨⟩
  catch e => return .error (.refused (toString e))

/-- The system as a host of runs. -/
def systemHost (arguments : List String) (setting : Option String) : Command.Host IO :=
  let (filter, faults) := EventFilter.ofSetting? setting
  { arguments := (Command.Options.parse .program arguments).mapError Command.Stop.notice
    warnings := faults.map Command.faultLine
    shows := filter.shows
    open? := readContent
    say := fun remark => IO.eprint remark.text
    write := fun text => written (IO.print text)
    flush := written do (← IO.getStdout).flush }

end LossWindows

open LossWindows

def main (arguments : List String) : IO UInt32 := do
  let status ← (systemHost arguments (← IO.getEnv "RUST_LOG")).run
  return status.toUInt32
