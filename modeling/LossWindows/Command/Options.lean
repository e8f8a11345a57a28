import LossWindows.Text.Lines
import LossWindows.Text.Numeral
import LossWindows.Text.Terminal

/-!
# Command lines

The arguments of the program: a file, the bitmap width of its windows, and whether
wire words are shown.  They are read from left to right and the first complaint
wins, with one refinement: a width in an argument of its own is examined only when
the next argument turns out to be acceptable, or at the end.  So an unknown option
is complained about even when a bad width stands before it.

## Main definitions

* `Form` — which options there are.
* `Options` — what the arguments ask for.
* `Flag` — the options by name.
* `UsageError` — what is wrong with arguments.
* `Options.parse` — reading arguments.
-/

namespace LossWindows.Command

open Text (Numeral.Fault)
open Text.Terminal (Interruption)

/-- Which options there are: those of a source are the file and the width, and a program has
the wire words as well. -/
inductive Form
  | source
  | program
deriving DecidableEq

/-- What the arguments ask for.  The width is not checked against its bounds. -/
structure Options where
  file : String
  width : Nat
  wire : Bool
deriving DecidableEq

/-- An option by its name. -/
inductive Flag
  | width
  | wire
  | help
deriving DecidableEq

namespace Flag

/-- How an option is shown in complaints. -/
def display : Flag → String
  | width => "--width <WIDTH>"
  | wire => "--wire"
  | help => "--help"

/-- The option with a long name, if the form has it. -/
def ofName? (form : Form) (name : String) : Option Flag :=
  if name = "width" then some width
  else if name = "wire" ∧ form = .program then some wire
  else if name = "help" then some help
  else none

end Flag

/-- What is wrong with arguments. -/
inductive UsageError
  | unknownArgument (argument : String)
  | missingWidth
  | invalidWidth (value : String) (fault : Numeral.Fault)
  | repeated (flag : Flag)
  | unexpectedValue (flag : Flag) (value : String)
  | missingFile
deriving DecidableEq

namespace UsageError

/-- A part of the arguments as a complaint quotes it: what a terminal shows of it. -/
def quoted (how : Interruption) (text : String) : String :=
  String.ofList (Text.Terminal.visible how text.toList)

def wording (how : Interruption) : UsageError → String
  | unknownArgument argument => s!"unexpected argument '{quoted how argument}' found"
  | missingWidth =>
    s!"a value is required for '{Flag.width.display}' but none was supplied"
  | invalidWidth value fault =>
    s!"invalid value '{quoted how value}' for '{Flag.width.display}': {fault.message}"
  | repeated flag => s!"the argument '{flag.display}' cannot be used multiple times"
  | unexpectedValue flag value =>
    s!"unexpected value '{quoted how value}' for '{flag.display}' found; no more were expected"
  | missingFile => "the following required arguments were not provided:"

/-- The first line of a complaint.  A line ending in what it quotes ends it early. -/
def headline (how : Interruption) (e : UsageError) : String :=
  String.ofList ((Text.lines '\n' '\r' s!"error: {e.wording how}".toList).headD [])

end UsageError

/-- Why arguments do not lead to options. -/
inductive Stop
  | help
  | usage (e : UsageError)
deriving DecidableEq

/-- A width option whose value comes in an argument of its own. -/
inductive Pending
  | idle
  | awaiting
  | given (value : String)
deriving DecidableEq

/-- What the arguments so far come to.  Behind a double dash every argument is a file. -/
structure Scan where
  width : Option Nat
  wire : Bool
  file : Option String
  pending : Pending
  literal : Bool

namespace Scan

def empty : Scan := ⟨none, false, none, .idle, false⟩

/-- The largest number that a width can be written as. -/
def maxNumber : Nat := UInt64.size - 1

def setWidth (scan : Scan) (value : String) : Except Stop Scan :=
  match scan.width with
  | some _ => .error (.usage (.repeated .width))
  | none =>
    match Text.Numeral.unsigned maxNumber value.toList with
    | .ok width => .ok { scan with width := some width }
    | .error fault => .error (.usage (.invalidWidth value fault))

/-- Examines a pending width. -/
def settle (scan : Scan) : Except Stop Scan :=
  match scan.pending with
  | .idle => .ok scan
  | .awaiting => .error (.usage .missingWidth)
  | .given value => setWidth { scan with pending := .idle } value

/-- Takes a width option with its attached value, if it has one. -/
def widthGiven (scan : Scan) (value : Option String) : Except Stop Scan := do
  let scan ← scan.settle
  match value with
  | some value => scan.setWidth value
  | none => return { scan with pending := .awaiting }

def wireGiven (scan : Scan) : Except Stop Scan := do
  let scan ← scan.settle
  if scan.wire then throw (.usage (.repeated .wire))
  return { scan with wire := true }

def helpGiven (scan : Scan) : Except Stop Scan := do
  let _ ← scan.settle
  throw .help

def fileGiven (scan : Scan) (argument : String) : Except Stop Scan :=
  match scan.file with
  | some _ => .error (.usage (.unknownArgument argument))
  | none => do
    let scan ← scan.settle
    return { scan with file := some argument }

/-- Takes a long option: a name behind two dashes, with or without a value behind an
equals sign.  A value where none belongs is complained about before anything else. -/
def long (form : Form) (scan : Scan) (name : String) (value : Option String) :
    Except Stop Scan :=
  match Flag.ofName? form name, value with
  | none, _ => .error (.usage (.unknownArgument s!"--{name}"))
  | some .width, value => scan.widthGiven value
  | some flag, some value => .error (.usage (.unexpectedValue flag value))
  | some .wire, none => scan.wireGiven
  | some .help, none => scan.helpGiven

/-- Takes a group of short options behind one dash.  The width option takes the rest
of the group as its value, and help ends the reading, so the first letter decides. -/
def short (scan : Scan) (letter : Char) (rest : List Char) : Except Stop Scan :=
  match letter, rest with
  | 'w', [] => scan.widthGiven none
  | 'w', '=' :: value => scan.widthGiven (some (String.ofList value))
  | 'w', value => scan.widthGiven (some (String.ofList value))
  | 'h', _ => scan.helpGiven
  | letter, _ => .error (.usage (.unknownArgument s!"-{letter}"))

/-- Takes an argument that starts with no dash, or is a single one. -/
def plain (scan : Scan) (argument : String) : Except Stop Scan :=
  match scan.pending with
  | .awaiting => .ok { scan with pending := .given argument }
  | _ => scan.fileGiven argument

def argument (form : Form) (scan : Scan) (argument : String) : Except Stop Scan :=
  if scan.literal then scan.fileGiven argument
  else
    match argument.toList with
    | ['-', '-'] => .ok { scan with literal := true }
    | '-' :: '-' :: text =>
      let name := text.takeWhile (· ≠ '=')
      let value := (text.dropWhile (· ≠ '=')).tail?
      scan.long form (String.ofList name) (value.map String.ofList)
    | '-' :: letter :: rest => scan.short letter rest
    | _ => scan.plain argument

end Scan

namespace Options

def defaultWidth : Nat := 16

/-- The options once all arguments are taken.  The missing file is noticed last. -/
def ofScan (scan : Scan) : Except Stop Options := do
  let scan ← scan.settle
  match scan.file with
  | some file => return ⟨file, scan.width.getD defaultWidth, scan.wire⟩
  | none => throw (.usage .missingFile)

def parse (form : Form) (arguments : List String) : Except Stop Options := do
  ofScan (← arguments.foldlM (Scan.argument form) Scan.empty)

end Options

end LossWindows.Command
