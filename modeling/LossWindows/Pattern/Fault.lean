import LossWindows.Text.Lines

/-!
# Faults of patterns

A fault of a pattern has a cause and a place, and some have a second place, where
that stands which the first one is in conflict with.  A complaint shows the pattern
with marks below the places, and numbers its lines when there are several.  A place is named
by its line and its column, both counted from one, in characters.

## Main definitions

* `Position` — a place between characters.
* `Span` — a part of a pattern.
* `Cause` — what is wrong.
* `Fault` — what is wrong, and where.
* `Fault.message` — the complaint.
-/

namespace LossWindows.Pattern

/-! ## Places -/

/-- A place in a pattern, in front of a character or at the end. -/
structure Position where
  line : Nat
  column : Nat
deriving DecidableEq

namespace Position

def first : Position := ⟨1, 1⟩

def after (position : Position) (c : Char) : Position :=
  if c = '\n' then ⟨position.line + 1, 1⟩ else ⟨position.line, position.column + 1⟩

/-- Whether a place is not behind another one. -/
def atMost (a b : Position) : Bool :=
  a.line < b.line || (a.line == b.line && a.column ≤ b.column)

end Position

/-- A part of a pattern. -/
structure Span where
  start : Position
  stop : Position
deriving DecidableEq

namespace Span

def empty (position : Position) : Span := ⟨position, position⟩

def isOneLine (span : Span) : Bool :=
  span.start.line == span.stop.line

/-- How many columns are marked for a part of one line: at least one. -/
def width (span : Span) : Nat :=
  max 1 (span.stop.column - span.start.column)

end Span

/-! ## Faults -/

/-- How deeply a pattern may be nested. -/
def maxDepth : Nat := 250

/-- What is wrong with a pattern. -/
inductive Cause
  | classEscapeInvalid
  | classRangeInvalid
  | classRangeLiteral
  | classUnclosed
  | decimalInvalid
  | hexEmpty
  | hexInvalid
  | hexDigitInvalid
  | escapeUnfinished
  | escapeUnknown
  | flagNegationDangling
  | flagDuplicate
  | flagNegationRepeated
  | flagUnfinished
  | flagUnknown
  | groupNameDuplicate
  | groupNameEmpty
  | groupNameInvalid
  | groupNameUnfinished
  | groupUnclosed
  | groupUnopened
  | depthExceeded
  | countInvalid
  | countEmpty
  | countUnclosed
  | repetitionMissing
  | boundaryUnclosed
  | boundaryUnknown
  | boundaryUnfinished
  | propertyInvalid
  | backreference
  | lookAround
  | unicodeNotAllowed
  | utf8Invalid
  | propertyUnknown
  | propertyValueUnknown
  | perlClassUnavailable
  | caseUnavailable
deriving DecidableEq

def Cause.message : Cause → String
  | classEscapeInvalid => "invalid escape sequence found in character class"
  | classRangeInvalid => "invalid character class range, the start must be <= the end"
  | classRangeLiteral => "invalid range boundary, must be a literal"
  | classUnclosed => "unclosed character class"
  | decimalInvalid => "decimal literal invalid"
  | hexEmpty => "hexadecimal literal empty"
  | hexInvalid => "hexadecimal literal is not a Unicode scalar value"
  | hexDigitInvalid => "invalid hexadecimal digit"
  | escapeUnfinished => "incomplete escape sequence, reached end of pattern prematurely"
  | escapeUnknown => "unrecognized escape sequence"
  | flagNegationDangling => "dangling flag negation operator"
  | flagDuplicate => "duplicate flag"
  | flagNegationRepeated => "flag negation operator repeated"
  | flagUnfinished => "expected flag but got end of regex"
  | flagUnknown => "unrecognized flag"
  | groupNameDuplicate => "duplicate capture group name"
  | groupNameEmpty => "empty capture group name"
  | groupNameInvalid => "invalid capture group character"
  | groupNameUnfinished => "unclosed capture group name"
  | groupUnclosed => "unclosed group"
  | groupUnopened => "unopened group"
  | depthExceeded =>
    s!"exceed the maximum number of nested parentheses/brackets ({maxDepth})"
  | countInvalid => "invalid repetition count range, the start must be <= the end"
  | countEmpty => "repetition quantifier expects a valid decimal"
  | countUnclosed => "unclosed counted repetition"
  | repetitionMissing => "repetition operator missing expression"
  | boundaryUnclosed =>
    "special word boundary assertion is either unclosed or contains an invalid character"
  | boundaryUnknown =>
    "unrecognized special word boundary assertion, valid choices are: start, end, " ++
    "start-half or end-half"
  | boundaryUnfinished =>
    "found either the beginning of a special word boundary or a bounded repetition on a " ++
    "\\b with an opening brace, but no closing brace"
  | propertyInvalid => "invalid Unicode character class"
  | backreference => "backreferences are not supported"
  | lookAround => "look-around, including look-ahead and look-behind, is not supported"
  | unicodeNotAllowed => "Unicode not allowed here"
  | utf8Invalid => "pattern can match invalid UTF-8"
  | propertyUnknown => "Unicode property not found"
  | propertyValueUnknown => "Unicode property value not found"
  | perlClassUnavailable =>
    "Unicode-aware Perl class not found (make sure the unicode-perl feature is enabled)"
  | caseUnavailable =>
    "Unicode-aware case insensitivity matching is not available " ++
    "(make sure the unicode-case feature is enabled)"

/-- What is wrong with a pattern, and where. -/
structure Fault where
  cause : Cause
  span : Span
  related : Option Span
deriving DecidableEq

namespace Fault

/-- The parts of a pattern that a fault is about, from left to right. -/
def spans (fault : Fault) : List Span :=
  match fault.related with
  | none => [fault.span]
  | some related =>
    if related.start.atMost fault.span.start then [related, fault.span]
    else [fault.span, related]

/-- The marks below a line, behind the first `column` columns. -/
def marks : Nat → List Span → List Char
  | _, [] => []
  | column, span :: spans =>
    let gap := span.start.column - 1 - column
    List.replicate gap ' ' ++ List.replicate span.width '^' ++
      marks (column + gap + span.width) spans

/-- The line with a number, and the marks that belong below it. -/
def markedLine (fault : Fault) (digits number : Nat) (line : List Char) : List Char :=
  let margin := if digits = 0 then 4 else digits + 2
  let head := if digits = 0 then [] else (toString number).toList.leftpad digits ' ' ++ [':']
  let spans := fault.spans.filter fun span => span.isOneLine && span.start.line == number
  let below :=
    if spans.isEmpty then [] else List.replicate margin ' ' ++ marks 0 spans ++ ['\n']
  head.rightpad margin ' ' ++ line ++ ['\n'] ++ below

/-- The lines of a pattern with their marks.  A pattern that ends with a newline has
one more line, which is counted but not shown. -/
def marked (fault : Fault) (pattern : List Char) : List Char :=
  let lines := Text.lines '\n' '\r' pattern
  let count := if pattern.getLast? = some '\n' then lines.length + 1 else lines.length
  let digits := if count ≤ 1 then 0 else (toString count).length
  (lines.zipIdx.map fun (line, index) => fault.markedLine digits (index + 1) line).flatten

/-- The note on a part that goes over several lines. -/
def spread (span : Span) : String :=
  s!"on line {span.start.line} (column {span.start.column}) " ++
  s!"through line {span.stop.line} (column {span.stop.column - 1})"

def message (fault : Fault) (pattern : String) : String :=
  let shown := String.ofList (fault.marked pattern.toList)
  if pattern.toList.contains '\n' then
    let rule := String.ofList (List.replicate 79 '~')
    let notes := (fault.spans.filter (!·.isOneLine)).map spread
    let notes := if notes.isEmpty then "" else "\n".intercalate notes ++ "\n"
    s!"regex parse error:\n{rule}\n{shown}{rule}\n{notes}error: {fault.cause.message}"
  else
    s!"regex parse error:\n{shown}error: {fault.cause.message}"

end Fault

end LossWindows.Pattern
