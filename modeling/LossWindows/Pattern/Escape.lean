import LossWindows.Pattern.Cursor
import LossWindows.Pattern.Tree

/-!
# Escapes

What a backslash introduces: a character, a set of characters or a condition.

## Main definitions

* `Primitive` — what is written by one character or by one escape.
* `Primitive.read` — reading it.
* `decimal` — reading a number.
-/

namespace LossWindows.Pattern

/-- What is written by one character or by one escape. -/
inductive Primitive
  | literal (literal : Literal)
  | dot (span : Span)
  | assertion (span : Span) (assertion : Assertion)
  | letter (letter : LetterClass)
  | property (property : Property)

namespace Primitive

def span : Primitive → Span
  | .literal char => char.span
  | .letter set => set.span
  | .property set => set.span
  | dot span | assertion span _ => span

def tree : Primitive → Tree
  | .literal char => .literal char
  | .dot span => .dot span
  | .assertion span condition => .assertion span condition
  | .letter set => .letter set
  | .property set => .property set

/-- The set of characters that consists of it.  Conditions are none. -/
def classTree : Primitive → Except Fault ClassTree
  | .literal char => .ok (.literal char)
  | .letter set => .ok (.letter set)
  | .property set => .ok (.property set)
  | dot span | assertion span _ => .error ⟨.classEscapeInvalid, span, none⟩

/-- The boundary of a range that consists of it.  Only a character is one. -/
def boundary : Primitive → Except Fault Literal
  | .literal char => .ok char
  | other => .error ⟨.classRangeLiteral, other.span, none⟩

end Primitive

/-- The characters with a meaning of their own.  Behind a backslash they stand for
themselves. -/
def isMeta (c : Char) : Bool :=
  "\\.+*?()|[]\x7b\x7d^$#&-~".toList.contains c

/-- Whether a character stands for itself behind a backslash. -/
def isEscapable (c : Char) : Bool :=
  isMeta c || (c < '\x80' && !c.isAlphanum && c != '<' && c != '>')

def hexDigit? (c : Char) : Option Nat :=
  if c.isDigit then some (c.toNat - '0'.toNat)
  else if 'a' ≤ c ∧ c ≤ 'f' then some (c.toNat - 'a'.toNat + 10)
  else if 'A' ≤ c ∧ c ≤ 'F' then some (c.toNat - 'A'.toNat + 10)
  else none

def hexChar? (digits : List Char) : Option Char :=
  let value := (digits.filterMap hexDigit?).foldl (fun value d => 16 * value + d) 0
  if h : value.isValidChar then some (Char.ofNatAux value h) else none

/-- The character that a letter behind a backslash stands for. -/
def controlChar? : Char → Option Char
  | 'a' => some '\x07'
  | 'f' => some '\x0c'
  | 't' => some '\t'
  | 'n' => some '\n'
  | 'r' => some '\r'
  | 'v' => some '\x0b'
  | _ => none

/-- The set that a letter behind a backslash stands for. -/
def letterClass? : Char → Option (NamedClass × Bool)
  | 'd' => some (.digit, false)
  | 'D' => some (.digit, true)
  | 's' => some (.space, false)
  | 'S' => some (.space, true)
  | 'w' => some (.word, false)
  | 'W' => some (.word, true)
  | _ => none

/-- The condition that a character behind a backslash stands for. -/
def assertion? : Char → Option Assertion
  | 'A' => some .startText
  | 'z' => some .endText
  | 'b' => some .wordBoundary
  | 'B' => some .notWordBoundary
  | '<' => some .wordStart
  | '>' => some .wordEnd
  | _ => none

def namedBoundary? : String → Option Assertion
  | "start" => some .wordStart
  | "end" => some .wordEnd
  | "start-half" => some .wordStartHalf
  | "end-half" => some .wordEndHalf
  | _ => none

namespace Reading

/-- The largest number of times that a pattern can be repeated. -/
def maxCount : Nat := UInt32.size - 1

/-- Reads a number between blanks.  What is wrong with the number is told with it, for
another fault may come first. -/
def decimal : Reading (Except Fault Nat) := do
  let _ ← take Text.isBlank
  let start ← position
  let digits ← take Char.isDigit
  let span ← since start
  let _ ← take Text.isBlank
  let value := Nat.ofDigitChars 10 digits 0
  return if digits.isEmpty then .error ⟨.countEmpty, span, none⟩
    else if maxCount < value then .error ⟨.decimalInvalid, span, none⟩
    else .ok value

/-- Reads up to `count` hexadecimal digits, the first of which is the next character. -/
def hexDigits : Nat → Reading (List Char)
  | 0 => return []
  | count + 1 => do
    match ← rest with
    | [] => fail .escapeUnfinished (← here)
    | c :: _ =>
      if (hexDigit? c).isNone then fail .hexDigitInvalid (← charSpan)
      pass
      return c :: (← hexDigits count)

/-- Reads a character by its number.  The place is that of the backslash. -/
def hexEscape (start : Position) (kind : Char) : Reading Literal := do
  pass
  match ← rest with
  | [] => fail .escapeUnfinished (← here)
  | '\x7b' :: _ =>
    let brace ← position
    let first := (← charSpan).stop
    pass
    let digits ← take fun c => (hexDigit? c).isSome
    match ← rest with
    | [] => fail .escapeUnfinished (← since brace)
    | '\x7d' :: _ =>
      let span ← since first
      pass
      if digits.isEmpty then fail .hexEmpty (← since brace)
      match hexChar? digits with
      | some c => return ⟨← since start, c, false⟩
      | none => fail .hexInvalid span
    | _ => fail .hexDigitInvalid (← charSpan)
  | _ =>
    let first ← position
    let digits ← hexDigits (if kind = 'x' then 2 else if kind = 'u' then 4 else 8)
    match hexChar? digits with
    | some c => return ⟨← since start, c, kind = 'x'⟩
    | none => fail .hexInvalid (← since first)

def propertyEscape (start : Position) : Reading Property := do
  pass
  match ← rest with
  | [] => fail .escapeUnfinished (← here)
  | '\x7b' :: _ =>
    pass
    let name ← take (· != '\x7d')
    if (← rest).isEmpty then fail .escapeUnfinished (← here)
    bump
    return ⟨← since start, name⟩
  | c :: _ =>
    if c = '\\' then fail .propertyInvalid (← charSpan)
    pass
    return ⟨← since start, [c]⟩

/-- Reads the name of a word boundary in braces.  Nothing is read if the braces hold a
count instead. -/
def boundaryName (start : Position) : Reading (Option Assertion) := do
  let before ← get
  let inName (c : Char) : Bool := c.isAlpha || c == '-'
  pass
  match ← rest with
  | [] => fail .boundaryUnfinished (← since start)
  | c :: _ =>
    if inName c then
      let first ← position
      let name ← take inName
      if (← rest).head? != some '\x7d' then
        fail .boundaryUnclosed (← since before.position)
      let span ← since first
      bump
      match namedBoundary? (String.ofList name) with
      | some assertion => return some assertion
      | none => fail .boundaryUnknown span
    else
      set before
      return none

/-- Reads what the backslash introduces that comes next. -/
def escape : Reading Primitive := do
  let start ← position
  bump
  match ← rest with
  | [] => fail .escapeUnfinished (← since start)
  | c :: _ =>
    if c.isDigit then fail .backreference ⟨start, (← charSpan).stop⟩
    if c = 'x' ∨ c = 'u' ∨ c = 'U' then return .literal (← hexEscape start c)
    if c = 'p' ∨ c = 'P' then return .property (← propertyEscape start)
    bump
    let span ← since start
    if let some (named, negated) := letterClass? c then return .letter ⟨span, named, negated⟩
    if isEscapable c then return .literal ⟨span, c, false⟩
    if let some control := controlChar? c then return .literal ⟨span, control, false⟩
    match assertion? c with
    | none => fail .escapeUnknown span
    | some assertion =>
      if c = 'b' ∧ (← rest).head? = some '\x7b' then
        if let some named ← boundaryName start then
          return .assertion (← since start) named
      return .assertion span assertion

def primitive (c : Char) : Reading Primitive := do
  if c = '\\' then escape
  else
    let span ← charSpan
    bump
    return match c with
      | '.' => .dot span
      | '^' => .assertion span .startLine
      | '$' => .assertion span .endLine
      | c => .literal ⟨span, c, false⟩

end Reading

end LossWindows.Pattern
