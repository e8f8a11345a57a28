import LossWindows.Pattern.Expr
import LossWindows.Pattern.Fault

/-!
# The meaning of written patterns

Switches decide what a written pattern matches.  Those that are set in a group are
in force up to its end.  Where octets count instead of characters, a pattern may
still match whole characters only, and properties have no meaning; where characters
count, there is no data on them, so neither properties nor the letters for digits,
blanks and words nor case have a meaning.

## Main definitions

* `Modes` — the switches in force.
* `ClassTree.meaning` — the characters of a written set.
* `Tree.meaning` — what a written pattern matches.
-/

namespace LossWindows.Pattern

/-- The switches in force. -/
structure Modes where
  caseless : Bool
  multiLine : Bool
  dotAll : Bool
  unicode : Bool
  crlf : Bool

namespace Modes

/-- The switches in force at the start of a pattern. -/
def initial : Modes := ⟨false, false, false, true, false⟩

/-- The switches in force behind some that are written. -/
def apply (modes : Modes) (flags : Flags) : Modes :=
  ⟨(flags.state? .caseless).getD modes.caseless, (flags.state? .multiLine).getD modes.multiLine,
    (flags.state? .dotAll).getD modes.dotAll, (flags.state? .unicode).getD modes.unicode,
    (flags.state? .crlf).getD modes.crlf⟩

end Modes

/-- A set of characters while it is put together. -/
structure CaseSet where
  ranges : List (Nat × Nat)
  /-- Whether the other case of every character is known to be in the set. -/
  closed : Bool

namespace CaseSet

def empty : CaseSet := ⟨[], true⟩

def charset (set : CaseSet) : Charset := .ofRanges set.ranges

def add (set : CaseSet) (low high : Nat) : CaseSet :=
  ⟨(low, high) :: set.ranges, false⟩

def union (a b : CaseSet) : CaseSet :=
  if b.ranges.isEmpty then a else ⟨b.ranges ++ a.ranges, a.closed && b.closed⟩

/-- Adds the other case of every character. -/
def fold (modes : Modes) (span : Span) (set : CaseSet) : Except Fault CaseSet :=
  if !modes.caseless then .ok set
  else if !modes.unicode then .ok ⟨set.charset.foldAscii.ranges, true⟩
  else if set.ranges.isEmpty || set.closed then .ok set
  else .error ⟨.caseUnavailable, span, none⟩

/-- Takes all other characters, if that is asked for. -/
def negate (modes : Modes) (negated : Bool) (set : CaseSet) : CaseSet :=
  if negated then
    let top := if modes.unicode then Charset.maxCode else 0xff
    ⟨(set.charset.negate top).ranges, set.closed || set.ranges.isEmpty⟩
  else set

/-- Checks that the octets in a set are characters. -/
def checked (modes : Modes) (span : Span) (set : CaseSet) : Except Fault CaseSet :=
  if modes.unicode || set.charset.isAscii then .ok set else .error ⟨.utf8Invalid, span, none⟩

/-- Adds the other case, takes all other characters and checks the octets. -/
def finish (modes : Modes) (span : Span) (negated : Bool) (set : CaseSet) :
    Except Fault CaseSet := do
  (← set.fold modes span).negate modes negated |>.checked modes span

end CaseSet

/-- The code point of a written character, which may be an octet. -/
def Literal.code (modes : Modes) (literal : Literal) : Except Fault Nat :=
  if !modes.unicode && literal.octet && Charset.maxAscii < literal.char.toNat then
    .error ⟨.utf8Invalid, literal.span, none⟩
  else .ok literal.char.toNat

/-- The code point of a character that is written in a set. -/
def Literal.classCode (modes : Modes) (literal : Literal) : Except Fault Nat := do
  let code ← literal.code modes
  if !modes.unicode && Charset.maxAscii < code then
    throw ⟨.unicodeNotAllowed, literal.span, none⟩
  return code

def LetterClass.meaning (modes : Modes) (letter : LetterClass) : Except Fault CaseSet :=
  if modes.unicode then .error ⟨.perlClassUnavailable, letter.span, none⟩
  else
    (CaseSet.negate modes letter.negated ⟨Charset.namedRanges letter.named, true⟩).checked
      modes letter.span

/-- A name without regard to case, blanks, dashes, underscores and a leading `is`. -/
def looseName (name : List Char) : List Char :=
  let name := name.map Char.toLower
  let name := if ['i', 's'].isPrefixOf name then name.drop 2 else name
  name.filter fun c => c < '\x80' && !" _-".toList.contains c

/-- Why a property has no meaning.  There are three names for which values would be
known if there were data. -/
def Property.refusal (modes : Modes) (property : Property) : Fault :=
  let cause :=
    if !modes.unicode then Cause.unicodeNotAllowed
    else if property.name.any fun c => c == ':' || c == '=' then .propertyUnknown
    else if ["cf", "sc", "lc"].contains (String.ofList (looseName property.name)) then
      .propertyValueUnknown
    else .propertyUnknown
  ⟨cause, property.span, none⟩

mutual

/-- The characters of a written set. -/
def ClassTree.meaning (modes : Modes) : ClassTree → Except Fault CaseSet
  | .empty _ => .ok .empty
  | .literal char => do
    let code ← char.classCode modes
    return CaseSet.empty.add code code
  | .range _ low high => do
    let low ← low.classCode modes
    let high ← high.classCode modes
    return CaseSet.empty.add low high
  | .named span set negated =>
    CaseSet.finish modes span negated ⟨Charset.namedRanges set, false⟩
  | .letter set => set.meaning modes
  | .property set => .error (set.refusal modes)
  | .bracketed span negated inner => do
    (← inner.meaning modes).finish modes span negated
  | .union _ items => ClassTree.meanings modes .empty items
  | .combined _ combination left right => do
    let low ← left.meaning modes
    let high ← right.meaning modes
    let high ← high.fold modes right.span
    let low ← low.fold modes left.span
    return ⟨(low.charset.combine combination high.charset).ranges, low.closed && high.closed⟩

def ClassTree.meanings (modes : Modes) (set : CaseSet) : List ClassTree → Except Fault CaseSet
  | [] => .ok set
  | item :: items => do
    ClassTree.meanings modes (set.union (← item.meaning modes)) items

end

def Literal.meaning (modes : Modes) (literal : Literal) : Except Fault Expr := do
  let code ← literal.code modes
  if modes.caseless then
    if modes.unicode then throw ⟨.caseUnavailable, literal.span, none⟩
    return .ofSet (Charset.singleton code).foldAscii
  return .literal [literal.char]

def dotMeaning (modes : Modes) (span : Span) : Except Fault Expr :=
  if !modes.unicode then .error ⟨.utf8Invalid, span, none⟩
  else if modes.dotAll then .ok (.oneOf (.except []))
  else if modes.crlf then .ok (.oneOf (.except ['\n'.toNat, '\r'.toNat]))
  else .ok (.oneOf (.except ['\n'.toNat]))

def Assertion.meaning (modes : Modes) : Assertion → Look
  | startLine => if modes.multiLine then .lineStart modes.crlf else .textStart
  | endLine => if modes.multiLine then .lineEnd modes.crlf else .textEnd
  | startText => .textStart
  | endText => .textEnd
  | wordBoundary => .word modes.unicode .boundary
  | notWordBoundary => .word modes.unicode .notBoundary
  | wordStart => .word modes.unicode .start
  | wordEnd => .word modes.unicode .stop
  | wordStartHalf => .word modes.unicode .startHalf
  | wordEndHalf => .word modes.unicode .stopHalf

mutual

/-- What a written pattern matches, with the switches in force behind it. -/
def Tree.meaning (modes : Modes) : Tree → Except Fault (Expr × Modes)
  | .empty _ => .ok (.empty, modes)
  | .flags _ switches => .ok (.empty, modes.apply switches)
  | .literal char => do return (← char.meaning modes, modes)
  | .dot span => do return (← dotMeaning modes span, modes)
  | .assertion _ condition => .ok (.look (condition.meaning modes), modes)
  | .letter set => do return (.ofSet (← set.meaning modes).charset, modes)
  | .property set => .error (set.refusal modes)
  | .bracketed span negated inner => do
    let set ← (← inner.meaning modes).finish modes span negated
    return (.ofSet set.charset, modes)
  | .repetition _ low high inner => do
    let (inner, modes) ← inner.meaning modes
    return (inner.times low high, modes)
  | .group _ .capture inner => do
    let (inner, _) ← inner.meaning modes
    return (.capture inner, modes)
  | .group _ (.plain switches) inner => do
    let (inner, _) ← inner.meaning (modes.apply switches)
    return (inner, modes)
  | .choice _ branches => do
    let (reversed, modes) ← Tree.meanings modes [] branches
    return (.anyOf reversed, modes)
  | .concat _ items => do
    let (reversed, modes) ← Tree.meanings modes [] items
    return (.sequence reversed, modes)

/-- What several written patterns match, from the last to the first, in front of what
others match. -/
def Tree.meanings (modes : Modes) (reversed : List Expr) :
    List Tree → Except Fault (List Expr × Modes)
  | [] => .ok (reversed, modes)
  | item :: items => do
    let (item, modes) ← item.meaning modes
    Tree.meanings modes (item :: reversed) items

end

end LossWindows.Pattern
