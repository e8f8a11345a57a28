import LossWindows.Pattern.Escape

/-!
# Sets in brackets

Brackets hold characters, ranges, other sets and operators between them.  Brackets
may stand inside brackets, so what is read so far is kept as a stack of what is
still open.

## Main definitions

* `ClassDraft` — the sets that are read one behind the other.
* `Enclosure` — what is still open.
* `Reading.bracketed` — reading a set in brackets.
-/

namespace LossWindows.Pattern

/-- Sets that are read one behind the other, the last one first. -/
structure ClassDraft where
  span : Span
  items : List ClassTree

namespace ClassDraft

def empty (position : Position) : ClassDraft :=
  ⟨.empty position, []⟩

def push (draft : ClassDraft) (item : ClassTree) : ClassDraft :=
  let start := if draft.items.isEmpty then item.span.start else draft.span.start
  ⟨⟨start, item.span.stop⟩, item :: draft.items⟩

def tree (draft : ClassDraft) : ClassTree :=
  match draft.items with
  | [] => .empty draft.span
  | [item] => item
  | items => .union draft.span items.reverse

end ClassDraft

/-- What is still open. -/
inductive Enclosure
  | bracket (outer : ClassDraft) (span : Span) (negated : Bool)
  | operand (combination : Combination) (left : ClassTree)

namespace Enclosure

/-- Closes the operator that is open innermost, if there is one inside the innermost
bracket. -/
def combine : List Enclosure → ClassTree → List Enclosure × ClassTree
  | .operand combination left :: frames, right =>
    (frames, .combined ⟨left.span.start, right.span.stop⟩ combination left right)
  | frames, right => (frames, right)

def unclosed : List Enclosure → Position → Fault
  | .bracket _ span _ :: _, _ => ⟨.classUnclosed, span, none⟩
  | .operand .. :: frames, position => unclosed frames position
  | [], position => ⟨.classUnclosed, .empty position, none⟩

end Enclosure

/-- The set whose name a pattern goes on with, and how many characters that takes. -/
def namedClass? : List Char → Option (NamedClass × Bool × Nat)
  | '[' :: ':' :: text =>
    let negated := text.head? == some '^'
    let body := if negated then text.tail else text
    let name := body.takeWhile (· != ':')
    if [':', ']'].isPrefixOf (body.drop name.length) then
      (NamedClass.ofName? (String.ofList name)).map
        (·, negated, name.length + if negated then 5 else 4)
    else none
  | _ => none

def combination? : List Char → Option Combination
  | '&' :: '&' :: _ => some .intersection
  | '-' :: '-' :: _ => some .difference
  | '~' :: '~' :: _ => some .symmetricDifference
  | _ => none

namespace Reading

/-- Reads the next character as it is, and goes on to what means something. -/
def passLiteral (draft : ClassDraft) (c : Char) : Reading ClassDraft := do
  let span ← charSpan
  pass
  return draft.push (.literal ⟨span, c, false⟩)

/-- Reads dashes at the start of a set, which stand for themselves, at most `fuel` of
them. -/
def dashes (start : Position) : Nat → ClassDraft → Reading ClassDraft
  | 0, draft => return draft
  | fuel + 1, draft => do
    if (← rest).head? = some '-' then
      let draft ← passLiteral draft '-'
      if (← rest).isEmpty then fail .classUnclosed (.empty start)
      dashes start fuel draft
    else return draft

/-- Reads an opening bracket with what has a meaning of its own behind it: a negation,
dashes, and a closing bracket that stands for itself. -/
def openBracket (fuel : Nat) : Reading (Span × Bool × ClassDraft) := do
  let start ← position
  pass
  if (← rest).isEmpty then fail .classUnclosed (← since start)
  let negated := (← rest).head? == some '^'
  if negated then
    pass
    if (← rest).isEmpty then fail .classUnclosed (← since start)
  let draft ← dashes start fuel (.empty (← position))
  if draft.items.isEmpty ∧ (← rest).head? = some ']' then
    let draft ← passLiteral draft ']'
    if (← rest).isEmpty then fail .classUnclosed (← since start)
    return (← since start, negated, draft)
  return (← since start, negated, draft)

def classPrimitive : Reading Primitive := do
  match ← rest with
  | '\\' :: _ => escape
  | c :: _ =>
    let span ← charSpan
    bump
    return .literal ⟨span, c, false⟩
  | [] => fail .classUnclosed (← here)

/-- Reads a character, a range or a set by its letter or by a property. -/
def classItem (frames : List Enclosure) : Reading ClassTree := do
  let low ← classPrimitive
  skip
  let cursor ← get
  match cursor.rest with
  | [] => throw (Enclosure.unclosed frames cursor.position)
  | c :: _ =>
    if c != '-' || cursor.peekPast == some ']' || cursor.peekPast == some '-' then
      low.classTree
    else
      pass
      if (← rest).isEmpty then throw (Enclosure.unclosed frames (← position))
      let high ← classPrimitive
      let span : Span := ⟨low.span.start, high.span.stop⟩
      let low ← low.boundary
      let high ← high.boundary
      if high.char < low.char then fail .classRangeInvalid span
      return .range span low high

/-- Reads what is left of a set in brackets, with what is open.  Every step takes a
character, or fails at the end, so `fuel` need not be larger than the number of
characters that are left by more than one. -/
def brackets : Nat → List Enclosure → ClassDraft → Reading ClassTree
  | 0, frames, _ => do throw (Enclosure.unclosed frames (← position))
  | fuel + 1, frames, draft => do
    skip
    let text ← rest
    let named := if frames.isEmpty then none else namedClass? text
    match text, named, combination? text with
    | [], _, _ => throw (Enclosure.unclosed frames (← position))
    | '[' :: _, some (named, negated, length), _ =>
      let start ← position
      advance length
      brackets fuel frames (draft.push (.named (← since start) named negated))
    | '[' :: _, none, _ =>
      let (span, negated, inner) ← openBracket fuel
      brackets fuel (.bracket draft span negated :: frames) inner
    | ']' :: _, _, _ =>
      match Enclosure.combine frames draft.tree with
      | (.bracket outer span negated :: frames, inner) =>
        bump
        let set := ClassTree.bracketed (← since span.start) negated inner
        if frames.isEmpty then return set
        brackets fuel frames (outer.push set)
      | (frames, _) => throw (Enclosure.unclosed frames (← position))
    | _, _, some combination =>
      advance 2
      let (frames, left) := Enclosure.combine frames draft.tree
      brackets fuel (.operand combination left :: frames) (.empty (← position))
    | _, _, none =>
      brackets fuel frames (draft.push (← classItem frames))

/-- Reads the set in brackets that comes next, where no more than `length` characters
are left. -/
def bracketed (length : Nat) : Reading ClassTree := do
  brackets (length + 1) [] (.empty (← position))

end Reading

end LossWindows.Pattern
