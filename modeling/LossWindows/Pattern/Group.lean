import LossWindows.Pattern.Escape
import LossWindows.Text.Letter

/-!
# Openings of groups

An opening parenthesis starts a group, which may have a name or switches, or it sets
switches for what follows.

## Main definitions

* `Opening` — what an opening parenthesis introduces.
* `Reading.opening` — reading it.
-/

namespace LossWindows.Pattern

/-- What an opening parenthesis introduces. -/
inductive Opening
  | flags (span : Span) (flags : Flags)
  | group (span : Span) (kind : GroupKind) (name : Option (List Char × Span))

/-- Whether a character may stand in the name of a group. -/
def isNameChar (first : Bool) (c : Char) : Bool :=
  if first then c == '_' || Text.isLetter c
  else "_.[]".toList.contains c || Text.isLetter c || Text.isNumber c

/-- Switches while they are read, the last one first, with their places. -/
structure FlagDraft where
  /-- The switches, none standing for the dash. -/
  items : List (Option Switch × Span)

namespace FlagDraft

/-- Where a switch or the dash stands already. -/
def place? (draft : FlagDraft) (item : Option Switch) : Option Span :=
  (draft.items.find? (·.1 == item)).map (·.2)

/-- The switches that were read: those before the dash and those behind it. -/
def flags (draft : FlagDraft) : Flags :=
  let items := draft.items.reverse.map (·.1)
  ⟨(items.takeWhile (·.isSome)).filterMap id, (items.dropWhile (·.isSome)).filterMap id⟩

end FlagDraft

namespace Reading

/-- The number of switches, the dash among them. -/
def maxSwitches : Nat := 8

/-- Reads switches up to a colon or a closing parenthesis.  None of them may stand
twice, so `fuel` need not be larger than their number. -/
def switches : Nat → FlagDraft → Reading FlagDraft
  | 0, draft => return draft
  | fuel + 1, draft => do
    match ← rest with
    | [] => fail .flagUnfinished (← here)
    | c :: _ =>
      if c = ':' ∨ c = ')' then
        match draft.items with
        | (none, span) :: _ => fail .flagNegationDangling span
        | _ => return draft
      let span ← charSpan
      let item ← if c = '-' then pure none else
        match Switch.ofLetter? c with
        | some switch => pure (some switch)
        | none => fail .flagUnknown span
      if let some earlier := draft.place? item then
        let cause := if item.isNone then Cause.flagNegationRepeated else .flagDuplicate
        throw ⟨cause, span, some earlier⟩
      bump
      switches fuel ⟨(item, span) :: draft.items⟩

/-- Reads the name of a group up to its closing angle bracket, given what is left. -/
def nameChars (first : Bool) : List Char → Reading (List Char)
  | [] => do fail .groupNameUnfinished (← here)
  | c :: rest => do
    if c = '>' then return []
    if !isNameChar first c then fail .groupNameInvalid (← charSpan)
    bump
    return c :: (← nameChars false rest)

def groupName : Reading (List Char × Span) := do
  let start ← position
  let name ← nameChars true (← rest)
  let span ← since start
  bump
  if name.isEmpty then fail .groupNameEmpty (.empty start)
  return (name, span)

/-- Reads the opening parenthesis that comes next and what it introduces. -/
def opening : Reading Opening := do
  let span ← charSpan
  pass
  for text in ["?=", "?!", "?<=", "?<!"] do
    if ← passText text.toList then fail .lookAround (← since span.start)
  let inner ← here
  for text in ["?P<", "?<"] do
    if ← passText text.toList then return .group span .capture (some (← groupName))
  if ← passText ['?'] then
    if (← rest).isEmpty then fail .groupUnclosed span
    let draft ← switches (maxSwitches + 1) ⟨[]⟩
    let closed := (← rest).head? == some ')'
    bump
    if closed then
      if draft.items.isEmpty then fail .repetitionMissing inner
      return .flags (← since span.start) draft.flags
    return .group span (.plain draft.flags) none
  return .group span .capture none

end Reading

end LossWindows.Pattern
