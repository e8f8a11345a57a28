import LossWindows.Pattern.Bracket
import LossWindows.Pattern.Group

/-!
# Reading written patterns

The tree of a pattern grows from left to right.  Groups may stand inside groups, so
what is read so far is kept as a stack of what is still open.

## Main definitions

* `Draft` — the patterns that are read one behind the other.
* `Frame` — what is still open.
* `Assembly` — what a part of a pattern comes to.
* `Tree.read` — the tree of a pattern.
-/

namespace LossWindows.Pattern

/-- Patterns that are read one behind the other, the last one first. -/
structure Draft where
  start : Position
  items : List Tree

namespace Draft

def push (draft : Draft) (item : Tree) : Draft :=
  { draft with items := item :: draft.items }

/-- The pattern that was read, when it ends at a place. -/
def tree (draft : Draft) (stop : Position) : Tree :=
  match draft.items with
  | [] => .empty ⟨draft.start, stop⟩
  | [item] => item
  | items => .concat ⟨draft.start, stop⟩ items.reverse

end Draft

/-- What is still open. -/
inductive Frame
  | group (outer : Draft) (span : Span) (kind : GroupKind) (verbose : Bool)
  | choice (start : Position) (branches : List Tree)

namespace Reading

/-- Reads how often a pattern is repeated, in braces. -/
def count : Reading (Nat × Option Nat) := do
  let start ← position
  pass
  if (← rest).isEmpty then fail .countUnclosed (← since start)
  let low ← decimal
  if (← rest).isEmpty then fail .countUnclosed (← since start)
  let counts ← if (← rest).head? = some ',' then
      pass
      match ← rest with
      | [] => fail .countUnclosed (← since start)
      | '\x7d' :: _ => pure (← low, none)
      | _ =>
        let low ← low
        pure (low, some (← (← decimal)))
    else pure (← low, some (← low))
  if (← rest).head? != some '\x7d' then fail .countUnclosed (← since start)
  pass
  if (← rest).head? = some '?' then bump
  match counts with
  | (low, some high) =>
    if high < low then fail .countInvalid (← since start)
    return counts
  | _ => return counts

/-- Reads how often a pattern is repeated, by one character. -/
def sign (low : Nat) (high : Option Nat) : Reading (Nat × Option Nat) := do
  bump
  if (← rest).head? = some '?' then bump
  return (low, high)

end Reading

/-- What a part of a pattern comes to. -/
structure Assembly where
  cursor : Cursor
  frames : List Frame
  draft : Draft
  names : List (List Char × Span)

namespace Assembly

def start (pattern : List Char) : Assembly :=
  ⟨⟨pattern, .first, false⟩, [], ⟨.first, []⟩, []⟩

def push (assembly : Assembly) (item : Tree) (cursor : Cursor) : Assembly :=
  { assembly with cursor := cursor, draft := assembly.draft.push item }

def opening (assembly : Assembly) : Except Fault Assembly := do
  let (opening, cursor) ← Reading.opening.run assembly.cursor
  match opening with
  | .flags span flags =>
    let verbose := (flags.state? .verbose).getD cursor.verbose
    return assembly.push (.flags span flags) { cursor with verbose := verbose }
  | .group span kind name =>
    let verbose := match kind with
      | .capture => cursor.verbose
      | .plain flags => (flags.state? .verbose).getD cursor.verbose
    if let some (name, place) := name then
      if let some (_, earlier) := assembly.names.find? (·.1 == name) then
        throw ⟨.groupNameDuplicate, place, some earlier⟩
    return {
      cursor := { cursor with verbose := verbose }
      frames := .group assembly.draft span kind cursor.verbose :: assembly.frames
      draft := ⟨cursor.position, []⟩
      names := name.toList ++ assembly.names }

def closing (assembly : Assembly) : Except Fault Assembly := do
  let position := assembly.cursor.position
  let last := assembly.draft.tree position
  let cursor := assembly.cursor.bump
  let close (outer : Draft) (span : Span) (kind : GroupKind) (verbose : Bool)
      (frames : List Frame) (inner : Tree) : Assembly :=
    { assembly with
      cursor := { cursor with verbose := verbose }
      frames := frames
      draft := outer.push (.group ⟨span.start, cursor.position⟩ kind inner) }
  match assembly.frames with
  | .group outer span kind verbose :: frames =>
    return close outer span kind verbose frames last
  | .choice start branches :: .group outer span kind verbose :: frames =>
    return close outer span kind verbose frames
      (.choice ⟨start, position⟩ (last :: branches).reverse)
  | _ => throw ⟨.groupUnopened, assembly.cursor.charSpan, none⟩

def branching (assembly : Assembly) : Assembly :=
  let branch := assembly.draft.tree assembly.cursor.position
  let cursor := assembly.cursor.bump
  let frames := match assembly.frames with
    | .choice start branches :: frames => .choice start (branch :: branches) :: frames
    | frames => .choice assembly.draft.start [branch] :: frames
  { assembly with cursor := cursor, frames := frames, draft := ⟨cursor.position, []⟩ }

/-- Takes a repetition of the pattern before it. -/
def repetition (assembly : Assembly) (counts : Reading (Nat × Option Nat)) :
    Except Fault Assembly := do
  match assembly.draft.items with
  | inner :: items =>
    if inner.isRepeatable then
      let ((low, high), cursor) ← counts.run assembly.cursor
      let item := Tree.repetition ⟨inner.span.start, cursor.position⟩ low high inner
      return { assembly with
        cursor := cursor, draft := { assembly.draft with items := item :: items } }
    else throw ⟨.repetitionMissing, .empty assembly.cursor.position, none⟩
  | [] => throw ⟨.repetitionMissing, .empty assembly.cursor.position, none⟩

/-- Takes what starts with a given character, where no more than `length` characters
are left. -/
def step (assembly : Assembly) (length : Nat) (c : Char) : Except Fault Assembly := do
  match c with
  | '(' => assembly.opening
  | ')' => assembly.closing
  | '|' => return assembly.branching
  | '[' =>
    let (set, cursor) ← (Reading.bracketed length).run assembly.cursor
    match set with
    | .bracketed span negated inner =>
      return assembly.push (.bracketed span negated inner) cursor
    | set => return assembly.push (.bracketed set.span false set) cursor
  | '?' => assembly.repetition (Reading.sign 0 (some 1))
  | '*' => assembly.repetition (Reading.sign 0 none)
  | '+' => assembly.repetition (Reading.sign 1 none)
  | '\x7b' => assembly.repetition Reading.count
  | c =>
    let (primitive, cursor) ← (Reading.primitive c).run assembly.cursor
    return assembly.push primitive.tree cursor

/-- The tree of a pattern that is read to its end. -/
def finish (assembly : Assembly) : Except Fault Tree :=
  let position := assembly.cursor.position
  let last := assembly.draft.tree position
  match assembly.frames with
  | [] => .ok last
  | .group _ span .. :: _ | .choice .. :: .group _ span .. :: _ =>
    .error ⟨.groupUnclosed, span, none⟩
  | .choice start branches :: _ => .ok (.choice ⟨start, position⟩ (last :: branches).reverse)

/-- Takes what is left of a pattern.  Every step takes a character, so there are no
more steps than characters. -/
def complete : Nat → Assembly → Except Fault Tree
  | 0, assembly => assembly.finish
  | fuel + 1, assembly => do
    let assembly := { assembly with cursor := assembly.cursor.skip }
    match assembly.cursor.rest with
    | [] => assembly.finish
    | c :: _ => complete fuel (← assembly.step (fuel + 1) c)

end Assembly

/-- Goes one level down in a part of a pattern, if it is not too deep. -/
def enter (depth : Nat) (span : Span) : Except Fault Unit :=
  if maxDepth ≤ depth then .error ⟨.depthExceeded, span, none⟩ else .ok ()

mutual

/-- Checks that a set is not nested too deeply. -/
def ClassTree.checkDepth (depth : Nat) : ClassTree → Except Fault Unit
  | .bracketed span _ inner => do
    enter depth span
    inner.checkDepth (depth + 1)
  | .union span items => do
    enter depth span
    ClassTree.checkDepths (depth + 1) items
  | .combined span _ left right => do
    enter depth span
    left.checkDepth (depth + 1)
    right.checkDepth (depth + 1)
  | _ => .ok ()

def ClassTree.checkDepths (depth : Nat) : List ClassTree → Except Fault Unit
  | [] => .ok ()
  | item :: items => do
    item.checkDepth depth
    ClassTree.checkDepths depth items

end

mutual

/-- Checks that a pattern is not nested too deeply. -/
def Tree.checkDepth (depth : Nat) : Tree → Except Fault Unit
  | .bracketed span _ inner => do
    enter depth span
    inner.checkDepth (depth + 1)
  | .repetition span _ _ inner | .group span _ inner => do
    enter depth span
    inner.checkDepth (depth + 1)
  | .choice span items | .concat span items => do
    enter depth span
    Tree.checkDepths (depth + 1) items
  | _ => .ok ()

def Tree.checkDepths (depth : Nat) : List Tree → Except Fault Unit
  | [] => .ok ()
  | item :: items => do
    item.checkDepth depth
    Tree.checkDepths depth items

end

def Tree.read (pattern : List Char) : Except Fault Tree := do
  let tree ← Assembly.complete pattern.length (.start pattern)
  tree.checkDepth 0
  return tree

end LossWindows.Pattern
