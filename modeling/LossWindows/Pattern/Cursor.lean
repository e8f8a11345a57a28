import LossWindows.Pattern.Fault
import LossWindows.Text.Lines

/-!
# Reading a pattern

A pattern is read from left to right.  In the verbose form blanks mean nothing, and
neither does a comment from a hash sign to the end of its line.

## Main definitions

* `Cursor` — what is left to be read, and where it starts.
* `Cursor.bump`, `Cursor.pass` — going on by a character.
* `Cursor.take` — the characters of one kind.
* `Reading` — readers that may fail.
-/

namespace LossWindows.Pattern

/-- What is left of a pattern. -/
structure Cursor where
  rest : List Char
  position : Position
  verbose : Bool

namespace Cursor

def bump (cursor : Cursor) : Cursor :=
  match cursor.rest with
  | [] => cursor
  | c :: rest => { cursor with rest := rest, position := cursor.position.after c }

def advance (cursor : Cursor) : Nat → Cursor
  | 0 => cursor
  | count + 1 => cursor.bump.advance count

/-- What is left behind blanks and comments, and where it starts. -/
def behindBlanks (inComment : Bool) : List Char → Position → List Char × Position
  | [], position => ([], position)
  | c :: rest, position =>
    if inComment then behindBlanks (c != '\n') rest (position.after c)
    else if Text.isBlank c then behindBlanks false rest (position.after c)
    else if c = '#' then behindBlanks true rest (position.after c)
    else (c :: rest, position)

/-- Goes on to what means something. -/
def skip (cursor : Cursor) : Cursor :=
  if cursor.verbose then
    let (rest, position) := behindBlanks false cursor.rest cursor.position
    { cursor with rest := rest, position := position }
  else cursor

/-- Goes on by a character, and then to what means something. -/
def pass (cursor : Cursor) : Cursor :=
  cursor.bump.skip

def charSpan (cursor : Cursor) : Span :=
  ⟨cursor.position, cursor.bump.position⟩

def since (cursor : Cursor) (start : Position) : Span :=
  ⟨start, cursor.position⟩

/-- What a search for the character behind the next one comes upon first: it goes past
blanks and past one hash sign. -/
def firstBeyond (inComment : Bool) : List Char → Option Char
  | [] => none
  | c :: rest =>
    if Text.isBlank c then firstBeyond inComment rest
    else if c = '#' ∧ inComment = false then firstBeyond true rest
    else some c

/-- The character behind the next one. -/
def peek (cursor : Cursor) : Option Char :=
  cursor.rest.tail.head?

/-- The meaningful character behind the next one. -/
def peekPast (cursor : Cursor) : Option Char :=
  if cursor.verbose then
    (firstBeyond false cursor.rest.tail).or cursor.rest.tail.head?
  else cursor.peek

/-- The next characters as long as they are of one kind, and what is left behind them
and where it starts.  What means nothing is passed once a character is taken. -/
def takeFrom (verbose : Bool) (kind : Char → Bool) (taken inComment : Bool) :
    List Char → Position → List Char × List Char × Position
  | [], position => ([], [], position)
  | c :: rest, position =>
    if inComment then takeFrom verbose kind taken (c != '\n') rest (position.after c)
    else if verbose && taken && (Text.isBlank c || c == '#') then
      takeFrom verbose kind taken (c == '#') rest (position.after c)
    else if kind c then
      let (chars, left) := takeFrom verbose kind true false rest (position.after c)
      (c :: chars, left)
    else ([], c :: rest, position)

def take (cursor : Cursor) (kind : Char → Bool) : List Char × Cursor :=
  let (chars, rest, position) :=
    takeFrom cursor.verbose kind false false cursor.rest cursor.position
  (chars, { cursor with rest := rest, position := position })

end Cursor

/-- Readers that may fail. -/
abbrev Reading := StateT Cursor (Except Fault)

namespace Reading

variable {α : Type}

def fail (cause : Cause) (span : Span) : Reading α :=
  throw ⟨cause, span, none⟩

def rest : Reading (List Char) := do
  return (← get).rest

def position : Reading Position := do
  return (← get).position

def here : Reading Span := do
  return .empty (← position)

def charSpan : Reading Span := do
  return (← get).charSpan

def since (start : Position) : Reading Span := do
  return (← get).since start

def bump : Reading Unit :=
  modify Cursor.bump

def advance (count : Nat) : Reading Unit :=
  modify fun cursor => cursor.advance count

def skip : Reading Unit :=
  modify Cursor.skip

def pass : Reading Unit :=
  modify Cursor.pass

def take (kind : Char → Bool) : Reading (List Char) := do
  let (taken, cursor) := (← get).take kind
  set cursor
  return taken

/-- Goes past a text, if the pattern goes on with it. -/
def passText (text : List Char) : Reading Bool := do
  if text.isPrefixOf (← rest) then
    advance text.length
    return true
  return false

end Reading

end LossWindows.Pattern
