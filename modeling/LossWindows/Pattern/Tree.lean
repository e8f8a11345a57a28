import LossWindows.Pattern.Fault

/-!
# Written patterns

A pattern as it is written, with the place of every part.

## Main definitions

* `Literal` — a character as it is written.
* `Flags` — switches of the meaning of what follows them.
* `ClassTree` — a written set of characters.
* `Tree` — a written pattern.
-/

namespace LossWindows.Pattern

/-- A character as it is written. -/
structure Literal where
  span : Span
  char : Char
  /-- Whether it is written as an octet, by two hexadecimal digits. -/
  octet : Bool
deriving DecidableEq

/-- A switch of the meaning of a pattern. -/
inductive Switch
  | caseless
  | multiLine
  | dotAll
  | swapGreed
  | unicode
  | crlf
  | verbose
deriving DecidableEq

namespace Switch

def ofLetter? : Char → Option Switch
  | 'i' => some caseless
  | 'm' => some multiLine
  | 's' => some dotAll
  | 'U' => some swapGreed
  | 'u' => some unicode
  | 'R' => some crlf
  | 'x' => some verbose
  | _ => none

end Switch

/-- Switches as they are written: those to be set, and behind a dash those to be
cleared. -/
structure Flags where
  on : List Switch
  off : List Switch
deriving DecidableEq

/-- What a switch is to become, if it is written. -/
def Flags.state? (flags : Flags) (switch : Switch) : Option Bool :=
  if flags.on.contains switch then some true
  else if flags.off.contains switch then some false
  else none

/-- The sets of ASCII characters that have names. -/
inductive NamedClass
  | alnum | alpha | ascii | blank | cntrl | digit | graph
  | lower | print | punct | space | upper | word | xdigit
deriving DecidableEq

namespace NamedClass

def ofName? : String → Option NamedClass
  | "alnum" => some alnum
  | "alpha" => some alpha
  | "ascii" => some ascii
  | "blank" => some blank
  | "cntrl" => some cntrl
  | "digit" => some digit
  | "graph" => some graph
  | "lower" => some lower
  | "print" => some print
  | "punct" => some punct
  | "space" => some space
  | "upper" => some upper
  | "word" => some word
  | "xdigit" => some xdigit
  | _ => none

end NamedClass

/-- A set of characters that a property has, by the text between the braces or by its
one letter. -/
structure Property where
  span : Span
  name : List Char

/-- A set of characters that has a letter of its own: digits, blanks or word
characters. -/
structure LetterClass where
  span : Span
  named : NamedClass
  negated : Bool

/-- How two sets of characters are combined. -/
inductive Combination
  | intersection
  | difference
  | symmetricDifference
deriving DecidableEq

/-- A written set of characters. -/
inductive ClassTree
  | empty (span : Span)
  | literal (literal : Literal)
  | range (span : Span) (low high : Literal)
  | named (span : Span) (named : NamedClass) (negated : Bool)
  | letter (letter : LetterClass)
  | property (property : Property)
  | bracketed (span : Span) (negated : Bool) (inner : ClassTree)
  | union (span : Span) (items : List ClassTree)
  | combined (span : Span) (combination : Combination) (left right : ClassTree)

namespace ClassTree

def span : ClassTree → Span
  | .literal char => char.span
  | .letter set => set.span
  | .property set => set.span
  | empty span | range span .. | named span .. | bracketed span .. | union span _
  | combined span .. => span

end ClassTree

/-- A condition on a place in a text. -/
inductive Assertion
  | startLine
  | endLine
  | startText
  | endText
  | wordBoundary
  | notWordBoundary
  | wordStart
  | wordEnd
  | wordStartHalf
  | wordEndHalf
deriving DecidableEq

/-- What a group is for. -/
inductive GroupKind
  | capture
  | plain (flags : Flags)
deriving DecidableEq

/-- A written pattern. -/
inductive Tree
  | empty (span : Span)
  | flags (span : Span) (flags : Flags)
  | literal (literal : Literal)
  | dot (span : Span)
  | assertion (span : Span) (assertion : Assertion)
  | letter (letter : LetterClass)
  | property (property : Property)
  | bracketed (span : Span) (negated : Bool) (inner : ClassTree)
  | repetition (span : Span) (low : Nat) (high : Option Nat) (inner : Tree)
  | group (span : Span) (kind : GroupKind) (inner : Tree)
  | choice (span : Span) (branches : List Tree)
  | concat (span : Span) (items : List Tree)

namespace Tree

def span : Tree → Span
  | .literal char => char.span
  | .letter set => set.span
  | .property set => set.span
  | empty span | flags span _ | dot span | assertion span _ | bracketed span ..
  | repetition span .. | group span .. | choice span _ | concat span _ => span

/-- Whether a pattern can be repeated: nothing and switches cannot. -/
def isRepeatable : Tree → Bool
  | empty _ | flags .. => false
  | _ => true

end Tree

end LossWindows.Pattern
