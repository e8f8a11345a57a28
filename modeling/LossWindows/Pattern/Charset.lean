import LossWindows.Pattern.Tree

/-!
# Sets of characters

A set of characters is kept as inclusive ranges of code points in ascending order, no
two of which touch, so that there is one form for every set.

## Main definitions

* `Charset` — a set of characters.
* `Charset.ofRanges`, `Charset.negate` — building sets.
* `Charset.contains` — membership.
-/

namespace LossWindows.Pattern

/-- A set of characters. -/
structure Charset where
  ranges : List (Nat × Nat)
deriving DecidableEq

namespace Charset

def maxCode : Nat := 0x10ffff

def maxAscii : Nat := 0x7f

def empty : Charset := ⟨[]⟩

def inRanges (ranges : List (Nat × Nat)) (code : Nat) : Bool :=
  ranges.any fun range => range.1 ≤ code && code ≤ range.2

def contains (set : Charset) (c : Char) : Bool :=
  inRanges set.ranges c.toNat

/-- Joins ranges in ascending order where they touch, behind a range. -/
def join (low high : Nat) : List (Nat × Nat) → List (Nat × Nat)
  | [] => [(low, high)]
  | range :: ranges =>
    if range.1 ≤ high + 1 then join low (max high range.2) ranges
    else (low, high) :: join range.1 range.2 ranges

/-- The set of the characters in any of several ranges. -/
def ofRanges (ranges : List (Nat × Nat)) : Charset :=
  match ranges.mergeSort fun a b => a.1 ≤ b.1 with
  | [] => empty
  | range :: ranges => ⟨join range.1 range.2 ranges⟩

def union (a b : Charset) : Charset :=
  ofRanges (a.ranges ++ b.ranges)

/-- The gaps between ranges in ascending order, from a code point to the largest one. -/
def gaps (top : Nat) : Nat → List (Nat × Nat) → List (Nat × Nat)
  | low, [] => if low ≤ top then [(low, top)] else []
  | low, range :: ranges =>
    if low < range.1 then (low, range.1 - 1) :: gaps top (range.2 + 1) ranges
    else gaps top (range.2 + 1) ranges

/-- The characters up to a code point that a set does not hold. -/
def negate (top : Nat) (set : Charset) : Charset :=
  ⟨gaps top 0 set.ranges⟩

def intersection (a b : Charset) : Charset :=
  negate maxCode ((negate maxCode a).union (negate maxCode b))

def difference (a b : Charset) : Charset :=
  a.intersection (negate maxCode b)

def symmetricDifference (a b : Charset) : Charset :=
  (a.union b).difference (a.intersection b)

def combine (combination : Combination) (a b : Charset) : Charset :=
  match combination with
  | .intersection => a.intersection b
  | .difference => a.difference b
  | .symmetricDifference => a.symmetricDifference b

def isAscii (set : Charset) : Bool :=
  set.ranges.all (·.2 ≤ maxAscii)

def single? (set : Charset) : Option Nat :=
  match set.ranges with
  | [(low, high)] => if low = high then some low else none
  | _ => none

/-- The part of a range that lies between two code points, moved by a distance. -/
def moved (low high : Nat) (move : Nat → Nat) (range : Nat × Nat) : List (Nat × Nat) :=
  let a := max low range.1
  let b := min high range.2
  if a ≤ b then [(move a, move b)] else []

/-- A set with the other case of every ASCII letter in it. -/
def foldAscii (set : Charset) : Charset :=
  let lower := set.ranges.flatMap (moved 0x41 0x5a (· + 0x20))
  let upper := set.ranges.flatMap (moved 0x61 0x7a (· - 0x20))
  ofRanges (set.ranges ++ lower ++ upper)

def namedRanges : NamedClass → List (Nat × Nat)
  | .alnum => [(0x30, 0x39), (0x41, 0x5a), (0x61, 0x7a)]
  | .alpha => [(0x41, 0x5a), (0x61, 0x7a)]
  | .ascii => [(0x00, 0x7f)]
  | .blank => [(0x09, 0x09), (0x20, 0x20)]
  | .cntrl => [(0x00, 0x1f), (0x7f, 0x7f)]
  | .digit => [(0x30, 0x39)]
  | .graph => [(0x21, 0x7e)]
  | .lower => [(0x61, 0x7a)]
  | .print => [(0x20, 0x7e)]
  | .punct => [(0x21, 0x2f), (0x3a, 0x40), (0x5b, 0x60), (0x7b, 0x7e)]
  | .space => [(0x09, 0x0d), (0x20, 0x20)]
  | .upper => [(0x41, 0x5a)]
  | .word => [(0x30, 0x39), (0x41, 0x5a), (0x5f, 0x5f), (0x61, 0x7a)]
  | .xdigit => [(0x30, 0x39), (0x41, 0x46), (0x61, 0x66)]

def singleton (code : Nat) : Charset := ⟨[(code, code)]⟩

/-- All characters but some. -/
def except (codes : List Nat) : Charset :=
  negate maxCode (ofRanges (codes.map fun code => (code, code)))

end Charset

end LossWindows.Pattern
