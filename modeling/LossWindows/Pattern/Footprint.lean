import LossWindows.Pattern.Expr

/-!
# The size of patterns

A pattern may not be too large.  Its size is that of the automata that would match it
octet by octet, one that reads texts forwards and one that reads them backwards.
Nothing is shared between the times that something is repeated, so numbers of
repetitions multiply.

The encodings in UTF-8 of the characters of a range are not all products of ranges of
octets, but the range falls into pieces whose encodings are.

## Main definitions

* `pieces` — the pieces of a range, as ranges of octets.
* `Expr.footprint` — the size of the automaton for an expression.
* `Expr.isTooLarge` — whether one of the two automata is too large.
-/

namespace LossWindows.Pattern

/-! ## Encoded ranges of characters -/

/-- A piece: for every octet the range that it goes through. -/
abbrev Piece := List (Nat × Nat)

def octetsOf (code : Nat) : List Nat :=
  (String.utf8EncodeChar (Char.ofNat code)).map (·.toNat)

/-- The last code points before the encoding becomes longer. -/
def lengthLimits : List Nat := [0x7f, 0x7ff, 0xffff]

/-- Where a range has to be cut that does not go beyond one length: behind which of its
code points.  Below a multiple of a block a piece must not end within a block, nor
start in one. -/
def cut? (low high block : Nat) : Option Nat :=
  if low / block = high / block then none
  else if low % block ≠ 0 then some (low / block * block + block - 1)
  else if high % block ≠ block - 1 then some (high / block * block - 1)
  else none

/-- The pieces of a range.  There are no characters from `0xd800` to `0xdfff`.  A range
is cut at most twenty times in a row. -/
def piecesUpTo : Nat → Nat → Nat → List Piece
  | 0, _, _ => []
  | fuel + 1, low, high =>
    let split (last next : Nat) := piecesUpTo fuel low last ++ piecesUpTo fuel next high
    if high < low then []
    else if low < 0xe000 ∧ 0xd7ff < high then split 0xd7ff 0xe000
    else
      match lengthLimits.find? fun limit => low ≤ limit && limit < high with
      | some limit => split limit (limit + 1)
      | none =>
        if high ≤ 0x7f then [[(low, high)]]
        else
          match [0x40, 0x1000, 0x40000].findSome? (cut? low high) with
          | some last => split last (last + 1)
          | none => [(octetsOf low).zip (octetsOf high)]

def pieces (low high : Nat) : List Piece :=
  piecesUpTo 32 low high

/-- The pieces of a set. -/
def Charset.octets (set : Charset) : List Piece :=
  set.ranges.flatMap fun range => pieces range.1 range.2

/-! ## Automata -/

/-- The most that an automaton may take. -/
def maxFootprint : Nat := 10 * 1024 * 1024

/-- Which way an automaton reads a text. -/
inductive Direction
  | forwards
  | backwards
deriving DecidableEq

def stateSize : Nat := 32

/-- The size of a state from which several ways lead on without an octet. -/
def forkSize (ways : Nat) : Nat := stateSize + 4 * ways

/-- The size of a state from which several ways lead on by octets. -/
def branchSize (ways : Nat) : Nat := stateSize + 8 * ways

/-- States that lead on by octets to earlier ones, or to the end, which is 0. -/
abbrev States := List (List (Nat × Nat × Nat))

/-- Adds a state unless it is there already, and tells its number. -/
def States.add (states : States) (state : List (Nat × Nat × Nat)) : Nat × States :=
  match states.findIdx? (· == state) with
  | some index => (states.length - index, states)
  | none => (states.length + 1, state :: states)

/-- The states for pieces in ascending order, with the number of the first one.  Equal
states are one. -/
def statesFor : Nat → List Piece → States → Nat × States
  | 0, _, states => (0, states)
  | fuel + 1, pieces, states =>
    let groups := pieces.splitBy fun a b => a.head? == b.head?
    let (state, states) := groups.foldl (fun (state, states) group =>
      match group with
      | (octet :: rest) :: _ =>
        let (target, states) :=
          if rest.isEmpty then (0, states) else statesFor fuel (group.map List.tail) states
        ((octet.1, octet.2, target) :: state, states)
      | _ => (state, states)) ([], states)
    states.add state

def maxOctets : Nat := 4

/-- The beginnings of a piece that are not empty. -/
def beginnings (piece : Piece) : List Piece :=
  (List.range piece.length).map fun length => piece.take (length + 1)

/-- The size of the automaton for a set.  Forwards, pieces have their endings in
common, and backwards their beginnings. -/
def setFootprint (direction : Direction) (set : Charset) : Nat :=
  if set.isAscii then stateSize + branchSize set.ranges.length
  else
    let pieces := set.octets
    match direction with
    | .forwards =>
      let states := (statesFor maxOctets pieces []).2
      states.foldl (fun size state => size + branchSize state.length) stateSize
    | .backwards =>
      let states := (pieces.flatMap beginnings).eraseDups
      stateSize + forkSize pieces.length + stateSize * states.length

def textOctets (text : List Char) : List UInt8 :=
  text.flatMap String.utf8EncodeChar

/-- The words that follow an octet among several words. -/
def tails (octet : UInt8) (words : List (List UInt8)) : List (List UInt8) :=
  words.filterMap fun
    | first :: rest => if first = octet then some rest else none
    | [] => none

/-- The size of the tree of several words.  A word that ends within others parts those
before it from those behind it, but it does so only once at the start. -/
def treeFootprint : Nat → List (List UInt8) → Nat
  | 0, _ => 0
  | fuel + 1, words =>
    let words := if words.head? = some [] then [] :: words.dropWhile List.isEmpty else words
    let chunks := words.splitOnP List.isEmpty
    let sizes := chunks.map fun chunk =>
      let octets := (chunk.filterMap List.head?).eraseDups
      let below := octets.map fun octet =>
        let rest := tails octet chunk
        if rest.all List.isEmpty then 0 else treeFootprint fuel rest
      (if octets.length ≤ 1 then stateSize * octets.length else branchSize octets.length) +
        below.sum
    let ways := (chunks.filter (!·.isEmpty)).length + (chunks.length - 1)
    sizes.sum + if ways ≤ 1 then 0 else forkSize ways

def Expr.text? : Expr → Option (List Char)
  | .literal text => some text
  | _ => none

/-- The size of the automaton for a choice between texts. -/
def textsFootprint (direction : Direction) (texts : List (List Char)) : Nat :=
  let words := texts.map fun text =>
    match direction with
    | .forwards => textOctets text
    | .backwards => (textOctets text).reverse
  let longest := (words.map List.length).foldl max 0
  stateSize + treeFootprint (longest + 1) words

/-- The size of an automaton for something several times, from the size for it. -/
def repeatedFootprint (low : Nat) (high : Option Nat) (solid : Bool) (size : Nat) : Nat :=
  match low, high with
  | 0, some 1 => size + forkSize 2 + stateSize
  | 0, none =>
    if solid then size + forkSize 2 else size + forkSize 2 + forkSize 2 + stateSize
  | low, none => low * size + forkSize 2
  | low, some high =>
    if low = high then low * size
    else
      (if low = 0 then stateSize else low * size) + stateSize +
        (high - low) * (size + forkSize 2)

mutual

/-- The size of the automaton for an expression. -/
def Expr.footprint (direction : Direction) : Expr → Nat
  | .empty | .look _ => stateSize
  | .literal text => stateSize * (textOctets text).length
  | .oneOf set => setFootprint direction set
  | .repeated low high inner =>
    repeatedFootprint low high inner.isSolid (inner.footprint direction)
  | .capture inner =>
    match direction with
    | .forwards => 2 * stateSize + inner.footprint direction
    | .backwards => inner.footprint direction
  | .concat items => Expr.footprints direction items
  | .choice branches =>
    match branches.mapM Expr.text? with
    | some texts => textsFootprint direction texts
    | none => forkSize branches.length + stateSize + Expr.footprints direction branches

def Expr.footprints (direction : Direction) : List Expr → Nat
  | [] => 0
  | item :: items => item.footprint direction + Expr.footprints direction items

end

/-- The condition that a match starts, or ends, where the text does. -/
def Direction.edge : Direction → Look
  | forwards => .textStart
  | backwards => .textEnd

mutual

/-- Whether an expression starts with the edge of the text, in the given direction. -/
def Expr.isAnchored (direction : Direction) : Expr → Bool
  | .look condition => condition == direction.edge
  | .empty | .literal _ | .oneOf _ => false
  | .repeated low _ inner => 0 < low && inner.isAnchored direction
  | .capture inner => inner.isAnchored direction
  | .concat items =>
    match direction with
    | .forwards => Expr.firstAnchored direction items
    | .backwards => Expr.lastAnchored direction items
  | .choice branches => Expr.allAnchored direction branches

/-- Whether one of several expressions does, before the first that is not void. -/
def Expr.firstAnchored (direction : Direction) : List Expr → Bool
  | [] => false
  | item :: items =>
    item.isAnchored direction || (item.isVoid && Expr.firstAnchored direction items)

/-- Whether one of several expressions does, behind the last that is not void. -/
def Expr.lastAnchored (direction : Direction) : List Expr → Bool
  | [] => false
  | item :: items =>
    Expr.lastAnchored direction items ||
      (Expr.areVoid items && item.isAnchored direction)

def Expr.allAnchored (direction : Direction) : List Expr → Bool
  | [] => true
  | item :: items => item.isAnchored direction && Expr.allAnchored direction items

end

/-- The size of the part of an automaton that goes to where a match starts.  Nothing is
to be done if that is the edge of the text. -/
def Expr.searchFootprint (direction : Direction) (expr : Expr) : Nat :=
  if expr.isAnchored direction then stateSize else forkSize 2 + stateSize + branchSize 1

/-- The size of the whole automaton for an expression.  Forwards, the match as a whole
is remembered. -/
def Expr.wholeFootprint (direction : Direction) (expr : Expr) : Nat :=
  expr.searchFootprint direction + (Expr.capture expr).footprint direction + stateSize

def Expr.isTooLarge (direction : Direction) (expr : Expr) : Bool :=
  maxFootprint < expr.wholeFootprint direction

end LossWindows.Pattern
