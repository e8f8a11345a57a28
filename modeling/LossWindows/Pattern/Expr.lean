import LossWindows.Pattern.Charset

/-!
# What patterns match

An expression says what texts a pattern matches, and nothing of how it is written.
It is built by functions that keep it simple: literals that stand next to each other
are one, a choice between characters is a set, and nothing is left of what matches
the empty text only.

## Main definitions

* `Look` — a condition on a place in a text.
* `Expr` — what a pattern matches.
* `Expr.ofSet`, `Expr.times`, `Expr.sequence`, `Expr.anyOf` — building expressions.
-/

namespace LossWindows.Pattern

/-- A condition on the words around a place. -/
inductive WordLook
  | boundary
  | notBoundary
  | start
  | stop
  | startHalf
  | stopHalf
deriving DecidableEq

/-- A condition on a place in a text. -/
inductive Look
  | textStart
  | textEnd
  | lineStart (crlf : Bool)
  | lineEnd (crlf : Bool)
  /-- A condition on words, of any characters or of those of ASCII. -/
  | word (unicode : Bool) (look : WordLook)
deriving DecidableEq

/-- What a pattern matches. -/
inductive Expr
  | empty
  | literal (text : List Char)
  | oneOf (set : Charset)
  | look (look : Look)
  /-- Something several times, without an upper bound if `high` is missing. -/
  | repeated (low : Nat) (high : Option Nat) (inner : Expr)
  | capture (inner : Expr)
  | concat (items : List Expr)
  | choice (branches : List Expr)

namespace Expr

/-- Nothing at all. -/
def never : Expr := .oneOf .empty

def ofSet (set : Charset) : Expr :=
  match set.single? with
  | some code => .literal [Char.ofNat code]
  | none => .oneOf set

mutual

/-- Whether an expression matches no other text than the empty one. -/
def isVoid : Expr → Bool
  | .empty | .look _ => true
  | .literal _ | .oneOf _ => false
  | .repeated _ high inner => high.isSome && inner.isVoid
  | .capture inner => inner.isVoid
  | .concat items | .choice items => areVoid items

def areVoid : List Expr → Bool
  | [] => true
  | item :: items => item.isVoid && areVoid items

end

mutual

/-- Whether an expression never matches the empty text. -/
def isSolid : Expr → Bool
  | .empty | .look _ => false
  | .literal _ => true
  | .oneOf set => !set.ranges.isEmpty
  | .repeated low _ inner => 0 < low && inner.isSolid
  | .capture inner => inner.isSolid
  | .concat items => anySolid items
  | .choice branches => allSolid branches

def anySolid : List Expr → Bool
  | [] => false
  | item :: items => item.isSolid || anySolid items

def allSolid : List Expr → Bool
  | [] => true
  | item :: items => item.isSolid && allSolid items

end

/-- Something several times.  What matches the empty text only is not repeated. -/
def times (low : Nat) (high : Option Nat) (inner : Expr) : Expr :=
  let (low, high) := if inner.isVoid then (min low 1, some (min (high.getD 1) 1)) else (low, high)
  if low = 0 ∧ high = some 0 then .empty
  else if low = 1 ∧ high = some 1 then inner
  else .repeated low high inner

/-- Puts an expression in front of others, and joins it with a literal there. -/
def before (item : Expr) (items : List Expr) : List Expr :=
  match item, items with
  | .empty, items => items
  | .literal a, .literal b :: items => .literal (a ++ b) :: items
  | item, items => item :: items

def parts : Expr → List Expr
  | .concat items => items
  | item => [item]

/-- Several things, one behind the other, given from the last to the first. -/
def sequence (reversed : List Expr) : Expr :=
  match reversed.foldl (fun items item => item.parts.foldr before items) [] with
  | [] => .empty
  | [item] => item
  | items => .concat items

def branches : Expr → List Expr
  | .choice branches => branches
  | item => [item]

def letter? : Expr → Option Charset
  | .literal [c] => some (.singleton c.toNat)
  | _ => none

def set? : Expr → Option Charset
  | .oneOf set => some set
  | _ => none

/-- One of several things, given from the last to the first. -/
def anyOf (reversed : List Expr) : Expr :=
  let all := reversed.foldl (fun all item => item.branches ++ all) []
  match all, (all.mapM letter?).or (all.mapM set?) with
  | [], _ => never
  | [item], _ => item
  | _, some sets => ofSet (.ofRanges (sets.flatMap (·.ranges)))
  | all, none => .choice all

mutual

/-- Whether an expression asks for words of any characters. -/
def asksForWords : Expr → Bool
  | .look (.word unicode _) => unicode
  | .empty | .literal _ | .oneOf _ | .look _ => false
  | .repeated _ _ inner | .capture inner => inner.asksForWords
  | .concat items | .choice items => askForWords items

def askForWords : List Expr → Bool
  | [] => false
  | item :: items => item.asksForWords || askForWords items

end

end Expr

end LossWindows.Pattern
