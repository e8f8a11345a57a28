import LossWindows.Pattern.Footprint
import LossWindows.Pattern.Meaning
import LossWindows.Pattern.Reader

/-!
# Matching

A set of places in a text is a number, with a bit for every place.  An expression
leads from places to places, namely from where a match starts to where it ends, and
it leads from a set to the union of what it leads to from the single places.

So it is applied to several sets at once.  Applied to the places one by one it gives
the table of a relation, and what is repeated is that relation composed with itself.
Hence every part of an expression is applied once, however deep the repetitions are.

A written pattern is refused when it is not well formed, when it has no meaning, when it is
too large, and when it asks for words of any characters, which are not known.

## Main definitions

* `Places` — a set of places.
* `Table` — a relation between places.
* `Expr.ends` — where matches end.
* `Expr.occursIn` — whether some part of a text matches.
* `Refusal` — why a pattern is refused.
* `Expr.ofText` — the expression that a pattern stands for.
-/

namespace LossWindows.Pattern

/-- A set of places in a text. -/
abbrev Places := Nat

/-- For every place the places that it leads to. -/
abbrev Table := Array Places

/-- The places before the characters of a kind. -/
def placesBefore (kind : Char → Bool) (text : List Char) : Places :=
  text.foldr (fun c places => 2 * places + if kind c then 1 else 0) 0

/-- The characters before and behind every place of a text. -/
def sides (text : List Char) : List (Option Char × Option Char) :=
  (none :: text.map some).zip (text.map some ++ [none])

def isWordChar (c : Char) : Bool :=
  c.isAlphanum || c == '_'

def WordLook.holds (look : WordLook) (before behind : Option Char) : Bool :=
  let first := before.any isWordChar
  let second := behind.any isWordChar
  match look with
  | boundary => first != second
  | notBoundary => first == second
  | start => !first && second
  | stop => first && !second
  | startHalf => !first
  | stopHalf => !second

/-- Whether a condition holds between two characters, which are missing at the start
and at the end of a text. -/
def Look.holds (look : Look) (before behind : Option Char) : Bool :=
  match look with
  | textStart => before.isNone
  | textEnd => behind.isNone
  | lineStart crlf =>
    before.isNone || before == some '\n' ||
      (crlf && before == some '\r' && behind != some '\n')
  | lineEnd crlf =>
    behind.isNone || (crlf && behind == some '\r') ||
      (behind == some '\n' && !(crlf && before == some '\r'))
  | word _ look => look.holds before behind

/-- The places of a text where a condition holds. -/
def Look.places (look : Look) (text : List Char) : Places :=
  (sides text).foldr (fun (before, behind) places =>
    2 * places + if look.holds before behind then 1 else 0) 0

namespace Table

/-- Every place leads to itself. -/
def identity (count : Nat) : Table :=
  (Array.range count).map fun place => 1 <<< place

theorem mod_log2_lt {places : Places} (h : places ≠ 0) :
    places % (1 <<< places.log2) < places := by
  rw [Nat.one_shiftLeft]
  exact Nat.lt_of_lt_of_le (Nat.mod_lt _ (Nat.two_pow_pos _)) (Nat.log2_self_le h)

/-- Where a table leads from the places of a set, the last of which comes first. -/
def apply (table : Table) (places : Places) : Places :=
  if places = 0 then 0
  else table[places.log2]?.getD 0 ||| apply table (places % (1 <<< places.log2))
termination_by places
decreasing_by exact mod_log2_lt ‹_›

def compose (first second : Table) : Table :=
  first.map second.apply

def optional (table : Table) : Table :=
  table.mapIdx fun place places => (1 <<< place) ||| places

def power (table : Table) (count : Nat) : Table :=
  if count = 0 then identity table.size
  else if count = 1 then table
  else
    let half := power table (count / 2)
    let square := half.compose half
    if count % 2 = 0 then square else square.compose table

/-- A table applied any number of times.  No place leads to an earlier one, so the rows
are known from the last one to the first. -/
def closure (table : Table) : Table :=
  (List.range table.size).foldr (fun place rows =>
    rows.setIfInBounds place ((1 <<< place) ||| rows.apply (table[place]?.getD 0)))
    (Array.replicate table.size 0)

/-- A table applied a number of times within bounds.  Where that is more often than
there are places, some place leads to itself, and more often makes no difference. -/
def times (table : Table) (low : Nat) (high : Option Nat) : Table :=
  let first := table.power (min low table.size)
  match high with
  | none => first.compose table.closure
  | some high =>
    if high - low < table.size then first.compose (table.optional.power (high - low))
    else first.compose table.closure

end Table

/-- Where the matches of a text end that start at places of some sets. -/
def literalEnds (text : List Char) : List Char → List Places → List Places
  | [], sets => sets
  | c :: cs, sets =>
    if sets.all (· == 0) then sets
    else
      let before := placesBefore (· == c) text
      literalEnds text cs (sets.map fun places => 2 * (places &&& before))

mutual

/-- Where matches end that start at places of some sets. -/
def Expr.ends (text : List Char) : Expr → List Places → List Places
  | .empty, sets => sets
  | .literal cs, sets => literalEnds text cs sets
  | .oneOf set, sets =>
    let before := placesBefore set.contains text
    sets.map fun places => 2 * (places &&& before)
  | .look condition, sets =>
    let places := condition.places text
    sets.map (· &&& places)
  | .repeated low high inner, sets =>
    let single := (Table.identity (text.length + 1)).toList
    let table : Table := (inner.ends text single).toArray
    sets.map (table.times low high).apply
  | .capture inner, sets => inner.ends text sets
  | .concat items, sets => Expr.endsOfAll text items sets
  | .choice branches, sets => Expr.endsOfAny text branches sets

/-- Where matches of several expressions end, one behind the other. -/
def Expr.endsOfAll (text : List Char) : List Expr → List Places → List Places
  | [], sets => sets
  | item :: items, sets =>
    if sets.all (· == 0) then sets
    else Expr.endsOfAll text items (item.ends text sets)

/-- Where matches of any of several expressions end. -/
def Expr.endsOfAny (text : List Char) : List Expr → List Places → List Places
  | [], sets => sets.map fun _ => 0
  | item :: items, sets =>
    (item.ends text sets).zipWith (· ||| ·) (Expr.endsOfAny text items sets)

end

/-- Whether some part of a text matches. -/
def Expr.occursIn (expr : Expr) (text : String) : Bool :=
  let places := (1 <<< (text.toList.length + 1)) - 1
  (expr.ends text.toList [places]).any (· != 0)

/-! ## Patterns as texts -/

/-- Why a pattern is refused. -/
inductive Refusal
  | fault (fault : Fault)
  | tooLarge
  | words
deriving DecidableEq

def Refusal.message (pattern : String) : Refusal → String
  | .fault e => e.message pattern
  | tooLarge => s!"Compiled regex exceeds size limit of {maxFootprint} bytes."
  | words => "error building NFA"

/-- The expression that a written pattern stands for. -/
def Expr.ofText (pattern : String) : Except Refusal Expr :=
  match Tree.read pattern.toList >>= Tree.meaning .initial with
  | .error fault => .error (.fault fault)
  | .ok (expr, _) =>
    if expr.isTooLarge .forwards then .error .tooLarge
    else if expr.asksForWords then .error .words
    else if expr.isTooLarge .backwards then .error .tooLarge
    else .ok expr

end LossWindows.Pattern
