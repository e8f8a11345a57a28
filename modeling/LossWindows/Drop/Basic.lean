import LossWindows.Drop.Kind
import LossWindows.Text.Lines
import LossWindows.Text.Numeral

/-!
# Drop lines

A switch writes one line for each packet that it drops.  Of the fields of a line
only two matter here: the fifth is the sequence number of the packet, and the sixth
is the tag that says why it was dropped.  A line with fewer fields, or without
numbers in these two, is not a drop line.

## Main definitions

* `Drop` — a sequence number and a tag.
* `Drop.ofLine?` — the drop that a line tells of.
-/

namespace LossWindows

/-- A dropped packet. -/
structure Drop where
  seq : UInt32
  tag : Int64
deriving DecidableEq

namespace Drop

/-- The place of the sequence number among the fields of a line. -/
def seqField : Nat := 4

def tagField : Nat := 5

def kind? (drop : Drop) : Option DropKind :=
  DropKind.ofTag? drop.tag

/-- The drop that a line tells of, if it is a drop line. -/
def ofLine? (line : String) : Option Drop := do
  let fields := Text.fields line.toList
  let seq ← fields[seqField]?
  let tag ← fields[tagField]?
  return {
    seq := UInt32.ofNat (← (Text.Numeral.unsigned (UInt32.size - 1) seq).toOption)
    tag := Int64.ofInt (← Text.Numeral.signed? 64 tag) }

/-- Only the fields of a line matter, not the blanks around them. -/
theorem ofLine?_congr {line line' : String}
    (h : Text.fields line.toList = Text.fields line'.toList) : ofLine? line = ofLine? line' := by
  simp only [ofLine?, h]

/-- A line with fewer than six fields is no drop line. -/
theorem ofLine?_eq_none_of_length {line : String}
    (h : (Text.fields line.toList).length ≤ tagField) : ofLine? line = none := by
  simp [ofLine?, List.getElem?_eq_none h]

theorem ofLine?_empty : ofLine? "" = none :=
  ofLine?_eq_none_of_length (Nat.zero_le _)

end Drop

end LossWindows
