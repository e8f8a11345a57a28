/-!
# Shares of a total

How many of how many, and the same in percent with exactly two decimal places.  A percentage is
a binary fraction.  It is rounded once, from its exact binary expansion, and a tie goes to the
even neighbour: one eighth is `0.12` and three eighths are `0.38`.

## Main definitions

* `roundDiv` — a quotient rounded to the nearest integer, ties to even.
* `Binary.ofBits` — the exact value of a nonnegative finite double.
* `twoPlaces` — the text of a double.
* `Share` — a part beside its total.
* `Share.percent`, `Share.percentText` — the part in percent.
-/

namespace LossWindows

namespace Text

/-- The integer nearest to `num / den`, and of two equally near ones the even one. -/
def roundDiv (num den : Nat) : Nat :=
  let quotient := num / den
  let remainder := num % den
  if 2 * remainder < den then quotient
  else if 2 * remainder = den ∧ quotient % 2 = 0 then quotient
  else quotient + 1

/-- The number `mantissa * 2 ^ exponent`. -/
structure Binary where
  mantissa : Nat
  exponent : Int
deriving DecidableEq

/-- The value of a nonnegative finite double with the given IEEE 754 bits.  A zero
exponent field stands for the subnormal numbers, without the hidden leading bit. -/
def Binary.ofBits (bits : UInt64) : Binary :=
  let fraction : Nat := bits.toNat % (1 <<< 52)
  let field : Nat := (bits.toNat >>> 52) % (1 <<< 11)
  if field = 0 then ⟨fraction, -1074⟩
  else ⟨(1 <<< 52) + fraction, (field : Int) - 1075⟩

/-- The nearest multiple of one hundredth, counted in hundredths. -/
def Binary.hundredths (x : Binary) : Nat :=
  roundDiv ((100 * x.mantissa) <<< x.exponent.toNat) (1 <<< (-x.exponent).toNat)

/-- The text of a nonnegative finite double with two decimal places. -/
def twoPlaces (x : Float) : String :=
  let hundredths := (Binary.ofBits x.toBits).hundredths
  s!"{hundredths / 100}.{hundredths / 10 % 10}{hundredths % 10}"

end Text

/-- A part of a total. -/
structure Share where
  count : Nat
  total : Nat
deriving DecidableEq

namespace Share

/-- The part in percent, in double precision: the quotient is rounded before it is
scaled.  Of nothing there is no share. -/
def percent (share : Share) : Float :=
  if share.total = 0 then 0.0 else share.count.toFloat / share.total.toFloat * 100.0

def percentText (share : Share) : String :=
  Text.twoPlaces share.percent

end Share

end LossWindows
