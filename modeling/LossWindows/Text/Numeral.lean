/-!
# Decimal numerals

A numeral is an optional sign and one or more ASCII digits, with as many leading
zeros as one likes.  Digits are read from left to right against a bound, and the
first fault on the way decides: of a letter and an overflow, the one that is met
first.

## Main definitions

* `Numeral.Fault` — why a text is no numeral within its bound.
* `Numeral.unsigned` — numerals without a minus sign.
* `Numeral.signed?` — numerals of either sign, in two's complement bounds.
-/

namespace LossWindows.Text.Numeral

/-- Why a text is no numeral within its bound. -/
inductive Fault
  | empty
  | invalidDigit
  | tooLarge
deriving DecidableEq

def Fault.message : Fault → String
  | .empty => "cannot parse integer from empty string"
  | .invalidDigit => "invalid digit found in string"
  | .tooLarge => "number too large to fit in target type"

def digit? (c : Char) : Option Nat :=
  if c.isDigit then some (c.toNat - '0'.toNat) else none

/-- Reads on behind digits of value `value`, up to the bound. -/
def digitsFrom (bound value : Nat) : List Char → Except Fault Nat
  | [] => .ok value
  | c :: rest =>
    match digit? c with
    | none => .error .invalidDigit
    | some d =>
      if 10 * value + d ≤ bound then digitsFrom bound (10 * value + d) rest
      else .error .tooLarge

/-- The numerals up to `bound` with an optional plus sign. -/
def unsigned (bound : Nat) : List Char → Except Fault Nat
  | [] => .error .empty
  | ['+'] => .error .invalidDigit
  | '+' :: rest => digitsFrom bound 0 rest
  | text => digitsFrom bound 0 text

/-- The numerals of `bits` bits in two's complement, with an optional sign. -/
def signed? (bits : Nat) : List Char → Option Int
  | [] | ['+'] | ['-'] => none
  | '+' :: rest => (digitsFrom ((1 <<< (bits - 1)) - 1) 0 rest).toOption.map Int.ofNat
  | '-' :: rest => (digitsFrom (1 <<< (bits - 1)) 0 rest).toOption.map (- Int.ofNat ·)
  | text => (digitsFrom ((1 <<< (bits - 1)) - 1) 0 text).toOption.map Int.ofNat

/-- **Digits within the bound are read as their value**, which no digit behind the
first excess can undo. -/
theorem digitsFrom_eq_ok_iff {bound value n : Nat} {text : List Char} (hv : value ≤ bound) :
    digitsFrom bound value text = .ok n ↔
      (∀ c ∈ text, c.isDigit = true) ∧ Nat.ofDigitChars 10 text value = n ∧ n ≤ bound := by
  induction text generalizing value with
  | nil =>
    constructor
    · intro h; cases h; simp [hv]
    · rintro ⟨-, h, -⟩; rw [Nat.ofDigitChars_nil] at h; rw [digitsFrom, h]
  | cons c rest ih =>
    simp only [digitsFrom, Nat.ofDigitChars_cons, List.mem_cons, forall_eq_or_imp]
    by_cases hc : c.isDigit = true
    · simp only [digit?, hc, if_true, true_and]
      split
      · exact ih ‹_›
      · simp only [reduceCtorEq, false_iff, not_and]
        rintro - rfl hn
        rw [Nat.ofDigitChars_eq_ofDigitChars_zero] at hn
        have := Nat.le_mul_of_pos_left (10 * value + (c.toNat - '0'.toNat))
          (Nat.pow_pos (n := rest.length) (show 0 < 10 by decide))
        omega
    · simp [digit?, hc]

end LossWindows.Text.Numeral
