/-!
# Hexadecimal words

A 64-bit word is written as `0x` and exactly sixteen lower-case digits, leading
zeros included, so words line up and each has one written form.

## Main definitions

* `Hex.encode` — the written form of a word.
* `Hex.decode` — the word of a written form.
-/

namespace LossWindows.Text.Hex

/-- The lowest `count` hexadecimal digits of `n`, the highest one first. -/
def digits : Nat → Nat → List Nat
  | 0, _ => []
  | count + 1, n => digits count (n / 16) ++ [n % 16]

/-- The number with the given digits, the highest one first. -/
def ofDigits (ds : List Nat) : Nat :=
  ds.foldl (fun value d => 16 * value + d) 0

def digit? (c : Char) : Option Nat :=
  if c.isDigit then some (c.toNat - '0'.toNat)
  else if 'a' ≤ c ∧ c ≤ 'f' then some (c.toNat - 'a'.toNat + 10)
  else none

/-- The written form of a word. -/
def encode (word : UInt64) : List Char :=
  '0' :: 'x' :: (digits 16 word.toNat).map Nat.digitChar

def decode : List Char → Option UInt64
  | '0' :: 'x' :: text =>
    if text.length = 16 then (text.mapM digit?).map fun ds => UInt64.ofNat (ofDigits ds)
    else none
  | _ => none

@[simp] theorem length_digits (count n : Nat) : (digits count n).length = count := by
  induction count generalizing n with
  | zero => rfl
  | succ count ih => simp [digits, ih]

theorem lt_of_mem_digits {count n d : Nat} (h : d ∈ digits count n) : d < 16 := by
  induction count generalizing n with
  | zero => simp [digits] at h
  | succ count ih =>
    simp only [digits, List.mem_append, List.mem_singleton] at h
    rcases h with h | rfl
    · exact ih h
    · exact Nat.mod_lt _ (by decide)

/-- Digits read back as the number modulo what they can hold. -/
theorem ofDigits_digits (count n : Nat) :
    ofDigits (digits count n) = n % (1 <<< (4 * count)) := by
  rw [Nat.one_shiftLeft, Nat.pow_mul]
  show ofDigits (digits count n) = n % 16 ^ count
  induction count generalizing n with
  | zero => simp [digits, ofDigits, Nat.mod_one]
  | succ count ih =>
    have h := ih (n / 16)
    simp only [ofDigits] at h
    simp only [digits, ofDigits, List.foldl_append, h, List.foldl_cons, List.foldl_nil]
    rw [Nat.pow_succ, Nat.mul_comm (16 ^ count), Nat.mod_mul]
    omega

theorem digit?_digitChar {d : Nat} (h : d < 16) : digit? d.digitChar = some d := by
  have : ∀ d, d < 16 → digit? d.digitChar = some d := by decide
  exact this d h

theorem mapM_digit?_digitChar {ds : List Nat} (h : ∀ d ∈ ds, d < 16) :
    (ds.map Nat.digitChar).mapM digit? = some ds := by
  induction ds with
  | nil => rfl
  | cons d ds ih =>
    simp [List.mapM_cons, digit?_digitChar (h d (by simp)),
      ih fun e he => h e (by simp [he])]

/-- **A written word reads back.** -/
theorem decode_encode (word : UInt64) : decode (encode word) = some word := by
  have h := mapM_digit?_digitChar fun d => @lt_of_mem_digits 16 word.toNat d
  have hw : ofDigits (digits 16 word.toNat) = word.toNat := by
    rw [ofDigits_digits]
    exact Nat.mod_eq_of_lt word.toNat_lt
  simp [decode, encode, h, hw]

end LossWindows.Text.Hex
