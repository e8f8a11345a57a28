import LossWindows.Text.Numeral

/-!
# Numerals by their grammar

A numeral is one or more ASCII digits, behind a sign or not.  Its value is that of the digits,
however many there are; a bound has no part in it.  Reading digits against a bound finds that
value or refuses it, and it refuses only numbers that exceed the bound: zeros in front do not
add up to anything.

## Main definitions

* `Digits` — one or more digits and their value.
* `Unsigned` — the numerals that may have a plus sign.
* `Signed` — the numerals that may have either sign.
-/

namespace LossWindows.Text.Numeral

/-- One or more ASCII digits, and the number that they are. -/
structure Digits (text : List Char) (n : Nat) : Prop where
  ne_nil : text ≠ []
  isDigit : ∀ c ∈ text, c.isDigit = true
  value : Nat.ofDigitChars 10 text 0 = n

/-- Digits, with a plus sign or without. -/
inductive Unsigned : List Char → Nat → Prop
  | plain {text : List Char} {n : Nat} : Digits text n → Unsigned text n
  | plus {text : List Char} {n : Nat} : Digits text n → Unsigned ('+' :: text) n

/-- Digits, with a sign or without. -/
inductive Signed : List Char → Int → Prop
  | plain {text : List Char} {n : Nat} : Digits text n → Signed text n
  | plus {text : List Char} {n : Nat} : Digits text n → Signed ('+' :: text) n
  | minus {text : List Char} {n : Nat} : Digits text n → Signed ('-' :: text) (-n)

variable {text : List Char} {bound bits n : Nat} {i : Int}

/-! ## Digits -/

theorem not_digits_nil : ¬ Digits [] n :=
  fun h => h.ne_nil rfl

theorem not_digits_cons {c : Char} (hc : c.isDigit = false) : ¬ Digits (c :: text) n := by
  intro h
  have hdigit := h.isDigit c List.mem_cons_self
  rw [hc] at hdigit
  cases hdigit

/-- **Digits are read as their value, up to the bound.** -/
theorem digitsFrom_zero_eq_ok_iff (hne : text ≠ []) :
    digitsFrom bound 0 text = .ok n ↔ Digits text n ∧ n ≤ bound := by
  rw [digitsFrom_eq_ok_iff (Nat.zero_le bound)]
  constructor
  · rintro ⟨hdigit, hvalue, hle⟩
    exact ⟨⟨hne, hdigit, hvalue⟩, hle⟩
  · rintro ⟨h, hle⟩
    exact ⟨h.isDigit, h.value, hle⟩

theorem map_digitsFrom_eq_some_iff {f : Nat → Int} (hne : text ≠ []) :
    (digitsFrom bound 0 text).toOption.map f = some i ↔
      ∃ n, Digits text n ∧ n ≤ bound ∧ f n = i := by
  have hread (n : Nat) : (digitsFrom bound 0 text).toOption = some n ↔
      Digits text n ∧ n ≤ bound := by
    rw [← digitsFrom_zero_eq_ok_iff hne]
    cases digitsFrom bound 0 text <;> simp [Except.toOption]
  simp only [Option.map_eq_some_iff, hread, and_assoc]

/-! ## Without a minus sign -/

theorem unsigned_cons_plus_iff : Unsigned ('+' :: text) n ↔ Digits text n := by
  constructor
  · intro h
    cases h with
    | plain h => exact absurd h (not_digits_cons rfl)
    | plus h => exact h
  · exact .plus

theorem unsigned_iff_digits (hplus : ∀ rest, text ≠ '+' :: rest) :
    Unsigned text n ↔ Digits text n := by
  constructor
  · intro h
    cases h with
    | plain h => exact h
    | plus => exact absurd rfl (hplus _)
  · exact .plain

/-- **The numerals up to a bound.** -/
theorem unsigned_eq_ok_iff : unsigned bound text = .ok n ↔ Unsigned text n ∧ n ≤ bound := by
  fun_cases unsigned bound text with
  | case1 =>
    rw [unsigned_iff_digits (by simp)]
    simp [not_digits_nil]
  | case2 =>
    rw [unsigned_cons_plus_iff]
    simp [not_digits_nil]
  | case3 rest hne => rw [unsigned_cons_plus_iff, digitsFrom_zero_eq_ok_iff hne]
  | case4 text hne _ hplus => rw [unsigned_iff_digits hplus, digitsFrom_zero_eq_ok_iff hne]

/-! ## With either sign -/

theorem signed_cons_plus_iff : Signed ('+' :: text) i ↔ ∃ n : Nat, Digits text n ∧ i = n := by
  constructor
  · intro h
    cases h with
    | plain h => exact absurd h (not_digits_cons rfl)
    | plus h => exact ⟨_, h, rfl⟩
  · rintro ⟨n, h, rfl⟩
    exact .plus h

theorem signed_cons_minus_iff : Signed ('-' :: text) i ↔ ∃ n : Nat, Digits text n ∧ i = -n := by
  constructor
  · intro h
    cases h with
    | plain h => exact absurd h (not_digits_cons rfl)
    | minus h => exact ⟨_, h, rfl⟩
  · rintro ⟨n, h, rfl⟩
    exact .minus h

theorem signed_iff_digits (hplus : ∀ rest, text ≠ '+' :: rest)
    (hminus : ∀ rest, text ≠ '-' :: rest) :
    Signed text i ↔ ∃ n : Nat, Digits text n ∧ i = n := by
  constructor
  · intro h
    cases h with
    | plain h => exact ⟨_, h, rfl⟩
    | plus => exact absurd rfl (hplus _)
    | minus => exact absurd rfl (hminus _)
  · rintro ⟨n, h, rfl⟩
    exact .plain h

/-- Of the numbers from zero on, the largest is one below the bound. -/
theorem map_ofNat_digitsFrom_eq_some_iff (hne : text ≠ []) (hbound : 0 < bound) :
    (digitsFrom (bound - 1) 0 text).toOption.map Int.ofNat = some i ↔
      (∃ n : Nat, Digits text n ∧ i = n) ∧ -(bound : Int) ≤ i ∧ i < bound := by
  rw [map_digitsFrom_eq_some_iff hne]
  constructor
  · rintro ⟨n, h, hle, rfl⟩
    refine ⟨⟨n, h, rfl⟩, ?_⟩
    rw [Int.ofNat_eq_natCast]
    omega
  · rintro ⟨⟨n, h, rfl⟩, hrange⟩
    exact ⟨n, h, by omega, rfl⟩

/-- Of the numbers down from zero, the smallest is the bound itself. -/
theorem map_neg_digitsFrom_eq_some_iff (hne : text ≠ []) (hbound : 0 < bound) :
    (digitsFrom bound 0 text).toOption.map (- Int.ofNat ·) = some i ↔
      (∃ n : Nat, Digits text n ∧ i = -n) ∧ -(bound : Int) ≤ i ∧ i < bound := by
  rw [map_digitsFrom_eq_some_iff hne]
  constructor
  · rintro ⟨n, h, hle, rfl⟩
    refine ⟨⟨n, h, rfl⟩, ?_⟩
    rw [Int.ofNat_eq_natCast]
    omega
  · rintro ⟨⟨n, h, rfl⟩, hrange⟩
    exact ⟨n, h, by omega, rfl⟩

/-- **The numerals of a number of bits in two's complement.** -/
theorem signed?_eq_some_iff : signed? bits text = some i ↔
    Signed text i ∧ -((1 <<< (bits - 1) : Nat) : Int) ≤ i ∧ i < (1 <<< (bits - 1) : Nat) := by
  have hbound : 0 < 1 <<< (bits - 1) := by
    rw [Nat.one_shiftLeft]
    exact Nat.two_pow_pos _
  fun_cases signed? bits text with
  | case1 =>
    rw [signed_iff_digits (by simp) (by simp)]
    simp [not_digits_nil]
  | case2 =>
    rw [signed_cons_plus_iff]
    simp [not_digits_nil]
  | case3 =>
    rw [signed_cons_minus_iff]
    simp [not_digits_nil]
  | case4 rest hne =>
    rw [signed_cons_plus_iff, map_ofNat_digitsFrom_eq_some_iff hne hbound]
  | case5 rest hne =>
    rw [signed_cons_minus_iff, map_neg_digitsFrom_eq_some_iff hne hbound]
  | case6 text hne _ _ hplus hminus =>
    rw [signed_iff_digits hplus hminus, map_ofNat_digitsFrom_eq_some_iff hne hbound]

/-! ## Written numbers -/

/-- A numeral has one value. -/
theorem Signed.unique {j : Int} (h : Signed text i) (h' : Signed text j) : i = j := by
  cases h with
  | plain hdigits =>
    cases h' with
    | plain hdigits' => rw [← hdigits.value, ← hdigits'.value]
    | plus | minus => exact absurd hdigits (not_digits_cons rfl)
  | plus hdigits =>
    cases h' with
    | plain hdigits' => exact absurd hdigits' (not_digits_cons rfl)
    | plus hdigits' => rw [← hdigits.value, ← hdigits'.value]
  | minus hdigits =>
    cases h' with
    | plain hdigits' => exact absurd hdigits' (not_digits_cons rfl)
    | minus hdigits' => rw [← hdigits.value, ← hdigits'.value]

theorem digits_toString (n : Nat) : Digits (toString n).toList n := by
  have hdigits : (toString n).toList = Nat.toDigits 10 n := Nat.toList_repr
  rw [hdigits]
  refine ⟨Nat.toDigits_ne_nil, ?_, Nat.ofDigitChars_ten_toDigits⟩
  intro c hc
  exact Nat.isDigit_of_mem_toDigits (by decide) (by decide) hc

theorem signed_toString (i : Int) : Signed (toString i).toList i := by
  rw [Int.toString_eq_repr, Int.repr_eq_if]
  split
  · next hsign =>
    have hplain := Signed.plain (digits_toString i.toNat)
    rwa [Int.toNat_of_nonneg hsign] at hplain
  · next hsign =>
    have hminus := Signed.minus (digits_toString (-i).toNat)
    rw [Int.toNat_of_nonneg (by omega), Int.neg_neg] at hminus
    rw [String.toList_append]
    exact hminus

/-- Different numbers are written differently. -/
theorem nat_eq_of_toString_eq {m n : Nat} (h : toString m = toString n) : m = n := by
  have hdigits := digits_toString m
  rw [h] at hdigits
  rw [← hdigits.value, (digits_toString n).value]

theorem int_eq_of_toString_eq {i j : Int} (h : toString i = toString j) : i = j := by
  have hsigned := signed_toString i
  rw [h] at hsigned
  exact hsigned.unique (signed_toString j)

end LossWindows.Text.Numeral
