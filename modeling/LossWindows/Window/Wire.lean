import LossWindows.Window.Basic

/-!
# Bitmaps in wire words

On the wire a bitmap is packed into four 64-bit words, the first position in the
lowest bit of the first word.  A set bit means that the packet was not dropped,
and positions that the bitmap does not have stay clear.

Both directions are stated through one view, `bitAt`, which reads the words as a
row of 256 bits: packing is right when that row shows the bitmap, and unpacking
lists the row.

## Main definitions

* `WireWords` — the four words.
* `WireWords.ofBits` — packing a bitmap.
* `WireWords.bitAt` — the bit at a position.
* `WireWords.toBits` — unpacking the first positions.
-/

namespace LossWindows

/-- The 64-bit words that carry a bitmap. -/
abbrev WireWords := Vector UInt64 wireWords

namespace WireWords

/-- The number whose binary digits are `bits`, the lowest one first. -/
def valueOf (bits : List Bool) : Nat :=
  bits.foldr (fun bit value => 2 * value + bit.toNat) 0

/-- Packs a bitmap, 64 positions to a word.  Positions past the last word are not
carried. -/
def ofBits (bits : List Bool) : WireWords :=
  Vector.ofFn fun word => UInt64.ofNat (valueOf ((bits.drop (64 * word)).take 64))

/-- The bit at a position, counted through the words from the lowest bit of the
first one. -/
def bitAt (words : WireWords) (position : Nat) : Bool :=
  match words[position / 64]? with
  | some word => word.toNat.testBit (position % 64)
  | none => false

/-- Unpacks the first `width` positions, or all that there are. -/
def toBits (words : WireWords) (width : Nat) : List Bool :=
  (List.range (min width maxWidth)).map words.bitAt

/-! ## The row of bits -/

@[simp] theorem valueOf_nil : valueOf [] = 0 := rfl

@[simp] theorem valueOf_cons (bit : Bool) (bits : List Bool) :
    valueOf (bit :: bits) = 2 * valueOf bits + bit.toNat := rfl

/-- **The binary digits of `valueOf bits` are `bits`**, and zero behind them. -/
theorem testBit_valueOf (bits : List Bool) (i : Nat) :
    (valueOf bits).testBit i = bits.getD i false := by
  induction bits generalizing i with
  | nil => simp
  | cons bit bits ih =>
    cases i with
    | zero =>
      have h : (2 * valueOf bits + bit.toNat) % 2 = bit.toNat := by
        have := bit.toNat_le
        omega
      rw [valueOf_cons, Nat.testBit_zero, h]
      cases bit <;> rfl
    | succ i =>
      have h : (2 * valueOf bits + bit.toNat) / 2 = valueOf bits := by
        have := bit.toNat_le
        omega
      rw [valueOf_cons, Nat.testBit_succ, h, ih]
      rfl

theorem valueOf_lt (bits : List Bool) : valueOf bits < 1 <<< bits.length := by
  rw [Nat.one_shiftLeft]
  induction bits with
  | nil => simp
  | cons bit bits ih =>
    have := bit.toNat_le
    simp only [valueOf_cons, List.length_cons, Nat.pow_succ]
    omega

/-- **Packing shows the bitmap**: every position that the words have reads as the
bitmap's bit there, and as clear past its end. -/
theorem bitAt_ofBits (bits : List Bool) {i : Nat} (h : i < maxWidth) :
    (ofBits bits).bitAt i = bits.getD i false := by
  have hw : i / 64 < wireWords := by
    unfold maxWidth at h
    omega
  have hm : i % 64 < 64 := Nat.mod_lt _ (by decide)
  have hv : valueOf ((bits.drop (64 * (i / 64))).take 64) < 2 ^ 64 := by
    have hlt := valueOf_lt ((bits.drop (64 * (i / 64))).take 64)
    rw [Nat.one_shiftLeft] at hlt
    exact Nat.lt_of_lt_of_le hlt
      (Nat.pow_le_pow_right (by decide) (List.length_take_le 64 _))
  have hget : (ofBits bits)[i / 64]? =
      some (UInt64.ofNat (valueOf ((bits.drop (64 * (i / 64))).take 64))) := by
    simp [ofBits, hw]
  rw [bitAt, hget]
  dsimp only
  rw [UInt64.toNat_ofNat', Nat.mod_eq_of_lt hv, testBit_valueOf]
  simp only [List.getD_eq_getElem?_getD, List.getElem?_take, hm, if_true, List.getElem?_drop,
    Nat.div_add_mod]

@[simp] theorem length_toBits (words : WireWords) (width : Nat) :
    (words.toBits width).length = min width maxWidth := by
  simp [toBits]

/-- Unpacking lists the row of bits. -/
theorem getElem?_toBits (words : WireWords) {width i : Nat} (h : i < min width maxWidth) :
    (words.toBits width)[i]? = some (words.bitAt i) := by
  simp only [toBits, List.getElem?_map, List.getElem?_range h, Option.map_some]

end WireWords

/-- The wire words of a window's bitmap. -/
def Window.wire (w : Window) : WireWords :=
  WireWords.ofBits w.bits

end LossWindows
