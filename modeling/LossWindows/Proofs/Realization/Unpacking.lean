import LossWindows.Proofs.Realization.Packing
import Mathlib.Data.Nat.Bitwise

/-!
# Bitmaps there and back

The wire words of a bitmap are unpacked one position at a time, by masking its bit out of its
word.  No position is asked for that the words do not have, since a width past the last one is
cut off.

Packing and unpacking undo each other as far as they can.  A bitmap comes back with as many
positions as are asked for, clear ones behind its own.  In the other direction words come back
with the bits that were asked for, and the rest of them is clear.

## Main definitions

* `WireWords.bit?` — the bit at a position by its mask, when the words have it.
* `WireWords.unpack?` — the first positions, bit by bit.
-/

namespace LossWindows

namespace WireWords

/-- The bit at a position, masked out of its word, when the words have it. -/
def bit? (words : WireWords) (position : Nat) : Option Bool :=
  words[position / 64]?.map fun word => word &&& 1 <<< UInt64.ofNat (position % 64) != 0

/-- Unpacks the first `width` positions bit by bit, or all that there are. -/
def unpack? (words : WireWords) (width : Nat) : Option (List Bool) :=
  (List.range (min width maxWidth)).mapM words.bit?

variable {words : WireWords} {width position i k : Nat} {bits : List Bool}

/-! ## Unpacking bit by bit -/

/-- Masking a bit out of a word reads this one digit. -/
theorem and_shiftLeft_bne_zero (word : UInt64) (hp : position < 64) :
    (word &&& 1 <<< UInt64.ofNat position != 0) = word.toNat.testBit position := by
  have hmask : (word &&& 1 <<< UInt64.ofNat position).toNat =
      (word.toNat.testBit position).toNat * 1 <<< position := by
    rw [UInt64.toNat_and, toNat_one_shiftLeft hp, Nat.one_shiftLeft, Nat.and_two_pow]
  rw [Bool.eq_iff_iff, bne_iff_ne, ne_eq, ← UInt64.toNat_inj, hmask, UInt64.toNat_zero]
  cases word.toNat.testBit position with
  | false => simp
  | true => simp [Nat.one_shiftLeft]

theorem bit?_eq_some_bitAt (hp : position < maxWidth) :
    words.bit? position = some (words.bitAt position) := by
  have hword : position / 64 < wireWords := by
    unfold maxWidth at hp
    omega
  rw [bit?, bitAt, Vector.getElem?_eq_getElem hword, Option.map_some]
  exact congrArg some (and_shiftLeft_bne_zero _ (Nat.mod_lt _ (by decide)))

theorem mapM_eq_some_map {f : Nat → Option Bool} {g : Nat → Bool} {l : List Nat}
    (h : ∀ i ∈ l, f i = some (g i)) : l.mapM f = some (l.map g) := by
  induction l with
  | nil => rfl
  | cons i l ih =>
    rw [List.forall_mem_cons] at h
    simp [h.1, ih h.2]

/-- **Unpacking never leaves the words**, and it lists the row of bits. -/
theorem unpack?_eq_some_toBits (words : WireWords) (width : Nat) :
    words.unpack? width = some (words.toBits width) := by
  apply mapM_eq_some_map
  intro i hi
  rw [List.mem_range] at hi
  exact bit?_eq_some_bitAt (by omega)

/-! ## The row of bits -/

theorem getD_toBits (words : WireWords) (width i : Nat) :
    (words.toBits width).getD i false = (words.bitAt i && decide (i < min width maxWidth)) := by
  rw [List.getD_eq_getElem?_getD]
  by_cases hi : i < min width maxWidth
  · rw [getElem?_toBits words hi, decide_eq_true hi, Bool.and_true, Option.getD_some]
  · have hlen : (words.toBits width).length ≤ i := by
      rw [length_toBits]
      omega
    rw [List.getElem?_eq_none hlen, decide_eq_false hi, Bool.and_false, Option.getD_none]

theorem getElem?_rightpad (bits : List Bool) {count : Nat} (hi : i < count) :
    (bits.rightpad count false)[i]? = some (bits.getD i false) := by
  rw [List.rightpad, List.getD_eq_getElem?_getD]
  by_cases hlen : i < bits.length
  · rw [List.getElem?_append_left hlen, List.getElem?_eq_getElem hlen, Option.getD_some]
  · have hle : bits.length ≤ i := Nat.le_of_not_lt hlen
    have hpad : i - bits.length < count - bits.length := by omega
    rw [List.getElem?_append_right hle, List.getElem?_replicate, if_pos hpad,
      List.getElem?_eq_none hle, Option.getD_none]

/-! ## There and back -/

/-- **A packed bitmap comes back** as far as positions are asked for, padded with clear
ones. -/
theorem toBits_ofBits (bits : List Bool) (width : Nat) :
    (ofBits bits).toBits width =
      (bits.rightpad (min width maxWidth) false).take (min width maxWidth) := by
  apply List.ext_getElem?
  intro i
  rw [List.getElem?_take]
  by_cases hi : i < min width maxWidth
  · rw [if_pos hi, getElem?_toBits _ hi, bitAt_ofBits bits (by omega), getElem?_rightpad bits hi]
  · rw [if_neg hi, List.getElem?_eq_none]
    rw [length_toBits]
    omega

theorem toBits_length_ofBits (h : bits.length ≤ maxWidth) :
    (ofBits bits).toBits bits.length = bits := by
  rw [toBits_ofBits, Nat.min_eq_left h, List.rightpad, Nat.sub_self, List.replicate_zero,
    List.append_nil, List.take_length]

/-- Past the bitmap the words are clear. -/
theorem testBit_getElem_ofBits_of_le (hk : k < wireWords) (hi : i < 64)
    (hle : bits.length ≤ 64 * k + i) : (ofBits bits)[k].toNat.testBit i = false := by
  have hp : 64 * k + i < maxWidth := by
    unfold maxWidth
    omega
  rw [testBit_getElem _ hk hi, bitAt_ofBits bits hp, List.getD_eq_getElem?_getD,
    List.getElem?_eq_none hle, Option.getD_none]

/-- **Unpacked words come back** with the bits that were asked for and no others. -/
theorem testBit_getElem_ofBits_toBits (words : WireWords) (width : Nat) (hk : k < wireWords)
    (hi : i < 64) : (ofBits (words.toBits width))[k].toNat.testBit i =
      (words[k].toNat.testBit i && decide (64 * k + i < min width maxWidth)) := by
  have hp : 64 * k + i < maxWidth := by
    unfold maxWidth
    omega
  rw [testBit_getElem _ hk hi, testBit_getElem _ hk hi, bitAt_ofBits _ hp, getD_toBits]

end WireWords

/-- **Packing and unpacking undo each other.**  The wire words of a window that is no wider
than they are hold its bitmap, one bit set after another, and are clear behind it; whatever
number of positions is unpacked, they are those of the bitmap, padded with clear ones and cut
off at the last word, and as many as the bitmap has are the bitmap.  Any words, unpacked bit by
bit at any width, are a bitmap whose wire words have the bits up to that width, or up to the
last word, and all others clear. -/
theorem Window.toBits_wire_and_wire_of_toBits :
    (∀ w : Window, w.width ≤ maxWidth →
      WireWords.pack? w.bits = some w.wire ∧
      (∀ m, w.wire.toBits m =
        (w.bits.rightpad (min m maxWidth) false).take (min m maxWidth)) ∧
      w.wire.toBits w.width = w.bits ∧
      ∀ k (_ : k < wireWords) i, i < 64 → w.width ≤ 64 * k + i →
        w.wire[k].toNat.testBit i = false) ∧
    ∀ (words : WireWords) (width : Nat),
      words.unpack? width = some (words.toBits width) ∧
      ∀ w : Window, w.bits = words.toBits width →
        WireWords.pack? w.bits = some w.wire ∧
        ∀ k (_ : k < wireWords) i, i < 64 →
          w.wire[k].toNat.testBit i =
            (words[k].toNat.testBit i && decide (64 * k + i < min width maxWidth)) := by
  constructor
  · intro w hwidth
    exact ⟨WireWords.pack?_eq_some_ofBits hwidth, WireWords.toBits_ofBits w.bits,
      WireWords.toBits_length_ofBits hwidth,
      fun k hk i hi hle => WireWords.testBit_getElem_ofBits_of_le hk hi hle⟩
  · intro words width
    refine ⟨words.unpack?_eq_some_toBits width, ?_⟩
    intro w hbits
    have hfits : w.bits.length ≤ maxWidth := by
      rw [hbits, WireWords.length_toBits]
      exact Nat.min_le_right _ _
    refine ⟨WireWords.pack?_eq_some_ofBits hfits, ?_⟩
    intro k hk i hi
    rw [wire, hbits]
    exact words.testBit_getElem_ofBits_toBits width hk hi

/-- A bitmap that ends one position into the second word, asked for three more, and words
without a clear bit that are cut off there as well. -/
theorem Window.toBits_wire_and_wire_of_toBits_across_words :
    let w : Window := ⟨7, false :: List.replicate 63 true ++ [false], 2⟩
    let words : WireWords := Vector.replicate wireWords 0xFFFFFFFFFFFFFFFF
    let cut : Window := ⟨7, words.toBits 65, 0⟩
    w.width = 65 ∧ w.wire.toBits 68 = w.bits ++ [false, false, false] ∧
      w.wire.toBits 65 = w.bits ∧ w.wire[1].toNat.testBit 1 = false ∧
      words.unpack? 65 = some (List.replicate 65 true) ∧
      cut.wire[1].toNat.testBit 0 = true ∧ cut.wire[1].toNat.testBit 1 = false := by
  intro w words cut
  have hwidth : w.width ≤ maxWidth := by decide
  obtain ⟨hwire, hwords⟩ := toBits_wire_and_wire_of_toBits
  obtain ⟨-, hpadded, hbits, hclear⟩ := hwire w hwidth
  obtain ⟨hunpack, hpack⟩ := hwords words 65
  obtain ⟨-, hcut⟩ := hpack cut rfl
  refine ⟨by decide, ?_, hbits, hclear 1 (by decide) 1 (by decide) (by decide), ?_, ?_, ?_⟩
  · rw [hpadded]
    decide
  · rw [hunpack]
    decide
  · rw [hcut 1 (by decide) 0 (by decide)]
    decide
  · rw [hcut 1 (by decide) 1 (by decide)]
    decide

end LossWindows
