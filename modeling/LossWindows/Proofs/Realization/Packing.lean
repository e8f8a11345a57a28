import LossWindows.Window.Wire

/-!
# Packing a bitmap one bit at a time

The wire words of a bitmap are built up from clear words, by setting one bit for each
position that was not dropped.  A position has a word to be set in as long as the bitmap is
no wider than the words; the row of bits then shows the positions that were visited and
nothing else, which is the row that `ofBits` shows.

## Main definitions

* `WireWords.setBit?` — setting the bit at a position, when the words have it.
* `WireWords.pack?` — setting the bits of a bitmap.
-/

namespace LossWindows

namespace WireWords

def clear : WireWords :=
  Vector.replicate wireWords 0

/-- Sets the bit at a position, when the words have it. -/
def setBit? (words : WireWords) (position : Nat) : Option WireWords :=
  if h : position / 64 < wireWords then
    some (words.set (position / 64)
      (words[position / 64] ||| 1 <<< UInt64.ofNat (position % 64)))
  else none

/-- Sets the bits of a bitmap whose first position is `start`. -/
def setBits? (words : WireWords) (start : Nat) : List Bool → Option WireWords
  | [] => some words
  | true :: bits => do (← words.setBit? start).setBits? (start + 1) bits
  | false :: bits => words.setBits? (start + 1) bits

/-- Packs a bitmap by setting its bits one after another. -/
def pack? (bits : List Bool) : Option WireWords :=
  clear.setBits? 0 bits

variable {words others : WireWords} {position i : Nat}

/-! ## The row of bits -/

theorem testBit_toNat_of_le (word : UInt64) (h : 64 ≤ i) : word.toNat.testBit i = false :=
  Nat.testBit_lt_two_pow
    (Nat.lt_of_lt_of_le word.toNat_lt (Nat.pow_le_pow_right (by decide) h))

/-- Each bit of a word has its place in the row. -/
theorem testBit_getElem (words : WireWords) {k : Nat} (hk : k < wireWords) (hi : i < 64) :
    words[k].toNat.testBit i = words.bitAt (64 * k + i) := by
  have hword : (64 * k + i) / 64 = k := by omega
  have hbit : (64 * k + i) % 64 = i := by omega
  rw [bitAt, hword, hbit, Vector.getElem?_eq_getElem hk]

/-- **Words are determined by their row of bits.** -/
theorem ext_bitAt (h : ∀ i < maxWidth, words.bitAt i = others.bitAt i) : words = others := by
  apply Vector.ext
  intro k hk
  rw [← UInt64.toNat_inj]
  apply Nat.eq_of_testBit_eq
  intro i
  by_cases hi : i < 64
  · have hlt : 64 * k + i < maxWidth := by
      unfold maxWidth
      omega
    rw [testBit_getElem words hk hi, testBit_getElem others hk hi, h _ hlt]
  · rw [testBit_toNat_of_le _ (Nat.le_of_not_lt hi), testBit_toNat_of_le _ (Nat.le_of_not_lt hi)]

@[simp] theorem bitAt_clear (i : Nat) : clear.bitAt i = false := by
  rw [bitAt, clear, Vector.getElem?_replicate]
  split
  · next h =>
    split at h
    · cases h
      simp
    · cases h
  · rfl

theorem toNat_one_shiftLeft (hp : position < 64) :
    (1 <<< UInt64.ofNat position : UInt64).toNat = 1 <<< position := by
  have hnat : (UInt64.ofNat position).toNat = position :=
    UInt64.toNat_ofNat_of_lt' (Nat.lt_trans hp (by decide))
  rw [UInt64.toNat_shiftLeft, hnat, Nat.mod_eq_of_lt hp, UInt64.toNat_one, Nat.one_shiftLeft]
  exact Nat.mod_eq_of_lt (Nat.pow_lt_pow_right (by decide) hp)

theorem testBit_or_shiftLeft (word : UInt64) (hp : position < 64) :
    (word ||| 1 <<< UInt64.ofNat position).toNat.testBit i =
      (word.toNat.testBit i || decide (position = i)) := by
  rw [UInt64.toNat_or, Nat.testBit_or, toNat_one_shiftLeft hp, Nat.one_shiftLeft,
    Nat.testBit_two_pow]

/-- **Setting a bit succeeds within the words**, and it changes no other one. -/
theorem exists_setBit? (words : WireWords) (position : Nat) (hp : position < maxWidth) :
    ∃ set, words.setBit? position = some set ∧
      ∀ i, set.bitAt i = (words.bitAt i || decide (position = i)) := by
  have hword : position / 64 < wireWords := by
    unfold maxWidth at hp
    omega
  refine ⟨_, dif_pos hword, ?_⟩
  intro i
  rw [bitAt, bitAt, Vector.getElem?_set]
  by_cases heq : position / 64 = i / 64
  · have hbit : position % 64 = i % 64 ↔ position = i := by omega
    have hget : words[i / 64]? = some words[position / 64] := by
      rw [← heq, Vector.getElem?_eq_getElem hword]
    rw [if_pos heq, hget]
    dsimp only
    rw [testBit_or_shiftLeft _ (Nat.mod_lt _ (by decide)), decide_eq_decide.2 hbit]
  · have hne : position ≠ i := by omega
    simp [heq, hne]

theorem getD_sub_cons (bit : Bool) (bits : List Bool) (start i : Nat) :
    (decide (start ≤ i) && (bit :: bits).getD (i - start) false) =
      (bit && decide (start = i) ||
        decide (start + 1 ≤ i) && bits.getD (i - (start + 1)) false) := by
  rcases Nat.lt_trichotomy start i with hlt | rfl | hgt
  · have hle : start ≤ i := Nat.le_of_lt hlt
    have hsucc : start + 1 ≤ i := hlt
    have hsub : i - start = i - (start + 1) + 1 := by omega
    simp [hle, hsucc, hsub, Nat.ne_of_lt hlt]
  · have hsucc : ¬ start + 1 ≤ start := by omega
    simp [hsucc]
  · have hle : ¬ start ≤ i := Nat.not_le.2 hgt
    have hsucc : ¬ start + 1 ≤ i := by omega
    simp [hle, hsucc, Nat.ne_of_gt hgt]

/-- **Setting the bits of a bitmap adds them to the row**, from its first position on. -/
theorem exists_setBits? (words : WireWords) (start : Nat) (bits : List Bool)
    (h : start + bits.length ≤ maxWidth) :
    ∃ set, words.setBits? start bits = some set ∧
      ∀ i, set.bitAt i =
        (words.bitAt i || decide (start ≤ i) && bits.getD (i - start) false) := by
  induction bits generalizing words start with
  | nil => exact ⟨words, rfl, by simp⟩
  | cons bit bits ih =>
    rw [List.length_cons] at h
    cases bit with
    | false =>
      obtain ⟨set, hset, hrow⟩ := ih words (start + 1) (by omega)
      refine ⟨set, hset, ?_⟩
      intro i
      rw [hrow, getD_sub_cons, Bool.false_and, Bool.false_or]
    | true =>
      obtain ⟨visited, hvisited, hbit⟩ := exists_setBit? words start (by omega)
      obtain ⟨set, hset, hrow⟩ := ih visited (start + 1) (by omega)
      refine ⟨set, by rw [setBits?, hvisited]; exact hset, ?_⟩
      intro i
      rw [hrow, hbit, getD_sub_cons, Bool.true_and, Bool.or_assoc]

/-- **Packing bit by bit never leaves the words**, and it gives the wire words. -/
theorem pack?_eq_some_ofBits {bits : List Bool} (h : bits.length ≤ maxWidth) :
    pack? bits = some (ofBits bits) := by
  obtain ⟨set, hset, hrow⟩ := exists_setBits? clear 0 bits (by omega)
  have heq : set = ofBits bits := by
    apply ext_bitAt
    intro i hi
    simp [hrow, bitAt_ofBits bits hi]
  rw [pack?, hset, heq]

end WireWords

end LossWindows
