/-!
# Arithmetic that may leave the words

A sum or a difference of words need not be a word.  Here such an operation has no result
then, so that a computation with a result is one in which every operation stayed in range.
There is a result exactly where the operation on the numbers is a word, and it is that word.

## Main definitions

* `Word.add?`, `Word.sub?` — sums and differences of 64-bit words.
* `Word.between?` — the distance of two sequence numbers.
* `Word.pred?` — the predecessor of a signed word.
-/

namespace LossWindows

namespace Word

/-- The sum of two words, unless it is too large for one. -/
def add? (a b : UInt64) : Option UInt64 :=
  if a.toNat + b.toNat < UInt64.size then some (a + b) else none

/-- The difference of two words, unless it is negative. -/
def sub? (a b : UInt64) : Option UInt64 :=
  if b ≤ a then some (a - b) else none

/-- How far `seq` lies behind `first`, unless it lies before. -/
def between? (first seq : UInt32) : Option UInt32 :=
  if first ≤ seq then some (seq - first) else none

/-- The number before a signed word, unless there is no smaller word. -/
def pred? (a : Int64) : Option Int64 :=
  if a = Int64.minValue then none else some (a - 1)

/-! ## Exactness -/

theorem add?_eq_some_iff {a b c : UInt64} :
    add? a b = some c ↔ c.toNat = a.toNat + b.toNat := by
  by_cases hlt : a.toNat + b.toNat < UInt64.size
  · have hsum : (a + b).toNat = a.toNat + b.toNat :=
      (UInt64.toNat_add a b).trans (Nat.mod_eq_of_lt hlt)
    rw [add?, if_pos hlt, Option.some_inj, ← UInt64.toNat_inj, hsum, eq_comm]
  · have hc := c.toNat_lt_size
    have hne : c.toNat ≠ a.toNat + b.toNat := by omega
    simp [add?, hlt, hne]

theorem sub?_eq_some_iff {a b c : UInt64} :
    sub? a b = some c ↔ c.toNat + b.toNat = a.toNat := by
  by_cases hle : b ≤ a
  · have hdiff := UInt64.toNat_sub_of_le a b hle
    rw [sub?, if_pos hle, Option.some_inj, ← UInt64.toNat_inj, hdiff]
    rw [UInt64.le_iff_toNat_le] at hle
    omega
  · have hne : c.toNat + b.toNat ≠ a.toNat := by
      rw [UInt64.le_iff_toNat_le] at hle
      omega
    simp [sub?, hle, hne]

theorem add?_ofNat {a b : Nat} (h : a + b < UInt64.size) :
    add? (.ofNat a) (.ofNat b) = some (.ofNat (a + b)) := by
  rw [add?_eq_some_iff, UInt64.toNat_ofNat_of_lt' h, UInt64.toNat_ofNat_of_lt' (by omega),
    UInt64.toNat_ofNat_of_lt' (by omega)]

theorem sub?_ofNat {a b : Nat} (h : a < UInt64.size) (hle : b ≤ a) :
    sub? (.ofNat a) (.ofNat b) = some (.ofNat (a - b)) := by
  rw [sub?_eq_some_iff, UInt64.toNat_ofNat_of_lt' h, UInt64.toNat_ofNat_of_lt' (by omega),
    UInt64.toNat_ofNat_of_lt' (by omega), Nat.sub_add_cancel hle]

theorem between?_eq_some_iff {first seq c : UInt32} :
    between? first seq = some c ↔ first.toNat + c.toNat = seq.toNat := by
  by_cases hle : first ≤ seq
  · have hdiff := UInt32.toNat_sub_of_le seq first hle
    rw [between?, if_pos hle, Option.some_inj, ← UInt32.toNat_inj, hdiff]
    rw [UInt32.le_iff_toNat_le] at hle
    omega
  · have hne : first.toNat + c.toNat ≠ seq.toNat := by
      rw [UInt32.le_iff_toNat_le] at hle
      omega
    simp [between?, hle, hne]

theorem pred?_eq_some_iff {a c : Int64} : pred? a = some c ↔ c.toInt = a.toInt - 1 := by
  have hc := c.le_toInt
  have ha := a.le_toInt
  have ha' := a.toInt_lt
  by_cases hmin : a = Int64.minValue
  · have hne : c.toInt ≠ a.toInt - 1 := by
      rw [hmin, Int64.toInt_minValue]
      omega
    rw [pred?, if_pos hmin]
    simp [hne]
  · have hne : a.toInt ≠ Int64.minValue.toInt := fun h => hmin (Int64.toInt_inj.1 h)
    rw [Int64.toInt_minValue] at hne
    have hone : Int64.toInt 1 = 1 := rfl
    have hdiff : (a - 1).toInt = a.toInt - 1 :=
      (Int64.toInt_sub a 1).trans (Int.bmod_eq_of_le (by omega) (by omega))
    rw [pred?, if_neg hmin, Option.some_inj, ← Int64.toInt_inj, hdiff, eq_comm]

end Word

end LossWindows
