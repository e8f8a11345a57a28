/-!
# Consecutive runs

The maximal prefix of a list in which every sequence number is one more than the
number before it.  "One more" is meant among the natural numbers: the largest
sequence number ends a run, and zero never continues one.

## Main definitions

* `Run` — a consecutive prefix, and what is left behind it.
* `Run.ofCons` — the maximal run at the head of a nonempty list.
* `leadingRun` — the length of the maximal run of any list.
-/

namespace LossWindows

/-- A consecutive prefix of a list, and what is left behind it. -/
structure Run where
  length : Nat
  last : UInt32
  rest : List UInt32

namespace Run

/-- Continues a run of `length` elements that ends in `last`. -/
def continued (length : Nat) (last : UInt32) : List UInt32 → Run
  | [] => ⟨length, last, []⟩
  | seq :: rest =>
    if seq.toNat = last.toNat + 1 then continued (length + 1) seq rest
    else ⟨length, last, seq :: rest⟩

/-- The maximal run at the head of `seq :: rest`. -/
def ofCons (seq : UInt32) (rest : List UInt32) : Run :=
  continued 1 seq rest

/-- Nothing is lost: the run and what is left make up the list. -/
theorem length_continued (length : Nat) (last : UInt32) (seqs : List UInt32) :
    (continued length last seqs).length + (continued length last seqs).rest.length =
      length + seqs.length := by
  induction seqs generalizing length last with
  | nil => rfl
  | cons seq rest ih =>
    simp only [continued]
    split
    · rw [ih, List.length_cons]; omega
    · rfl

theorem le_length_continued (length : Nat) (last : UInt32) (seqs : List UInt32) :
    length ≤ (continued length last seqs).length := by
  induction seqs generalizing length last with
  | nil => exact Nat.le_refl _
  | cons seq rest ih =>
    simp only [continued]
    split
    · exact Nat.le_trans (Nat.le_succ _) (ih _ _)
    · exact Nat.le_refl _

/-- **A run takes at least one element**, so what is left is shorter than the list. -/
theorem length_rest_ofCons (seq : UInt32) (rest : List UInt32) :
    (ofCons seq rest).rest.length ≤ rest.length := by
  have h := length_continued 1 seq rest
  have h' := le_length_continued 1 seq rest
  simp only [ofCons]
  omega

theorem one_le_length_ofCons (seq : UInt32) (rest : List UInt32) :
    1 ≤ (ofCons seq rest).length :=
  le_length_continued 1 seq rest

/-- A run ends as far behind its start as it has elements. -/
theorem last_continued (length : Nat) (last : UInt32) (seqs : List UInt32) :
    (continued length last seqs).last.toNat + length =
      last.toNat + (continued length last seqs).length := by
  induction seqs generalizing length last with
  | nil => rfl
  | cons seq rest ih =>
    simp only [continued]
    split
    · next h =>
      have := ih (length + 1) seq
      omega
    · rfl

end Run

/-- The length of the maximal consecutive prefix. -/
def leadingRun : List UInt32 → Nat
  | [] => 0
  | seq :: rest => (Run.ofCons seq rest).length

theorem leadingRun_le (seqs : List UInt32) : leadingRun seqs ≤ seqs.length := by
  cases seqs with
  | nil => exact Nat.le_refl _
  | cons seq rest =>
    have h := Run.length_continued 1 seq rest
    simp only [leadingRun, Run.ofCons, List.length_cons]
    omega

theorem leadingRun_eq_zero_iff {seqs : List UInt32} : leadingRun seqs = 0 ↔ seqs = [] := by
  cases seqs with
  | nil => simp [leadingRun]
  | cons seq rest =>
    have := Run.one_le_length_ofCons seq rest
    simp [leadingRun]
    omega

end LossWindows
