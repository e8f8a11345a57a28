import LossWindows.Proofs.Builder.Record
import LossWindows.Proofs.Run

/-!
# Which drops are refused

There are two things that can be wrong.  A width out of bounds is reported whatever the
drops are.  With any other width the drops are refused exactly when two neighbours are out of
order, and it is the first such pair that is reported.

The elements of a run are taken without a look at their order.  Nothing is overlooked there,
because a run counts up among the natural numbers: the largest sequence number ends every
run, so that a zero behind it is offered on its own and refused.

## Main definitions

* `Disorder.At` — two neighbours of a list are out of order.
* `Disorder.FirstAt` — they are the first ones.
-/

namespace LossWindows

namespace Disorder

variable {disorder other : Disorder} {seqs front back : List UInt32} {i j : Nat}

/-- The elements at the places `i` and `i + 1` of a list are out of order. -/
structure At (disorder : Disorder) (seqs : List UInt32) (i : Nat) : Prop where
  getElem?_prev : seqs[i]? = some disorder.prev
  getElem?_seq : seqs[i + 1]? = some disorder.seq
  le : disorder.seq ≤ disorder.prev

/-- The elements at the places `i` and `i + 1` are the first ones out of order. -/
structure FirstAt (disorder : Disorder) (seqs : List UInt32) (i : Nat) : Prop extends
    disorder.At seqs i where
  least : ∀ j < i, ∀ earlier : Disorder, ¬ earlier.At seqs j

theorem At.eq (h : disorder.At seqs i) (h' : other.At seqs i) : disorder = other := by
  have hprev := Option.some.inj (h.getElem?_prev.symm.trans h'.getElem?_prev)
  have hseq := Option.some.inj (h.getElem?_seq.symm.trans h'.getElem?_seq)
  cases disorder
  cases other
  simp_all

theorem FirstAt.eq (h : disorder.FirstAt seqs i) (h' : other.FirstAt seqs j) :
    disorder = other := by
  rcases Nat.lt_trichotomy i j with hlt | rfl | hlt
  · exact absurd h.toAt (h'.least i hlt disorder)
  · exact h.toAt.eq h'.toAt
  · exact absurd h'.toAt (h.least j hlt other)

theorem At.of_append_left (h : disorder.At (front ++ back) i) (hi : i + 1 < front.length) :
    disorder.At front i where
  getElem?_prev := by rw [← h.getElem?_prev, List.getElem?_append_left (by omega)]
  getElem?_seq := by rw [← h.getElem?_seq, List.getElem?_append_left hi]
  le := h.le

end Disorder

theorem ascending_iff_forall_not_at {seqs : List UInt32} :
    Ascending seqs ↔ ∀ i, ∀ disorder : Disorder, ¬ disorder.At seqs i := by
  rw [Ascending, ← List.isChain_iff_pairwise, List.isChain_iff_getElem]
  constructor
  · intro h i disorder hat
    obtain ⟨hi, hseq⟩ := List.getElem?_eq_some_iff.1 hat.getElem?_seq
    obtain ⟨_, hprev⟩ := List.getElem?_eq_some_iff.1 hat.getElem?_prev
    have hlt := h i hi
    rw [hseq, hprev] at hlt
    exact UInt32.not_le.2 hlt hat.le
  · intro h i hi
    by_contra hge
    exact h i ⟨seqs[i], seqs[i + 1]⟩
      ⟨List.getElem?_eq_getElem _, List.getElem?_eq_getElem hi, UInt32.not_lt.1 hge⟩

/-- An element that does not exceed the last of an ascending list is the first one out of
order. -/
theorem Disorder.firstAt_append {front back : List UInt32} {prev seq : UInt32}
    (h : Ascending (front ++ [prev])) (hle : seq ≤ prev) :
    FirstAt ⟨prev, seq⟩ (front ++ prev :: seq :: back) front.length where
  getElem?_prev := by simp
  getElem?_seq := by simp
  le := hle
  least := by
    intro j hj earlier hat
    rw [← List.singleton_append, ← List.append_assoc] at hat
    exact ascending_iff_forall_not_at.1 h j earlier (hat.of_append_left (by simpa using hj))

/-- **What becomes of drops when the width is right**: they ascend and are laid out, or
else their first disorder is reported. -/
theorem value_windowsOf_cases (width : Width) (seqs : List UInt32) :
    (Ascending seqs ∧ ∃ windows, (windowsOf width.positions seqs).value = .ok windows) ∨
    ∃ i disorder, disorder.FirstAt seqs i ∧
      (windowsOf width.positions seqs).value = .error (.unordered disorder) := by
  obtain ⟨taken, rest, rfl, hrec, hfault, hall⟩ := (Builder.records_empty width).addEach seqs
  rw [List.nil_append] at hrec
  rw [value_windowsOf]
  split
  · next b disorder heq =>
    -- the drop that was refused comes directly behind those that were taken
    rw [heq] at hrec hfault
    obtain ⟨seq, hhead, hseq⟩ := Option.bind_eq_some_iff.1 hfault.symm
    obtain ⟨prev, hprev, hle, rfl⟩ := Builder.fault?_eq_some_iff.1 hseq
    obtain ⟨back, rfl⟩ := List.head?_eq_some_iff.1 hhead
    obtain ⟨front, rfl⟩ := List.getLast?_eq_some_iff.1 (hrec.last_eq.symm.trans hprev)
    rw [List.append_assoc, List.singleton_append]
    exact Or.inr ⟨front.length, ⟨prev, seq⟩,
      Disorder.firstAt_append hrec.ascending hle, rfl⟩
  · next b heq =>
    rw [heq] at hrec hall
    obtain rfl := hall rfl
    rw [List.append_nil]
    exact Or.inl ⟨hrec.ascending, b.windows, rfl⟩

/-- The drops are refused exactly with their first disorder. -/
theorem value_windowsOf_eq_unordered_iff {width : Width} {seqs : List UInt32}
    {disorder : Disorder} : (windowsOf width.positions seqs).value = .error (.unordered disorder) ↔
      ∃ i, disorder.FirstAt seqs i := by
  rcases value_windowsOf_cases width seqs with
    ⟨hasc, windows, hvalue⟩ | ⟨i, first, hfirst, hvalue⟩
  · have hnone := ascending_iff_forall_not_at.1 hasc
    simp only [hvalue, reduceCtorEq, false_iff]
    rintro ⟨i, hfirst⟩
    exact hnone i disorder hfirst.toAt
  · rw [hvalue]
    constructor
    · rintro ⟨⟩
      exact ⟨i, hfirst⟩
    · rintro ⟨j, hother⟩
      rw [hfirst.eq hother]

/-- After a run that was taken as a whole, its last element is the one that comes first. -/
example : (windowsOf 4 [1, 5, 6, 7, 6]).value = .error (.unordered ⟨7, 6⟩) := by cbv

theorem exists_value_windowsOf_eq_unordered_iff {width : Width} {seqs : List UInt32} :
    (∃ disorder, (windowsOf width.positions seqs).value = .error (.unordered disorder)) ↔
      ∃ i, ∃ disorder : Disorder, disorder.At seqs i := by
  rcases value_windowsOf_cases width seqs with
    ⟨hasc, windows, hvalue⟩ | ⟨i, first, hfirst, hvalue⟩
  · refine iff_of_false (by simp [hvalue]) ?_
    rintro ⟨i, disorder, hat⟩
    exact ascending_iff_forall_not_at.1 hasc i disorder hat
  · exact iff_of_true ⟨first, hvalue⟩ ⟨i, first, hfirst.toAt⟩

theorem exists_value_windowsOf_eq_ok_iff {width : Width} {seqs : List UInt32} :
    (∃ windows, (windowsOf width.positions seqs).value = .ok windows) ↔
      ¬ ∃ disorder, (windowsOf width.positions seqs).value = .error (.unordered disorder) := by
  rcases value_windowsOf_cases width seqs with
    ⟨-, windows, hvalue⟩ | ⟨i, first, -, hvalue⟩
  · simp [hvalue]
  · simp [hvalue]

theorem value_windowsOf_ne_widthOutOfBounds (width : Width) (seqs : List UInt32) (n : Nat) :
    (windowsOf width.positions seqs).value ≠ .error (.widthOutOfBounds n) := by
  rcases value_windowsOf_cases width seqs with
    ⟨-, windows, hvalue⟩ | ⟨i, first, -, hvalue⟩
  · simp [hvalue]
  · simp [hvalue]

/-- **Exactly the bad inputs are refused, and for the first thing that is wrong.**  A width
out of bounds is reported, whatever the drops are.  Otherwise there are neighbours out of
order, and the first of them are reported, or else the drops are laid out.  Zero behind the
largest sequence number is out of order as well, and no run reaches over the two. -/
theorem value_windowsOf_eq_error_iff (width : Nat) (seqs : List UInt32) :
    (∀ n, (windowsOf width seqs).value = .error (.widthOutOfBounds n) ↔
      n = width ∧ (width = 0 ∨ 256 < width)) ∧
    (1 ≤ width ∧ width ≤ 256 →
      ((∃ disorder, (windowsOf width seqs).value = .error (.unordered disorder)) ↔
        ∃ i, ∃ disorder : Disorder, disorder.At seqs i) ∧
      (∀ disorder, (windowsOf width seqs).value = .error (.unordered disorder) ↔
        ∃ i, disorder.FirstAt seqs i) ∧
      ((∃ windows, (windowsOf width seqs).value = .ok windows) ↔
        ¬ ∃ i, ∃ disorder : Disorder, disorder.At seqs i)) ∧
    ∀ front back, seqs = front ++ 4294967295 :: 0 :: back →
      leadingRun seqs ≤ front.length + 1 ∧
      (1 ≤ width ∧ width ≤ 256 → Ascending (front ++ [4294967295]) →
        (windowsOf width seqs).value = .error (.unordered ⟨4294967295, 0⟩)) := by
  by_cases hout : width = 0 ∨ 256 < width
  · have hvalue : (windowsOf width seqs).value = .error (.widthOutOfBounds width) := by
      rw [windowsOf_of_out_of_bounds hout, Logged.value_pure]
    have hbounds : ¬ (1 ≤ width ∧ width ≤ 256) := by omega
    refine ⟨?_, fun h => absurd h hbounds, ?_⟩
    · intro n
      simp [hvalue, hout, eq_comm]
    · rintro front back rfl
      exact ⟨leadingRun_le_of_getElem?_eq_zero (by simp), fun h => absurd h hbounds⟩
  · obtain ⟨w, rfl⟩ := Width.exists_positions_eq hout
    refine ⟨?_, fun _ => ⟨exists_value_windowsOf_eq_unordered_iff, ?_, ?_⟩, ?_⟩
    · intro n
      simp [value_windowsOf_ne_widthOutOfBounds, hout]
    · intro disorder
      exact value_windowsOf_eq_unordered_iff
    · rw [exists_value_windowsOf_eq_ok_iff, exists_value_windowsOf_eq_unordered_iff]
    · rintro front back rfl
      refine ⟨leadingRun_le_of_getElem?_eq_zero (by simp), fun _ hasc => ?_⟩
      exact value_windowsOf_eq_unordered_iff.2
        ⟨front.length, Disorder.firstAt_append hasc (by decide)⟩

end LossWindows
