import LossWindows.Run

/-!
# The elements of a run

A maximal run is measured by walking along a list.  Here it is found again in that list:
its elements are the part in front, the last of them is its last element, and what is left
comes behind them.  On their own these elements are a run with nothing left.

They count up from the first one without ever starting over: zero can head a run, but it is
nowhere else in one.
-/

namespace LossWindows

namespace Run

theorem exists_continued (length : Nat) (last : UInt32) (seqs : List UInt32) :
    ∃ elements, seqs = elements ++ (continued length last seqs).rest ∧
      (continued length last seqs).length = length + elements.length ∧
      (last :: elements).getLast? = some (continued length last seqs).last ∧
      continued length last elements = { continued length last seqs with rest := [] } := by
  induction seqs generalizing length last with
  | nil => exact ⟨[], rfl, rfl, rfl, rfl⟩
  | cons seq rest ih =>
    by_cases hseq : seq.toNat = last.toNat + 1
    · obtain ⟨elements, hsplit, hlength, hlast, hrun⟩ := ih (length + 1) seq
      rw [continued, if_pos hseq]
      refine ⟨seq :: elements, by rw [List.cons_append, ← hsplit], ?_, ?_, ?_⟩
      · rw [hlength, List.length_cons]
        omega
      · rw [List.getLast?_cons_cons, hlast]
      · rw [continued, if_pos hseq, hrun]
    · rw [continued, if_neg hseq]
      exact ⟨[], rfl, rfl, rfl, rfl⟩

/-- The elements that continue a run count up from its last one. -/
theorem exists_getElem?_continued (length : Nat) (last : UInt32) (seqs : List UInt32) {i : Nat}
    (hi : length + i < (continued length last seqs).length) :
    ∃ q, seqs[i]? = some q ∧ q.toNat = last.toNat + i + 1 := by
  induction seqs generalizing length last i with
  | nil =>
    simp only [continued] at hi
    omega
  | cons seq rest ih =>
    by_cases hseq : seq.toNat = last.toNat + 1
    · rw [continued, if_pos hseq] at hi
      cases i with
      | zero => exact ⟨seq, rfl, hseq⟩
      | succ i =>
        obtain ⟨q, hq, hnat⟩ := ih (length + 1) seq (i := i) (by omega)
        exact ⟨q, hq, by omega⟩
    · rw [continued, if_neg hseq] at hi
      simp only at hi
      omega

/-- What is left behind a run does not continue it. -/
theorem ne_of_head?_rest_continued (length : Nat) (last : UInt32) (seqs : List UInt32)
    {next : UInt32} (h : (continued length last seqs).rest.head? = some next) :
    next.toNat ≠ (continued length last seqs).last.toNat + 1 := by
  induction seqs generalizing length last with
  | nil => cases h
  | cons seq rest ih =>
    by_cases hseq : seq.toNat = last.toNat + 1
    · rw [continued, if_pos hseq] at h ⊢
      exact ih (length + 1) seq h
    · rw [continued, if_neg hseq] at h ⊢
      obtain rfl := Option.some.inj h
      exact hseq

variable (seq : UInt32) (rest : List UInt32)

/-- **The elements of the run at the head of a list**: they are as many as it is long, and
what is left comes behind them. -/
theorem exists_ofCons : ∃ elements, rest = elements ++ (ofCons seq rest).rest ∧
    (ofCons seq rest).length = elements.length + 1 ∧
    (seq :: elements).getLast? = some (ofCons seq rest).last ∧
    ofCons seq elements = { ofCons seq rest with rest := [] } := by
  obtain ⟨elements, hsplit, hlength, hlast, hrun⟩ := exists_continued 1 seq rest
  exact ⟨elements, hsplit, hlength.trans (Nat.add_comm _ _), hlast, hrun⟩

theorem drop_length_ofCons :
    (seq :: rest).drop (ofCons seq rest).length = (ofCons seq rest).rest := by
  obtain ⟨elements, hsplit, hlength, -⟩ := exists_ofCons seq rest
  rw [hlength, List.drop_succ_cons]
  calc rest.drop elements.length
      = (elements ++ (ofCons seq rest).rest).drop elements.length := by rw [← hsplit]
    _ = (ofCons seq rest).rest := List.drop_left

theorem getElem?_length_ofCons :
    (seq :: rest)[(ofCons seq rest).length - 1]? = some (ofCons seq rest).last := by
  obtain ⟨elements, hsplit, hlength, hlast, -⟩ := exists_ofCons seq rest
  rw [hlength, Nat.add_sub_cancel]
  calc (seq :: rest)[elements.length]?
      = (seq :: elements ++ (ofCons seq rest).rest)[elements.length]? := by
        rw [List.cons_append, ← hsplit]
    _ = (seq :: elements)[elements.length]? := List.getElem?_append_left (by simp)
    _ = some (ofCons seq rest).last := by rw [← hlast, List.getLast?_eq_getElem?]; simp

/-- A run ends within the sequence numbers. -/
theorem add_length_ofCons_le : seq.toNat + (ofCons seq rest).length ≤ UInt32.size := by
  have hlast := last_continued 1 seq rest
  have hlt := (continued 1 seq rest).last.toNat_lt_size
  rw [ofCons]
  omega

end Run

/-- **The leading run of a list counts up from its head**, among the natural numbers. -/
theorem exists_getElem?_of_lt_leadingRun {seq : UInt32} {rest : List UInt32} {i : Nat}
    (hi : i < leadingRun (seq :: rest)) :
    ∃ q, (seq :: rest)[i]? = some q ∧ q.toNat = seq.toNat + i := by
  cases i with
  | zero => exact ⟨seq, rfl, rfl⟩
  | succ i =>
    exact Run.exists_getElem?_continued 1 seq rest (by rwa [Nat.add_comm])

/-- **The leading run is maximal**: the element behind it is not one more than its last. -/
theorem exists_getElem?_leadingRun {seqs : List UInt32} (h : leadingRun seqs < seqs.length) :
    ∃ prev next, seqs[leadingRun seqs - 1]? = some prev ∧ seqs[leadingRun seqs]? = some next ∧
      next.toNat ≠ prev.toNat + 1 := by
  cases seqs with
  | nil => cases h
  | cons seq rest =>
    have hrun : leadingRun (seq :: rest) = (Run.ofCons seq rest).length := rfl
    obtain ⟨next, hnext⟩ : ∃ next, (seq :: rest)[leadingRun (seq :: rest)]? = some next :=
      ⟨_, List.getElem?_eq_getElem h⟩
    have hhead : (Run.ofCons seq rest).rest.head? = some next := by
      rw [← Run.drop_length_ofCons, List.head?_drop, ← hrun, hnext]
    exact ⟨_, next, Run.getElem?_length_ofCons seq rest, hnext,
      Run.ne_of_head?_rest_continued 1 seq rest hhead⟩

/-- Zero never continues a run. -/
theorem leadingRun_le_of_getElem?_eq_zero {seqs : List UInt32} {i : Nat}
    (h : seqs[i + 1]? = some 0) : leadingRun seqs ≤ i + 1 := by
  cases seqs with
  | nil => simp at h
  | cons seq rest =>
    refine Nat.le_of_not_lt fun hlt => ?_
    obtain ⟨q, hq, hnat⟩ := exists_getElem?_of_lt_leadingRun hlt
    rw [h, Option.some_inj] at hq
    rw [← hq, UInt32.toNat_zero] at hnat
    omega

end LossWindows
