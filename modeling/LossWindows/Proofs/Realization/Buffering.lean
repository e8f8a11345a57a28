import LossWindows.Proofs.Realization.Writing

/-!
# Writing through a buffer

What is written through a buffer need not be taken at once, and what is taken may have been
written long before.  Still nothing is lost and nothing changes places: what was taken and what
waits behind it are together all that was written.  Once something is refused there is no room
left, and what was taken is the beginning of all that was to be written.

So a buffer makes no difference in the end.  After a flush everything was taken, or else there
was too little room for it.

## Main definitions

* `Buffered.all` — what was written, taken or not.
* `Buffered.Written` — what writing through a buffer leads to.
-/

namespace LossWindows

namespace Buffered

variable {w : Writer} {before after last : Buffered} {front back bytes : List UInt8}
  {result : Except WriteError Unit}

/-- All bytes that were written, taken or not. -/
def all (buffered : Buffered) : List UInt8 :=
  buffered.taken ++ buffered.waiting

/-- What writing `bytes` leads to.  Either they are taken or wait behind all others, or there
are more than there is room for, and as many are taken as there is room for. -/
inductive Written (w : Writer) (before : Buffered) (bytes : List UInt8) :
    Except WriteError Unit → Buffered → Prop
  | whole {after : Buffered} : after.all = before.all ++ bytes →
      after.taken.length ≤ w.limit → Written w before bytes (.ok ⟨⟩) after
  | cut {after : Buffered} : w.limit < (before.all ++ bytes).length →
      after.taken = (before.all ++ bytes).take w.limit →
      Written w before bytes (.error .nothingTaken) after

theorem Written.length_taken_le (h : Written w before bytes (.ok ⟨⟩) after) :
    after.taken.length ≤ w.limit := by
  cases h with
  | whole _ hroom => exact hroom

/-- What is written behind something is written in one with it. -/
theorem Written.trans (h : Written w before front (.ok ⟨⟩) after)
    (h' : Written w after back result last) : Written w before (front ++ back) result last := by
  cases h with
  | whole hall hroom =>
    cases h' with
    | whole hall' hroom' =>
      exact .whole (by rw [hall', hall, List.append_assoc]) hroom'
    | cut hlong htaken =>
      rw [hall, List.append_assoc] at hlong htaken
      exact .cut hlong htaken

/-- Where some bytes are cut, those behind them are cut as well. -/
theorem Written.append {e : WriteError} (h : Written w before front (.error e) after)
    (back : List UInt8) : Written w before (front ++ back) (.error e) after := by
  cases h with
  | cut hlong htaken =>
    refine .cut ?_ ?_
    · rw [← List.append_assoc, List.length_append]
      omega
    · rw [htaken, ← List.append_assoc, List.take_append_of_le_length (Nat.le_of_lt hlong)]

/-- When nothing is left waiting, all bytes were taken for which there is room. -/
theorem Written.taken_eq (h : Written w empty bytes result after)
    (hwaiting : result = .ok ⟨⟩ → after.waiting = []) :
    result = (if bytes.length ≤ w.limit then .ok ⟨⟩ else .error .nothingTaken) ∧
      after.taken = bytes.take w.limit := by
  have hall : empty.all = [] := rfl
  cases h with
  | whole hafter hroom =>
    have htaken : after.taken = bytes := by
      rwa [all, hwaiting rfl, List.append_nil, hall, List.nil_append] at hafter
    rw [htaken] at hroom ⊢
    rw [if_pos hroom, List.take_of_length_le hroom]
    exact ⟨rfl, rfl⟩
  | cut hlong htaken =>
    rw [hall, List.nil_append] at hlong htaken
    rw [if_neg (Nat.not_le.2 hlong)]
    exact ⟨rfl, htaken⟩

theorem outcome_get (before : Buffered) :
    (get : Buffering Buffered).outcome before = (.ok before, before) := rfl

theorem outcome_offer (w : Writer) (bytes : List UInt8) (before : Buffered) :
    (offer w bytes).outcome before =
      (((w.writeBytes bytes).outcome before.taken).1,
        ⟨((w.writeBytes bytes).outcome before.taken).2, before.waiting⟩) := rfl

theorem outcome_flush (w : Writer) (before : Buffered) :
    (flush w).outcome before =
      (((w.writeBytes before.waiting).outcome before.taken).1,
        ⟨((w.writeBytes before.waiting).outcome before.taken).2, before.waiting.drop
          (((w.writeBytes before.waiting).outcome before.taken).2.length -
            before.taken.length)⟩) := rfl

theorem outcome_keep (bytes : List UInt8) (before : Buffered) :
    (keep bytes).outcome before = (.ok ⟨⟩, ⟨before.taken, before.waiting ++ bytes⟩) := rfl

/-- Flushing empties the buffer, unless there is no room for what is waiting. -/
theorem written_flush (h : before.taken.length ≤ w.limit) :
    ∃ result after, (flush w).outcome before = (result, after) ∧
      Written w before [] result after ∧ (result = .ok ⟨⟩ → after.waiting = []) := by
  rw [outcome_flush, w.writes_writeBytes before.waiting before.taken h]
  refine ⟨_, _, rfl, ?_⟩
  by_cases hfits : (before.taken ++ before.waiting).length ≤ w.limit
  · simp only [if_pos hfits]
    exact ⟨.whole (by simp [all]) hfits, fun _ => by simp⟩
  · simp only [if_neg hfits]
    exact ⟨.cut (by simpa [all] using hfits) (by simp [all]), nofun⟩

/-- Once something was written, a flush has all of it taken for which there is room. -/
theorem Written.exists_flush (h : Written w empty bytes (.ok ⟨⟩) after) :
    ∃ result last, (flush w).outcome after = (result, last) ∧
      result = (if bytes.length ≤ w.limit then .ok ⟨⟩ else .error .nothingTaken) ∧
      last.taken = bytes.take w.limit := by
  obtain ⟨result, last, hflush, hflushed, hwaiting⟩ := written_flush h.length_taken_le
  have hlast := h.trans hflushed
  rw [List.append_nil] at hlast
  exact ⟨result, last, hflush, hlast.taken_eq hwaiting⟩

/-- Bytes may go past the buffer where nothing is waiting, or there are none. -/
theorem written_store {capacity : Nat} (h : before.taken.length ≤ w.limit)
    (hwaiting : capacity ≤ bytes.length → before.waiting = [] ∨ bytes = []) :
    ∃ result after, (store w capacity bytes).outcome before = (result, after) ∧
      Written w before bytes result after := by
  by_cases hlarge : capacity ≤ bytes.length
  · rw [store, if_pos hlarge, outcome_offer, w.writes_writeBytes bytes before.taken h]
    refine ⟨_, _, rfl, ?_⟩
    have hall : before.all ++ bytes = before.taken ++ bytes ++ before.waiting := by
      rcases hwaiting hlarge with hnone | hnone <;> simp [all, hnone]
    by_cases hfits : (before.taken ++ bytes).length ≤ w.limit
    · simp only [if_pos hfits]
      exact .whole hall.symm hfits
    · have hlong : w.limit < (before.taken ++ bytes).length := Nat.lt_of_not_le hfits
      simp only [if_neg hfits]
      refine .cut ?_ ?_
      · rw [hall, List.length_append]
        omega
      · rw [hall, List.take_append_of_le_length (Nat.le_of_lt hlong)]
  · rw [store, if_neg hlarge]
    exact ⟨_, _, outcome_keep bytes before, .whole (by simp [all]) h⟩

/-- **Writing through a buffer writes**, whatever the buffer holds. -/
theorem written_write (h : before.taken.length ≤ w.limit) (capacity : Nat) (bytes : List UInt8) :
    ∃ result after, (write w capacity bytes).outcome before = (result, after) ∧
      Written w before bytes result after := by
  rw [write, Attempt.outcome_bind, outcome_get]
  by_cases hspare : capacity - before.waiting.length < bytes.length
  · obtain ⟨result, flushed, hflush, hwritten, hempty⟩ := written_flush h
    simp only [if_pos hspare, Attempt.outcome_bind, hflush]
    cases result with
    | error e => exact ⟨_, _, rfl, hwritten.append bytes⟩
    | ok _ =>
      have hroom : flushed.taken.length ≤ w.limit := hwritten.length_taken_le
      obtain ⟨result, after, hstore, hwritten'⟩ :
          ∃ result after, (store w capacity bytes).outcome flushed = (result, after) ∧
            Written w flushed bytes result after :=
        written_store hroom fun _ => Or.inl (hempty rfl)
      exact ⟨result, after, hstore, hwritten.trans hwritten'⟩
  · simp only [if_neg hspare]
    apply written_store h
    intro hlarge
    rw [← List.length_eq_zero_iff, ← List.length_eq_zero_iff]
    omega

end Buffered

end LossWindows
