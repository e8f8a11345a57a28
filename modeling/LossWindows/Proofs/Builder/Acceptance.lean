import LossWindows.Proofs.Builder.Record
import Mathlib.Data.List.Induction
import Mathlib.Data.Nat.Find

/-!
# What a history of offers comes to

To foretell a builder one need not keep any windows, only the drops that were accepted.
A single drop is accepted when it exceeds all of them, and a batch as far as it
continues them in ascending order.  Whatever was refused on the way, the builder is the
one that the accepted drops alone would have led to.

## Main definitions

* `continuation` — how much of a batch continues given drops.
* `Offer.accepted` — the drops of an offer that are accepted.
* `acceptedOf` — those of a whole history.
-/

namespace LossWindows

/-- The drops at the front of `batch` that continue `seqs` in ascending order: as many
as possible. -/
def continuation (seqs batch : List UInt32) : List UInt32 :=
  batch.take (Nat.findGreatest (fun count => Ascending (seqs ++ batch.take count)) batch.length)

/-- The drops of an offer that are accepted, when `seqs` were accepted before. -/
def Offer.accepted (seqs : List UInt32) : Offer → List UInt32
  | .one seq =>
    match seqs.getLast? with
    | some prev => if prev < seq then [seq] else []
    | none => [seq]
  | .many batch => continuation seqs batch

theorem Offer.accepted_one_of_lt {seqs : List UInt32} {seq : UInt32}
    (h : ∀ prev, seqs.getLast? = some prev → prev < seq) :
    Offer.accepted seqs (.one seq) = [seq] := by
  cases hlast : seqs.getLast? with
  | none => simp [accepted, hlast]
  | some prev => simp [accepted, hlast, h prev hlast]

theorem Offer.accepted_one_of_le {seqs : List UInt32} {seq prev : UInt32}
    (hlast : seqs.getLast? = some prev) (hle : seq ≤ prev) :
    Offer.accepted seqs (.one seq) = [] := by
  simp [accepted, hlast, UInt32.not_lt.2 hle]

/-- The drops of a history that are accepted. -/
def acceptedOf (history : List Offer) : List UInt32 :=
  history.foldl (fun seqs offer => seqs ++ offer.accepted seqs) []

theorem acceptedOf_concat (history : List Offer) (offer : Offer) :
    acceptedOf (history ++ [offer]) =
      acceptedOf history ++ offer.accepted (acceptedOf history) := by
  rw [acceptedOf, List.foldl_append]
  rfl

/-- What a batch offers behind a refused drop is lost, but later offers are not. -/
example : acceptedOf [.many [1, 5, 6, 6, 9], .one 6, .one 8] = [1, 5, 6, 8] := by
  decide

/-! ## The longest continuation -/

section Continuation

variable {seqs batch taken rest other : List UInt32}

theorem continuation_isPrefix (seqs batch : List UInt32) : continuation seqs batch <+: batch :=
  List.take_prefix _ _

theorem ascending_append_continuation (h : Ascending seqs) (batch : List UInt32) :
    Ascending (seqs ++ continuation seqs batch) := by
  apply Nat.findGreatest_spec (P := fun count => Ascending (seqs ++ batch.take count))
    (Nat.zero_le batch.length)
  simpa using h

/-- **No longer part of a batch continues the drops in ascending order.** -/
theorem prefix_continuation (ho : other <+: batch) (h : Ascending (seqs ++ other)) :
    other <+: continuation seqs batch := by
  refine List.prefix_of_prefix_length_le ho (continuation_isPrefix seqs batch) ?_
  rw [List.prefix_iff_eq_take.1 ho] at h
  have hle := Nat.le_findGreatest
    (P := fun count => Ascending (seqs ++ batch.take count)) ho.length_le h
  rw [continuation, List.length_take]
  exact Nat.le_min.2 ⟨hle, ho.length_le⟩

/-- The continuation ends where the next drop does not exceed all those before it. -/
theorem continuation_append (h : Ascending (seqs ++ taken))
    (hrest : ∀ seq ∈ rest.head?, ¬ ∀ q ∈ seqs ++ taken, q < seq) :
    continuation seqs (taken ++ rest) = taken := by
  have htaken : taken <+: continuation seqs (taken ++ rest) :=
    prefix_continuation (List.prefix_append taken rest) h
  obtain ⟨more, hmore⟩ := htaken
  cases more with
  | nil => rw [← hmore, List.append_nil]
  | cons seq more =>
    -- a longer continuation would go on with the drop that is refused
    have hprefix := continuation_isPrefix seqs (taken ++ rest)
    rw [← hmore, List.prefix_append_right_inj] at hprefix
    have hhead : seq ∈ rest.head? := by
      obtain ⟨tail, rfl⟩ := hprefix
      rfl
    have hasc := ascending_append_continuation (List.pairwise_append.1 h).1 (taken ++ rest)
    rw [← hmore, ← List.append_assoc] at hasc
    refine absurd ?_ (hrest seq hhead)
    intro q hq
    exact (List.pairwise_append.1 hasc).2.2 q hq seq (by simp)

end Continuation

namespace Builder

variable {width : Width} {b : Builder} {seqs : List UInt32} {seq : UInt32}

/-! ## One offer -/

namespace Records

theorem active_eq_none_iff (h : b.Records width seqs) : b.active = none ↔ seqs = [] := by
  rw [← List.getLast?_eq_none_iff, ← h.last_eq, active, Builder.last, Option.map_eq_none_iff,
    Option.map_eq_none_iff]

theorem value_windowsOf (h : b.Records width seqs) :
    (windowsOf width.positions seqs).value = .ok b.windows :=
  value_windowsOf_eq_ok_iff.2 ⟨h.canonical, h.drops_eq⟩

theorem fault?_eq_none (h : b.Records width seqs)
    (hlt : ∀ prev, seqs.getLast? = some prev → prev < seq) : b.fault? seq = none := by
  rwa [h.fault?_eq_none_iff, h.ascending.forall_lt_iff]

/-- A drop that does not exceed the last one is refused for it. -/
theorem fault?_eq_some (h : b.Records width seqs) {prev : UInt32}
    (hlast : seqs.getLast? = some prev) (hle : seq ≤ prev) :
    b.fault? seq = some ⟨prev, seq⟩ :=
  fault?_eq_some_iff.2 ⟨prev, h.last_eq.trans hlast, hle, rfl⟩

/-- A batch is accepted as far as it continues the drops, and what is left of it starts
with the drop that is refused. -/
theorem addAll (h : b.Records width seqs) (batch : List UInt32) :
    (b.addAll batch).value.builder.Records width (seqs ++ continuation seqs batch) ∧
      ∃ rest, batch = continuation seqs batch ++ rest ∧
        (b.addAll batch).value.fault =
          rest.head?.bind (b.addAll batch).value.builder.fault? ∧
        ((b.addAll batch).value.fault = none → rest = []) := by
  rw [h.fits.addAll_eq_addEach]
  obtain ⟨taken, rest, rfl, hrec, hfault, hall⟩ := h.addEach batch
  have htaken : continuation seqs (taken ++ rest) = taken := by
    apply continuation_append hrec.ascending
    intro seq hseq hlt
    rw [Option.mem_def.1 hseq, Option.bind_some, hrec.fault?_eq_none_iff.2 hlt] at hfault
    rw [hall hfault] at hseq
    cases hseq
  rw [htaken]
  exact ⟨hrec, rest, rfl, hfault, hall⟩

/-- **What an offer adds to the drops is what is accepted of it.** -/
theorem offer_accepted (h : b.Records width seqs) (offer : Offer) :
    (b.offer offer).value.builder.Records width (seqs ++ offer.accepted seqs) := by
  cases offer with
  | many batch => exact (h.addAll batch).1
  | one seq =>
    show (b.add seq).value.builder.Records width _
    cases hf : b.fault? seq with
    | none =>
      have hlt := h.fault?_eq_none_iff.1 hf
      rw [add_of_fault?_eq_none hf,
        Offer.accepted_one_of_lt (h.ascending.forall_lt_iff.1 hlt)]
      exact h.place hlt
    | some disorder =>
      obtain ⟨prev, hprev, hle, -⟩ := fault?_eq_some_iff.1 hf
      rw [add_of_fault hf, Offer.accepted_one_of_le (h.last_eq.symm.trans hprev) hle,
        List.append_nil]
      exact h

end Records

/-! ## A whole history -/

theorem records_acceptedOf (width : Width) (history : List Offer) :
    ((empty width).offers history).value.Records width (acceptedOf history) := by
  induction history using List.reverseRecOn with
  | nil => exact records_empty width
  | append_singleton history offer ih =>
    rw [acceptedOf_concat, offers_append]
    exact ih.offer_accepted offer

/-- **Refused drops leave no trace.**  After any history the builder is the one of the
accepted drops: it has the last of them, and its windows are theirs.  What comes next is
decided by them as well.  A single drop that exceeds the last one is accepted, and any
other one changes nothing at all; of a batch the longest part that keeps the drops
ascending is accepted, and the drop behind that part is reported. -/
theorem offers_of_accepted (width : Width) (history : List Offer) :
    let b := ((empty width).offers history).value
    let seqs := acceptedOf history
    (b.width = width ∧ b.last = seqs.getLast? ∧ (b.active = none ↔ seqs = []) ∧
      (windowsOf width.positions seqs).value = .ok (b.closed.toList ++ b.active.toList) ∧
      (windowsOf width.positions seqs).value = .ok b.windows) ∧
    (∀ seq, (seqs = [] ∨ ∃ prev, seqs.getLast? = some prev ∧ prev < seq) →
      (b.add seq).value.fault = none ∧ acceptedOf (history ++ [.one seq]) = seqs ++ [seq]) ∧
    (∀ seq prev, seqs.getLast? = some prev → seq ≤ prev →
      b.add seq = pure ⟨b, some ⟨prev, seq⟩⟩ ∧ acceptedOf (history ++ [.one seq]) = seqs) ∧
    ∀ batch, ∃ taken rest, batch = taken ++ rest ∧
      acceptedOf (history ++ [.many batch]) = seqs ++ taken ∧
      Ascending (seqs ++ taken) ∧
      (∀ other, other <+: batch → Ascending (seqs ++ other) → other <+: taken) ∧
      (rest = [] ∧ (b.addAll batch).value.fault = none ∨
        ∃ prev seq, (seqs ++ taken).getLast? = some prev ∧ rest.head? = some seq ∧
          (b.addAll batch).value.fault = some ⟨prev, seq⟩) := by
  intro b seqs
  have h : b.Records width seqs := records_acceptedOf width history
  refine ⟨⟨h.width_eq, h.last_eq, h.active_eq_none_iff, h.value_windowsOf,
    h.value_windowsOf⟩, ?_, ?_, ?_⟩
  · intro seq hseq
    have hlt : ∀ prev, seqs.getLast? = some prev → prev < seq := by
      intro prev hprev
      rcases hseq with hnil | ⟨last, hlast, hlt⟩
      · simp [hnil] at hprev
      · obtain rfl := Option.some.inj (hlast.symm.trans hprev)
        exact hlt
    rw [add_of_fault?_eq_none (h.fault?_eq_none hlt), acceptedOf_concat,
      Offer.accepted_one_of_lt hlt]
    exact ⟨rfl, rfl⟩
  · intro seq prev hlast hle
    rw [add_of_fault (h.fault?_eq_some hlast hle), acceptedOf_concat,
      Offer.accepted_one_of_le hlast hle, List.append_nil]
    exact ⟨rfl, rfl⟩
  · intro batch
    obtain ⟨hrec, rest, hsplit, hfault, hall⟩ := h.addAll batch
    refine ⟨continuation seqs batch, rest, hsplit, acceptedOf_concat history _,
      hrec.ascending, fun _ => prefix_continuation, ?_⟩
    cases hf : (b.addAll batch).value.fault with
    | none => exact Or.inl ⟨hall hf, rfl⟩
    | some disorder =>
      rw [hf, eq_comm, Option.bind_eq_some_iff] at hfault
      obtain ⟨seq, hhead, hseq⟩ := hfault
      obtain ⟨prev, hprev, -, rfl⟩ := fault?_eq_some_iff.1 hseq
      exact Or.inr ⟨prev, seq, hrec.last_eq.symm.trans hprev, hhead, rfl⟩

end Builder

end LossWindows
