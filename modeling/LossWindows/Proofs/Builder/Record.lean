import LossWindows.Proofs.Builder.Batch
import LossWindows.Proofs.Window.Layout

/-!
# What a builder has recorded

After any history a builder has recorded the drops that it accepted and nothing else.
Its windows are canonical and tell exactly these drops, and the last of them is the one
that the next drop has to exceed.

No more than this has to be known of a builder.  In particular nothing is said of how
the extension of the open window came about: a drop that lay between the bitmap and the
end of that window would be among those recorded already, so no larger drop does.

## Main definitions

* `Builder.Records` — the builder has recorded these drops.
-/

namespace LossWindows

/-- A number exceeds all of an ascending list when it exceeds the last one. -/
theorem Ascending.forall_lt_iff {seqs : List UInt32} (h : Ascending seqs) {seq : UInt32} :
    (∀ q ∈ seqs, q < seq) ↔ ∀ prev, seqs.getLast? = some prev → prev < seq := by
  constructor
  · intro hall prev hprev
    exact hall prev (List.mem_of_getLast? hprev)
  · intro hlast q hq
    obtain ⟨init, prev, rfl⟩ :=
      (List.eq_nil_or_concat' seqs).resolve_left (List.ne_nil_of_mem hq)
    have hprev : prev < seq := hlast prev (by simp)
    rcases List.mem_append.1 hq with hinit | hq
    · exact UInt32.lt_trans ((ascending_append_singleton.1 h).2 q hinit) hprev
    · exact List.mem_singleton.1 hq ▸ hprev

namespace Builder

variable {width : Width} {b : Builder} {seqs : List UInt32} {seq : UInt32}

/-- The builder has recorded the drops `seqs`, with bitmaps of the given width. -/
structure Records (b : Builder) (width : Width) (seqs : List UInt32) : Prop where
  width_eq : b.width = width
  canonical : Canonical width b.windows
  drops_eq : dropsOf b.windows = seqs
  last_eq : b.last = seqs.getLast?

theorem records_empty (width : Width) : (empty width).Records width [] where
  width_eq := rfl
  canonical := Canonical.nil
  drops_eq := rfl
  last_eq := rfl

theorem windows_of_front {front : Front} (hb : b.front = some front) :
    b.windows = b.closed.toList ++ [front.window] := by
  simp [windows, active, hb]

namespace Records

theorem ascending (h : b.Records width seqs) : Ascending seqs :=
  h.drops_eq ▸ h.canonical.ascending_dropsOf

theorem fits (h : b.Records width seqs) : b.Fits := by
  intro front hb
  have hmem : front.window ∈ b.windows := by simp [windows_of_front hb]
  rw [(h.canonical.each _ hmem).width_eq, h.width_eq]

/-- A drop is accepted when it exceeds all that are recorded. -/
theorem fault?_eq_none_iff (h : b.Records width seqs) :
    b.fault? seq = none ↔ ∀ q ∈ seqs, q < seq := by
  rw [Builder.fault?_eq_none_iff, h.last_eq, h.ascending.forall_lt_iff]

/-- Without an open window nothing is recorded. -/
theorem windows_eq_nil (h : b.Records width seqs) (hb : b.front = none) :
    b.windows = [] ∧ seqs = [] := by
  have hseqs : seqs = [] := by
    rw [← List.getLast?_eq_none_iff, ← h.last_eq, Builder.last, hb]
    rfl
  exact ⟨h.canonical.eq_nil_of_dropsOf_eq_nil (h.drops_eq.trans hseqs), hseqs⟩

theorem closed_eq_empty (h : b.Records width seqs) (hb : b.front = none) : b.closed = #[] := by
  obtain ⟨hnil, -⟩ := h.windows_eq_nil hb
  exact Array.toList_eq_nil_iff.1 (List.append_eq_nil_iff.1 hnil).1

/-- **A drop that is taken is recorded**, and nothing else changes in what is. -/
theorem place (h : b.Records width seqs) (hlt : ∀ q ∈ seqs, q < seq) :
    (b.place seq).value.Records width (seqs ++ [seq]) := by
  have hcanonical := h.canonical
  have hdrops := h.drops_eq
  rcases place_cases b seq with
    ⟨hb, hp⟩ | ⟨front, grown, hb, ha, hp⟩ | ⟨front, hb, ha, hp⟩
  · -- the first drop opens the first window
    obtain ⟨-, rfl⟩ := h.windows_eq_nil hb
    have hclosed : b.closed = #[] := h.closed_eq_empty hb
    have hwindows : (b.place seq).value.windows = [.opening seq width] := by
      rw [hp]
      simp [windows, active, hclosed, h.width_eq]
    refine ⟨by simp [h.width_eq], ?_, by simp [hwindows], by simp⟩
    rw [hwindows]
    exact Canonical.append_singleton_iff.2
      ⟨Canonical.nil, Window.canonical_opening seq width, by simp⟩
  · -- the open window takes it in
    rw [windows_of_front hb] at hcanonical hdrops
    obtain ⟨hcanonical', hdrops'⟩ :=
      hcanonical.append_grown (hdrops ▸ hlt) ha
    have hwindows : (b.place seq).value.windows = b.closed.toList ++ [grown] := by
      rw [hp]
      rfl
    exact ⟨by simp [h.width_eq], hwindows ▸ hcanonical',
      by rw [hwindows, hdrops', hdrops], by simp⟩
  · -- it closes the open window and opens the next one
    rw [windows_of_front hb] at hcanonical hdrops
    obtain ⟨hcanonical', hdrops'⟩ :=
      hcanonical.append_opening (hdrops ▸ hlt) ha
    have hwindows : (b.place seq).value.windows =
        b.closed.toList ++ [front.window] ++ [.opening seq width] := by
      rw [hp]
      simp [windows, active, h.width_eq]
    exact ⟨by simp [h.width_eq], hwindows ▸ hcanonical',
      by rw [hwindows, hdrops', hdrops], by simp⟩

/-- **A batch records its drops up to the first one that is out of order.** -/
theorem addEach (h : b.Records width seqs) (batch : List UInt32) :
    ∃ taken rest, batch = taken ++ rest ∧
      (b.addEach batch).value.builder.Records width (seqs ++ taken) ∧
      (b.addEach batch).value.fault =
        rest.head?.bind (b.addEach batch).value.builder.fault? ∧
      ((b.addEach batch).value.fault = none → rest = []) := by
  induction batch generalizing b seqs with
  | nil => exact ⟨[], [], rfl, by simpa using h, rfl, fun _ => rfl⟩
  | cons seq rest ih =>
    cases hf : b.fault? seq with
    | some disorder =>
      rw [addEach_of_fault rest hf]
      exact ⟨[], seq :: rest, rfl, by simpa using h, hf.symm, by simp⟩
    | none =>
      rw [addEach_eq_bind b seq rest hf, Logged.value_bind]
      obtain ⟨taken, left, hsplit, hrec, hfault, hall⟩ := ih (h.place (h.fault?_eq_none_iff.1 hf))
      refine ⟨seq :: taken, left, by rw [hsplit, List.cons_append], ?_, hfault, hall⟩
      rwa [List.append_assoc, List.singleton_append] at hrec

theorem addEach_of_ascending (h : b.Records width seqs) {batch : List UInt32}
    (hasc : Ascending (seqs ++ batch)) :
    (b.addEach batch).value.builder.Records width (seqs ++ batch) ∧
      (b.addEach batch).value.fault = none := by
  obtain ⟨taken, rest, rfl, hrec, hfault, hall⟩ := h.addEach batch
  cases rest with
  | nil => exact ⟨by simpa using hrec, hfault⟩
  | cons seq rest =>
    -- the first drop left over would be larger than all that were taken
    have hnone : (b.addEach (taken ++ seq :: rest)).value.builder.fault? seq = none := by
      rw [hrec.fault?_eq_none_iff]
      intro q hq
      rw [← List.append_assoc] at hasc
      exact (List.pairwise_append.1 hasc).2.2 q hq seq (by simp)
    exact absurd (hall (hfault.trans hnone)) (by simp)

end Records

/-- **What every drop that is taken preserves, a history preserves**, whether the drops come
one by one or in batches.  Every one of them exceeds all that were recorded before it, and
is recorded then. -/
theorem Records.offers_induction {P : Builder → Prop}
    (hstep : ∀ b seqs seq, b.Records width seqs → (∀ q ∈ seqs, q < seq) → P b →
      P (b.place seq).value)
    (h : b.Records width seqs) (hb : P b) (history : List Offer) :
    (∃ seqs, (b.offers history).value.Records width seqs) ∧ P (b.offers history).value := by
  refine Builder.offers_induction (P := fun b => (∃ seqs, b.Records width seqs) ∧ P b) ?_
    history ⟨⟨seqs, h⟩, hb⟩
  rintro b offer ⟨⟨seqs, h⟩, hb⟩
  have hbatch (batch : List UInt32) :
      (∃ seqs, (b.addEach batch).value.builder.Records width seqs) ∧
        P (b.addEach batch).value.builder := by
    refine addEach_induction (P := fun b => (∃ seqs, b.Records width seqs) ∧ P b) ?_
      batch ⟨⟨seqs, h⟩, hb⟩
    rintro b seq hfault ⟨⟨seqs, h⟩, hb⟩
    have hlt := h.fault?_eq_none_iff.1 hfault
    exact ⟨⟨seqs ++ [seq], h.place hlt⟩, hstep b seqs seq h hlt hb⟩
  cases offer with
  | one seq =>
    rw [Builder.offer, ← addEach_singleton]
    exact hbatch [seq]
  | many batch =>
    rw [Builder.offer, h.fits.addAll_eq_addEach]
    exact hbatch batch

theorem Reachable.exists_records (h : b.Reachable width) : ∃ seqs, b.Records width seqs := by
  obtain ⟨history, rfl⟩ := h
  exact ((records_empty width).offers_induction (P := fun _ => True)
    (fun _ _ _ _ _ _ => trivial) trivial history).1

end Builder

/-! ## The windows of drops -/

/-- A width out of bounds is found, whatever the drops are. -/
theorem windowsOf_of_out_of_bounds {width : Nat} (h : width = 0 ∨ maxWidth < width)
    (seqs : List UInt32) : windowsOf width seqs = pure (.error (.widthOutOfBounds width)) := by
  rw [windowsOf, Builder.ofWidth, Width.ofNat?_eq_none_iff.2 h]

theorem value_windowsOf (width : Width) (seqs : List UInt32) :
    (windowsOf width.positions seqs).value =
      match ((Builder.empty width).addEach seqs).value with
      | ⟨_, some disorder⟩ => .error (.unordered disorder)
      | ⟨b, none⟩ => .ok b.windows := by
  rw [windowsOf, Builder.ofWidth_positions]
  show Logged.value (Builder.addAll (Builder.empty width) seqs >>= _) = _
  rw [(Builder.fits_empty width).addAll_eq_addEach, Logged.value_bind, Logged.value_pure]
  obtain ⟨b, _ | disorder⟩ := ((Builder.empty width).addEach seqs).value <;> rfl

theorem exists_value_windowsOf (width : Width) {seqs : List UInt32} (h : Ascending seqs) :
    ∃ b : Builder, b.Records width seqs ∧
      (windowsOf width.positions seqs).value = .ok b.windows := by
  obtain ⟨hrec, hfault⟩ := (Builder.records_empty width).addEach_of_ascending h
  refine ⟨_, hrec, ?_⟩
  rw [value_windowsOf]
  split
  · next heq =>
    rw [heq] at hfault
    cases hfault
  · next heq => rw [heq]

/-- **The windows of drops are the canonical windows that tell them.**  If the drops do
not ascend there are none. -/
theorem value_windowsOf_eq_ok_iff {width : Width} {seqs : List UInt32}
    {windows : List Window} : (windowsOf width.positions seqs).value = .ok windows ↔
      Canonical width windows ∧ dropsOf windows = seqs := by
  constructor
  · intro h
    obtain ⟨taken, rest, hsplit, hrec, -, hall⟩ := (Builder.records_empty width).addEach seqs
    rw [value_windowsOf] at h
    split at h
    · cases h
    · next b heq =>
      obtain rfl := Except.ok.inj h
      rw [heq] at hrec hall
      obtain rfl := hall rfl
      rw [List.append_nil] at hsplit
      exact ⟨hrec.canonical, hrec.drops_eq.trans hsplit.symm⟩
  · rintro ⟨hcanonical, rfl⟩
    -- there is some canonical list for these drops, and there is no other
    obtain ⟨b, hrec, hvalue⟩ := exists_value_windowsOf width hcanonical.ascending_dropsOf
    rw [hvalue, hrec.canonical.eq_of_dropsOf_eq hcanonical hrec.drops_eq]

/-- Ascending drops have windows, which are canonical and tell them. -/
theorem exists_windowsOf (width : Width) {seqs : List UInt32} (h : Ascending seqs) :
    ∃ windows, (windowsOf width.positions seqs).value = .ok windows ∧
      Canonical width windows ∧ dropsOf windows = seqs := by
  obtain ⟨b, hrec, hvalue⟩ := exists_value_windowsOf width h
  exact ⟨b.windows, hvalue, hrec.canonical, hrec.drops_eq⟩

end LossWindows
