import LossWindows.Proofs.Builder.Placement

/-!
# Batches

A batch is taken with a shortcut: a consecutive run directly behind the open window is
added to it in one step, without a look at its elements.  That makes no difference.
Each element of such a run would have been accepted, being larger than the one before
it, and would have found itself directly behind the window, which had grown by one
position just then.

So a batch is taken as if its drops came one by one: the same builder, the same refusal
and the same events.  It may then be cut anywhere, also in the middle of a run.

## Main definitions

* `Intake.andThen` — going on, unless a drop was refused.
* `Builder.addBatches` — a stream that comes in batches.
-/

namespace LossWindows

/-- Goes on with the builder unless a drop was refused. -/
def Intake.andThen (intake : Intake) (next : Builder → Logged Intake) : Logged Intake :=
  match intake.fault with
  | some _ => pure intake
  | none => next intake.builder

namespace Intake

theorem andThen_of_fault {intake : Intake} {disorder : Disorder}
    (h : intake.fault = some disorder) (next : Builder → Logged Intake) :
    intake.andThen next = pure intake := by
  simp [andThen, h]

theorem andThen_of_fault_eq_none {intake : Intake} (h : intake.fault = none)
    (next : Builder → Logged Intake) : intake.andThen next = next intake.builder := by
  simp [andThen, h]

theorem andThen_congr {intake : Intake} {next other : Builder → Logged Intake}
    (h : next intake.builder = other intake.builder) :
    intake.andThen next = intake.andThen other := by
  cases hf : intake.fault with
  | some disorder => rw [andThen_of_fault hf, andThen_of_fault hf]
  | none => rw [andThen_of_fault_eq_none hf, andThen_of_fault_eq_none hf, h]

end Intake

namespace Builder

variable {width : Width} {b : Builder}

/-- Offers a stream in batches, until a drop is refused. -/
def addBatches (b : Builder) : List (List UInt32) → Logged Intake
  | [] => pure ⟨b, none⟩
  | batch :: rest => do
    let intake ← b.addAll batch
    intake.andThen (·.addBatches rest)

/-! ## A run at once and drop by drop -/

/-- The next element of a run behind the window is taken without any event, and it makes
the run one longer. -/
theorem place_placeRun {front : Front} (hb : b.front = some front) {run : Run}
    {seq : UInt32} (rest : List UInt32)
    (hlast : run.last.toNat + 1 =
      front.window.first.toNat + front.window.len + run.length)
    (hseq : seq.toNat = run.last.toNat + 1) :
    (b.placeRun run).place seq = pure (b.placeRun ⟨run.length + 1, seq, rest⟩) := by
  have hfront : (b.placeRun run).front =
      some ⟨front.window.lengthen run.length, run.last⟩ := by
    simp [placeRun, hb]
  have hoff : (front.window.lengthen run.length).offset seq =
      (front.window.lengthen run.length).len := by
    rw [Window.len_lengthen]
    show seq.toNat - front.window.first.toNat = front.window.len + run.length
    omega
  have habsorb : (front.window.lengthen run.length).absorb? seq =
      some (front.window.lengthen (run.length + 1)) := by
    have hwidth := (front.window.lengthen run.length).width_le_len
    rw [Window.absorb?, if_neg (by omega), if_pos (Window.meets_iff.2 hoff)]
    rfl
  rw [place_of_absorb? hfront habsorb]
  simp [placeRun, hb]

/-- **The elements of a run may as well come one by one.** -/
theorem addEach_placeRun {front : Front} (hb : b.front = some front) (length : Nat)
    (last : UInt32) (seqs : List UInt32)
    (hlast : last.toNat + 1 = front.window.first.toNat + front.window.len + length) :
    (b.placeRun ⟨length, last, seqs⟩).addEach seqs =
      (b.placeRun (Run.continued length last seqs)).addEach
        (Run.continued length last seqs).rest := by
  induction seqs generalizing length last with
  | nil => rfl
  | cons seq rest ih =>
    by_cases hseq : seq.toNat = last.toNat + 1
    · have haccept : (b.placeRun ⟨length, last, seq :: rest⟩).fault? seq = none := by
        rw [fault?_eq_none_iff]
        intro prev hprev
        have hprev' : last = prev := by simpa [Builder.last, placeRun, hb] using hprev
        rw [UInt32.lt_iff_toNat_lt, ← hprev']
        omega
      rw [addEach_eq_bind _ seq rest haccept, place_placeRun hb rest hlast hseq,
        pure_bind, ih (length + 1) seq (by omega), Run.continued, if_pos hseq]
    · rw [Run.continued, if_neg hseq]

/-- A run at the head of a batch is taken as its elements are. -/
theorem addEach_of_isBoundary (h : b.Fits) {seq : UInt32} {rest : List UInt32}
    (hmeets : b.isBoundary seq = true) (hfault : b.fault? seq = none) :
    b.addEach (seq :: rest) =
      (b.placeRun (Run.ofCons seq rest)).addEach (Run.ofCons seq rest).rest := by
  cases hb : b.front with
  | none => simp [isBoundary, hb] at hmeets
  | some front =>
    have hoff : front.window.offset seq = front.window.len :=
      Window.meets_iff.1 (by simpa [isBoundary, hb] using hmeets)
    -- a window without positions would also be met by what lies before it
    have hpos : 0 < front.window.len := by
      have hwidth := front.window.width_le_len
      have := b.width.pos
      rw [h front hb] at hwidth
      omega
    have hseq : seq.toNat = front.window.first.toNat + front.window.len := by
      rw [Window.offset] at hoff
      omega
    have hone : b.placeRun ⟨1, seq, rest⟩ =
        { b with front := some ⟨front.window.lengthen 1, seq⟩ } := by
      simp [placeRun, hb]
    have habsorb : front.window.absorb? seq = some (front.window.lengthen 1) := by
      have hwidth := front.window.width_le_len
      rw [Window.absorb?, if_neg (by omega), if_pos (Window.meets_iff.2 hoff)]
    rw [addEach_eq_bind b seq rest hfault, place_of_absorb? hb habsorb, pure_bind, ← hone,
      addEach_placeRun hb 1 seq rest (by omega)]
    rfl

theorem addAllFrom_eq_bind (told : Logged Builder) (seqs : List UInt32)
    (h : told.value.Fits) : addAllFrom told seqs = told >>= (·.addEach seqs) := by
  fun_induction addAllFrom told seqs with
  | case1 told => rw [map_eq_pure_bind]; rfl
  | case2 told seq rest disorder hfault =>
    rw [map_eq_pure_bind]
    exact Logged.bind_congr (addEach_of_fault rest hfault).symm
  | case3 told seq rest hfault hmeets run ih =>
    rw [ih (h.placeRun run), map_eq_pure_bind, bind_assoc]
    refine Logged.bind_congr ?_
    rw [pure_bind, addEach_of_isBoundary h hmeets hfault]
  | case4 told seq rest hfault hmeets ih =>
    rw [ih (h.place seq), bind_assoc]
    exact Logged.bind_congr (addEach_eq_bind _ seq rest hfault).symm

/-- **A batch is taken as its drops are, one by one.** -/
theorem Fits.addAll_eq_addEach (h : b.Fits) (seqs : List UInt32) :
    b.addAll seqs = b.addEach seqs := by
  rw [addAll, addAllFrom_eq_bind _ _ h, pure_bind]

theorem Fits.offer (h : b.Fits) (offer : Offer) : (b.offer offer).value.builder.Fits := by
  cases offer with
  | one seq =>
    show (b.add seq).value.builder.Fits
    rw [← addEach_singleton]
    exact h.addEach [seq]
  | many seqs =>
    show (b.addAll seqs).value.builder.Fits
    rw [h.addAll_eq_addEach]
    exact h.addEach seqs

theorem Reachable.fits (h : b.Reachable width) : b.Fits := by
  apply h.induction (fits_empty width)
  intro b offer hb
  exact hb.offer offer

/-! ## Cutting a batch -/

theorem addEach_append (b : Builder) (front back : List UInt32) :
    b.addEach (front ++ back) =
      b.addEach front >>= (·.andThen (·.addEach back)) := by
  induction front generalizing b with
  | nil =>
    rw [List.nil_append, addEach_nil, pure_bind, Intake.andThen_of_fault_eq_none rfl]
  | cons seq rest ih =>
    cases hf : b.fault? seq with
    | some disorder =>
      rw [List.cons_append, addEach_of_fault _ hf, addEach_of_fault _ hf, pure_bind,
        Intake.andThen_of_fault rfl]
    | none =>
      rw [List.cons_append, addEach_eq_bind _ _ _ hf, addEach_eq_bind _ _ _ hf, bind_assoc]
      exact bind_congr fun b' => ih b'

theorem Fits.addAll_append (h : b.Fits) (front back : List UInt32) :
    b.addAll (front ++ back) = b.addAll front >>= (·.andThen (·.addAll back)) := by
  rw [h.addAll_eq_addEach, h.addAll_eq_addEach, addEach_append]
  refine Logged.bind_congr (Intake.andThen_congr ?_)
  exact ((h.addEach front).addAll_eq_addEach back).symm

/-- A batch may come in any number of parts. -/
theorem Fits.addAll_flatten (h : b.Fits) (batches : List (List UInt32)) :
    b.addAll batches.flatten = b.addBatches batches := by
  induction batches generalizing b with
  | nil => exact addAll_nil b
  | cons batch rest ih =>
    rw [List.flatten_cons, h.addAll_append, addBatches]
    refine Logged.bind_congr (Intake.andThen_congr ?_)
    rw [h.addAll_eq_addEach]
    exact ih (h.addEach batch)

/-- **A batch is nothing but its drops**, for every builder that can come about: it leads
to the same builder, stops at the same refusal and tells the same events as its drops
one by one, and so it may be cut into batches in any way. -/
theorem addAll_eq_addEach_of_reachable (h : b.Reachable width) :
    (∀ seqs, b.addAll seqs = b.addEach seqs) ∧
      (∀ front back, b.addAll (front ++ back) =
        b.addAll front >>= (·.andThen (·.addAll back))) ∧
      ∀ batches, b.addAll batches.flatten = b.addBatches batches :=
  ⟨h.fits.addAll_eq_addEach, h.fits.addAll_append, h.fits.addAll_flatten⟩

/-- A run that is cut in the middle, a drop out of reach and a refusal at the end. -/
theorem addAll_eq_addEach_within_run :
    let width : Width := ⟨4, by decide, by decide⟩
    let b := ((empty width).offers [.many [1, 5]]).value
    b.Reachable width ∧
      b.addAll [6, 7, 20, 20] = b.addEach [6, 7, 20, 20] ∧
      b.addAll [6, 7, 20, 20] = b.addBatches [[6], [7, 20], [20]] ∧
      (b.addEach [6, 7, 20, 20]).value.fault = some ⟨20, 20⟩ := by
  intro width b
  have hb : b.Reachable width := ⟨[.many [1, 5]], rfl⟩
  obtain ⟨heach, -, hbatches⟩ := addAll_eq_addEach_of_reachable hb
  refine ⟨hb, heach _, hbatches [[6], [7, 20], [20]], ?_⟩
  have hstart : b = ((empty width).addEach [1, 5]).value.builder := by
    show ((empty width).addAll [1, 5]).value.builder = _
    rw [(fits_empty width).addAll_eq_addEach]
  rw [hstart]
  decide

end Builder

end LossWindows
