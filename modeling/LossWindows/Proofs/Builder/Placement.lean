import LossWindows.Builder.History

/-!
# What a builder does with a drop

There are three things that can happen to a drop that is taken: it is the first one, the
open window takes it in, or it closes that window and opens another.  `place_cases` says
all of this once, with what each case changes and tells; whatever holds of every step
is read off from it.

What holds after every step holds of every builder that a history leads to.

## Main definitions

* `Builder.Fits` — the open window has the bitmap width of the builder.
-/

namespace LossWindows

theorem Logged.bind_congr {α β : Type} {x : Logged α} {f g : α → Logged β}
    (h : f x.value = g x.value) : x >>= f = x >>= g := by
  apply Logged.ext
  · simp [h]
  · simp [h]

namespace Builder

variable {width : Width} {b : Builder} {seq : UInt32}

/-! ## One step -/

/-- **Everything that taking a drop can do.** -/
theorem place_cases (b : Builder) (seq : UInt32) :
    (b.front = none ∧
      b.place seq = pure { b with front := some ⟨.opening seq b.width, seq⟩ }) ∨
    (∃ front grown, b.front = some front ∧ front.window.absorb? seq = some grown ∧
      b.place seq = pure { b with front := some ⟨grown, seq⟩ }) ∨
    (∃ front, b.front = some front ∧ front.window.absorb? seq = none ∧
      b.place seq =
        ⟨{ b with
            closed := b.closed.push front.window
            front := some ⟨.opening seq b.width, seq⟩ },
          #[.windowClosed front.window.first front.window.last seq]⟩) := by
  obtain ⟨width, closed, _ | front⟩ := b
  · exact Or.inl ⟨rfl, rfl⟩
  · cases h : front.window.absorb? seq with
    | some grown => exact Or.inr (Or.inl ⟨front, grown, rfl, h, by simp [place, h]⟩)
    | none => exact Or.inr (Or.inr ⟨front, rfl, h, by simp [place, h]⟩)

/-- A drop that the open window takes in only changes that window. -/
theorem place_of_absorb? {front : Front} {grown : Window} (hb : b.front = some front)
    (h : front.window.absorb? seq = some grown) :
    b.place seq = pure { b with front := some ⟨grown, seq⟩ } := by
  obtain ⟨width, closed, _⟩ := b
  obtain rfl := hb
  simp [place, h]

/-- A drop that is out of its reach closes the open window. -/
theorem place_of_absorb?_eq_none {front : Front} (hb : b.front = some front)
    (h : front.window.absorb? seq = none) :
    (b.place seq).value =
      { b with
        closed := b.closed.push front.window
        front := some ⟨.opening seq b.width, seq⟩ } := by
  obtain ⟨width, closed, _⟩ := b
  obtain rfl := hb
  simp [place, h]

/-- A larger drop is not refused. -/
theorem fault?_eq_none_iff :
    b.fault? seq = none ↔ ∀ prev, b.last = some prev → prev < seq := by
  unfold fault?
  cases b.last with
  | none => simp
  | some prev =>
    by_cases h : seq ≤ prev
    · have hle : ¬ prev < seq := UInt32.not_lt.2 h
      simp [h, hle]
    · have hlt : prev < seq := UInt32.not_le.1 h
      simp [h, hlt]

/-- A drop is not refused when it is larger than the last one in the open window. -/
theorem fault?_eq_none_iff_lt {front : Front} (hb : b.front = some front) :
    b.fault? seq = none ↔ front.last < seq := by
  simp [fault?_eq_none_iff, last, hb]

/-! ## The width of the open window -/

/-- The open window has the bitmap width of the builder. -/
def Fits (b : Builder) : Prop :=
  ∀ front, b.front = some front → front.window.width = b.width.positions

theorem fits_empty (width : Width) : (empty width).Fits := by
  intro front h
  cases h

theorem Fits.place (h : b.Fits) (seq : UInt32) : (b.place seq).value.Fits := by
  rcases place_cases b seq with ⟨-, hp⟩ | ⟨front, grown, hb, ha, hp⟩ | ⟨front, hb, -, hp⟩
  · rw [hp]
    rintro _ ⟨⟩
    exact Window.width_opening _ _
  · rw [hp]
    rintro _ ⟨⟩
    exact (Window.first_of_absorb? ha).2.trans (h front hb)
  · rw [hp]
    rintro _ ⟨⟩
    exact Window.width_opening _ _

theorem Fits.placeRun (h : b.Fits) (run : Run) : (b.placeRun run).Fits := by
  intro front hfront
  obtain ⟨old, hb, rfl⟩ := Option.map_eq_some_iff.1 hfront
  exact h old hb

/-! ## Drop by drop -/

theorem addEach_eq_bind (b : Builder) (seq : UInt32) (rest : List UInt32)
    (h : b.fault? seq = none) : b.addEach (seq :: rest) = b.place seq >>= (·.addEach rest) := by
  rw [addEach_cons, h]

theorem addEach_of_fault {disorder : Disorder} (rest : List UInt32)
    (h : b.fault? seq = some disorder) : b.addEach (seq :: rest) = pure ⟨b, some disorder⟩ := by
  rw [addEach_cons, h]

/-- What every drop that is taken preserves, a batch preserves. -/
theorem addEach_induction {P : Builder → Prop}
    (hstep : ∀ b seq, b.fault? seq = none → P b → P (b.place seq).value)
    (seqs : List UInt32) (h : P b) : P (b.addEach seqs).value.builder := by
  induction seqs generalizing b with
  | nil => exact h
  | cons seq rest ih =>
    cases hf : b.fault? seq with
    | some disorder => rwa [addEach_of_fault rest hf]
    | none =>
      rw [addEach_eq_bind b seq rest hf, Logged.value_bind]
      exact ih (hstep b seq hf h)

theorem Fits.addEach (h : b.Fits) (seqs : List UInt32) : (b.addEach seqs).value.builder.Fits :=
  addEach_induction (fun _ seq _ hb => hb.place seq) seqs h

theorem addEach_singleton (b : Builder) (seq : UInt32) : b.addEach [seq] = b.add seq := by
  cases hf : b.fault? seq with
  | some disorder => rw [addEach_of_fault [] hf, add_of_fault hf]
  | none =>
    rw [addEach_eq_bind b seq [] hf, add_of_fault?_eq_none hf, map_eq_pure_bind]
    rfl

/-- What every offer preserves, a history preserves. -/
theorem offers_induction {P : Builder → Prop}
    (hstep : ∀ b offer, P b → P (b.offer offer).value.builder) (history : List Offer)
    (h : P b) : P (b.offers history).value := by
  induction history generalizing b with
  | nil => exact h
  | cons offer rest ih =>
    rw [offers_cons, Logged.value_bind]
    exact ih (hstep b offer h)

/-- **What holds at first and is preserved by every offer holds of every reachable
builder.** -/
theorem Reachable.induction {P : Builder → Prop} (hempty : P (empty width))
    (hstep : ∀ b offer, P b → P (b.offer offer).value.builder) (h : b.Reachable width) :
    P b := by
  obtain ⟨history, rfl⟩ := h
  exact offers_induction hstep history hempty

end Builder

end LossWindows
