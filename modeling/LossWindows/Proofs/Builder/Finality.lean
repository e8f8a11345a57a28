import LossWindows.Proofs.Builder.Front

/-!
# What later drops cannot change

Only the open window can still change, and it can only grow.  Its length does not shrink
and a clear bit stays clear.  Once it has an extension, its bitmap does not change either,
because every later drop lies behind it.

When the open window is closed it takes the next place among the closed ones, and there it
stays.  So the windows of a builder are found again in every later one: the closed ones as
they are, and behind them the one that was open, grown.

## Main definitions

* `Window.Grows` — how a window may differ from what it was.
* `Builder.Evolves` — how a builder may differ from what it was.
-/

namespace LossWindows

namespace Window

variable {w grown later : Window}

/-- What may become of an open window.  Drops in the bitmap stay there, and no others come
once there is an extension. -/
structure Grows (w grown : Window) : Prop where
  first_eq : grown.first = w.first
  width_eq : grown.width = w.width
  len_le : w.len ≤ grown.len
  clear : ∀ i : Nat, w.bits[i]? = some false → grown.bits[i]? = some false
  bits_eq : w.width < w.len → grown.bits = w.bits

theorem Grows.refl (w : Window) : w.Grows w :=
  ⟨rfl, rfl, Nat.le_refl _, fun _ h => h, fun _ => rfl⟩

theorem Grows.trans (h : w.Grows grown) (h' : grown.Grows later) : w.Grows later where
  first_eq := h'.first_eq.trans h.first_eq
  width_eq := h'.width_eq.trans h.width_eq
  len_le := Nat.le_trans h.len_le h'.len_le
  clear := fun i hi => h'.clear i (h.clear i hi)
  bits_eq := by
    intro hext
    have hlen := h.len_le
    have hext' : grown.width < grown.len := by
      rw [h.width_eq]
      omega
    rw [h'.bits_eq hext', h.bits_eq hext]

theorem Grows.clear_of_ne (h : w.Grows grown) {i : Nat} (hne : grown.bits[i]? ≠ w.bits[i]?) :
    w.bits[i]? = some true ∧ grown.bits[i]? = some false := by
  have hwidth : grown.bits.length = w.bits.length := h.width_eq
  by_cases hi : i < w.bits.length
  · have hi' : i < grown.bits.length := hwidth ▸ hi
    have hclear := h.clear i
    rw [List.getElem?_eq_getElem hi, List.getElem?_eq_getElem hi'] at hne hclear ⊢
    cases hw : w.bits[i] <;> cases hg : grown.bits[i] <;> simp_all
  · rw [List.getElem?_eq_none (by omega), List.getElem?_eq_none (by omega)] at hne
    exact absurd rfl hne

end Window

/-- **A window that takes in a larger drop grows.** -/
theorem Front.Exact.grows {width : Width} {front : Front} {seq : UInt32} {grown : Window}
    (h : front.Exact width) (hlt : front.last < seq)
    (ha : front.window.absorb? seq = some grown) : front.window.Grows grown := by
  rcases Window.absorb?_eq_some_iff.1 ha with ⟨hoff, rfl⟩ | ⟨-, rfl⟩
  · refine ⟨rfl, Window.width_clear _ _, by rw [Window.len_clear], ?_, ?_⟩
    · intro i hi
      simp only [Window.clear, List.getElem?_set]
      split
      · next heq =>
        rw [← heq] at hi
        simp [(List.getElem?_eq_some_iff.1 hi).1]
      · exact hi
    · -- an extension ends with the last drop, so that no larger one lies in the bitmap
      intro hext
      have hlast := h.last_eq_of_extended hext
      have hfirst := Window.first_add_offset (h.first_le hlt)
      rw [UInt32.lt_iff_toNat_lt, ← hlast, Window.last] at hlt
      omega
  · refine ⟨rfl, rfl, by simp, fun _ hi => hi, fun _ => rfl⟩

namespace Builder

variable {width : Width} {b mid later : Builder} {seqs : List UInt32} {seq : UInt32}

/-- What may become of a builder.  The closed windows stay in their places, and the open one is
found behind them. -/
structure Evolves (b later : Builder) : Prop where
  closed : b.closed.toList <+: later.closed.toList
  active : ∀ w, b.active = some w →
    ∃ grown, w.Grows grown ∧ later.windows[b.closed.size]? = some grown

theorem getElem?_windows_size (b : Builder) : b.windows[b.closed.size]? = b.active := by
  rw [windows, List.getElem?_append_right (by simp)]
  cases b.active <;> simp

theorem getElem?_windows_eq_some_iff {i : Nat} {w : Window} : b.windows[i]? = some w ↔
    b.closed[i]? = some w ∨ i = b.closed.size ∧ b.active = some w := by
  by_cases hi : i < b.closed.size
  · have hne : i ≠ b.closed.size := by omega
    rw [windows, List.getElem?_append_left (by simpa using hi)]
    simp [hne]
  · rw [Array.getElem?_eq_none (by omega)]
    by_cases heq : i = b.closed.size
    · simp [heq, getElem?_windows_size]
    · have hlen : b.windows.length ≤ i := by
        have hle := Option.length_toList_le (o := b.active)
        simp only [windows, List.length_append, Array.length_toList]
        omega
      rw [List.getElem?_eq_none hlen]
      simp [heq]

namespace Evolves

theorem refl (b : Builder) : b.Evolves b where
  closed := List.prefix_refl _
  active := fun w hw => ⟨w, .refl w, b.getElem?_windows_size.trans hw⟩

theorem getElem?_closed (h : b.Evolves later) {i : Nat} {w : Window}
    (hw : b.closed[i]? = some w) : later.closed[i]? = some w := by
  obtain ⟨more, hmore⟩ := h.closed
  have hi : i < b.closed.size := (Array.getElem?_eq_some_iff.1 hw).1
  rw [← Array.getElem?_toList, ← hmore, List.getElem?_append_left (by simpa using hi)]
  simpa using hw

theorem trans (h : b.Evolves mid) (h' : mid.Evolves later) : b.Evolves later where
  closed := h.closed.trans h'.closed
  active := by
    intro w hw
    obtain ⟨grown, hgrows, hplace⟩ := h.active w hw
    rcases getElem?_windows_eq_some_iff.1 hplace with hclosed | ⟨hsize, hopen⟩
    · -- it was closed on the way, and then it stayed
      exact ⟨grown, hgrows,
        getElem?_windows_eq_some_iff.2 (Or.inl (h'.getElem?_closed hclosed))⟩
    · -- it is still open
      obtain ⟨final, hgrows', hplace'⟩ := h'.active grown hopen
      exact ⟨final, hgrows.trans hgrows', hsize ▸ hplace'⟩

end Evolves

/-- **Taking a drop changes no closed window, and the open one only by growth.** -/
theorem Records.evolves_place (h : b.Records width seqs) (hlt : ∀ q ∈ seqs, q < seq) :
    b.Evolves (b.place seq).value := by
  rcases place_cases b seq with ⟨hb, hp⟩ | ⟨front, grown, hb, ha, hp⟩ | ⟨front, hb, ha, hp⟩
  · refine ⟨by rw [hp]; exact List.prefix_refl _, ?_⟩
    intro w hw
    simp [active, hb] at hw
  · have hlast : front.last < seq :=
      (fault?_eq_none_iff_lt hb).1 (h.fault?_eq_none_iff.2 hlt)
    refine ⟨by rw [hp]; exact List.prefix_refl _, ?_⟩
    intro w hw
    obtain rfl : front.window = w := by simpa [active, hb] using hw
    refine ⟨grown, (h.exact hb).grows hlast ha, ?_⟩
    rw [hp]
    exact getElem?_windows_size _
  · refine ⟨by simp [hp], ?_⟩
    intro w hw
    obtain rfl : front.window = w := by simpa [active, hb] using hw
    refine ⟨front.window, .refl _, getElem?_windows_eq_some_iff.2 (Or.inl ?_)⟩
    simp [hp]

/-- So a whole history changes no closed window, and the open one only by growth. -/
theorem Records.evolves_offers (h : b.Records width seqs) (history : List Offer) :
    b.Evolves (b.offers history).value := by
  refine (h.offers_induction (P := b.Evolves) ?_ (.refl b) history).2
  intro mid seqs seq hmid hlt hevolves
  exact hevolves.trans (hmid.evolves_place hlt)

/-- **What was closed is final, and what is open can only grow**, whatever drops are offered
later and however many of them are refused.  The closed windows are the first of all later
closed windows, and so of all later windows.  The open window is still open if no window was
closed meanwhile, and otherwise it is the next one among the closed windows.  There it has
the same anchor and width, and it is no shorter; of its bits some may have been cleared, but
none if it had an extension already. -/
theorem evolves_of_reachable (h : b.Reachable width) (history : List Offer) :
    let later := (b.offers history).value
    b.closed.toList <+: later.closed.toList ∧ b.closed.toList <+: later.windows ∧
    ∀ w, b.active = some w → ∃ grown,
      (later.closed.size = b.closed.size ∧ later.active = some grown ∨
        b.closed.size < later.closed.size ∧ later.closed[b.closed.size]? = some grown) ∧
      grown.first = w.first ∧ grown.width = w.width ∧ w.len ≤ grown.len ∧
      (∀ i : Nat, grown.bits[i]? ≠ w.bits[i]? →
        w.bits[i]? = some true ∧ grown.bits[i]? = some false) ∧
      (w.width < w.len → grown.bits = w.bits) := by
  intro later
  obtain ⟨seqs, hrec⟩ := h.exists_records
  have hevolves : b.Evolves later := hrec.evolves_offers history
  refine ⟨hevolves.closed, hevolves.closed.trans (List.prefix_append _ _), ?_⟩
  intro w hw
  obtain ⟨grown, hgrows, hplace⟩ := hevolves.active w hw
  refine ⟨grown, ?_, hgrows.first_eq, hgrows.width_eq, hgrows.len_le,
    fun i => hgrows.clear_of_ne, hgrows.bits_eq⟩
  rcases getElem?_windows_eq_some_iff.1 hplace with hclosed | ⟨hsize, hopen⟩
  · exact Or.inr ⟨(Array.getElem?_eq_some_iff.1 hclosed).1, hclosed⟩
  · exact Or.inl ⟨hsize.symm, hopen⟩

/-- A window that is extended already, and then a refused drop and a batch that extends it
once more and closes two windows. -/
theorem evolves_of_reachable_closing :
    let width : Width := ⟨4, by decide, by decide⟩
    let w : Window := ⟨9, [false, true, true, true], 2⟩
    let b := ((empty width).offers [.many [1, 9, 13, 14]]).value
    let later := (b.offers [.one 2, .many [15, 20, 40, 40]]).value
    b.Reachable width ∧ b.closed.size = 1 ∧ b.active = some w ∧ w.width < w.len ∧
      later.closed.size = 3 ∧ b.closed.toList <+: later.closed.toList ∧
      ∃ grown, later.closed[1]? = some grown ∧ grown.first = 9 ∧ w.len ≤ grown.len ∧
        grown.bits = w.bits := by
  intro width w b later
  have hb : b.Reachable width := ⟨_, rfl⟩
  have hvalue : ((empty width).offers [.many [1, 9, 13, 14]]).value =
      ⟨width, #[.opening 1 width], some ⟨w, 14⟩⟩ := by cbv
  have hlater : (((empty width).offers [.many [1, 9, 13, 14]]).value.offers
      [.one 2, .many [15, 20, 40, 40]]).value.closed.size = 3 := by cbv
  have hsize : b.closed.size = 1 := congrArg (·.closed.size) hvalue
  have hsize' : later.closed.size = 3 := hlater
  have hactive : b.active = some w := congrArg Builder.active hvalue
  obtain ⟨hclosed, -, hopen⟩ := evolves_of_reachable hb [.one 2, .many [15, 20, 40, 40]]
  obtain ⟨grown, ⟨hsame, -⟩ | ⟨-, hplace⟩, hfirst, -, hlen, -, hbits⟩ := hopen w hactive
  · have hfalse : later.closed.size = b.closed.size := hsame
    omega
  · rw [hsize] at hplace
    exact ⟨hb, hsize, hactive, by decide, hsize', hclosed, grown, hplace, hfirst, hlen,
      hbits (by decide)⟩

end Builder

end LossWindows
