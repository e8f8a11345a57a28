import LossWindows.Proofs.Window.Growth
import Mathlib.Data.List.Pairwise

/-!
# Canonical layouts

In a canonical list every window ends before the next one starts, and leaves a position
between them.  So the windows tell their drops in ascending order, a drop is covered by
one window only, and the position directly behind a window is never a drop.

The last fact is what makes a canonical list the only one for its drops: the first drop
anchors the first window, its bitmap repeats the drops up to its width, and its
extension has to go on until the first position that is not dropped.

## Main definitions

* `Window.Before` — one window ends before another starts, with a position in between.
-/

namespace LossWindows

namespace Window

/-- The window `w` leaves a position between its end and the start of `next`. -/
def Before (w next : Window) : Prop :=
  w.first.toNat + w.len < next.first.toNat

instance (w next : Window) : Decidable (w.Before next) :=
  inferInstanceAs (Decidable (_ < _))

instance : Trans Before Before Before where
  trans := by
    intro a b c hab hbc
    rw [Before] at hab hbc ⊢
    omega

theorem Before.lt_of_covers {w next : Window} {seq q : UInt32} (h : w.Before next)
    (hw : w.covers seq = true) (hq : next.first ≤ q) : seq < q := by
  rw [covers_iff] at hw
  rw [UInt32.le_iff_toNat_le] at hq
  rw [UInt32.lt_iff_toNat_lt]
  rw [Before] at h
  omega

theorem Before.not_covers {w next : Window} {q : UInt32} (h : w.Before next)
    (hw : w.covers q = true) : ¬ next.covers q = true := by
  intro hnext
  exact UInt32.lt_irrefl q (h.lt_of_covers hw (first_le_of_covers hnext))

/-- The extension of a canonical window lies within the sequence numbers. -/
theorem Canonical.lt_of_width_le {width : Width} {w : Window} (h : w.Canonical width)
    {i : Nat} (hi : w.width ≤ i) (hl : i < w.len) : w.first.toNat + i < UInt32.size := by
  have hlast := h.last_lt (by rw [len] at hl; omega)
  rw [last] at hlast
  omega

/-- What a canonical window marks as dropped is a sequence number, be it by a clear bit or
by its extension. -/
theorem Canonical.isDropped_position {width : Width} {w : Window} (h : w.Canonical width)
    {i : Nat} (hi : w.bits[i]? = some false ∨ w.width ≤ i ∧ i < w.len) :
    w.isDropped (w.position i) = true ∧ (w.position i).toNat = w.first.toNat + i := by
  have hrange : w.first.toNat + i < UInt32.size := by
    rcases hi with hbit | ⟨hwidth, hlen⟩
    · exact h.inRange i hbit
    · exact h.lt_of_width_le hwidth hlen
  exact ⟨(isDropped_position_iff hrange).2 hi, toNat_position hrange⟩

theorem Canonical.len_pos {width : Width} {w : Window} (h : w.Canonical width) : 0 < w.len := by
  have hpos := width.pos
  have hlen := w.width_le_len
  rw [h.width_eq] at hlen
  omega

theorem Canonical.isDropped_first {width : Width} {w : Window} (h : w.Canonical width) :
    w.isDropped w.first = true :=
  Window.isDropped_first h.opens

instance (width : Width) (w : Window) : Decidable (w.Canonical width) :=
  decidable_of_iff (w.width = width.positions ∧ w.bits.head? = some false ∧
      (∀ i < w.bits.length, w.bits[i]? = some false → w.first.toNat + i < UInt32.size) ∧
      (0 < w.extension → w.last < UInt32.size))
    ⟨fun ⟨hwidth, hopen, hrange, hlast⟩ => ⟨hwidth, hopen,
        fun i hi => hrange i (List.getElem?_eq_some_iff.1 hi).1 hi, hlast⟩,
      fun h => ⟨h.width_eq, h.opens, fun i _ hi => h.inRange i hi, h.last_lt⟩⟩

end Window

/-- In a canonical list any two windows are apart, not only neighbours. -/
theorem canonical_iff {width : Width} {windows : List Window} :
    Canonical width windows ↔
      (∀ w ∈ windows, w.Canonical width) ∧ windows.Pairwise Window.Before := by
  rw [← List.isChain_iff_pairwise, List.isChain_iff_getElem]
  constructor
  · intro h
    refine ⟨h.each, ?_⟩
    intro i hi
    apply h.apart i
    · exact List.getElem?_eq_getElem (Nat.lt_of_succ_lt hi)
    · exact List.getElem?_eq_getElem hi
  · rintro ⟨heach, hapart⟩
    refine ⟨heach, ?_⟩
    intro i w next hw hnext
    obtain ⟨hi, rfl⟩ := List.getElem?_eq_some_iff.1 hnext
    obtain ⟨-, rfl⟩ := List.getElem?_eq_some_iff.1 hw
    exact hapart i hi

instance (width : Width) (windows : List Window) : Decidable (Canonical width windows) :=
  decidable_of_iff _ canonical_iff.symm

namespace Canonical

variable {width : Width} {w other : Window} {windows others rest : List Window} {q : UInt32}

theorem pairwise (h : Canonical width windows) : windows.Pairwise Window.Before :=
  (canonical_iff.1 h).2

theorem nil : Canonical width [] :=
  canonical_iff.2 ⟨by simp, .nil⟩

theorem head (h : Canonical width (w :: rest)) : w.Canonical width :=
  h.each w (by simp)

theorem tail (h : Canonical width (w :: rest)) : Canonical width rest :=
  canonical_iff.2 ⟨fun v hv => h.each v (by simp [hv]), h.pairwise.tail⟩

theorem before (h : Canonical width (w :: rest)) : ∀ v ∈ rest, w.Before v :=
  (List.pairwise_cons.1 h.pairwise).1

theorem singleton_iff : Canonical width [w] ↔ w.Canonical width := by
  simp [canonical_iff]

/-- Two lists make up a canonical one when both are canonical and no window of the second
meets one of the first. -/
theorem append_iff : Canonical width (windows ++ others) ↔
    Canonical width windows ∧ Canonical width others ∧
      ∀ v ∈ windows, ∀ w ∈ others, v.Before w := by
  simp only [canonical_iff, List.pairwise_append, List.mem_append, or_imp, forall_and]
  tauto

/-- A list of windows is extended at its end by a canonical window that is apart from
all others. -/
theorem append_singleton_iff : Canonical width (windows ++ [w]) ↔
    Canonical width windows ∧ w.Canonical width ∧ ∀ v ∈ windows, v.Before w := by
  simp only [append_iff, singleton_iff, List.mem_singleton, forall_eq]

/-! ## The drops of a canonical list -/

/-- **Windows of a canonical list tell their drops in ascending order.** -/
theorem ascending_dropsOf (h : Canonical width windows) : Ascending (dropsOf windows) := by
  rw [Ascending, dropsOf, List.pairwise_flatMap]
  constructor
  · intro w _
    exact Window.ascending_drops w
  · apply h.pairwise.imp
    intro w next hbefore seq hseq q hq
    rw [Window.mem_drops_iff] at hseq hq
    exact hbefore.lt_of_covers (Window.covers_of_isDropped hseq)
      (Window.first_le_of_covers (Window.covers_of_isDropped hq))

/-- **Each drop is covered by one window.** -/
theorem countP_covers (h : Canonical width windows) (hq : q ∈ dropsOf windows) :
    windows.countP (·.covers q) = 1 := by
  induction windows with
  | nil => simp at hq
  | cons w rest ih =>
    rw [dropsOf_cons, List.mem_append, Window.mem_drops_iff] at hq
    by_cases hw : w.covers q = true
    · -- the first window covers it, and then no later one does
      have hrest : rest.countP (·.covers q) = 0 :=
        List.countP_eq_zero.2 fun v hv => (h.before v hv).not_covers hw
      rw [List.countP_cons, hrest, if_pos hw]
    · rw [List.countP_cons, if_neg hw, Nat.add_zero]
      rcases hq with hdrop | hrest
      · exact absurd (Window.covers_of_isDropped hdrop) hw
      · exact ih h.tail hrest

/-- Two windows of a canonical list are the same, or one lies before the other. -/
theorem eq_or_before (h : Canonical width windows) (hw : w ∈ windows)
    (hother : other ∈ windows) : w = other ∨ w.Before other ∨ other.Before w := by
  induction windows with
  | nil => simp at hw
  | cons v rest ih =>
    rcases List.mem_cons.1 hw with rfl | hwrest
    · rcases List.mem_cons.1 hother with rfl | hrest
      · exact Or.inl rfl
      · exact Or.inr (Or.inl (h.before other hrest))
    · rcases List.mem_cons.1 hother with rfl | hrest
      · exact Or.inr (Or.inr (h.before w hwrest))
      · exact ih h.tail hwrest hrest

/-- **Up to the position directly behind it, a window alone decides what is dropped.** -/
theorem mem_dropsOf_iff_isDropped (h : Canonical width windows) (hw : w ∈ windows)
    (hf : w.first ≤ q) (hl : q.toNat ≤ w.first.toNat + w.len) :
    q ∈ dropsOf windows ↔ w.isDropped q = true := by
  rw [mem_dropsOf_iff]
  constructor
  · rintro ⟨other, hother, hdrop⟩
    have hcovers := Window.covers_of_isDropped hdrop
    rcases h.eq_or_before hw hother with rfl | hbefore | hbefore
    · exact hdrop
    · -- a later window starts past `q`
      have hfirst := Window.covers_iff.1 hcovers
      rw [Window.Before] at hbefore
      omega
    · -- an earlier window has ended
      exact absurd (hbefore.lt_of_covers hcovers hf) (UInt32.lt_irrefl q)
  · intro hdrop
    exact ⟨w, hw, hdrop⟩

/-- The position directly behind a window is not dropped. -/
theorem not_mem_dropsOf_of_eq_end (h : Canonical width windows) (hw : w ∈ windows)
    (hq : q.toNat = w.first.toNat + w.len) : q ∉ dropsOf windows := by
  have hf : w.first ≤ q := by
    rw [UInt32.le_iff_toNat_le]
    omega
  rw [h.mem_dropsOf_iff_isDropped hw hf (Nat.le_of_eq hq)]
  intro hdrop
  have := Window.covers_iff.1 (Window.covers_of_isDropped hdrop)
  omega

theorem first_mem_dropsOf (h : Canonical width windows) (hw : w ∈ windows) :
    w.first ∈ dropsOf windows :=
  mem_dropsOf_iff.2 ⟨w, hw, (h.each w hw).isDropped_first⟩

theorem first_le_of_mem_dropsOf (h : Canonical width (w :: rest))
    (hq : q ∈ dropsOf (w :: rest)) : w.first ≤ q := by
  obtain ⟨other, hother, hdrop⟩ := mem_dropsOf_iff.1 hq
  have hfirst := Window.first_le_of_covers (Window.covers_of_isDropped hdrop)
  rcases List.mem_cons.1 hother with rfl | hrest
  · exact hfirst
  · have hbefore := h.before other hrest
    rw [UInt32.le_iff_toNat_le] at hfirst ⊢
    rw [Window.Before] at hbefore
    omega

theorem head?_dropsOf (h : Canonical width (w :: rest)) :
    (dropsOf (w :: rest)).head? = some w.first := by
  have hasc := h.ascending_dropsOf
  have hmem : w.first ∈ dropsOf (w :: rest) := h.first_mem_dropsOf (by simp)
  cases hdrops : dropsOf (w :: rest) with
  | nil => simp [hdrops] at hmem
  | cons seq more =>
    rw [hdrops] at hasc hmem
    have hle : w.first ≤ seq := h.first_le_of_mem_dropsOf (by simp [hdrops])
    rcases List.mem_cons.1 hmem with heq | hmore
    · rw [List.head?_cons, heq]
    · exact absurd ((List.pairwise_cons.1 hasc).1 w.first hmore) (UInt32.not_lt.2 hle)

theorem eq_nil_of_dropsOf_eq_nil (h : Canonical width windows)
    (hnil : dropsOf windows = []) : windows = [] := by
  cases windows with
  | nil => rfl
  | cons w rest =>
    have hmem := h.first_mem_dropsOf (w := w) (by simp)
    rw [hnil] at hmem
    simp at hmem

/-! ## One more drop -/

section Step

variable {grown : Window} {seq : UInt32} (h : Canonical width (windows ++ [w]))
  (hlast : ∀ q ∈ dropsOf (windows ++ [w]), q < seq)

include h hlast

theorem first_le_of_forall_lt : w.first ≤ seq :=
  UInt32.le_of_lt (hlast w.first (h.first_mem_dropsOf (by simp)))

omit h in
theorem forall_drops_lt : ∀ q ∈ w.drops, q < seq := by
  intro q hq
  exact hlast q (by simp [hq])

/-- A list stays canonical when its last window takes in a drop, and tells it last. -/
theorem append_grown (ha : w.absorb? seq = some grown) :
    Canonical width (windows ++ [grown]) ∧
      dropsOf (windows ++ [grown]) = dropsOf (windows ++ [w]) ++ [seq] := by
  have hf := first_le_of_forall_lt h hlast
  constructor
  · obtain ⟨hwindows, hw, hbefore⟩ := append_singleton_iff.1 h
    refine append_singleton_iff.2 ⟨hwindows, hw.absorb? hf ha, ?_⟩
    intro v hv
    have hfirst := (Window.first_of_absorb? ha).1
    rw [Window.Before, hfirst]
    exact hbefore v hv
  · have hdrops := Window.drops_of_absorb? ha hf (forall_drops_lt hlast)
    simp [hdrops]

/-- A list stays canonical when a drop out of reach of its last window opens another
one, and tells it last. -/
theorem append_opening (ha : w.absorb? seq = none) :
    Canonical width (windows ++ [w] ++ [.opening seq width]) ∧
      dropsOf (windows ++ [w] ++ [.opening seq width]) = dropsOf (windows ++ [w]) ++ [seq] := by
  have hf := first_le_of_forall_lt h hlast
  have hw : w.Before (.opening seq width) :=
    Window.lt_of_absorb?_eq_none ha hf (forall_drops_lt hlast)
  constructor
  · refine append_singleton_iff.2 ⟨h, Window.canonical_opening seq width, ?_⟩
    intro v hv
    rcases List.mem_append.1 hv with hv | hv
    · exact Trans.trans ((append_singleton_iff.1 h).2.2 v hv) hw
    · exact List.mem_singleton.1 hv ▸ hw
  · simp

end Step

/-! ## Only one canonical list tells given drops -/

section Unique

variable (h : Canonical width (w :: rest)) (h' : Canonical width (other :: others))
  (heq : dropsOf (w :: rest) = dropsOf (other :: others))

include h h' heq

theorem first_eq : w.first = other.first := by
  have hhead := h.head?_dropsOf
  rw [heq, h'.head?_dropsOf] at hhead
  exact (Option.some.inj hhead).symm

theorem position_eq (i : Nat) : w.position i = other.position i := by
  rw [Window.position, Window.position, first_eq h h' heq]

theorem isDropped_of_isDropped (hdrop : w.isDropped q = true)
    (hl : q.toNat ≤ w.first.toNat + other.len) : other.isDropped q = true := by
  have hfirst := first_eq h h' heq
  have hf : other.first ≤ q :=
    hfirst ▸ Window.first_le_of_covers (Window.covers_of_isDropped hdrop)
  rw [← h'.mem_dropsOf_iff_isDropped (by simp) hf (hfirst ▸ hl), ← heq]
  exact mem_dropsOf_iff.2 ⟨w, by simp, hdrop⟩

theorem getElem?_bits_of_clear {i : Nat} (hi : w.bits[i]? = some false) :
    other.bits[i]? = some false := by
  have hlt : i < other.width := by
    obtain ⟨hi, -⟩ := List.getElem?_eq_some_iff.1 hi
    have hwidth : w.width = other.width := by rw [h.head.width_eq, h'.head.width_eq]
    exact hwidth ▸ hi
  have hrange := h.head.inRange i hi
  have hdrop := (Window.isDropped_position_iff hrange).2 (Or.inl hi)
  have hreach : (w.position i).toNat ≤ w.first.toNat + other.len := by
    have hlen := other.width_le_len
    rw [Window.toNat_position hrange]
    omega
  have hdrop' := isDropped_of_isDropped h h' heq hdrop hreach
  rw [position_eq h h' heq] at hdrop'
  rw [first_eq h h' heq] at hrange
  rcases (Window.isDropped_position_iff hrange).1 hdrop' with hbit | ⟨hwidth, -⟩
  · exact hbit
  · omega

/-- The extension of the one window does not end before that of the other: behind its
end there would be a drop that it does not tell. -/
theorem len_le : w.len ≤ other.len := by
  by_contra hlt
  have hwidth : w.width ≤ other.len := by
    rw [h.head.width_eq, ← h'.head.width_eq]
    exact other.width_le_len
  obtain ⟨hdrop, hnat⟩ :=
    h.head.isDropped_position (Or.inr ⟨hwidth, Nat.lt_of_not_le hlt⟩)
  have hmem : w.position other.len ∈ dropsOf (other :: others) :=
    heq ▸ mem_dropsOf_iff.2 ⟨w, by simp, hdrop⟩
  refine h'.not_mem_dropsOf_of_eq_end (w := other) (by simp) ?_ hmem
  rw [hnat, first_eq h h' heq]

end Unique

/-- Canonical lists that tell the same drops begin with the same window. -/
theorem head_eq (h : Canonical width (w :: rest)) (h' : Canonical width (other :: others))
    (heq : dropsOf (w :: rest) = dropsOf (other :: others)) : w = other := by
  have hwidth : w.width = other.width := by rw [h.head.width_eq, h'.head.width_eq]
  have hlen : w.len = other.len :=
    Nat.le_antisymm (len_le h h' heq) (len_le h' h heq.symm)
  have hext : w.extension = other.extension := by
    rw [Window.len, Window.len] at hlen
    omega
  have hbits : w.bits = other.bits := by
    apply List.ext_getElem hwidth
    intro i hi hi'
    have hclear : w.bits[i]? = some false ↔ other.bits[i]? = some false :=
      ⟨getElem?_bits_of_clear h h' heq, getElem?_bits_of_clear h' h heq.symm⟩
    rw [List.getElem?_eq_getElem hi, List.getElem?_eq_getElem hi', Option.some_inj,
      Option.some_inj] at hclear
    cases hb : w.bits[i] <;> cases hb' : other.bits[i] <;> simp_all
  have hfirst := first_eq h h' heq
  cases w
  cases other
  simp_all

/-- **A canonical list is determined by the drops that it tells.** -/
theorem eq_of_dropsOf_eq (h : Canonical width windows) (h' : Canonical width others)
    (heq : dropsOf windows = dropsOf others) : windows = others := by
  induction windows generalizing others with
  | nil => exact (h'.eq_nil_of_dropsOf_eq_nil heq.symm).symm
  | cons w rest ih =>
    cases others with
    | nil => exact h.eq_nil_of_dropsOf_eq_nil heq
    | cons other others =>
      obtain rfl := head_eq h h' heq
      rw [dropsOf_cons, dropsOf_cons, List.append_cancel_left_eq] at heq
      rw [ih h.tail h'.tail heq]

end Canonical

end LossWindows
