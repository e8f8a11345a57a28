import LossWindows.Window.Drops
import Mathlib.Data.List.Sort

/-!
# How a window grows

A window takes in one more drop by clearing a bit or by reaching one position further.
Either way it records that drop besides those it recorded already, and nothing else
changes in what it says.  All that this asks of the drop is that it does not lie before
the window.

For drops that come in ascending order this becomes a statement on lists: the drops of
the grown window are those of the window before, followed by the new one.

## Main definitions

* `Window.position` — the sequence number at a place of a window.
-/

namespace LossWindows

theorem Ascending.ext {seqs others : List UInt32} (h : Ascending seqs)
    (h' : Ascending others) (hmem : ∀ q, q ∈ seqs ↔ q ∈ others) : seqs = others :=
  List.Pairwise.eq_of_mem_iff h h' hmem

/-- A larger element keeps a list ascending at its end. -/
theorem ascending_append_singleton {seqs : List UInt32} {seq : UInt32} :
    Ascending (seqs ++ [seq]) ↔ Ascending seqs ∧ ∀ q ∈ seqs, q < seq := by
  simp [Ascending, List.pairwise_append]

namespace Window

variable {w grown : Window} {seq q : UInt32}

/-! ## Positions -/

theorem first_add_offset (h : w.first ≤ seq) :
    w.first.toNat + w.offset seq = seq.toNat := by
  rw [UInt32.le_iff_toNat_le] at h
  rw [offset]
  omega

theorem offset_eq_offset_iff (hs : w.first ≤ seq) (hq : w.first ≤ q) :
    w.offset q = w.offset seq ↔ q = seq := by
  have hs' := first_add_offset hs
  have hq' := first_add_offset hq
  rw [← UInt32.toNat_inj]
  omega

/-- **What a window says of a position**: it is dropped when its bit is clear, or when it
lies between the bitmap and the end of the window. -/
theorem isDropped_iff_offset :
    w.isDropped q = true ↔ w.first ≤ q ∧ (w.bits[w.offset q]? = some false ∨
      w.width ≤ w.offset q ∧ w.offset q < w.len) := by
  rw [isDropped_iff, covers_iff, UInt32.le_iff_toNat_le, List.getD_eq_getElem?_getD]
  have hlen := w.width_le_len
  by_cases hf : w.first.toNat ≤ q.toNat
  · have ho : w.first.toNat + w.offset q = q.toNat :=
      first_add_offset (UInt32.le_iff_toNat_le.2 hf)
    by_cases hb : w.offset q < w.bits.length
    · -- within the bitmap the bit alone decides
      have hw : ¬ w.width ≤ w.offset q := Nat.not_le.2 hb
      have hl : q.toNat < w.first.toNat + w.len := by
        simp only [width] at hlen
        omega
      simp [hf, hl, hw, List.getElem?_eq_getElem hb]
    · -- behind it there is no bit, and the end of the window decides
      have hw : w.width ≤ w.offset q := Nat.le_of_not_lt hb
      have hl : q.toNat < w.first.toNat + w.len ↔ w.offset q < w.len := by omega
      simp [hf, hl, hw, List.getElem?_eq_none (Nat.le_of_not_lt hb)]
  · simp [hf]

theorem isDropped_first (h : w.bits.head? = some false) : w.isDropped w.first = true := by
  rw [List.head?_eq_getElem?] at h
  rw [isDropped_iff_offset]
  exact ⟨UInt32.le_refl _, Or.inl (by simpa [offset] using h)⟩

theorem first_le_of_covers (h : w.covers q = true) : w.first ≤ q :=
  UInt32.le_iff_toNat_le.2 (covers_iff.1 h).1

/-- The sequence number that lies `i` positions behind the start of a window, when there
is one. -/
def position (w : Window) (i : Nat) : UInt32 :=
  UInt32.ofNat (w.first.toNat + i)

theorem toNat_position {i : Nat} (hr : w.first.toNat + i < UInt32.size) :
    (w.position i).toNat = w.first.toNat + i :=
  UInt32.toNat_ofNat_of_lt' hr

/-- The bit of a position decides, and in the extension its mere presence. -/
theorem isDropped_position_iff {i : Nat} (hr : w.first.toNat + i < UInt32.size) :
    w.isDropped (w.position i) = true ↔
      w.bits[i]? = some false ∨ w.width ≤ i ∧ i < w.len := by
  have hnat := toNat_position hr
  have hoff : w.offset (w.position i) = i := by
    rw [offset, hnat]
    omega
  have hf : w.first ≤ w.position i := by
    rw [UInt32.le_iff_toNat_le, hnat]
    omega
  rw [isDropped_iff_offset, hoff, and_iff_right hf]

theorem getElem?_bits_opening {width : Width} {i : Nat} :
    (opening seq width).bits[i]? = some false ↔ i = 0 := by
  cases i with
  | zero => simp [opening]
  | succ i =>
    rw [opening, List.getElem?_cons_succ, List.getElem?_replicate]
    split <;> simp

/-! ## One more drop -/

/-- Clearing a bit adds the drop at its position. -/
theorem isDropped_clear (hf : w.first ≤ seq) (ho : w.offset seq < w.width) :
    (w.clear (w.offset seq)).isDropped q = true ↔ w.isDropped q = true ∨ q = seq := by
  have hoff : (w.clear (w.offset seq)).offset q = w.offset q := rfl
  rw [isDropped_iff_offset, isDropped_iff_offset, hoff, width_clear, len_clear]
  simp only [clear, List.getElem?_set]
  by_cases hq : w.first ≤ q
  · by_cases heq : w.offset q = w.offset seq
    · have hqs : q = seq := (offset_eq_offset_iff hf hq).1 heq
      simp only [width] at ho
      simp [hqs, hf, ho]
    · have hne : q ≠ seq := fun h => heq ((offset_eq_offset_iff hf hq).2 h)
      simp [hq, hne, Ne.symm heq]
  · have hne : q ≠ seq := fun h => hq (h ▸ hf)
    simp [hq, hne]

/-- Growing by one position adds the drop that lies directly behind the window. -/
theorem isDropped_lengthen (hf : w.first ≤ seq) (hm : w.offset seq = w.len) :
    (w.lengthen 1).isDropped q = true ↔ w.isDropped q = true ∨ q = seq := by
  have hoff : (w.lengthen 1).offset q = w.offset q := rfl
  have hbits : (w.lengthen 1).bits = w.bits := rfl
  have hfirst : (w.lengthen 1).first = w.first := rfl
  have hlen := w.width_le_len
  rw [isDropped_iff_offset, isDropped_iff_offset, hoff, hbits, hfirst, width_lengthen,
    len_lengthen]
  by_cases hq : w.first ≤ q
  · have heq : q = seq ↔ w.offset q = w.len := by rw [← hm, offset_eq_offset_iff hf hq]
    have hend : w.width ≤ w.offset q ∧ w.offset q < w.len + 1 ↔
        (w.width ≤ w.offset q ∧ w.offset q < w.len) ∨ w.offset q = w.len := by omega
    simp only [hq, true_and, hend, heq, or_assoc]
  · have hne : q ≠ seq := fun h => hq (h ▸ hf)
    simp [hq, hne]

/-- The two ways in which a window takes in a drop. -/
theorem absorb?_eq_some_iff : w.absorb? seq = some grown ↔
    w.offset seq < w.width ∧ grown = w.clear (w.offset seq) ∨
      w.offset seq = w.len ∧ grown = w.lengthen 1 := by
  have hlen := w.width_le_len
  unfold absorb?
  by_cases hw : w.offset seq < w.width
  · have hne : w.offset seq ≠ w.len := by omega
    simp [hw, hne, eq_comm]
  · by_cases hm : w.offset seq = w.len
    · rw [if_neg hw, if_pos (meets_iff.2 hm), Option.some_inj, or_iff_right (hw ·.1),
        and_iff_right hm, eq_comm]
    · have hmeets : ¬ w.meets seq = true := fun h => hm (meets_iff.1 h)
      simp [hw, hmeets, hm]

/-- **A grown window records the new drop and what it recorded before.** -/
theorem isDropped_of_absorb? (h : w.absorb? seq = some grown) (hf : w.first ≤ seq) :
    grown.isDropped q = true ↔ w.isDropped q = true ∨ q = seq := by
  rcases absorb?_eq_some_iff.1 h with ⟨ho, rfl⟩ | ⟨hm, rfl⟩
  · exact isDropped_clear hf ho
  · exact isDropped_lengthen hf hm

theorem isDropped_opening_iff {width : Width} :
    (opening seq width).isDropped q = true ↔ q = seq := by
  constructor
  · intro h
    rw [isDropped_iff_offset, width_opening, len_opening] at h
    obtain ⟨hf, hbit | hend⟩ := h
    · have hoff := first_add_offset hf
      rw [getElem?_bits_opening.1 hbit] at hoff
      exact UInt32.toNat_inj.1 hoff.symm
    · omega
  · rintro rfl
    exact isDropped_opening _ _

/-! ## The drops as a list -/

/-- **An ascending stream of drops is kept in order**: a window that takes in a drop
behind all of its own lists it last. -/
theorem drops_of_absorb? (h : w.absorb? seq = some grown) (hf : w.first ≤ seq)
    (hlast : ∀ q ∈ w.drops, q < seq) : grown.drops = w.drops ++ [seq] := by
  apply Ascending.ext (ascending_drops _)
    (ascending_append_singleton.2 ⟨ascending_drops w, hlast⟩)
  intro q
  rw [mem_drops_iff, isDropped_of_absorb? h hf, List.mem_append, mem_drops_iff,
    List.mem_singleton]

@[simp] theorem drops_opening (seq : UInt32) (width : Width) :
    (opening seq width).drops = [seq] := by
  apply Ascending.ext (ascending_drops _) (List.pairwise_singleton _ _)
  intro q
  rw [mem_drops_iff, isDropped_opening_iff, List.mem_singleton]

/-- A drop that is out of reach of a window and behind all of its own lies past the
position directly behind the window. -/
theorem lt_of_absorb?_eq_none (h : w.absorb? seq = none) (hf : w.first ≤ seq)
    (hlast : ∀ q ∈ w.drops, q < seq) : w.first.toNat + w.len < seq.toNat := by
  obtain ⟨hwidth, hne⟩ := absorb?_eq_none_iff.1 h
  have hoff := first_add_offset hf
  by_contra hle
  -- otherwise the drop would lie in the extension, which the window records already
  have hin : w.isDropped seq = true :=
    isDropped_iff_offset.2 ⟨hf, Or.inr ⟨hwidth, by omega⟩⟩
  exact absurd (hlast seq (mem_drops_iff.2 hin)) (UInt32.lt_irrefl seq)

/-! ## Canonical windows stay canonical -/

theorem canonical_opening (seq : UInt32) (width : Width) :
    (opening seq width).Canonical width where
  width_eq := width_opening seq width
  opens := rfl
  inRange := by
    intro i hi
    rw [getElem?_bits_opening.1 hi]
    exact seq.toNat_lt_size
  last_lt := by
    intro h
    simp at h

theorem Canonical.clear {width : Width} (h : w.Canonical width) (hf : w.first ≤ seq) :
    (w.clear (w.offset seq)).Canonical width where
  width_eq := by rw [width_clear, h.width_eq]
  opens := by
    have hopen := h.opens
    rw [List.head?_eq_getElem?] at hopen ⊢
    simp only [Window.clear, List.getElem?_set]
    by_cases hzero : w.offset seq = 0
    · obtain ⟨hpos, -⟩ := List.getElem?_eq_some_iff.1 hopen
      simp [hzero, hpos]
    · rwa [if_neg hzero]
  inRange := by
    intro i hi
    simp only [Window.clear, List.getElem?_set] at hi
    split at hi
    · next heq =>
      rw [← heq]
      show w.first.toNat + w.offset seq < UInt32.size
      rw [first_add_offset hf]
      exact seq.toNat_lt_size
    · exact h.inRange i hi
  last_lt := by
    intro hext
    rw [last, len_clear]
    exact h.last_lt hext

theorem Canonical.lengthen {width : Width} (h : w.Canonical width) (hf : w.first ≤ seq)
    (hm : w.offset seq = w.len) : (w.lengthen 1).Canonical width where
  width_eq := h.width_eq
  opens := h.opens
  inRange := h.inRange
  last_lt := by
    intro _
    have hoff := first_add_offset hf
    have hlt := seq.toNat_lt_size
    rw [last, len_lengthen]
    show w.first.toNat + (w.len + 1) - 1 < UInt32.size
    omega

/-- A canonical window that takes in a drop is canonical again. -/
theorem Canonical.absorb? {width : Width} (h : w.Canonical width) (hf : w.first ≤ seq)
    (ha : w.absorb? seq = some grown) : grown.Canonical width := by
  rcases absorb?_eq_some_iff.1 ha with ⟨_, rfl⟩ | ⟨hm, rfl⟩
  · exact h.clear hf
  · exact h.lengthen hf hm

end Window

end LossWindows
