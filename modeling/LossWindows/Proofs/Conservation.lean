import LossWindows.Proofs.Builder.Record
import LossWindows.Proofs.Realization.Window
import Mathlib.Data.Set.Card

/-!
# Losses are conserved

A window claims as many positions lost as its bitmap has clear bits and its extension has
positions.  What it records as dropped is another matter in general: a claimed position need
not be a sequence number, and then no sequence number is dropped for it.

A canonical window claims nothing out there.  Even where its bitmap sticks out past the
largest sequence number, the bits out there are set, and an extension never gets that far.  So
for the windows that a builder makes the two numbers agree, and the windows of a list of drops
claim as many losses as there are drops.
-/

namespace LossWindows

theorem Ascending.nodup {seqs : List UInt32} (h : Ascending seqs) : seqs.Nodup :=
  h.imp UInt32.ne_of_lt

/-- The clear bits of a bitmap, counted by their positions. -/
theorem count_false_eq_countP_range (bits : List Bool) :
    bits.count false = (List.range bits.length).countP fun i => !bits.getD i false := by
  induction bits with
  | nil => rfl
  | cons bit bits ih =>
    rw [List.length_cons, List.range_succ_eq_map, List.countP_cons, List.countP_map,
      List.count_cons, ih]
    cases bit <;> rfl

/-- Numbers that do not count may be left out at the end of a range. -/
theorem countP_range_of_forall {p : Nat → Bool} {n m : Nat} (hle : n ≤ m)
    (h : ∀ i, n ≤ i → i < m → p i = false) :
    (List.range m).countP p = (List.range n).countP p := by
  obtain ⟨k, rfl⟩ := Nat.exists_eq_add_of_le hle
  have hzero : (List.range k).countP (p ∘ (n + ·)) = 0 := by
    rw [List.countP_eq_zero]
    intro i hi
    rw [List.mem_range] at hi
    rw [Function.comp_apply, h (n + i) (Nat.le_add_right _ _) (by omega)]
    exact Bool.false_ne_true
  rw [List.range_add, List.countP_append, List.countP_map, hzero, Nat.add_zero]

namespace Window

variable {width : Width} {w : Window} {i : Nat}

/-! ## Claimed positions -/

theorem getD_bits_eq_false_iff :
    w.bits.getD i false = false ↔ w.bits[i]? = some false ∨ w.width ≤ i := by
  rw [List.getD_eq_getElem?_getD]
  by_cases hi : i < w.bits.length
  · have hwidth : ¬ w.width ≤ i := Nat.not_le.2 hi
    simp [List.getElem?_eq_getElem hi, hwidth]
  · have hwidth : w.width ≤ i := Nat.le_of_not_lt hi
    simp [List.getElem?_eq_none (Nat.le_of_not_lt hi), hwidth]

/-- **A window claims the clear positions lost**, those without a bit among them. -/
theorem lost_eq_countP (w : Window) :
    w.lost = (List.range w.len).countP fun i => !w.bits.getD i false := by
  have hext : (List.range w.extension).countP ((fun i => !w.bits.getD i false) ∘ (w.width + ·)) =
      w.extension := by
    rw [List.countP_eq_length.2, List.length_range]
    intro i _
    have hclear : w.bits.getD (w.width + i) false = false :=
      getD_bits_eq_false_iff.2 (Or.inr (Nat.le_add_right _ _))
    simp only [Function.comp_apply, hclear, Bool.not_false]
  rw [lost, len, List.range_add, List.countP_append, List.countP_map, hext,
    count_false_eq_countP_range]
  rfl

/-- Of the clear positions those are dropped that are sequence numbers. -/
theorem length_drops_eq_countP (w : Window) :
    w.drops.length = (List.range (min w.len (UInt32.size - w.first.toNat))).countP
      fun i => !w.bits.getD i false := by
  rw [drops, covered, ← List.countP_eq_length_filter, List.range'_eq_map_range, List.map_map,
    List.countP_map]
  apply List.countP_congr
  intro i hi
  rw [List.mem_range] at hi
  have hrange : w.first.toNat + i < UInt32.size := by omega
  have hlen : i < w.len := by omega
  show w.isDropped (w.position i) = true ↔ _
  rw [isDropped_position_iff hrange, and_iff_left hlen, ← getD_bits_eq_false_iff,
    Bool.not_eq_true']

theorem Canonical.getD_bits_of_size_le (h : w.Canonical width) (hi : i < w.len)
    (hr : UInt32.size ≤ w.first.toNat + i) : w.bits.getD i false = true := by
  by_contra hclear
  rw [Bool.not_eq_true, getD_bits_eq_false_iff] at hclear
  obtain ⟨-, hnat⟩ := h.isDropped_position (hclear.imp_right (⟨·, hi⟩))
  have hlt := (w.position i).toNat_lt_size
  omega

/-- **A canonical window drops as many sequence numbers as it claims lost.** -/
theorem Canonical.length_drops (h : w.Canonical width) : w.drops.length = w.lost := by
  rw [length_drops_eq_countP, lost_eq_countP]
  refine (countP_range_of_forall (Nat.min_le_left _ _) ?_).symm
  intro i hi hlen
  have hclear := h.getD_bits_of_size_le hlen (by omega)
  rw [hclear, Bool.not_true]

theorem ncard_isDropped (w : Window) : {q | w.isDropped q = true}.ncard = w.drops.length := by
  have hset : {q | w.isDropped q = true} = (w.drops.toFinset : Set UInt32) := by
    ext q
    simp
  rw [hset, Set.ncard_coe_finset, List.toFinset_card_of_nodup w.ascending_drops.nodup]

/-- A window is longer than its bitmap only within the sequence numbers. -/
theorem Canonical.len_le (h : w.Canonical width) :
    w.len ≤ max width.positions (UInt32.size - w.first.toNat) := by
  have hwidth := h.width_eq
  by_cases hext : 0 < w.extension
  · have hlast := h.last_lt hext
    rw [last] at hlast
    omega
  · rw [len]
    omega

end Window

/-! ## Conservation -/

theorem Canonical.sum_lost {width : Width} {windows : List Window}
    (h : Canonical width windows) : (windows.map Window.lost).sum = (dropsOf windows).length := by
  rw [dropsOf, List.length_flatMap]
  congr 1
  apply List.map_congr_left
  intro w hw
  exact (h.each w hw).length_drops.symm

/-- **Losses are neither made up nor lost.**  Whatever was offered to a builder, each of its
windows, be it closed or open, claims exactly as many positions lost as there are sequence
numbers that it records as dropped, also when the claim is added up in words; no claimed
position lies past the largest sequence number, so that a window is no longer than its bitmap
or than the sequence numbers from its start on.  The windows of ascending drops claim as many
losses, all together, as there are drops. -/
theorem lost_eq_ncard_and_sum_lost (width : Width) :
    (∀ b : Builder, b.Reachable width → ∀ w ∈ b.windows,
      w.lost = {q | w.isDropped q = true}.ncard ∧
      w.inWords.lost?.map UInt64.toNat = some {q | w.isDropped q = true}.ncard ∧
      (0 < w.extension → w.last < UInt32.size) ∧
      (∀ i, w.bits[i]? = some false → w.first.toNat + i < UInt32.size) ∧
      w.len ≤ max width.positions (UInt32.size - w.first.toNat)) ∧
    ∀ seqs, Ascending seqs →
      ∃ windows, (windowsOf width.positions seqs).value = .ok windows ∧
        (windows.map Window.lost).sum = seqs.length := by
  constructor
  · intro b hb w hw
    obtain ⟨seqs, hrec⟩ := hb.exists_records
    have hcanonical := hrec.canonical.each w hw
    have hcount : w.lost = {q | w.isDropped q = true}.ncard := by
      rw [w.ncard_isDropped, hcanonical.length_drops]
    have hword : w.lost < UInt64.size :=
      hcanonical.lt_size (Nat.le_trans w.lost_le_len (Nat.le_add_left _ _))
    refine ⟨hcount, ?_, hcanonical.last_lt, hcanonical.inRange, hcanonical.len_le⟩
    rw [hcanonical.lost?_inWords, Option.map_some, UInt64.toNat_ofNat_of_lt' hword, hcount]
  · intro seqs h
    obtain ⟨windows, hvalue, hcanonical, rfl⟩ := exists_windowsOf width h
    exact ⟨windows, hvalue, hcanonical.sum_lost⟩

/-- A closed window with an extension, and an open one of which three positions in four are
past the largest sequence number. -/
theorem lost_eq_ncard_and_sum_lost_at_the_end :
    let width : Width := ⟨4, by decide, by decide⟩
    let front : Window := ⟨5, [false, true, true, true], 2⟩
    let back : Window := ⟨4294967295, [false, true, true, true], 0⟩
    let b := ((Builder.empty width).offers [.many [5, 9, 10, 10], .one 4294967295]).value
    b.Reachable width ∧ b.closed = #[front] ∧ b.active = some back ∧
      {q | front.isDropped q = true}.ncard = 3 ∧ {q | back.isDropped q = true}.ncard = 1 ∧
      back.len ≤ max width.positions (UInt32.size - back.first.toNat) ∧
      Ascending [5, 9, 10, 4294967295] ∧
      ∃ windows, (windowsOf 4 [5, 9, 10, 4294967295]).value = .ok windows ∧
        (windows.map Window.lost).sum = 4 := by
  intro width front back b
  have hb : b.Reachable width := ⟨_, rfl⟩
  have hasc : Ascending [5, 9, 10, 4294967295] := by decide
  have hvalue : ((Builder.empty width).offers [.many [5, 9, 10, 10], .one 4294967295]).value =
      ⟨width, #[front], some ⟨back, 4294967295⟩⟩ := by cbv
  have hclosed : b.closed = #[front] := congrArg Builder.closed hvalue
  have hactive : b.active = some back := congrArg Builder.active hvalue
  have hwindows : b.windows = [front, back] := congrArg Builder.windows hvalue
  obtain ⟨hlost, hsum⟩ := lost_eq_ncard_and_sum_lost width
  obtain ⟨hfront, -⟩ := hlost b hb front (by simp [hwindows])
  obtain ⟨hback, -, -, -, hlen⟩ := hlost b hb back (by simp [hwindows])
  exact ⟨hb, hclosed, hactive, hfront.symm, hback.symm, hlen, hasc, hsum _ hasc⟩

end LossWindows
