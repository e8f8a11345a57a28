import LossWindows.Proofs.Builder.Record

/-!
# Moving drops along

Where a list of drops lies among the sequence numbers makes no difference to its windows.
When all drops move along by the same distance, so do the windows, and nothing else about
them changes.  This holds up to both ends: for drops from zero on, and for drops that come
to lie at the largest sequence number, where a bitmap may stick out.

All that is asked is that every drop has somewhere to go.  Then so has every position that
decides about a window: its anchor, the drops of its bitmap and the end of its extension are
drops themselves.

## Main definitions

* `shift` — the sequence number some way further on.
* `Window.shift` — the same window there.
-/

namespace LossWindows

/-- The sequence number `distance` positions further on, when there is one. -/
def shift (distance : Nat) (seq : UInt32) : UInt32 :=
  UInt32.ofNat (seq.toNat + distance)

variable {distance : Nat}

theorem toNat_shift {seq : UInt32} (h : seq.toNat + distance < UInt32.size) :
    (shift distance seq).toNat = seq.toNat + distance :=
  UInt32.toNat_ofNat_of_lt' h

/-- What lies at least `distance` positions behind zero has been moved there. -/
theorem exists_shift_eq {seq : UInt32} (h : distance ≤ seq.toNat) :
    ∃ q : UInt32, q.toNat + distance = seq.toNat ∧ shift distance q = seq := by
  have hlt := seq.toNat_lt_size
  have hnat : (UInt32.ofNat (seq.toNat - distance)).toNat = seq.toNat - distance :=
    UInt32.toNat_ofNat_of_lt' (by omega)
  refine ⟨UInt32.ofNat (seq.toNat - distance), by omega, ?_⟩
  rw [← UInt32.toNat_inj, toNat_shift (by omega), hnat]
  omega

theorem Ascending.map_shift {seqs : List UInt32} (h : Ascending seqs)
    (hroom : ∀ q ∈ seqs, q.toNat + distance < UInt32.size) :
    Ascending (seqs.map (shift distance)) := by
  rw [Ascending, List.pairwise_map]
  refine List.Pairwise.imp_of_mem ?_ h
  intro a b ha hb hab
  rw [UInt32.lt_iff_toNat_lt] at hab ⊢
  rw [toNat_shift (hroom a ha), toNat_shift (hroom b hb)]
  omega

namespace Window

variable {width : Width} {w next : Window} {q : UInt32}

/-- The same window `distance` positions further on. -/
def shift (distance : Nat) (w : Window) : Window :=
  { w with first := LossWindows.shift distance w.first }

@[simp] theorem bits_shift : (w.shift distance).bits = w.bits := rfl

@[simp] theorem width_shift : (w.shift distance).width = w.width := rfl

@[simp] theorem len_shift : (w.shift distance).len = w.len := rfl

theorem toNat_first_shift (h : w.first.toNat + distance < UInt32.size) :
    (w.shift distance).first.toNat = w.first.toNat + distance :=
  toNat_shift h

/-- A moved window says of a moved position what the window says of the position. -/
theorem isDropped_shift_iff (hw : w.first.toNat + distance < UInt32.size)
    (hq : q.toNat + distance < UInt32.size) :
    (w.shift distance).isDropped (LossWindows.shift distance q) = true ↔
      w.isDropped q = true := by
  have hfirst : (w.shift distance).first ≤ LossWindows.shift distance q ↔ w.first ≤ q := by
    rw [UInt32.le_iff_toNat_le, UInt32.le_iff_toNat_le, toNat_first_shift hw, toNat_shift hq]
    omega
  have hoff : (w.shift distance).offset (LossWindows.shift distance q) = w.offset q := by
    rw [offset, offset, toNat_first_shift hw, toNat_shift hq]
    omega
  rw [isDropped_iff_offset, isDropped_iff_offset, hfirst, hoff, bits_shift, width_shift,
    len_shift]

/-- **The drops of a moved window are the moved drops.** -/
theorem drops_shift (hw : w.first.toNat + distance < UInt32.size)
    (hroom : ∀ q ∈ w.drops, q.toNat + distance < UInt32.size) :
    (w.shift distance).drops = w.drops.map (LossWindows.shift distance) := by
  apply Ascending.ext (ascending_drops _) ((ascending_drops w).map_shift hroom)
  intro seq
  rw [mem_drops_iff, List.mem_map]
  constructor
  · intro hdrop
    -- what lies in the moved window has been moved itself
    have hfirst := (covers_iff.1 (covers_of_isDropped hdrop)).1
    rw [toNat_first_shift hw] at hfirst
    have hle : distance ≤ seq.toNat := by omega
    obtain ⟨q, hnat, rfl⟩ := exists_shift_eq hle
    have hq : q.toNat + distance < UInt32.size := hnat ▸ UInt32.toNat_lt_size _
    exact ⟨q, mem_drops_iff.2 ((isDropped_shift_iff hw hq).1 hdrop), rfl⟩
  · rintro ⟨q, hq, rfl⟩
    exact (isDropped_shift_iff hw (hroom q hq)).2 (mem_drops_iff.1 hq)

/-- What decides whether a window is canonical are its drops, so a canonical window stays so
when there is room for these. -/
theorem Canonical.shift (h : w.Canonical width)
    (hroom : ∀ q ∈ w.drops, q.toNat + distance < UInt32.size) :
    (w.shift distance).Canonical width := by
  have hw := hroom w.first (mem_drops_iff.2 h.isDropped_first)
  have hplace : ∀ i, (w.bits[i]? = some false ∨ w.width ≤ i ∧ i < w.len) →
      w.first.toNat + i + distance < UInt32.size := by
    intro i hi
    obtain ⟨hdrop, hnat⟩ := h.isDropped_position hi
    rw [← hnat]
    exact hroom _ (mem_drops_iff.2 hdrop)
  refine ⟨h.width_eq, h.opens, ?_, ?_⟩
  · intro i hi
    have hmoved := hplace i (Or.inl hi)
    rw [toNat_first_shift hw]
    omega
  · intro hext
    have hbehind : w.width ≤ w.len - 1 ∧ w.len - 1 < w.len := by
      have hlen : 0 < w.len - w.width := by rwa [len, Nat.add_sub_cancel_left]
      omega
    have hmoved := hplace _ (Or.inr hbehind)
    rw [last, toNat_first_shift hw, len_shift]
    omega

end Window

namespace Canonical

variable {width : Width} {w : Window} {windows : List Window} (h : Canonical width windows)
  (hroom : ∀ q ∈ dropsOf windows, q.toNat + distance < UInt32.size)

include h hroom

theorem first_add_lt (hw : w ∈ windows) : w.first.toNat + distance < UInt32.size :=
  hroom w.first (h.first_mem_dropsOf hw)

/-- **A canonical list that moves along stays canonical.** -/
theorem map_shift : Canonical width (windows.map (·.shift distance)) := by
  refine canonical_iff.2 ⟨?_, ?_⟩
  · intro moved hmoved
    obtain ⟨w, hw, rfl⟩ := List.mem_map.1 hmoved
    exact (h.each w hw).shift fun q hq => hroom q (List.mem_flatMap_of_mem hw hq)
  · rw [List.pairwise_map]
    refine h.pairwise.imp_of_mem ?_
    intro w next hw hnext hbefore
    rw [Window.Before] at hbefore ⊢
    rw [Window.toNat_first_shift (h.first_add_lt hroom hw),
      Window.toNat_first_shift (h.first_add_lt hroom hnext), Window.len_shift]
    omega

theorem dropsOf_map_shift :
    dropsOf (windows.map (·.shift distance)) = (dropsOf windows).map (shift distance) := by
  rw [dropsOf, dropsOf, List.flatMap_map, List.map_flatMap]
  refine List.flatMap_congr ?_
  intro w hw
  exact Window.drops_shift (h.first_add_lt hroom hw) fun q hq =>
    hroom q (List.mem_flatMap_of_mem hw hq)

end Canonical

/-- **When drops move along, their windows move with them**: each starts that much further
on, with the same length and the same bits. -/
theorem windowsOf_map_shift (width : Width) {seqs : List UInt32} (h : Ascending seqs)
    {distance : Nat} (hroom : ∀ q ∈ seqs, q.toNat + distance ≤ 4294967295) :
    ∃ windows, (windowsOf width.positions seqs).value = .ok windows ∧
      (windowsOf width.positions (seqs.map (shift distance))).value =
        .ok (windows.map (·.shift distance)) ∧
      (∀ q ∈ seqs, (shift distance q).toNat = q.toNat + distance) ∧
      ∀ w ∈ windows, (w.shift distance).first.toNat = w.first.toNat + distance ∧
        (w.shift distance).len = w.len ∧ (w.shift distance).bits = w.bits := by
  have hroom' : ∀ q ∈ seqs, q.toNat + distance < UInt32.size :=
    fun q hq => Nat.lt_succ_of_le (hroom q hq)
  obtain ⟨windows, hvalue, hcanonical, rfl⟩ := exists_windowsOf width h
  refine ⟨windows, hvalue, ?_, fun q hq => toNat_shift (hroom' q hq), fun w hw => ?_⟩
  · exact value_windowsOf_eq_ok_iff.2
      ⟨hcanonical.map_shift hroom', hcanonical.dropsOf_map_shift hroom'⟩
  · exact ⟨Window.toNat_first_shift (hcanonical.first_add_lt hroom' hw), rfl, rfl⟩

/-- From zero, with an anchor before all sequence numbers, to the largest one, with a bitmap
that sticks out. -/
theorem windowsOf_map_shift_to_the_end :
    let windows : List Window :=
      [⟨0, [false, true, true, true], 2⟩, ⟨9, [false, false, true, true], 0⟩]
    Ascending [0, 4, 5, 9, 10] ∧
      (∀ q ∈ [0, 4, 5, 9, (10 : UInt32)], q.toNat + 4294967285 ≤ 4294967295) ∧
      (windowsOf 4 [0, 4, 5, 9, 10]).value = .ok windows ∧
      (windowsOf 4 [4294967285, 4294967289, 4294967290, 4294967294, 4294967295]).value =
        .ok [⟨4294967285, [false, true, true, true], 2⟩,
          ⟨4294967294, [false, false, true, true], 0⟩] := by
  intro windows
  let width : Width := ⟨4, by decide, by decide⟩
  have hasc : Ascending [0, 4, 5, 9, 10] := by decide
  have hroom : ∀ q ∈ [0, 4, 5, 9, (10 : UInt32)], q.toNat + 4294967285 ≤ 4294967295 := by
    simp
  have hvalue : (windowsOf width.positions [0, 4, 5, 9, 10]).value = .ok windows :=
    value_windowsOf_eq_ok_iff.2 (by decide)
  obtain ⟨others, hothers, hmoved, -⟩ := windowsOf_map_shift width hasc hroom
  obtain rfl := Except.ok.inj (hvalue.symm.trans hothers)
  exact ⟨hasc, hroom, hvalue, hmoved⟩

end LossWindows
