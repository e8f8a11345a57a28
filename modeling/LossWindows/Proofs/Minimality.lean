import LossWindows.Proofs.Builder.Record
import Mathlib.Combinatorics.Enumerative.DoubleCounting
import Mathlib.Data.Finset.Card

/-!
# No layout has fewer windows

The windows of drops are as few as windows of their width can be.  The competitors may
overlap, come in any order and be anchored anywhere; all that binds them is that their
extensions claim no position lost that was received, and that together they cover every
drop.

The reason is an exchange argument.  Suppose that a competitor covers the anchors of two
of the windows.  Then it covers the position directly behind the first of these, which
is not dropped and so has to lie in its bitmap.  But that position is at least a bitmap
away from the anchor that the competitor reaches back to.  So every window needs a
competitor of its own.

Competitors with a narrower bitmap reach no further, so that they fare no better.  Among them
are the windows of the same drops at a smaller width, which may be anchored elsewhere from
the second one on: a wider bitmap never needs more windows.

## Main definitions

* `Covering` — windows that could stand for given drops.
-/

namespace LossWindows

/-- Windows of the given width that could stand for the drops `seqs`: their extensions claim
drops only, and they cover every drop. -/
structure Covering (width : Width) (seqs : List UInt32) (others : List Window) : Prop where
  width_eq : ∀ v ∈ others, v.width = width.positions
  extended : ∀ v ∈ others, ∀ i, v.width ≤ i → i < v.len →
    ∃ q ∈ seqs, q.toNat = v.first.toNat + i
  covered : ∀ q ∈ seqs, ∃ v ∈ others, v.covers q = true

/-- The quantifiers over drops are spelled out as searches of the list: the type of
sequence numbers is finite, and must not be searched instead. -/
instance (width : Width) (seqs : List UInt32) (others : List Window) :
    Decidable (Covering width seqs others) :=
  decidable_of_iff ((∀ v ∈ others, v.width = width.positions) ∧
      (∀ v ∈ others, ∀ i < v.len, v.width ≤ i → v.first.toNat + i ∈ seqs.map UInt32.toNat) ∧
      seqs.all (fun q => others.any (·.covers q)) = true)
    ⟨fun ⟨hwidth, hext, hcov⟩ =>
        ⟨hwidth, fun v hv i hi hl => List.mem_map.1 (hext v hv i hl hi),
          fun q hq => List.any_eq_true.1 (List.all_eq_true.1 hcov q hq)⟩,
      fun h =>
        ⟨h.width_eq, fun v hv i hl hi => List.mem_map.2 (h.extended v hv i hi hl),
          List.all_eq_true.2 fun q hq => List.any_eq_true.2 (h.covered q hq)⟩⟩

section Exchange

variable {width narrow : Width} {windows others : List Window} {w next v : Window}
  (h : Canonical width windows) (hc : Covering narrow (dropsOf windows) others)
  (hle : narrow.positions ≤ width.positions)

include h hc hle

/-- No competitor covers the anchors of two windows. -/
theorem Covering.not_covers_first (hw : w ∈ windows) (hbefore : w.Before next)
    (hv : v ∈ others) (hcovers : v.covers w.first = true) : ¬ v.covers next.first = true := by
  intro hnext
  rw [Window.covers_iff] at hcovers hnext
  rw [Window.Before] at hbefore
  have hwlen := w.width_le_len
  rw [(h.each w hw).width_eq] at hwlen
  have hvwidth := hc.width_eq v hv
  -- the position directly behind `w`, counted from the start of the competitor
  have hbehind : v.width ≤ w.first.toNat + w.len - v.first.toNat := by omega
  have hreach : w.first.toNat + w.len - v.first.toNat < v.len := by omega
  obtain ⟨q, hq, hnat⟩ := hc.extended v hv _ hbehind hreach
  exact h.not_mem_dropsOf_of_eq_end hw (by omega) hq

/-- The windows whose anchors a competitor covers are at most one. -/
theorem Covering.eq_of_covers_first (hw : w ∈ windows) (hnext : next ∈ windows)
    (hv : v ∈ others) (hcovers : v.covers w.first = true)
    (hcovers' : v.covers next.first = true) : w = next := by
  rcases h.eq_or_before hw hnext with heq | hbefore | hbefore
  · exact heq
  · exact absurd hcovers' (hc.not_covers_first h hle hw hbefore hv hcovers)
  · exact absurd hcovers (hc.not_covers_first h hle hnext hbefore hv hcovers')

/-- **Canonical windows are as few as possible**, also against competitors with a
narrower bitmap. -/
theorem Covering.length_le : windows.length ≤ others.length := by
  have hnodup : windows.Nodup := by
    apply h.pairwise.imp
    intro w next hbefore heq
    rw [Window.Before, heq] at hbefore
    omega
  calc windows.length = windows.toFinset.card := (List.toFinset_card_of_nodup hnodup).symm
    _ ≤ others.toFinset.card := by
      refine Finset.card_le_card_of_forall_subsingleton (fun w v => v.covers w.first = true)
        ?_ ?_
      · intro w hw
        obtain ⟨v, hv, hcovers⟩ :=
          hc.covered w.first (h.first_mem_dropsOf (List.mem_toFinset.1 hw))
        exact ⟨v, List.mem_toFinset.2 hv, hcovers⟩
      · rintro v hv w ⟨hw, hcovers⟩ next ⟨hnext, hcovers'⟩
        exact hc.eq_of_covers_first h hle (List.mem_toFinset.1 hw) (List.mem_toFinset.1 hnext)
          (List.mem_toFinset.1 hv) hcovers hcovers'
    _ ≤ others.length := List.toFinset_card_le others

end Exchange

/-- **The windows of ascending drops are as few as possible**: no other windows of the
same width that cover the drops, and whose extensions claim drops only, are fewer. -/
theorem length_windowsOf_le {width : Width} {seqs : List UInt32} {others : List Window}
    (h : Ascending seqs) (hc : Covering width seqs others) :
    ∃ windows, (windowsOf width.positions seqs).value = .ok windows ∧
      windows.length ≤ others.length := by
  obtain ⟨b, hrec, hvalue⟩ := exists_value_windowsOf width h
  rw [← hrec.drops_eq] at hc
  exact ⟨b.windows, hvalue, hc.length_le hrec.canonical (Nat.le_refl _)⟩

/-- Two competitors out of order that overlap and both have an extension.  Two windows are
found, of which the first has one. -/
theorem length_windowsOf_le_overlapping :
    let width : Width := ⟨4, by decide, by decide⟩
    let others : List Window :=
      [⟨4, [true, true, true, true], 2⟩, ⟨0, [true, true, true, true], 2⟩]
    let windows : List Window :=
      [⟨1, [false, true, true, false], 1⟩, ⟨8, [false, false, true, true], 0⟩]
    Ascending [1, 4, 5, 8, 9] ∧ Covering width [1, 4, 5, 8, 9] others ∧
      (windowsOf 4 [1, 4, 5, 8, 9]).value = .ok windows ∧
      windows.length ≤ others.length := by
  intro width others windows
  have hasc : Ascending [1, 4, 5, 8, 9] := by decide
  have hcovering : Covering width [1, 4, 5, 8, 9] others := by decide
  have hwindows : (windowsOf 4 [1, 4, 5, 8, 9]).value = .ok windows := by cbv
  obtain ⟨found, hfound, hle⟩ := length_windowsOf_le hasc hcovering
  obtain rfl := Except.ok.inj (hwindows.symm.trans hfound)
  exact ⟨hasc, hcovering, hwindows, hle⟩

/-! ## A wider bitmap -/

theorem Canonical.covering {width : Width} {windows : List Window}
    (h : Canonical width windows) : Covering width (dropsOf windows) windows where
  width_eq := fun v hv => (h.each v hv).width_eq
  extended := by
    intro v hv i hwidth hlen
    obtain ⟨hdrop, hnat⟩ := (h.each v hv).isDropped_position (Or.inr ⟨hwidth, hlen⟩)
    exact ⟨v.position i, mem_dropsOf_iff.2 ⟨v, hv, hdrop⟩, hnat⟩
  covered := by
    intro q hq
    obtain ⟨v, hv, hdrop⟩ := mem_dropsOf_iff.1 hq
    exact ⟨v, hv, Window.covers_of_isDropped hdrop⟩

/-- **A wider bitmap never needs more windows.** -/
theorem length_windowsOf_le_of_narrow (narrow wide : Width)
    (hle : narrow.positions ≤ wide.positions) {seqs : List UInt32} (h : Ascending seqs) :
    ∃ few many, (windowsOf wide.positions seqs).value = .ok few ∧
      (windowsOf narrow.positions seqs).value = .ok many ∧ few.length ≤ many.length := by
  obtain ⟨few, hfew, hwide, hdrops⟩ := exists_windowsOf wide h
  obtain ⟨many, hmany, hnarrow, rfl⟩ := exists_windowsOf narrow h
  have hcovering : Covering narrow (dropsOf few) many := hdrops ▸ hnarrow.covering
  exact ⟨few, many, hfew, hmany, hcovering.length_le hwide hle⟩

/-- The second windows start apart, at 6 and at 4, and the narrower bitmap needs a third. -/
theorem length_windowsOf_le_of_narrow_apart :
    let narrow : Width := ⟨2, by decide, by decide⟩
    let wide : Width := ⟨4, by decide, by decide⟩
    let few : List Window :=
      [⟨1, [false, true, true, false], 0⟩, ⟨6, [false, true, true, false], 0⟩]
    let many : List Window :=
      [⟨1, [false, true], 0⟩, ⟨4, [false, true], 1⟩, ⟨9, [false, true], 0⟩]
    narrow.positions ≤ wide.positions ∧ Ascending [1, 4, 6, 9] ∧
      (windowsOf 4 [1, 4, 6, 9]).value = .ok few ∧
      (windowsOf 2 [1, 4, 6, 9]).value = .ok many ∧
      few.length ≤ many.length ∧ few.length = 2 ∧ many.length = 3 := by
  intro narrow wide few many
  have hle : narrow.positions ≤ wide.positions := by decide
  have hasc : Ascending [1, 4, 6, 9] := by decide
  have hfew : (windowsOf 4 [1, 4, 6, 9]).value = .ok few := by cbv
  have hmany : (windowsOf 2 [1, 4, 6, 9]).value = .ok many := by cbv
  obtain ⟨a, b, ha, hb, hlength⟩ := length_windowsOf_le_of_narrow narrow wide hle hasc
  obtain rfl := Except.ok.inj (hfew.symm.trans ha)
  obtain rfl := Except.ok.inj (hmany.symm.trans hb)
  exact ⟨hle, hasc, hfew, hmany, hlength, rfl, rfl⟩

end LossWindows
