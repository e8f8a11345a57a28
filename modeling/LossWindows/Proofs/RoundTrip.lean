import LossWindows.Proofs.Builder.Record
import Mathlib.Data.Set.Function

/-!
# Drops and windows, back and forth

Laying out drops in windows loses nothing, although the extension of a window stores no
bits: reading the windows back gives the drops again.  In the other direction, laying
out what canonical windows tell gives these windows again.

So at every bitmap width the ascending lists of drops and the canonical lists of windows
correspond one to one.
-/

namespace LossWindows

/-- **Reading the windows of ascending drops gives back the drops.**  No position that
was received is told as dropped, no drop is lost, and each is covered by one window. -/
theorem dropsOf_windowsOf (width : Width) {seqs : List UInt32} (h : Ascending seqs) :
    ∃ windows, (windowsOf width.positions seqs).value = .ok windows ∧
      dropsOf windows = seqs ∧
      (∀ q, q ∈ seqs ↔ ∃ w ∈ windows, w.isDropped q = true) ∧
      ∀ q ∈ seqs, windows.countP (·.covers q) = 1 := by
  obtain ⟨b, hrec, hvalue⟩ := exists_value_windowsOf width h
  have hdrops := hrec.drops_eq
  refine ⟨b.windows, hvalue, hdrops, ?_, ?_⟩
  · intro q
    rw [← hdrops, mem_dropsOf_iff]
  · intro q hq
    exact hrec.canonical.countP_covers (hdrops.symm ▸ hq)

/-- A run at zero, a drop on its own and a bitmap that sticks out past the largest
sequence number. -/
theorem dropsOf_windowsOf_at_both_ends :
    Ascending [0, 1, 2, 9, 4294967294, 4294967295] ∧
      ∃ windows, (windowsOf 2 [0, 1, 2, 9, 4294967294, 4294967295]).value = .ok windows ∧
        dropsOf windows = [0, 1, 2, 9, 4294967294, 4294967295] := by
  have hasc : Ascending [0, 1, 2, 9, 4294967294, 4294967295] := by decide
  obtain ⟨windows, hvalue, hdrops, -⟩ :=
    dropsOf_windowsOf ⟨2, by decide, by decide⟩ hasc
  exact ⟨hasc, windows, hvalue, hdrops⟩

/-- **Ascending drops and canonical windows correspond one to one.**  The windows of
ascending drops are canonical; canonical windows tell ascending drops, and these lead
back to them. -/
theorem bijOn_windowsOf (width : Width) :
    (∀ seqs, Ascending seqs →
      ∃ windows, (windowsOf width.positions seqs).value = .ok windows ∧
        Canonical width windows) ∧
    (∀ windows, Canonical width windows →
      Ascending (dropsOf windows) ∧
        (windowsOf width.positions (dropsOf windows)).value = .ok windows) ∧
    Set.BijOn (fun seqs => (windowsOf width.positions seqs).value)
      {seqs | Ascending seqs} (Except.ok '' {windows | Canonical width windows}) := by
  have hforth : ∀ seqs, Ascending seqs →
      ∃ windows, (windowsOf width.positions seqs).value = .ok windows ∧
        Canonical width windows := by
    intro seqs h
    obtain ⟨b, hrec, hvalue⟩ := exists_value_windowsOf width h
    exact ⟨b.windows, hvalue, hrec.canonical⟩
  have hback : ∀ windows, Canonical width windows →
      Ascending (dropsOf windows) ∧
        (windowsOf width.positions (dropsOf windows)).value = .ok windows := by
    intro windows h
    exact ⟨h.ascending_dropsOf, value_windowsOf_eq_ok_iff.2 ⟨h, rfl⟩⟩
  refine ⟨hforth, hback, ?_, ?_, ?_⟩
  · intro seqs h
    obtain ⟨windows, hvalue, hcanonical⟩ := hforth seqs h
    exact ⟨windows, hcanonical, hvalue.symm⟩
  · -- the windows tell the drops that they come from
    intro seqs h others _ heq
    obtain ⟨windows, hvalue, -⟩ := hforth seqs h
    rw [← (value_windowsOf_eq_ok_iff.1 hvalue).2]
    exact (value_windowsOf_eq_ok_iff.1 (heq.symm.trans hvalue)).2
  · rintro _ ⟨windows, hcanonical, rfl⟩
    obtain ⟨hasc, hvalue⟩ := hback windows hcanonical
    exact ⟨dropsOf windows, hasc, hvalue⟩

/-- Two windows, the first with an extension and the second with a bitmap that sticks
out past the largest sequence number. -/
theorem bijOn_windowsOf_at_the_end :
    let width : Width := ⟨4, by decide, by decide⟩
    let windows : List Window :=
      [⟨1, [false, true, true, false], 2⟩, ⟨4294967294, [false, false, true, true], 0⟩]
    Canonical width windows ∧
      dropsOf windows = [1, 4, 5, 6, 4294967294, 4294967295] ∧
      (windowsOf 4 [1, 4, 5, 6, 4294967294, 4294967295]).value = .ok windows := by
  intro width windows
  have hcanonical : Canonical width windows := by decide
  have hdrops : dropsOf windows = [1, 4, 5, 6, 4294967294, 4294967295] := by decide
  obtain ⟨-, hback, -⟩ := bijOn_windowsOf width
  exact ⟨hcanonical, hdrops, hdrops ▸ (hback windows hcanonical).2⟩

end LossWindows
