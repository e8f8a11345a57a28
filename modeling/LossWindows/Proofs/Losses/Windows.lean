import LossWindows.Proofs.Builder.Record
import LossWindows.Proofs.Losses.Reading

/-!
# The windows of a drop log

The drops of a log are laid out in windows as they are read, ascending and without
repetition.  So nothing but the width can be at fault, whatever the log looks like, and the
windows record the drops that the lines of the log name.
-/

namespace LossWindows

/-- A canonical list records a drop in one window only. -/
theorem Canonical.countP_isDropped {width : Width} {windows : List Window} {q : UInt32}
    (h : Canonical width windows) (hq : ∃ w ∈ windows, w.isDropped q = true) :
    windows.countP (·.isDropped q) = 1 := by
  have hpos : 0 < windows.countP (·.isDropped q) := List.countP_pos_iff.2 hq
  have hle : windows.countP (·.isDropped q) ≤ windows.countP (·.covers q) :=
    List.countP_mono_left fun w _ => Window.covers_of_isDropped
  rw [h.countP_covers (mem_dropsOf_iff.2 hq)] at hle
  omega

namespace Losses

variable {losses : Losses}

theorem exists_windows (h : Ascending losses.seqs) (width : Width) :
    ∃ windows, (losses.windows width.positions).value = .ok windows ∧
      Canonical width windows ∧ dropsOf windows = losses.seqs :=
  exists_windowsOf width h

/-- Of ascending losses only the width can be at fault. -/
theorem windows_cases (h : Ascending losses.seqs) (width : Nat) :
    ((width = 0 ∨ maxWidth < width) ∧
      losses.windows width = pure (.error (.widthOutOfBounds width))) ∨
    ∃ w : Width, w.positions = width ∧
      ∃ windows, (losses.windows width).value = .ok windows ∧
        Canonical w windows ∧ dropsOf windows = losses.seqs := by
  by_cases hout : width = 0 ∨ maxWidth < width
  · exact Or.inl ⟨hout, windowsOf_of_out_of_bounds hout _⟩
  · obtain ⟨w, rfl⟩ := Width.exists_positions_eq hout
    exact Or.inr ⟨w, rfl, exists_windows h w⟩

/-- **From a text to windows.**  Every text can be read, in whatever order its lines come
and however often they repeat each other.  Only a width out of bounds is at fault with its
losses, and otherwise the windows record exactly the drops that some line tells of, each
in one window.

That reading never ends early rests on the counter of skipped lines wrapping around, which is
what a release build does; a debug build stops at `2 ^ 31` skipped lines. -/
theorem windows_read_toUTF8 (text : String) (width : Nat) :
    ∃ losses, (read text.toUTF8).value = .ok losses ∧
      ((losses.windows width).value = .error (.widthOutOfBounds width) ↔
        ¬ (1 ≤ width ∧ width ≤ 256)) ∧
      (∀ disorder, (losses.windows width).value ≠ .error (.unordered disorder)) ∧
      (1 ≤ width ∧ width ≤ 256 →
        ∃ windows, (losses.windows width).value = .ok windows ∧ ∀ q,
          ((∃ line ∈ Text.linesOf text, ∃ drop, Drop.ofLine? line = some drop ∧ drop.seq = q) ↔
            ∃ w ∈ windows, w.isDropped q = true) ∧
          ((∃ w ∈ windows, w.isDropped q = true) → windows.countP (·.isDropped q) = 1)) := by
  obtain ⟨losses, hread, -, hasc, hmem⟩ := value_read_toUTF8 text
  refine ⟨losses, hread, ?_⟩
  rcases windows_cases hasc width with
    ⟨hout, hvalue⟩ | ⟨w, rfl, windows, hvalue, hcanonical, hdrops⟩
  · rw [maxWidth, wireWords] at hout
    have hbounds : ¬ (1 ≤ width ∧ width ≤ 256) := by omega
    simp [hvalue, hbounds]
  · have hbounds : 1 ≤ w.positions ∧ w.positions ≤ 256 := ⟨w.pos, w.le_max⟩
    refine ⟨by simp [hvalue, hbounds], by simp [hvalue], fun _ => ⟨windows, hvalue, ?_⟩⟩
    intro q
    refine ⟨?_, hcanonical.countP_isDropped⟩
    rw [← mem_dropsOf_iff, hdrops, hmem, Drop.ofText]
    simp only [List.mem_filterMap]
    constructor
    · rintro ⟨line, hline, drop, hdrop, hq⟩
      exact ⟨drop, ⟨line, hline, hdrop⟩, hq⟩
    · rintro ⟨drop, ⟨line, hline, hdrop⟩, hq⟩
      exact ⟨line, hline, drop, hdrop, hq⟩

end Losses

end LossWindows
