import LossWindows.Window.Basic

/-!
# The drops that windows tell

Windows are read back by listing, window by window, the sequence numbers that they
record as dropped.  A bitmap that sticks out past the largest sequence number tells
nothing of the positions out there.

Not every list of windows is one that drops lead to.  A canonical list has no window
that could start later or that another one could have absorbed; of the many lists
that tell the same drops it is the one that a builder makes.

## Main definitions

* `Ascending` — the order in which drops are told.
* `Window.drops`, `dropsOf` — the drops of a window, and of a list of windows.
* `Canonical` — the lists of windows that drops lead to.
-/

namespace LossWindows

/-- Strictly ascending, so that no sequence number comes twice. -/
abbrev Ascending (seqs : List UInt32) : Prop :=
  seqs.Pairwise (· < ·)

namespace Window

/-- The sequence numbers that a window covers, ascending. -/
def covered (w : Window) : List UInt32 :=
  (List.range' w.first.toNat (min w.len (UInt32.size - w.first.toNat))).map UInt32.ofNat

/-- The sequence numbers that a window records as dropped, ascending. -/
def drops (w : Window) : List UInt32 :=
  w.covered.filter w.isDropped

theorem mem_covered_iff {w : Window} {seq : UInt32} :
    seq ∈ w.covered ↔ w.covers seq = true := by
  have hs := seq.toNat_lt_size
  rw [covers_iff, covered]
  simp only [List.mem_map, List.mem_range'_1]
  constructor
  · rintro ⟨n, hn, rfl⟩
    rw [UInt32.toNat_ofNat_of_lt' (by omega)]
    omega
  · intro h
    exact ⟨seq.toNat, by omega, UInt32.ofNat_toNat⟩

/-- **The drops of a window are the sequence numbers that it records as dropped.** -/
@[simp] theorem mem_drops_iff {w : Window} {seq : UInt32} :
    seq ∈ w.drops ↔ w.isDropped seq = true := by
  rw [drops, List.mem_filter, mem_covered_iff]
  exact ⟨And.right, fun h => ⟨covers_of_isDropped h, h⟩⟩

theorem ascending_covered (w : Window) : Ascending w.covered := by
  rw [covered, Ascending, List.pairwise_map]
  refine List.Pairwise.imp_of_mem ?_ (List.pairwise_lt_range')
  intro a b ha hb hab
  rw [List.mem_range'_1] at ha hb
  rw [UInt32.lt_iff_toNat_lt, UInt32.toNat_ofNat_of_lt' (by omega),
    UInt32.toNat_ofNat_of_lt' (by omega)]
  exact hab

theorem ascending_drops (w : Window) : Ascending w.drops :=
  (ascending_covered w).filter _

/-- What a single window of a canonical list is like: it starts with a drop, and every drop of
the bitmap and of the extension is that of a sequence number. -/
structure Canonical (width : Width) (w : Window) : Prop where
  width_eq : w.width = width.positions
  opens : w.bits.head? = some false
  inRange : ∀ i, w.bits[i]? = some false → w.first.toNat + i < UInt32.size
  last_lt : 0 < w.extension → w.last < UInt32.size

end Window

/-- The drops that windows tell, window by window. -/
def dropsOf (windows : List Window) : List UInt32 :=
  windows.flatMap Window.drops

/-- The lists of windows that drops lead to: each window is canonical, and between two
neighbours lies a position that neither of them describes. -/
structure Canonical (width : Width) (windows : List Window) : Prop where
  each : ∀ w ∈ windows, w.Canonical width
  apart : ∀ i w next, windows[i]? = some w → windows[i + 1]? = some next →
    w.first.toNat + w.len < next.first.toNat

@[simp] theorem dropsOf_nil : dropsOf [] = [] := rfl

@[simp] theorem dropsOf_cons (w : Window) (windows : List Window) :
    dropsOf (w :: windows) = w.drops ++ dropsOf windows := rfl

@[simp] theorem dropsOf_append (front back : List Window) :
    dropsOf (front ++ back) = dropsOf front ++ dropsOf back := by
  simp [dropsOf]

theorem mem_dropsOf_iff {windows : List Window} {seq : UInt32} :
    seq ∈ dropsOf windows ↔ ∃ w ∈ windows, w.isDropped seq = true := by
  simp [dropsOf]

end LossWindows
