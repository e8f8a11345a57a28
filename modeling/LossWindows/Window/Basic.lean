/-!
# Windows of packet positions

A window summarizes a stretch of consecutive sequence numbers.  Its first
positions are spelled out in a bitmap, where `false` marks a dropped packet; the
positions behind the bitmap, its *extension*, are dropped without exception and
so need no bits at all.

The length of a window is computed from these two parts and not stored beside
them: a window that is shorter than its own bitmap cannot be written down.

A bitmap travels in four 64-bit words, so it has between one and 256 positions.  The bound is
part of the type `Width`: a function that takes one has no width error to report.

## Main definitions

* `Width` — a number of bitmap positions within the bounds.
* `Width.ofNat?` — the check at the border, from any natural number.
* `Window` — a bitmap anchored at a sequence number, and an extension.
* `Window.opening` — the window that a single drop opens.
* `Window.absorb?` — accounting for one more drop, when the window still can.
* `Window.covers`, `Window.isDropped` — what a window says of a sequence number.
-/

namespace LossWindows

/-! ## Widths -/

/-- Number of 64-bit words that carry a bitmap. -/
def wireWords : Nat := 4

/-- The widest bitmap that the wire words still hold. -/
def maxWidth : Nat := 64 * wireWords

/-- A bitmap width: at least one position, and no more than the wire words hold. -/
structure Width where
  positions : Nat
  pos : 0 < positions
  le_max : positions ≤ maxWidth
deriving DecidableEq

namespace Width

/-- The width of `n` positions, when there is one. -/
def ofNat? (n : Nat) : Option Width :=
  if h : 0 < n ∧ n ≤ maxWidth then some ⟨n, h.1, h.2⟩ else none

@[simp] theorem ofNat?_positions (w : Width) : ofNat? w.positions = some w := by
  simp [ofNat?, w.pos, w.le_max]

/-- A number is refused exactly when it is out of bounds. -/
theorem ofNat?_eq_none_iff {n : Nat} : ofNat? n = none ↔ n = 0 ∨ maxWidth < n := by
  simp only [ofNat?, dite_eq_right_iff, reduceCtorEq, imp_false]
  omega

theorem exists_positions_eq {n : Nat} (h : ¬ (n = 0 ∨ maxWidth < n)) :
    ∃ w : Width, w.positions = n :=
  ⟨⟨n, by omega, by omega⟩, rfl⟩

end Width

/-! ## Windows -/

/-- A stretch of packet positions: a bitmap with one bit for each position from `first` on,
`false` for a dropped packet, and behind it positions that are all dropped. -/
structure Window where
  first : UInt32
  bits : List Bool
  extension : Nat
deriving DecidableEq

namespace Window

/-- The window that a drop of `seq` opens: its first position is dropped, the
others are not. -/
def opening (seq : UInt32) (width : Width) : Window :=
  ⟨seq, false :: List.replicate (width.positions - 1) true, 0⟩

/-! ## Extent -/

/-- The number of positions that the bitmap spells out. -/
def width (w : Window) : Nat :=
  w.bits.length

/-- The number of positions that the window describes. -/
def len (w : Window) : Nat :=
  w.width + w.extension

/-- The anchor, one before the first described position.  It is signed, since
nothing precedes sequence number zero. -/
def start (w : Window) : Int :=
  (w.first.toNat : Int) - 1

/-- The last described position.  It is not a sequence number: a bitmap may stick
out past the largest one. -/
def last (w : Window) : Nat :=
  w.first.toNat + w.len - 1

/-- The position of `seq` counted from the first one.  It is meant for a sequence
number that does not lie before the window. -/
def offset (w : Window) (seq : UInt32) : Nat :=
  seq.toNat - w.first.toNat

theorem width_le_len (w : Window) : w.width ≤ w.len :=
  Nat.le_add_right _ _

@[simp] theorem first_opening (seq : UInt32) (width : Width) :
    (opening seq width).first = seq := rfl

@[simp] theorem extension_opening (seq : UInt32) (width : Width) :
    (opening seq width).extension = 0 := rfl

@[simp] theorem width_opening (seq : UInt32) (width : Width) :
    (opening seq width).width = width.positions := by
  have := width.pos
  simp only [opening, Window.width, List.length_cons, List.length_replicate]
  omega

@[simp] theorem len_opening (seq : UInt32) (width : Width) :
    (opening seq width).len = width.positions := by
  simp [len]

/-! ## Growth -/

/-- Marks the position at `offset` in the bitmap as dropped. -/
def clear (w : Window) (offset : Nat) : Window :=
  { w with bits := w.bits.set offset false }

/-- Adds `count` dropped positions behind the last one. -/
def lengthen (w : Window) (count : Nat) : Window :=
  { w with extension := w.extension + count }

/-- Whether `seq` lies exactly one past the window, where it can only extend it. -/
def meets (w : Window) (seq : UInt32) : Bool :=
  w.offset seq == w.len

/-- The window that accounts for a drop of `seq` as well: a drop within the bitmap
clears its bit, one exactly behind the window extends it, and any other is out of
reach. -/
def absorb? (w : Window) (seq : UInt32) : Option Window :=
  if w.offset seq < w.width then some (w.clear (w.offset seq))
  else if w.meets seq then some (w.lengthen 1)
  else none

@[simp] theorem width_clear (w : Window) (offset : Nat) :
    (w.clear offset).width = w.width := by
  simp [clear, width]

@[simp] theorem width_lengthen (w : Window) (count : Nat) :
    (w.lengthen count).width = w.width := rfl

@[simp] theorem len_clear (w : Window) (offset : Nat) : (w.clear offset).len = w.len := by
  simp [clear, len, width]

@[simp] theorem len_lengthen (w : Window) (count : Nat) :
    (w.lengthen count).len = w.len + count := by
  simp [lengthen, len, width, Nat.add_assoc]

theorem meets_iff {w : Window} {seq : UInt32} : w.meets seq = true ↔ w.offset seq = w.len := by
  simp [meets]

/-- Absorbing a drop moves neither the anchor nor the end of the bitmap. -/
theorem first_of_absorb? {w w' : Window} {seq : UInt32} (h : w.absorb? seq = some w') :
    w'.first = w.first ∧ w'.width = w.width := by
  unfold absorb? at h
  split at h
  · cases h; simp [clear, width]
  · split at h
    · cases h; simp [lengthen, width]
    · cases h

/-- A drop is out of reach exactly when it lies neither within the bitmap nor
directly behind the window. -/
theorem absorb?_eq_none_iff {w : Window} {seq : UInt32} :
    w.absorb? seq = none ↔ w.width ≤ w.offset seq ∧ w.offset seq ≠ w.len := by
  by_cases hw : w.offset seq < w.width
  · simp only [absorb?, hw, if_true, reduceCtorEq, false_iff]
    omega
  · by_cases hm : w.meets seq = true
    · simp only [absorb?, hw, hm, if_true, if_false, reduceCtorEq, false_iff]
      exact fun h => h.2 (meets_iff.1 hm)
    · simp only [absorb?, hw, hm, Bool.false_eq_true, if_false, true_iff]
      exact ⟨Nat.le_of_not_lt hw, fun h => hm (meets_iff.2 h)⟩

/-! ## What a window says -/

/-- Whether `seq` lies within the described positions. -/
def covers (w : Window) (seq : UInt32) : Bool :=
  w.first ≤ seq && seq.toNat < w.first.toNat + w.len

/-- Whether the window records `seq` as dropped.  A position outside the window is
not, as far as this window knows. -/
def isDropped (w : Window) (seq : UInt32) : Bool :=
  w.covers seq && !(w.bits.getD (w.offset seq) false)

/-- The number of positions that the window claims lost. -/
def lost (w : Window) : Nat :=
  w.bits.count false + w.extension

/-- The bitmap in position order, `1` for a packet that was not dropped. -/
def bitmap (w : Window) : String :=
  String.ofList (w.bits.map fun bit => if bit then '1' else '0')

theorem covers_of_isDropped {w : Window} {seq : UInt32} (h : w.isDropped seq = true) :
    w.covers seq = true := by
  simp_all [isDropped]

theorem covers_iff {w : Window} {seq : UInt32} :
    w.covers seq = true ↔
      w.first.toNat ≤ seq.toNat ∧ seq.toNat < w.first.toNat + w.len := by
  simp [covers, UInt32.le_iff_toNat_le]

/-- A sequence number is covered when it lies between the first and the last described
position. -/
theorem covers_iff_le_last {w : Window} (h : 0 < w.len) {seq : UInt32} :
    w.covers seq = true ↔ w.first.toNat ≤ seq.toNat ∧ seq.toNat ≤ w.last := by
  rw [covers_iff, last]
  omega

/-- A covered position is dropped when its bit is clear or when it has none. -/
theorem isDropped_iff {w : Window} {seq : UInt32} :
    w.isDropped seq = true ↔
      w.covers seq = true ∧ w.bits.getD (w.offset seq) false = false := by
  simp [isDropped]

/-- A drop that opens a window is dropped in it. -/
theorem isDropped_opening (seq : UInt32) (width : Width) :
    (opening seq width).isDropped seq = true := by
  rw [isDropped_iff, covers_iff]
  have := width.pos
  simp [offset, opening, len, Window.width]

end Window

end LossWindows
