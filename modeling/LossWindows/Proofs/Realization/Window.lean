import LossWindows.Proofs.Realization.Packing
import LossWindows.Proofs.Realization.Word
import LossWindows.Proofs.Window.Layout

/-!
# Windows in machine words

A window is held with its length beside the bitmap, and all that is asked of it is computed
in words: where it ends, how far it reaches past its bitmap, where in it a sequence number
lies.  None of this is safe for just any three fields.  The end of a window is a sum less
one, the extension is a difference, and an offset is one as well, which must not be asked
for a sequence number before the window.

A canonical window fits: it starts at a sequence number and reaches no further than a bitmap
past the largest one.  For such a window every operation has a result, and it stands for the
number or the window that the same operation gives on windows.

## Main definitions

* `WordWindow` — a window with its length in machine words.
* `Window.inWords` — the words of a window.
-/

namespace LossWindows

/-- A window in machine words. -/
structure WordWindow where
  first : UInt32
  len : UInt64
  bits : List Bool
deriving DecidableEq

namespace WordWindow

/-- The position of `seq`, which must not lie before the window. -/
def offset? (w : WordWindow) (seq : UInt32) : Option UInt64 :=
  (Word.between? w.first seq).map UInt32.toUInt64

/-- Clears the bit at `offset`, which must lie within the bitmap. -/
def clear? (w : WordWindow) (offset : UInt64) : Option WordWindow :=
  if offset.toNat < w.bits.length then some { w with bits := w.bits.set offset.toNat false }
  else none

/-- Adds `count` positions. -/
def lengthen? (w : WordWindow) (count : UInt64) : Option WordWindow := do
  return { w with len := ← Word.add? w.len count }

/-- The window that a drop of `seq` opens: a bitmap without drops, and then its first bit
is cleared. -/
def opening? (seq : UInt32) (width : Width) : Option WordWindow :=
  clear? ⟨seq, UInt64.ofNat width.positions, List.replicate width.positions true⟩ 0

def start? (w : WordWindow) : Option Int64 :=
  Word.pred? (Int64.ofNat w.first.toNat)

def last? (w : WordWindow) : Option UInt64 := do
  Word.sub? (← Word.add? w.first.toUInt64 w.len) 1

def extension? (w : WordWindow) : Option UInt64 :=
  Word.sub? w.len (UInt64.ofNat w.bits.length)

/-- Whether `seq` is described.  The end is asked only where the start does not decide. -/
def covers? (w : WordWindow) (seq : UInt32) : Option Bool :=
  if w.first ≤ seq then do return decide (seq.toUInt64 ≤ (← w.last?))
  else some false

/-- Whether `seq` is dropped: a described position without a bit is. -/
def isDropped? (w : WordWindow) (seq : UInt32) : Option Bool := do
  if ← w.covers? seq then
    let offset ← w.offset? seq
    return !(w.bits.getD offset.toNat false)
  else return false

def lost? (w : WordWindow) : Option UInt64 := do
  Word.add? (UInt64.ofNat (w.bits.count false)) (← w.extension?)

def wire? (w : WordWindow) : Option WireWords :=
  WireWords.pack? w.bits

end WordWindow

namespace Window

variable {width : Width} {w : Window} {seq : UInt32}

/-- The words of a window. -/
def inWords (w : Window) : WordWindow :=
  ⟨w.first, UInt64.ofNat w.len, w.bits⟩

@[simp] theorem bits_inWords (w : Window) : w.inWords.bits = w.bits := rfl

/-- A position is counted with sequence numbers, so it is a word. -/
theorem toNat_ofNat_offset (w : Window) (seq : UInt32) :
    (UInt64.ofNat (w.offset seq)).toNat = w.offset seq := by
  have hseq := seq.toNat_lt_size
  have hoff : w.offset seq ≤ seq.toNat := Nat.sub_le _ _
  apply UInt64.toNat_ofNat_of_lt'
  simp only [UInt32.size, UInt64.size] at *
  omega

theorem offset?_inWords (hf : w.first ≤ seq) :
    w.inWords.offset? seq = some (UInt64.ofNat (w.offset seq)) := by
  have hoff := first_add_offset hf
  have hseq := seq.toNat_lt_size
  have hlt : w.offset seq < UInt32.size := by omega
  have hbetween : Word.between? w.first seq = some (UInt32.ofNat (w.offset seq)) := by
    rw [Word.between?_eq_some_iff, UInt32.toNat_ofNat_of_lt' hlt, hoff]
  rw [WordWindow.offset?, inWords, hbetween, Option.map_some, Option.some_inj,
    ← UInt64.toNat_inj, UInt32.toNat_toUInt64, UInt32.toNat_ofNat_of_lt' hlt,
    UInt64.toNat_ofNat_of_lt' (Nat.lt_trans hlt (by decide))]

/-- A sequence number before the window has no position in it. -/
example : (inWords ⟨5, [false, true], 0⟩).offset? 4 = none := by
  decide

theorem opening?_eq_some (seq : UInt32) (width : Width) :
    WordWindow.opening? seq width = some (opening seq width).inWords := by
  have hpos : 0 < width.positions := width.pos
  have hbits : (List.replicate width.positions true).set 0 false = (opening seq width).bits := by
    obtain ⟨n, hn⟩ := Nat.exists_eq_succ_of_ne_zero (Nat.ne_of_gt hpos)
    rw [opening, hn, List.replicate_succ, List.set_cons_zero, Nat.succ_sub_one]
  simp [WordWindow.opening?, WordWindow.clear?, hpos, hbits, inWords]

theorem start?_inWords (w : Window) : w.inWords.start?.map Int64.toInt = some w.start := by
  have hfirst := w.first.toNat_lt
  have hword : (Int64.ofNat w.first.toNat).toInt = w.first.toNat :=
    Int64.toInt_ofNat_of_lt (by omega)
  have hstart : (Int64.ofInt w.start).toInt = w.start := by
    rw [start]
    exact Int64.toInt_ofInt_of_le (by omega) (by omega)
  have hpred : w.inWords.start? = some (.ofInt w.start) := by
    rw [WordWindow.start?, Word.pred?_eq_some_iff, hstart, inWords, hword, start]
  rw [hpred, Option.map_some, hstart]

theorem lost_le_len (w : Window) : w.lost ≤ w.len := by
  have hcount : w.bits.count false ≤ w.width := List.count_le_length
  rw [lost, len]
  omega

section Words

variable (h : w.Canonical width)

include h

/-- **A window reaches no further than a bitmap past the sequence numbers.** -/
theorem Canonical.first_add_len_le : w.first.toNat + w.len ≤ UInt32.size + maxWidth := by
  have hfirst := w.first.toNat_lt_size
  have hwidth := width.le_max
  rw [← h.width_eq] at hwidth
  by_cases hext : 0 < w.extension
  · have hlast := h.last_lt hext
    rw [last] at hlast
    omega
  · rw [len]
    omega

/-- Numbers up to the end of the window are words. -/
theorem Canonical.lt_size {n : Nat} (hn : n ≤ w.first.toNat + w.len) : n < UInt64.size := by
  have hreach := h.first_add_len_le
  simp only [UInt32.size, UInt64.size, maxWidth, wireWords] at *
  omega

theorem Canonical.toNat_len_inWords : w.inWords.len.toNat = w.len :=
  UInt64.toNat_ofNat_of_lt' (h.lt_size (Nat.le_add_left _ _))

/-- A position that is a word is compared with the width as numbers are. -/
theorem Canonical.ofNat_offset_lt_iff :
    UInt64.ofNat (w.offset seq) < .ofNat width.positions ↔ w.offset seq < w.width := by
  have hlen := w.width_le_len
  have hwidth : (UInt64.ofNat width.positions).toNat = w.width := by
    rw [← h.width_eq]
    exact UInt64.toNat_ofNat_of_lt' (h.lt_size (by omega))
  rw [UInt64.lt_iff_toNat_lt, toNat_ofNat_offset, hwidth]

theorem Canonical.ofNat_offset_eq_len_iff :
    UInt64.ofNat (w.offset seq) = w.inWords.len ↔ w.offset seq = w.len := by
  rw [← UInt64.toNat_inj, toNat_ofNat_offset, h.toNat_len_inWords]

theorem Canonical.clear?_inWords {offset : Nat} (ho : offset < w.width) :
    w.inWords.clear? (.ofNat offset) = some (w.clear offset).inWords := by
  have hlen := w.width_le_len
  have hnat : (UInt64.ofNat offset).toNat = offset :=
    UInt64.toNat_ofNat_of_lt' (h.lt_size (by omega))
  have hbits : offset < w.bits.length := ho
  rw [WordWindow.clear?, hnat, inWords, if_pos hbits, inWords, len_clear]
  rfl

/-- A window grows by any number of sequence numbers. -/
theorem Canonical.lengthen?_inWords {count : Nat} (hc : count ≤ UInt32.size) :
    w.inWords.lengthen? (.ofNat count) = some (w.lengthen count).inWords := by
  have hreach := h.first_add_len_le
  have hlen : w.len + count < UInt64.size := by
    simp only [UInt32.size, UInt64.size, maxWidth, wireWords] at *
    omega
  rw [WordWindow.lengthen?, inWords, Word.add?_ofNat hlen, inWords, len_lengthen]
  rfl

theorem Canonical.last_lt_size : w.last < UInt64.size :=
  h.lt_size (Nat.sub_le _ _)

theorem Canonical.last?_inWords : w.inWords.last? = some (.ofNat w.last) := by
  have hpos := h.len_pos
  have hone : 1 ≤ w.first.toNat + w.len := by omega
  rw [WordWindow.last?, inWords, ← UInt64.ofNat_uInt32ToNat,
    Word.add?_ofNat (h.lt_size (Nat.le_refl _))]
  exact Word.sub?_ofNat (h.lt_size (Nat.le_refl _)) hone

theorem Canonical.extension?_inWords :
    w.inWords.extension? = some (.ofNat w.extension) := by
  have hsub := Word.sub?_ofNat (h.lt_size (Nat.le_add_left _ _)) w.width_le_len
  rwa [len, Nat.add_sub_cancel_left] at hsub

theorem Canonical.covers?_inWords (seq : UInt32) :
    w.inWords.covers? seq = some (w.covers seq) := by
  by_cases hf : w.first ≤ seq
  · have hend : seq.toUInt64 ≤ .ofNat w.last ↔ w.covers seq = true := by
      rw [covers_iff_le_last h.len_pos, UInt64.le_iff_toNat_le, UInt32.toNat_toUInt64,
        UInt64.toNat_ofNat_of_lt' h.last_lt_size,
        and_iff_right (UInt32.le_iff_toNat_le.1 hf)]
    have hfirst : w.inWords.first ≤ seq := hf
    rw [WordWindow.covers?, if_pos hfirst, h.last?_inWords]
    simp [hend]
  · have hcovers : w.covers seq = false := by simp [covers, hf]
    have hfirst : ¬ w.inWords.first ≤ seq := hf
    rw [WordWindow.covers?, if_neg hfirst, hcovers]

theorem Canonical.isDropped?_inWords (seq : UInt32) :
    w.inWords.isDropped? seq = some (w.isDropped seq) := by
  rw [WordWindow.isDropped?, h.covers?_inWords]
  cases hcovers : w.covers seq with
  | false => simp [isDropped, hcovers]
  | true =>
    have hf := first_le_of_covers hcovers
    have hnat := w.toNat_ofNat_offset seq
    simp [offset?_inWords hf, hnat, isDropped, hcovers]

theorem Canonical.lost?_inWords : w.inWords.lost? = some (.ofNat w.lost) := by
  have hlost := w.lost_le_len
  rw [WordWindow.lost?, h.extension?_inWords]
  exact Word.add?_ofNat (h.lt_size (Nat.le_trans hlost (Nat.le_add_left _ _)))

theorem Canonical.wire?_inWords : w.inWords.wire? = some w.wire := by
  have hwidth := width.le_max
  rw [← h.width_eq] at hwidth
  exact WireWords.pack?_eq_some_ofBits hwidth

end Words

end Window

end LossWindows
