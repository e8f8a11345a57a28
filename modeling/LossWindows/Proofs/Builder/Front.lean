import LossWindows.Proofs.Builder.Record

/-!
# The open window and its last drop

The last drop that a builder took is the largest one that its open window records.  An
extension consists of drops, so once a window has one it ends with its last drop, and a
larger drop lies behind the window.  Of the three things that can happen to such a drop
each has its own range of positions, with no gap and no overlap between them: it lies
within the bitmap, or directly behind the window, or further away.

So a window is opened only where the open one can neither spell the drop out nor reach it
by one more position.

All this carries over to a builder that holds its last drop, its open window and the length of
this window in separate fields, by `Builder.offers?_eq_some_inWords`.

## Main definitions

* `Front.Exact` — the last drop is the largest that the window records.
* `Builder.Opens` — a drop gets a window of its own.
-/

namespace LossWindows

/-- The last of an ascending list is the largest. -/
theorem Ascending.le_of_getLast? {seqs : List UInt32} (h : Ascending seqs) {last q : UInt32}
    (hlast : seqs.getLast? = some last) (hq : q ∈ seqs) : q ≤ last := by
  obtain ⟨init, rfl⟩ := List.getLast?_eq_some_iff.1 hlast
  rcases List.mem_append.1 hq with hq | hq
  · exact UInt32.le_of_lt ((ascending_append_singleton.1 h).2 q hq)
  · exact List.mem_singleton.1 hq ▸ UInt32.le_refl _

/-- The open window is canonical, and the last drop is the largest one that it records. -/
structure Front.Exact (width : Width) (front : Front) : Prop where
  canonical : front.window.Canonical width
  isDropped_last : front.window.isDropped front.last = true
  le_last : ∀ q, front.window.isDropped q = true → q ≤ front.last

namespace Front.Exact

variable {width : Width} {front : Front} {seq : UInt32} (h : front.Exact width)

include h

theorem last_le_last : front.last.toNat ≤ front.window.last := by
  have hcovers := Window.covers_iff.1 (Window.covers_of_isDropped h.isDropped_last)
  rw [Window.last]
  omega

/-- A window with an extension ends with its last drop. -/
theorem last_eq_of_extended (hext : front.window.width < front.window.len) :
    front.window.last = front.last.toNat := by
  have hend : front.window.len - 1 < front.window.len := by omega
  have hbehind : front.window.width ≤ front.window.len - 1 := by omega
  obtain ⟨hdrop, hnat⟩ := h.canonical.isDropped_position (Or.inr ⟨hbehind, hend⟩)
  have hle := UInt32.le_iff_toNat_le.1 (h.le_last _ hdrop)
  rw [hnat] at hle
  have hge := h.last_le_last
  rw [Window.last] at hge ⊢
  omega

variable (hlt : front.last < seq)

include hlt

theorem first_le : front.window.first ≤ seq := by
  have hcovers := Window.covers_of_isDropped h.isDropped_last
  exact UInt32.le_trans (Window.first_le_of_covers hcovers) (UInt32.le_of_lt hlt)

/-- **A larger drop lies within the bitmap or behind the window**, never within the
extension. -/
theorem offset_lt_or_le : front.window.offset seq < front.window.width ∨
    front.window.len ≤ front.window.offset seq := by
  by_contra hzone
  rw [not_or, Nat.not_lt, Nat.not_le] at hzone
  have hdrop : front.window.isDropped seq = true :=
    Window.isDropped_iff_offset.2 ⟨h.first_le hlt, Or.inr hzone⟩
  exact UInt32.lt_irrefl seq (UInt32.lt_of_le_of_lt (h.le_last seq hdrop) hlt)

theorem offset_of_eq_succ (hseq : seq.toNat = front.window.last + 1) :
    front.window.offset seq = front.window.len := by
  have hoff := Window.first_add_offset (h.first_le hlt)
  have hpos := h.canonical.len_pos
  rw [Window.last] at hseq
  omega

/-- A larger drop is out of reach when there is a position between the window and it. -/
theorem absorb?_eq_none_iff_lt : front.window.absorb? seq = none ↔
    front.window.last + 1 < seq.toNat := by
  have hoff := Window.first_add_offset (h.first_le hlt)
  have hzone := h.offset_lt_or_le hlt
  have hlen := front.window.width_le_len
  have hpos := h.canonical.len_pos
  rw [Window.absorb?_eq_none_iff, Window.last]
  omega

end Front.Exact

namespace Builder

variable {width : Width} {b : Builder} {seqs : List UInt32} {seq : UInt32}

/-- What a builder has recorded includes the last drop of its open window. -/
theorem Records.exact {front : Front} (h : b.Records width seqs) (hb : b.front = some front) :
    front.Exact width := by
  have hdrops := h.drops_eq
  rw [windows_of_front hb, dropsOf_append, dropsOf_cons, dropsOf_nil, List.append_nil]
    at hdrops
  have hcanonical : front.window.Canonical width :=
    h.canonical.each _ (by simp [windows_of_front hb])
  have hne : front.window.drops ≠ [] :=
    List.ne_nil_of_mem (Window.mem_drops_iff.2 hcanonical.isDropped_first)
  -- the drops of the open window come last
  have hlast : front.window.drops.getLast? = some front.last := by
    rw [← List.getLast?_append_of_ne_nil _ hne, hdrops, ← h.last_eq, Builder.last, hb]
    rfl
  refine ⟨hcanonical, Window.mem_drops_iff.1 (List.mem_of_getLast? hlast), ?_⟩
  intro q hq
  exact (Window.ascending_drops _).le_of_getLast? hlast (Window.mem_drops_iff.2 hq)

/-! ## When a window is opened -/

/-- Offering `seq` opens a window besides those that there are. -/
def Opens (b : Builder) (seq : UInt32) : Prop :=
  (b.add seq).value.builder.windows = b.windows ++ [.opening seq b.width]

instance (b : Builder) (seq : UInt32) : Decidable (b.Opens seq) :=
  inferInstanceAs (Decidable (_ = _))

theorem not_opens_of_length
    (h : (b.add seq).value.builder.windows.length = b.windows.length) : ¬ b.Opens seq := by
  intro hopens
  rw [hopens] at h
  simp at h

theorem value_add (h : b.fault? seq = none) : (b.add seq).value = ⟨(b.place seq).value, none⟩ := by
  rw [add_of_fault?_eq_none h]
  rfl

theorem opens_of_front_eq_none (hb : b.front = none) : b.Opens seq := by
  obtain ⟨width, closed, _⟩ := b
  obtain rfl := hb
  have hfault : (Builder.mk width closed none).fault? seq = none := rfl
  rw [Opens, value_add hfault]
  simp [place, windows, active]

section Open

variable {front : Front} (hb : b.front = some front)

include hb

/-- A drop that the open window takes in changes this window only. -/
theorem value_add_of_absorb? {grown : Window} (hlt : front.last < seq)
    (ha : front.window.absorb? seq = some grown) :
    (b.add seq).value = ⟨{ b with front := some ⟨grown, seq⟩ }, none⟩ := by
  rw [value_add ((fault?_eq_none_iff_lt hb).2 hlt), place_of_absorb? hb ha]
  rfl

/-- **A window is opened exactly where there is a position between the open one and the
drop.** -/
theorem opens_iff_lt (h : front.Exact width) :
    b.Opens seq ↔ front.window.last + 1 < seq.toNat := by
  have hwindows := windows_of_front hb
  by_cases hlt : front.last < seq
  · rw [← h.absorb?_eq_none_iff_lt hlt]
    cases ha : front.window.absorb? seq with
    | some grown =>
      refine iff_of_false (not_opens_of_length ?_) (by simp)
      rw [value_add_of_absorb? hb hlt ha, hwindows, windows_of_front rfl]
      simp
    | none =>
      refine iff_of_true ?_ rfl
      rw [Opens, value_add ((fault?_eq_none_iff_lt hb).2 hlt), place_of_absorb?_eq_none hb ha,
        hwindows, windows_of_front rfl]
      simp
  · -- a drop that is refused opens nothing, and it does not lie behind the window
    have hle := UInt32.not_lt.1 hlt
    have hfault : b.fault? seq = some ⟨front.last, seq⟩ :=
      fault?_eq_some_iff.2 ⟨front.last, by simp [Builder.last, hb], hle, rfl⟩
    have hlast := h.last_le_last
    rw [UInt32.le_iff_toNat_le] at hle
    refine iff_of_false (not_opens_of_length ?_) (by omega)
    rw [add_of_fault hfault]
    rfl

end Open

/-- **The state of a builder, and what it does with a drop.**  Before the first drop there
is no window at all, and that drop opens one.  Afterwards the last drop is the largest one
that the open window records; the window starts with a drop, and ends with the last one as
soon as it has an extension.  A larger drop then lies within the bitmap, where its bit is
cleared, or directly behind the window, which grows by one position, or further away.
Only the last opens a window.

A builder in machine words, which has the last drop, the open window and its length in separate
fields, is in the corresponding state (`offers?_eq_some_inWords`). -/
theorem front_of_reachable (h : b.Reachable width) :
    (b.last = none ∧ b.active = none ∧ b.closed = #[] ∧ ∀ seq, b.Opens seq) ∨
    ∃ last w, b.last = some last ∧ b.active = some w ∧
      w.isDropped last = true ∧ (∀ q, w.isDropped q = true → q ≤ last) ∧
      w.bits[0]? = some false ∧ w.width = width.positions ∧ width.positions ≤ w.len ∧
      (width.positions < w.len → w.last = last.toNat) ∧
      (∀ seq, last < seq →
        (w.offset seq < width.positions ∨ w.len ≤ w.offset seq) ∧
        (w.offset seq < width.positions →
          (b.add seq).value = ⟨{ b with front := some ⟨w.clear (w.offset seq), seq⟩ }, none⟩) ∧
        (seq.toNat = w.last + 1 →
          (b.add seq).value = ⟨{ b with front := some ⟨w.lengthen 1, seq⟩ }, none⟩)) ∧
      ∀ seq, b.Opens seq ↔ w.last + 1 < seq.toNat := by
  obtain ⟨seqs, hrec⟩ := h.exists_records
  cases hb : b.front with
  | none =>
    obtain ⟨hnil, -⟩ := hrec.windows_eq_nil hb
    have hclosed : b.closed = #[] := Array.toList_eq_nil_iff.1 (List.append_eq_nil_iff.1 hnil).1
    exact Or.inl ⟨by simp [Builder.last, hb], by simp [active, hb], hclosed,
      fun seq => opens_of_front_eq_none hb⟩
  | some front =>
    have hexact := hrec.exact hb
    have hwidth := hexact.canonical.width_eq
    have hbits := hexact.canonical.opens
    rw [List.head?_eq_getElem?] at hbits
    refine Or.inr ⟨front.last, front.window, by simp [Builder.last, hb], by simp [active, hb],
      hexact.isDropped_last, hexact.le_last, hbits, hwidth, hwidth ▸ front.window.width_le_len,
      hwidth ▸ hexact.last_eq_of_extended, ?_, fun seq => opens_iff_lt hb hexact⟩
    intro seq hlt
    refine ⟨hwidth ▸ hexact.offset_lt_or_le hlt, ?_, ?_⟩
    · intro hoff
      exact value_add_of_absorb? hb hlt
        (Window.absorb?_eq_some_iff.2 (Or.inl ⟨hwidth ▸ hoff, rfl⟩))
    · intro hseq
      exact value_add_of_absorb? hb hlt
        (Window.absorb?_eq_some_iff.2 (Or.inr ⟨hexact.offset_of_eq_succ hlt hseq, rfl⟩))

/-- An extended window after two refused drops, with a drop directly behind it, one
further away and one that is too small. -/
theorem front_of_reachable_extended :
    let width : Width := ⟨4, by decide, by decide⟩
    let w : Window := ⟨1, [false, true, true, true], 2⟩
    let b := ((empty width).offers [.one 1, .many [5, 6, 6, 9], .one 3]).value
    b.Reachable width ∧ b.last = some 6 ∧ b.active = some w ∧ w.last = 6 ∧
      (b.add 7).value.builder.active = some (w.lengthen 1) ∧
      ¬ b.Opens 7 ∧ b.Opens 8 ∧ ¬ b.Opens 2 := by
  intro width w b
  have hb : b.Reachable width := ⟨_, rfl⟩
  have hvalue : ((empty width).offers [.one 1, .many [5, 6, 6, 9], .one 3]).value =
      ⟨width, #[], some ⟨w, 6⟩⟩ := by cbv
  have hlast : b.last = some 6 := congrArg Builder.last hvalue
  have hactive : b.active = some w := congrArg Builder.active hvalue
  rcases front_of_reachable hb with
    ⟨hnone, -⟩ | ⟨last, window, hsome, hopen, -, -, -, -, -, hend, hadd, hopens⟩
  · rw [hlast] at hnone
    cases hnone
  · obtain rfl := Option.some.inj (hlast.symm.trans hsome)
    obtain rfl := Option.some.inj (hactive.symm.trans hopen)
    refine ⟨hb, hlast, hactive, hend (by decide), ?_, ?_, ?_, ?_⟩
    · rw [(hadd 7 (by decide)).2.2 (by decide)]
      rfl
    · rw [hopens]
      decide
    · rw [hopens]
      decide
    · rw [hopens]
      decide

end Builder

end LossWindows
