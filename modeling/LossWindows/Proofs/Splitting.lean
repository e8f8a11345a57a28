import LossWindows.Proofs.Builder.Record

/-!
# Laying out drops in two parts

A window that has been opened forgets everything before it, so drops may be laid out in two
parts wherever a window is opened.  Where the second part starts within the last window of
the first one, or directly behind it, the parts have to be laid out together: that window
takes the first drop of the second part in, and is another window then.

Both directions rest on one fact.  The windows of the two parts, one list behind the other,
tell the drops of both parts in any case, so they are the windows of these drops exactly when
they are canonical; and they are canonical when the two windows at the border are apart.
-/

namespace LossWindows

variable {width : Width} {w next : Window} {windows others : List Window}

/-- A canonical window lies before what starts past the position directly behind it. -/
theorem Window.Canonical.before_iff (h : w.Canonical width) :
    w.Before next ↔ w.last + 1 < next.first.toNat := by
  have hpos := h.len_pos
  rw [Window.Before, Window.last]
  omega

namespace Canonical

/-- Canonical lists may be joined when the windows at the border are apart. -/
theorem append_cons_iff_before (h : Canonical width (windows ++ [w]))
    (h' : Canonical width (next :: others)) :
    Canonical width (windows ++ [w] ++ next :: others) ↔ w.Before next := by
  rw [append_iff, and_iff_right h, and_iff_right h']
  constructor
  · intro hapart
    exact hapart w (by simp) next (by simp)
  · intro hborder v hv u hu
    -- no window of the first list ends later than its last one
    have hv' : v.Before next := by
      rcases List.mem_append.1 hv with hv | hv
      · exact Trans.trans ((append_singleton_iff.1 h).2.2 v hv) hborder
      · exact List.mem_singleton.1 hv ▸ hborder
    rcases List.mem_cons.1 hu with rfl | hu
    · exact hv'
    · exact Trans.trans hv' (h'.before u hu)

end Canonical

/-- **Drops split where they leave a gap behind a window**: the windows of the parts make up
the windows of the whole exactly when the second part starts past the position directly
behind the last window of the first part. -/
theorem windowsOf_append_eq_append_iff (width : Width) {front back : List UInt32}
    {seq : UInt32} (hne : front ≠ []) (h : Ascending (front ++ seq :: back)) :
    ∃ windows others joined w,
      (windowsOf width.positions front).value = .ok windows ∧
      (windowsOf width.positions (seq :: back)).value = .ok others ∧
      (windowsOf width.positions (front ++ seq :: back)).value = .ok joined ∧
      windows.getLast? = some w ∧
      (joined = windows ++ others ↔ w.last + 1 < seq.toNat) := by
  obtain ⟨hfront, hback, -⟩ := List.pairwise_append.1 h
  obtain ⟨windows, hwindows, hcanonical, hdrops⟩ := exists_windowsOf width hfront
  obtain ⟨others, hothers, hcanonical', hdrops'⟩ := exists_windowsOf width hback
  obtain ⟨joined, hjoined, -⟩ := exists_windowsOf width h
  -- both parts have windows
  obtain ⟨init, w, rfl⟩ : ∃ init w, windows = init ++ [w] := by
    refine (List.eq_nil_or_concat' windows).resolve_left ?_
    rintro rfl
    exact hne hdrops.symm
  obtain ⟨next, rest, rfl⟩ : ∃ next rest, others = next :: rest := by
    refine List.exists_cons_of_ne_nil ?_
    rintro rfl
    cases hdrops'
  refine ⟨init ++ [w], next :: rest, joined, w, hwindows, hothers, hjoined, by simp, ?_⟩
  have hdrops_append : dropsOf (init ++ [w] ++ next :: rest) = front ++ seq :: back := by
    rw [dropsOf_append, hdrops, hdrops']
  have hw : w.Canonical width := hcanonical.each w (by simp)
  have hnext : next.first = seq := by
    have hhead := hcanonical'.head?_dropsOf
    rw [hdrops', List.head?_cons] at hhead
    exact (Option.some.inj hhead).symm
  calc joined = init ++ [w] ++ next :: rest
      ↔ (windowsOf width.positions (front ++ seq :: back)).value =
          .ok (init ++ [w] ++ next :: rest) := by rw [hjoined, Except.ok.injEq]
    _ ↔ Canonical width (init ++ [w] ++ next :: rest) := by
        rw [value_windowsOf_eq_ok_iff, and_iff_left hdrops_append]
    _ ↔ w.Before next := hcanonical.append_cons_iff_before hcanonical'
    _ ↔ w.last + 1 < seq.toNat := by
        rw [hw.before_iff, hnext]

/-- Behind an extended window that ends at 6: with 7 missing the parts may be laid out on
their own, and with 7 at their border they may not. -/
theorem windowsOf_append_eq_append_iff_extended :
    let windows : List Window := [⟨1, [false, true, true, true], 2⟩]
    ([1, 5, 6] : List UInt32) ≠ [] ∧ Ascending ([1, 5, 6] ++ [8, 9]) ∧
      Ascending ([1, 5, 6] ++ [7, 9]) ∧ (windowsOf 4 [1, 5, 6]).value = .ok windows ∧
      (∃ others, (windowsOf 4 [8, 9]).value = .ok others ∧
        (windowsOf 4 [1, 5, 6, 8, 9]).value = .ok (windows ++ others)) ∧
      ∃ others joined, (windowsOf 4 [7, 9]).value = .ok others ∧
        (windowsOf 4 [1, 5, 6, 7, 9]).value = .ok joined ∧ joined ≠ windows ++ others := by
  intro windows
  let width : Width := ⟨4, by decide, by decide⟩
  have hne : ([1, 5, 6] : List UInt32) ≠ [] := by decide
  have hasc : Ascending ([1, 5, 6] ++ [8, 9]) := by decide
  have hasc' : Ascending ([1, 5, 6] ++ [7, 9]) := by decide
  have hvalue : (windowsOf width.positions [1, 5, 6]).value = .ok windows :=
    value_windowsOf_eq_ok_iff.2 (by decide)
  refine ⟨hne, hasc, hasc', hvalue, ?_, ?_⟩
  · obtain ⟨front, others, joined, w, hfront, hothers, hjoined, hlast, hiff⟩ :=
      windowsOf_append_eq_append_iff width hne hasc
    obtain rfl := Except.ok.inj (hvalue.symm.trans hfront)
    obtain rfl := Option.some.inj hlast
    exact ⟨others, hothers, hiff.2 (by decide) ▸ hjoined⟩
  · obtain ⟨front, others, joined, w, hfront, hothers, hjoined, hlast, hiff⟩ :=
      windowsOf_append_eq_append_iff width hne hasc'
    obtain rfl := Except.ok.inj (hvalue.symm.trans hfront)
    obtain rfl := Option.some.inj hlast
    exact ⟨others, joined, hothers, hjoined, mt hiff.1 (by decide)⟩

end LossWindows
