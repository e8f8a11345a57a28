import LossWindows.Proofs.Builder.Acceptance
import LossWindows.Proofs.Builder.Finality

/-!
# What is told of closed windows

A builder tells of every window that it closes, and of nothing else.  When a window is closed
it has its final form, and the drop that was out of its reach anchors the next one.  So what
was told up to any moment can be read off from the windows: each of them but the last is told
with its own extent and with the anchor of the window behind it.

While the last window grows its anchor stays, and a drop that is refused changes no window at
all; in neither case is there anything to tell.  What a history tells is therefore decided by
the drops that it accepts.

## Main definitions

* `closings` — what is told of windows that followed one another.
* `Builder.TellsClosings` — a step tells of the windows that it closes.
-/

namespace LossWindows

/-- What is told of windows that followed one another: of each one but the last, that it was
closed by the anchor of the next one. -/
def closings (windows : List Window) : List Event :=
  windows.zipWith (fun w next => .windowClosed w.first w.last next.first) windows.tail

@[simp] theorem closings_nil : closings [] = [] := rfl

@[simp] theorem closings_singleton (w : Window) : closings [w] = [] := rfl

theorem closings_cons_cons (w next : Window) (windows : List Window) :
    closings (w :: next :: windows) =
      .windowClosed w.first w.last next.first :: closings (next :: windows) := rfl

/-- A window behind the others closes the one that was last. -/
theorem closings_concat_concat (windows : List Window) (w next : Window) :
    closings (windows ++ [w] ++ [next]) =
      closings (windows ++ [w]) ++ [.windowClosed w.first w.last next.first] := by
  induction windows with
  | nil => rfl
  | cons v rest ih =>
    cases rest with
    | nil => rfl
    | cons v' rest =>
      simp only [List.cons_append, closings_cons_cons] at ih ⊢
      rw [ih]

/-- Of the last window nothing but its anchor is told. -/
theorem closings_concat_congr (windows : List Window) {w grown : Window}
    (h : grown.first = w.first) : closings (windows ++ [grown]) = closings (windows ++ [w]) := by
  induction windows with
  | nil => rfl
  | cons v rest ih =>
    cases rest with
    | nil => simp [closings_cons_cons, h]
    | cons v' rest =>
      simp only [List.cons_append, closings_cons_cons] at ih ⊢
      rw [ih]

theorem length_closings (windows : List Window) :
    (closings windows).length = windows.length - 1 := by
  rw [closings, List.length_zipWith, List.length_tail]
  omega

/-- Each window is told of in its place. -/
theorem getElem?_closings {windows : List Window} {i : Nat} {w next : Window}
    (hw : windows[i]? = some w) (hnext : windows[i + 1]? = some next) :
    (closings windows)[i]? = some (.windowClosed w.first w.last next.first) := by
  rw [closings, List.getElem?_zipWith, hw, List.getElem?_tail, hnext]

namespace Builder

variable {width : Width} {b : Builder} {seqs : List UInt32} {seq : UInt32}

/-! ## One step -/

/-- What is told by a step is what its windows have more to tell of than those before it. -/
def TellsClosings (b : Builder) (told : Logged Builder) : Prop :=
  closings told.value.windows = closings b.windows ++ told.events.toList

theorem tellsClosings_pure (b : Builder) : b.TellsClosings (pure b) := by
  simp [TellsClosings]

/-- Steps that tell of the windows that they close may follow one another. -/
theorem TellsClosings.bind {told : Logged Builder} {next : Builder → Logged Builder}
    (h : b.TellsClosings told) (hnext : told.value.TellsClosings (next told.value)) :
    b.TellsClosings (told >>= next) := by
  rw [TellsClosings] at h hnext ⊢
  rw [Logged.value_bind, hnext, h, Logged.events_bind, Array.toList_append, List.append_assoc]

namespace Records

theorem windows_eq {other : Builder} (h : b.Records width seqs)
    (h' : other.Records width seqs) : b.windows = other.windows :=
  h.canonical.eq_of_dropsOf_eq h'.canonical (h.drops_eq.trans h'.drops_eq.symm)

theorem length_windows_sub_one (h : b.Records width seqs) :
    b.windows.length - 1 = b.closed.size := by
  cases hb : b.front with
  | none =>
    rw [(h.windows_eq_nil hb).1, h.closed_eq_empty hb]
    rfl
  | some front => simp [windows_of_front hb]

theorem exists_next (h : b.Records width seqs) {i : Nat} {w : Window}
    (hw : b.closed[i]? = some w) : ∃ next, b.windows[i + 1]? = some next := by
  have hi : i < b.closed.size := (Array.getElem?_eq_some_iff.1 hw).1
  have hlength := h.length_windows_sub_one
  exact ⟨_, List.getElem?_eq_getElem (by omega)⟩

/-- **A drop that is taken is told of when it closes a window.** -/
theorem tellsClosings_place (h : b.Records width seqs) (seq : UInt32) :
    b.TellsClosings (b.place seq) := by
  rw [TellsClosings]
  rcases place_cases b seq with ⟨hb, hp⟩ | ⟨front, grown, hb, ha, hp⟩ | ⟨front, hb, -, hp⟩
  · -- the first window has none before it
    rw [hp, (h.windows_eq_nil hb).1]
    simp [windows, active, h.closed_eq_empty hb]
  · -- the open window keeps its anchor
    have hfirst := (Window.first_of_absorb? ha).1
    rw [hp, windows_of_front hb]
    simpa [windows, active] using closings_concat_congr b.closed.toList hfirst
  · rw [hp, windows_of_front hb]
    simpa [windows, active] using
      closings_concat_concat b.closed.toList front.window (.opening seq b.width)

/-! ## Whole histories -/

/-- So is a batch that comes drop by drop, refused or not. -/
theorem tellsClosings_addEach (h : b.Records width seqs) (batch : List UInt32) :
    b.TellsClosings ((·.builder) <$> b.addEach batch) := by
  induction batch generalizing b seqs with
  | nil => exact tellsClosings_pure b
  | cons seq rest ih =>
    cases hf : b.fault? seq with
    | some disorder =>
      rw [addEach_of_fault rest hf]
      exact tellsClosings_pure b
    | none =>
      rw [addEach_eq_bind b seq rest hf, map_bind]
      exact (h.tellsClosings_place seq).bind (ih (h.place (h.fault?_eq_none_iff.1 hf)))

theorem tellsClosings_offer (h : b.Records width seqs) (offer : Offer) :
    b.TellsClosings ((·.builder) <$> b.offer offer) := by
  cases offer with
  | one seq =>
    rw [Builder.offer, ← addEach_singleton]
    exact h.tellsClosings_addEach [seq]
  | many batch =>
    rw [Builder.offer, h.fits.addAll_eq_addEach]
    exact h.tellsClosings_addEach batch

/-- **A history tells of the windows that were closed in it.** -/
theorem tellsClosings_offers (h : b.Records width seqs) (history : List Offer) :
    b.TellsClosings (b.offers history) := by
  induction history generalizing b seqs with
  | nil => exact tellsClosings_pure b
  | cons offer rest ih =>
    have hsplit : b.offers (offer :: rest) =
        ((·.builder) <$> b.offer offer) >>= (·.offers rest) := by
      rw [offers_cons, bind_map_left]
    rw [hsplit]
    exact (h.tellsClosings_offer offer).bind (ih (h.offer_accepted offer))

/-- **Of an offer only what is accepted matters to what is told.** -/
theorem events_offer (h : b.Records width seqs) (offer : Offer) :
    (b.offer offer).events = (b.addAll (offer.accepted seqs)).events := by
  have hoffer := h.offer_accepted offer
  obtain ⟨heach, -⟩ := h.addEach_of_ascending hoffer.ascending
  have htold := h.tellsClosings_offer offer
  have htold' := h.tellsClosings_addEach (offer.accepted seqs)
  rw [TellsClosings, Logged.value_map, Logged.events_map] at htold htold'
  rw [hoffer.windows_eq heach, htold'] at htold
  rw [h.fits.addAll_eq_addEach]
  exact (Array.toList_inj.1 (List.append_cancel_left htold)).symm

end Records

theorem events_offers (width : Width) (history : List Offer) :
    ((empty width).offers history).events.toList =
      closings ((empty width).offers history).value.windows := by
  have htold := (records_empty width).tellsClosings_offers history
  rw [TellsClosings, windows_empty, closings_nil, List.nil_append] at htold
  exact htold.symm

/-- Handing the windows over at the end tells nothing. -/
theorem events_windowsOf (width : Width) (seqs : List UInt32) :
    (windowsOf width.positions seqs).events = ((empty width).addAll seqs).events := by
  rw [windowsOf, ofWidth_positions]
  simp

theorem events_windowsOf_acceptedOf (width : Width) (history : List Offer) :
    (windowsOf width.positions (acceptedOf history)).events =
      ((empty width).offers history).events := by
  have hrec := records_acceptedOf width history
  have hasc : Ascending ([] ++ acceptedOf history) := hrec.ascending
  obtain ⟨heach, -⟩ := (records_empty width).addEach_of_ascending hasc
  have htold := (records_empty width).tellsClosings_addEach (acceptedOf history)
  rw [TellsClosings, Logged.value_map, Logged.events_map, windows_empty, closings_nil,
    List.nil_append, heach.windows_eq hrec, ← events_offers] at htold
  rw [events_windowsOf, (fits_empty width).addAll_eq_addEach]
  exact (Array.toList_inj.1 htold).symm

theorem events_add_of_fault {disorder : Disorder}
    (h : (b.add seq).value.fault = some disorder) : (b.add seq).events = #[] := by
  cases hf : b.fault? seq with
  | some other => rw [add_of_fault hf, Logged.events_pure]
  | none =>
    rw [value_add hf] at h
    cases h

/-- **What is told mirrors the windows.**  A history of offers, refused ones among them, tells
as often as there are closed windows, and in their order: of each one where it starts, where
it ends, and where the window behind it starts, be that a closed one too or the open one.
The windows are those that there are at last, so each of them was told of in its final form.
Nothing is told of a drop that is refused: not of a single one, and of a batch what is told
is told of the part that is accepted.  Nothing is told at the end either, when the open window
is handed over with the others. -/
theorem offers_tell_closings (width : Width) (history : List Offer) :
    let told := (empty width).offers history
    let b := told.value
    told.events.size = b.closed.size ∧
    (∀ i w, b.closed[i]? = some w → ∃ next event,
      (b.closed[i + 1]? = some next ∨ i + 1 = b.closed.size ∧ b.active = some next) ∧
      told.events[i]? = some event ∧ event.level = .trace ∧
      event.message = s!"Closing window {w.first}..={w.last} at {next.first}") ∧
    (∀ seq disorder, (b.add seq).value.fault = some disorder → (b.add seq).events = #[]) ∧
    (∀ offer, (b.offer offer).events =
      (b.addAll (offer.accepted (acceptedOf history))).events) ∧
    (windowsOf width.positions (acceptedOf history)).events = told.events := by
  intro told b
  have h : b.Records width (acceptedOf history) := records_acceptedOf width history
  have hevents : told.events.toList = closings b.windows := events_offers width history
  refine ⟨?_, ?_, fun _ _ => events_add_of_fault, h.events_offer,
    events_windowsOf_acceptedOf width history⟩
  · rw [← Array.length_toList, hevents, length_closings, h.length_windows_sub_one]
  · intro i w hw
    obtain ⟨next, hnext⟩ := h.exists_next hw
    refine ⟨next, .windowClosed w.first w.last next.first,
      getElem?_windows_eq_some_iff.1 hnext, ?_, rfl, rfl⟩
    rw [← Array.getElem?_toList, hevents]
    exact getElem?_closings (getElem?_windows_eq_some_iff.2 (Or.inl hw)) hnext

/-- A batch that closes two windows and is refused in the middle, and then a drop that comes
too late and one that closes a third window. -/
theorem offers_tell_closings_within_batch :
    let width : Width := ⟨4, by decide, by decide⟩
    let history : List Offer := [.many [1, 9, 13, 14, 20, 20, 50], .one 14, .one 40]
    let told := (empty width).offers history
    told.value.closed =
        #[.opening 1 width, ⟨9, [false, true, true, true], 2⟩, .opening 20 width] ∧
      told.value.active = some (.opening 40 width) ∧ told.events.size = 3 ∧
      (∃ event, told.events[1]? = some event ∧ event.level = .trace ∧
        event.message = "Closing window 9..=14 at 20") ∧
      (∃ event, told.events[2]? = some event ∧
        event.message = "Closing window 20..=23 at 40") ∧
      (told.value.add 7).events = #[] ∧
      (windowsOf 4 [1, 9, 13, 14, 20, 40]).events = told.events := by
  intro width history told
  have hvalue : ((empty width).offers
      [.many [1, 9, 13, 14, 20, 20, 50], .one 14, .one 40]).value =
      ⟨width, #[.opening 1 width, ⟨9, [false, true, true, true], 2⟩, .opening 20 width],
        some ⟨.opening 40 width, 40⟩⟩ := by cbv
  have hclosed : told.value.closed =
      #[.opening 1 width, ⟨9, [false, true, true, true], 2⟩, .opening 20 width] :=
    congrArg Builder.closed hvalue
  have hactive : told.value.active = some (.opening 40 width) := congrArg Builder.active hvalue
  have hrefused : (told.value.add 7).value.fault = some ⟨40, 7⟩ :=
    congrArg (fun b : Builder => (b.add 7).value.fault) hvalue
  obtain ⟨hsize, hplaces, hadd, -, hend⟩ := offers_tell_closings width history
  refine ⟨hclosed, hactive, ?_, ?_, ?_, hadd 7 _ hrefused, hend⟩
  · rw [hsize]
    exact congrArg Array.size hclosed
  · obtain ⟨next, event, hnext, hevent, hlevel, hmessage⟩ :=
      hplaces 1 ⟨9, [false, true, true, true], 2⟩ (congrArg (·[1]?) hclosed)
    rw [hclosed] at hnext
    obtain rfl : Window.opening 20 width = next := by simpa using hnext
    exact ⟨event, hevent, hlevel, hmessage.trans (by decide)⟩
  · obtain ⟨next, event, hnext, hevent, -, hmessage⟩ :=
      hplaces 2 (.opening 20 width) (congrArg (·[2]?) hclosed)
    rw [hclosed, hactive] at hnext
    obtain rfl : Window.opening 40 width = next := by simpa using hnext
    exact ⟨event, hevent, hmessage.trans (by decide)⟩

end Builder

end LossWindows
