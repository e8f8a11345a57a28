import LossWindows.Proofs.Builder.Acceptance
import LossWindows.Proofs.Builder.Front
import LossWindows.Proofs.Realization.Window
import LossWindows.Proofs.Run

/-!
# Builders in machine words

A builder in machine words holds its last drop and its open window side by side, and it asks
for the position of a drop without a look at where the window starts.  What makes this safe
is the order of things: a drop is compared with the last one first, and the last drop never
lies before the window.  The rest is a matter of extent.  A window with an extension ends
within the sequence numbers, so that no run makes it longer than a word can tell.

So every step of a builder in words has a result, however the drops come, and it stands for
what the same step does with builders.

## Main definitions

* `WordBuilder` — a builder whose windows are in machine words.
* `WordBuilder.offers?` — a history, where every operation may fail.
* `Builder.inWords` — the words of a builder.
-/

namespace LossWindows

/-- A builder whose windows are in machine words, with the last drop and the open window side
by side. -/
structure WordBuilder where
  width : Width
  last : Option UInt32
  active : Option WordWindow
  closed : Array WordWindow
deriving DecidableEq

namespace WordBuilder

def empty (width : Width) : WordBuilder :=
  ⟨width, none, none, #[]⟩

def windows (b : WordBuilder) : List WordWindow :=
  b.closed.toList ++ b.active.toList

def fault? (b : WordBuilder) (seq : UInt32) : Option Disorder :=
  match b.last with
  | some prev => if seq ≤ prev then some ⟨prev, seq⟩ else none
  | none => none

/-- Opens a window.  If another one is closed by that, the event of it asks for its end. -/
def open? (b : WordBuilder) (seq : UInt32) : Option WordBuilder := do
  let window ← WordWindow.opening? seq b.width
  match b.active with
  | some closing =>
    let _ ← closing.last?
    return ⟨b.width, seq, window, b.closed.push closing⟩
  | none => return ⟨b.width, seq, window, b.closed⟩

def place? (b : WordBuilder) (seq : UInt32) : Option WordBuilder :=
  match b.active with
  | some w => do
    let offset ← w.offset? seq
    if offset < .ofNat b.width.positions then
      return { b with last := seq, active := ← w.clear? offset }
    else if offset = w.len then
      return { b with last := seq, active := ← w.lengthen? 1 }
    else b.open? seq
  | none => b.open? seq

/-- Whether `seq`, which is larger than the last drop, lies directly behind the window. -/
def isBoundary? (b : WordBuilder) (seq : UInt32) : Option Bool :=
  match b.active with
  | some w => do return (← w.offset? seq) = w.len
  | none => some false

/-- Takes the run at the head of `seqs`.  It must have a last element, and the list must
reach as far as the run. -/
def placeRun? (b : WordBuilder) (seqs : List UInt32) : Option WordBuilder :=
  let run := leadingRun seqs
  if 0 < run ∧ run ≤ seqs.length then do
    return { b with
      last := ← seqs[run - 1]?
      active := ← b.active.mapM (·.lengthen? (.ofNat run)) }
  else none

def add? (b : WordBuilder) (seq : UInt32) : Option (WordBuilder × Option Disorder) :=
  match b.fault? seq with
  | some disorder => some (b, disorder)
  | none => do return (← b.place? seq, none)

/-- Offers drops until one is out of order, with a run behind the window taken at once. -/
def addAll? (b : WordBuilder) : List UInt32 → Option (WordBuilder × Option Disorder)
  | [] => some (b, none)
  | seq :: rest =>
    match b.fault? seq with
    | some disorder => some (b, disorder)
    | none => do
      if ← b.isBoundary? seq then
        (← b.placeRun? (seq :: rest)).addAll? ((seq :: rest).drop (leadingRun (seq :: rest)))
      else
        (← b.place? seq).addAll? rest
termination_by seqs => seqs.length
decreasing_by
  · have hrun : 1 ≤ leadingRun (seq :: rest) := Run.one_le_length_ofCons seq rest
    simp only [List.length_drop, List.length_cons]
    omega
  · exact Nat.lt_succ_self _

def offer? (b : WordBuilder) : Offer → Option (WordBuilder × Option Disorder)
  | .one seq => b.add? seq
  | .many seqs => b.addAll? seqs

def offers? (b : WordBuilder) : List Offer → Option WordBuilder
  | [] => some b
  | offer :: rest => do (← b.offer? offer).1.offers? rest

end WordBuilder

namespace Builder

/-- The words of a builder. -/
def inWords (b : Builder) : WordBuilder :=
  ⟨b.width, b.last, b.active.map Window.inWords, b.closed.map Window.inWords⟩

end Builder

/-- The words of what an offer comes to. -/
def Intake.inWords (intake : Intake) : WordBuilder × Option Disorder :=
  (intake.builder.inWords, intake.fault)

namespace Builder

variable {width : Width} {b : Builder} {seqs : List UInt32} {seq : UInt32}

@[simp] theorem inWords_empty (width : Width) : (empty width).inWords = .empty width := by
  simp [inWords, empty, WordBuilder.empty, last, active]

@[simp] theorem fault?_inWords (b : Builder) (seq : UInt32) :
    b.inWords.fault? seq = b.fault? seq := rfl

@[simp] theorem windows_inWords (b : Builder) :
    b.inWords.windows = b.windows.map Window.inWords := by
  cases hb : b.active <;> simp [WordBuilder.windows, windows, inWords, hb]

theorem active_inWords_of_front {front : Front} (hb : b.front = some front) :
    b.inWords.active = some front.window.inWords := by
  simp [inWords, active, hb]

namespace Records

/-- **Placing a drop never fails.** -/
theorem place?_inWords (h : b.Records width seqs) (hfault : b.fault? seq = none) :
    b.inWords.place? seq = some (b.place seq).value.inWords := by
  cases hb : b.front with
  | none =>
    obtain ⟨_, closed, _⟩ := b
    obtain rfl := hb
    rw [WordBuilder.place?]
    simp [inWords, active, Builder.last, WordBuilder.open?, Window.opening?_eq_some,
      Builder.place]
  | some front =>
    have hexact := h.exact hb
    have hcanonical := hexact.canonical
    have hactive := active_inWords_of_front hb
    have hwidth : b.inWords.width = width := h.width_eq
    have hfirst := hexact.first_le ((fault?_eq_none_iff_lt hb).1 hfault)
    rw [WordBuilder.place?, hactive]
    simp only [Window.offset?_inWords hfirst, Option.bind_eq_bind, Option.bind_some, hwidth,
      hcanonical.ofNat_offset_lt_iff, hcanonical.ofNat_offset_eq_len_iff]
    by_cases hoff : front.window.offset seq < front.window.width
    · -- its bit is cleared
      rw [if_pos hoff, hcanonical.clear?_inWords hoff,
        place_of_absorb? hb (Window.absorb?_eq_some_iff.2 (Or.inl ⟨hoff, rfl⟩))]
      simp [inWords, active, Builder.last, h.width_eq]
    · by_cases hmeets : front.window.offset seq = front.window.len
      · -- the window grows over it
        have hgrown : front.window.inWords.lengthen? 1 = some (front.window.lengthen 1).inWords :=
          hcanonical.lengthen?_inWords (by decide)
        rw [if_neg hoff, if_pos hmeets, hgrown,
          place_of_absorb? hb (Window.absorb?_eq_some_iff.2 (Or.inr ⟨hmeets, rfl⟩))]
        simp [inWords, active, Builder.last, h.width_eq]
      · -- the window is closed
        have hnone := Window.absorb?_eq_none_iff.2 ⟨Nat.le_of_not_lt hoff, hmeets⟩
        rw [if_neg hoff, if_neg hmeets, place_of_absorb?_eq_none hb hnone, WordBuilder.open?,
          Window.opening?_eq_some, hactive, hwidth]
        simp [inWords, active, Builder.last, hcanonical.last?_inWords, h.width_eq]

theorem isBoundary?_inWords (h : b.Records width seqs) (hfault : b.fault? seq = none) :
    b.inWords.isBoundary? seq = some (b.isBoundary seq) := by
  cases hb : b.front with
  | none =>
    have hactive : b.inWords.active = none := by simp [inWords, active, hb]
    rw [WordBuilder.isBoundary?, hactive, isBoundary, hb]
  | some front =>
    have hexact := h.exact hb
    have hfirst := hexact.first_le ((fault?_eq_none_iff_lt hb).1 hfault)
    rw [WordBuilder.isBoundary?, active_inWords_of_front hb, isBoundary, hb]
    have hmeets : front.window.meets seq =
        decide (front.window.offset seq = front.window.len) := rfl
    simp [Window.offset?_inWords hfirst, hexact.canonical.ofNat_offset_eq_len_iff, hmeets]

/-- A run behind the open window is recorded as a whole. -/
theorem exists_placeRun (h : b.Records width seqs) (hfault : b.fault? seq = none)
    (rest : List UInt32) (hmeets : b.isBoundary seq = true) :
    ∃ seqs, (b.placeRun (Run.ofCons seq rest)).Records width seqs := by
  obtain ⟨elements, -, -, -, hrun⟩ := Run.exists_ofCons seq rest
  obtain ⟨taken, -, -, hrec, -⟩ := h.addEach (seq :: elements)
  have heach : b.addEach (seq :: elements) = _ := addEach_of_isBoundary h.fits hmeets hfault
  rw [hrun, addEach_nil] at heach
  rw [heach] at hrec
  exact ⟨_, hrec⟩

/-- A run behind the open window has a last element, and it makes the window no longer than a
word can tell. -/
theorem placeRun?_inWords (h : b.Records width seqs) (rest : List UInt32)
    (hmeets : b.isBoundary seq = true) :
    b.inWords.placeRun? (seq :: rest) = some (b.placeRun (Run.ofCons seq rest)).inWords := by
  have hpos := Run.one_le_length_ofCons seq rest
  have hle : (Run.ofCons seq rest).length ≤ (seq :: rest).length := leadingRun_le (seq :: rest)
  have hlast := Run.getElem?_length_ofCons seq rest
  have hreach := Run.add_length_ofCons_le seq rest
  cases hb : b.front with
  | none => simp [isBoundary, hb] at hmeets
  | some front =>
    have hcanonical := (h.exact hb).canonical
    have hgrown := hcanonical.lengthen?_inWords (Nat.le_trans (Nat.le_add_left _ _) hreach)
    have hrun : leadingRun (seq :: rest) = (Run.ofCons seq rest).length := rfl
    rw [WordBuilder.placeRun?, hrun, if_pos ⟨hpos, hle⟩, hlast, active_inWords_of_front hb]
    simp [hgrown, inWords, placeRun, hb, Builder.last, active]

theorem add?_inWords (h : b.Records width seqs) (seq : UInt32) :
    b.inWords.add? seq = some (b.add seq).value.inWords := by
  rw [WordBuilder.add?, fault?_inWords]
  cases hf : b.fault? seq with
  | some disorder => rw [add_of_fault hf]; rfl
  | none => rw [value_add hf, h.place?_inWords hf]; rfl

/-- **A batch never fails**, however it falls into runs. -/
theorem addAll?_inWords (h : b.Records width seqs) (batch : List UInt32) :
    b.inWords.addAll? batch = some (b.addAll batch).value.inWords := by
  rw [h.fits.addAll_eq_addEach]
  induction hlength : batch.length using Nat.strongRecOn generalizing b seqs batch with
  | ind length ih =>
    cases batch with
    | nil => rw [WordBuilder.addAll?]; rfl
    | cons seq rest =>
      rw [List.length_cons] at hlength
      rw [WordBuilder.addAll?, fault?_inWords]
      cases hf : b.fault? seq with
      | some disorder => rw [addEach_of_fault rest hf]; rfl
      | none =>
        have hboundary := h.isBoundary?_inWords hf
        cases hmeets : b.isBoundary seq with
        | true =>
          obtain ⟨_, hrec⟩ := h.exists_placeRun hf rest hmeets
          have hshort := Run.length_rest_ofCons seq rest
          have hdrop : (seq :: rest).drop (leadingRun (seq :: rest)) = (Run.ofCons seq rest).rest :=
            Run.drop_length_ofCons seq rest
          rw [addEach_of_isBoundary h.fits hmeets hf, ← ih _ (by omega) hrec _ rfl]
          simp [hboundary, hmeets, h.placeRun?_inWords rest hmeets, hdrop]
        | false =>
          have hplace := h.place (h.fault?_eq_none_iff.1 hf)
          rw [addEach_eq_bind b seq rest hf, Logged.value_bind, ← ih _ (by omega) hplace _ rfl]
          simp [hboundary, hmeets, h.place?_inWords hf]

theorem offer?_inWords (h : b.Records width seqs) (offer : Offer) :
    b.inWords.offer? offer = some (b.offer offer).value.inWords := by
  cases offer with
  | one seq => exact h.add?_inWords seq
  | many batch => exact h.addAll?_inWords batch

/-- **A history never fails.** -/
theorem offers?_inWords (h : b.Records width seqs) (history : List Offer) :
    b.inWords.offers? history = some (b.offers history).value.inWords := by
  induction history generalizing b seqs with
  | nil => rfl
  | cons offer rest ih =>
    rw [WordBuilder.offers?, h.offer?_inWords, offers_cons, Logged.value_bind,
      ← ih (h.offer_accepted offer)]
    rfl

end Records

/-- **No operation on words leaves its range**, whatever is offered, be it out of order or at
either end of the sequence numbers.  A history of offers to a builder in words has a result,
and so has every further offer; the result is the builder that the history leads to.  Of
each of its windows every question is answered: the words that it is asked in give the
numbers that are meant, and its bitmap fits the wire words. -/
theorem offers?_eq_some_inWords (width : Width) (history : List Offer) :
    let b := ((empty width).offers history).value
    (WordBuilder.empty width).offers? history = some b.inWords ∧
      (∀ offer, b.inWords.offer? offer = some (b.offer offer).value.inWords) ∧
      b.inWords.windows = b.windows.map Window.inWords ∧
      ∀ w ∈ b.windows, w.inWords.len.toNat = w.len ∧
        w.inWords.start?.map Int64.toInt = some w.start ∧
        w.inWords.last?.map UInt64.toNat = some w.last ∧
        w.inWords.extension?.map UInt64.toNat = some w.extension ∧
        w.inWords.lost?.map UInt64.toNat = some w.lost ∧
        w.inWords.wire? = some w.wire ∧
        ∀ seq, w.inWords.covers? seq = some (w.covers seq) ∧
          w.inWords.isDropped? seq = some (w.isDropped seq) := by
  intro b
  have h : b.Records width (acceptedOf history) := records_acceptedOf width history
  refine ⟨?_, h.offer?_inWords, windows_inWords b, ?_⟩
  · rw [← inWords_empty, (records_empty width).offers?_inWords]
  · intro w hw
    have hw' : w.Canonical width := h.canonical.each w hw
    refine ⟨hw'.toNat_len_inWords, w.start?_inWords, ?_, ?_, ?_, hw'.wire?_inWords,
      fun seq => ⟨hw'.covers?_inWords seq, hw'.isDropped?_inWords seq⟩⟩
    · rw [hw'.last?_inWords, Option.map_some, UInt64.toNat_ofNat_of_lt' hw'.last_lt_size]
    · have hext : w.extension ≤ w.first.toNat + w.len := by
        rw [Window.len]
        omega
      rw [hw'.extension?_inWords, Option.map_some, UInt64.toNat_ofNat_of_lt' (hw'.lt_size hext)]
    · have hlost : w.lost ≤ w.first.toNat + w.len :=
        Nat.le_trans w.lost_le_len (Nat.le_add_left _ _)
      rw [hw'.lost?_inWords, Option.map_some, UInt64.toNat_ofNat_of_lt' (hw'.lt_size hlost)]

/-- Drops at both ends of the sequence numbers, a run up to the largest one, and drops that
come too late. -/
theorem offers?_eq_some_inWords_at_both_ends :
    let width : Width := ⟨1, by decide, by decide⟩
    let history : List Offer := [.one 0, .many [4294967294, 4294967295, 0], .one 7]
    let b := ((empty width).offers history).value
    let low : Window := ⟨0, [false], 0⟩
    let high : Window := ⟨4294967294, [false], 1⟩
    b.windows = [low, high] ∧ (WordBuilder.empty width).offers? history = some b.inWords ∧
      low.inWords.start?.map Int64.toInt = some (-1) ∧
      high.inWords.last?.map UInt64.toNat = some 4294967295 ∧
      high.inWords.isDropped? 0 = some false := by
  intro width history b low high
  have hvalue : ((empty width).offers [.one 0, .many [4294967294, 4294967295, 0], .one 7]).value =
      ⟨width, #[low], some ⟨high, 4294967295⟩⟩ := by cbv
  have hwindows : b.windows = [low, high] := congrArg Builder.windows hvalue
  obtain ⟨hoffers, -, -, heach⟩ := offers?_eq_some_inWords width history
  have hlow : low ∈ b.windows := hwindows ▸ List.mem_cons_self
  have hhigh : high ∈ b.windows := hwindows ▸ List.mem_cons_of_mem _ List.mem_cons_self
  obtain ⟨-, hstart, -⟩ := heach low hlow
  obtain ⟨-, -, hlast, -, -, -, htells⟩ := heach high hhigh
  exact ⟨hwindows, hoffers, hstart, hlast, (htells 0).2⟩

end Builder

end LossWindows
