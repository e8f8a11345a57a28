import LossWindows.Logged
import LossWindows.Run
import LossWindows.Window.Basic

/-!
# Laying out drops in windows

A builder takes drops in strictly ascending order and keeps at most one window open.
A drop that the open window can still account for becomes part of it; any other drop
closes that window and opens one of its own.

Drops come one at a time (`add`) or many at once (`addAll`).  The second way takes a
consecutive run directly behind the open window in one step, however long it is.

The open window and the last drop are one value here, and the length of a window is computed.
A program keeps the last drop, the open window and its length in fields of their own; that is
`WordBuilder`, and `Builder.offers?_eq_some_inWords` is the link: along every history it stands
for the builder here.

## Main definitions

* `Builder` — the windows closed so far, and the open one with its last drop.
* `Builder.add`, `Builder.addAll` — taking drops.
* `Builder.windows` — all windows in ascending order.
* `windowsOf` — the windows of a list of drops.
-/

namespace LossWindows

/-- Two neighbouring drops that are out of order. -/
structure Disorder where
  prev : UInt32
  seq : UInt32
deriving DecidableEq

/-- Why drops cannot be laid out in windows. -/
inductive BuildError
  | widthOutOfBounds (width : Nat)
  | unordered (disorder : Disorder)
deriving DecidableEq

def BuildError.message : BuildError → String
  | .widthOutOfBounds width => s!"Bitmap width {width} outside 1..={maxWidth}"
  | .unordered disorder => s!"Drop index {disorder.seq} does not follow {disorder.prev}"

/-- The window that still accepts drops, and the last drop in it, which the next one has to
exceed. -/
structure Front where
  window : Window
  last : UInt32

/-- The windows of the drops so far.  There is a last drop exactly when there is an
open window, so the two come together; `WordBuilder` has them apart. -/
structure Builder where
  width : Width
  closed : Array Window
  front : Option Front

/-- What offering drops to a builder comes to: the builder with those that it took, and the
disorder at which it stopped, if any. -/
structure Intake where
  builder : Builder
  fault : Option Disorder

namespace Builder

/-- The builder before the first drop. -/
def empty (width : Width) : Builder :=
  ⟨width, #[], none⟩

/-- The builder for bitmaps of `width` positions. -/
def ofWidth (width : Nat) : Except BuildError Builder :=
  match Width.ofNat? width with
  | some width => .ok (empty width)
  | none => .error (.widthOutOfBounds width)

def active (b : Builder) : Option Window :=
  b.front.map (·.window)

def last (b : Builder) : Option UInt32 :=
  b.front.map (·.last)

/-- The disorder that taking `seq` next would make. -/
def fault? (b : Builder) (seq : UInt32) : Option Disorder :=
  match b.last with
  | some prev => if seq ≤ prev then some ⟨prev, seq⟩ else none
  | none => none

/-! ## One drop -/

/-- Takes a drop that is larger than the last one.  A window that cannot account for
it is closed. -/
def place (b : Builder) (seq : UInt32) : Logged Builder :=
  match b with
  | ⟨width, closed, none⟩ => pure ⟨width, closed, some ⟨.opening seq width, seq⟩⟩
  | ⟨width, closed, some ⟨window, _⟩⟩ =>
    match window.absorb? seq with
    | some grown => pure ⟨width, closed, some ⟨grown, seq⟩⟩
    | none =>
      ⟨⟨width, closed.push window, some ⟨.opening seq width, seq⟩⟩,
        #[.windowClosed window.first window.last seq]⟩

/-- Offers one drop.  A drop out of order changes nothing. -/
def add (b : Builder) (seq : UInt32) : Logged Intake :=
  match b.fault? seq with
  | some disorder => pure ⟨b, some disorder⟩
  | none => (⟨·, none⟩) <$> b.place seq

/-! ## Many drops -/

/-- Whether `seq` lies directly behind the open window. -/
def isBoundary (b : Builder) (seq : UInt32) : Bool :=
  match b.front with
  | some front => front.window.meets seq
  | none => false

/-- Takes a run that starts directly behind the open window. -/
def placeRun (b : Builder) (run : Run) : Builder :=
  { b with front := b.front.map fun front => ⟨front.window.lengthen run.length, run.last⟩ }

/-- Offers drops to a builder that has told some events already, until one is out of
order. -/
def addAllFrom (told : Logged Builder) : List UInt32 → Logged Intake
  | [] => (⟨·, none⟩) <$> told
  | seq :: rest =>
    match told.value.fault? seq with
    | some disorder => (⟨·, some disorder⟩) <$> told
    | none =>
      if told.value.isBoundary seq then
        let run := Run.ofCons seq rest
        addAllFrom ((·.placeRun run) <$> told) run.rest
      else
        addAllFrom (told >>= (·.place seq)) rest
termination_by seqs => seqs.length
decreasing_by
  · exact Nat.lt_succ_of_le (Run.length_rest_ofCons seq rest)
  · exact Nat.lt_succ_self _

/-- Offers drops until one is out of order.  The drops before that one stay. -/
def addAll (b : Builder) (seqs : List UInt32) : Logged Intake :=
  addAllFrom (pure b) seqs

/-! ## The windows -/

/-- All windows in ascending order, the open one last. -/
def windows (b : Builder) : List Window :=
  b.closed.toList ++ b.active.toList

end Builder

/-- The windows of the drops `seqs` with bitmaps of `width` positions.  A width out of
bounds is found before any disorder. -/
def windowsOf (width : Nat) (seqs : List UInt32) : Logged (Except BuildError (List Window)) :=
  match Builder.ofWidth width with
  | .error e => pure (.error e)
  | .ok builder => do
    let intake ← builder.addAll seqs
    return match intake.fault with
      | some disorder => .error (.unordered disorder)
      | none => .ok intake.builder.windows

namespace Builder

@[simp] theorem windows_empty (width : Width) : (empty width).windows = [] := rfl

@[simp] theorem ofWidth_positions (width : Width) :
    ofWidth width.positions = .ok (empty width) := by
  simp [ofWidth]

@[simp] theorem width_place (b : Builder) (seq : UInt32) :
    (b.place seq).value.width = b.width := by
  unfold place
  split
  · rfl
  · split <;> rfl

@[simp] theorem last_place (b : Builder) (seq : UInt32) :
    (b.place seq).value.last = some seq := by
  unfold place
  split
  · rfl
  · split <;> rfl

/-- A drop is refused exactly when it is not larger than the last one. -/
theorem fault?_eq_some_iff {b : Builder} {seq : UInt32} {disorder : Disorder} :
    b.fault? seq = some disorder ↔
      ∃ prev, b.last = some prev ∧ seq ≤ prev ∧ disorder = ⟨prev, seq⟩ := by
  unfold fault?
  cases b.last with
  | none => simp
  | some prev => by_cases h : seq ≤ prev <;> simp [h, eq_comm]

/-- A refused drop changes nothing. -/
theorem add_of_fault {b : Builder} {seq : UInt32} {disorder : Disorder}
    (h : b.fault? seq = some disorder) : b.add seq = pure ⟨b, some disorder⟩ := by
  simp [add, h]

theorem add_of_fault?_eq_none {b : Builder} {seq : UInt32} (h : b.fault? seq = none) :
    b.add seq = (⟨·, none⟩) <$> b.place seq := by
  simp [add, h]

@[simp] theorem addAll_nil (b : Builder) : b.addAll [] = pure ⟨b, none⟩ := by
  simp [addAll, addAllFrom]

end Builder

end LossWindows
