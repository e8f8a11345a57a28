import LossWindows.Drop.Basic
import LossWindows.Logged

/-!
# Tallies of drops

How many drops there were, in all and of each known kind.  A drop of unknown kind
counts in the total only, and is worth an event.

## Main definitions

* `Tally` — the counts.
* `Tally.record` — counting one more drop.
* `Tally.share` — the share of a kind.
-/

namespace LossWindows

/-- The number of drops, in all and by kind.  Drops of unknown kind count in all. -/
structure Tally where
  total : Nat
  random : Nat
  highFrequency : Nat
  burst : Nat
deriving DecidableEq

namespace Tally

def empty : Tally := ⟨0, 0, 0, 0⟩

def count (tally : Tally) : DropKind → Nat
  | .random => tally.random
  | .highFrequency => tally.highFrequency
  | .burst => tally.burst

/-- Counts a drop of a known kind. -/
def addKnown (tally : Tally) : DropKind → Tally
  | .random => { tally with total := tally.total + 1, random := tally.random + 1 }
  | .highFrequency =>
    { tally with total := tally.total + 1, highFrequency := tally.highFrequency + 1 }
  | .burst => { tally with total := tally.total + 1, burst := tally.burst + 1 }

def addUnknown (tally : Tally) : Tally :=
  { tally with total := tally.total + 1 }

/-- Counts a drop, and tells when its kind is not known. -/
def record (tally : Tally) (drop : Drop) : Logged Tally :=
  match drop.kind? with
  | some kind => pure (tally.addKnown kind)
  | none => do
    Logged.tell (.unknownKind drop.tag drop.seq)
    return tally.addUnknown

/-- The share of a kind among all drops. -/
def share (tally : Tally) (kind : DropKind) : Share :=
  ⟨tally.count kind, tally.total⟩

/-- Tells the share of every kind, unless there are no drops to share. -/
def tellShares (tally : Tally) : Logged PUnit :=
  if tally.total = 0 then pure ⟨⟩
  else DropKind.all.forM fun kind => Logged.tell (.share kind (tally.share kind))

@[simp] theorem total_record (tally : Tally) (drop : Drop) :
    (tally.record drop).value.total = tally.total + 1 := by
  unfold record
  split
  · next kind _ => cases kind <;> rfl
  · rfl

/-- **A drop counts for its own kind and for no other.** -/
theorem count_record (tally : Tally) (drop : Drop) (kind : DropKind) :
    (tally.record drop).value.count kind =
      tally.count kind + if drop.kind? = some kind then 1 else 0 := by
  unfold record
  split
  · next known h => cases known <;> cases kind <;> simp [h, addKnown, count]
  · next h => cases kind <;> simp [h, addUnknown, count]

/-- A drop is told of exactly when its kind is not known. -/
theorem events_record (tally : Tally) (drop : Drop) :
    (tally.record drop).events =
      if drop.kind? = none then #[.unknownKind drop.tag drop.seq] else #[] := by
  unfold record
  split
  · next h => simp [h]
  · next h => simp [h]

end Tally

end LossWindows
