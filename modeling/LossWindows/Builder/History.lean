import LossWindows.Builder.Basic

/-!
# Histories of a builder

A builder may be offered drops in many ways, one at a time or in batches of any size,
and go on after a batch that was refused in the middle.  A history is a list of such
offers; the builders that histories lead to are the only ones there are.

## Main definitions

* `Offer` — a single drop or a batch.
* `Builder.offers` — a history.
* `Builder.addEach` — a batch taken drop by drop.
* `Builder.Reachable` — the builders that histories lead to.
-/

namespace LossWindows

/-- Drops that come together. -/
inductive Offer
  | one (seq : UInt32)
  | many (seqs : List UInt32)

namespace Builder

def offer (b : Builder) : Offer → Logged Intake
  | .one seq => b.add seq
  | .many seqs => b.addAll seqs

/-- Makes offers one after another.  A refused drop does not end the history. -/
def offers (b : Builder) : List Offer → Logged Builder
  | [] => pure b
  | offer :: rest => do
    let intake ← b.offer offer
    intake.builder.offers rest

/-- Offers a batch drop by drop, until one is out of order. -/
def addEach (b : Builder) : List UInt32 → Logged Intake
  | [] => pure ⟨b, none⟩
  | seq :: rest => do
    let intake ← b.add seq
    match intake.fault with
    | some _ => return intake
    | none => intake.builder.addEach rest

/-- A builder that some history leads to. -/
def Reachable (width : Width) (b : Builder) : Prop :=
  ∃ history, ((empty width).offers history).value = b

@[simp] theorem offers_nil (b : Builder) : b.offers [] = pure b := rfl

theorem offers_cons (b : Builder) (offer : Offer) (rest : List Offer) :
    b.offers (offer :: rest) = b.offer offer >>= fun intake => intake.builder.offers rest := rfl

/-- A history can be cut anywhere. -/
theorem offers_append (b : Builder) (front back : List Offer) :
    b.offers (front ++ back) = b.offers front >>= (·.offers back) := by
  induction front generalizing b with
  | nil => simp
  | cons offer rest ih => simp [offers_cons, ih]

@[simp] theorem addEach_nil (b : Builder) : b.addEach [] = pure ⟨b, none⟩ := rfl

/-- The first drop of a batch is placed unless it is refused. -/
theorem addEach_cons (b : Builder) (seq : UInt32) (rest : List UInt32) :
    b.addEach (seq :: rest) =
      match b.fault? seq with
      | some disorder => pure ⟨b, some disorder⟩
      | none => b.place seq >>= (·.addEach rest) := by
  cases h : b.fault? seq with
  | some disorder => simp [addEach, add, h]
  | none => simp [addEach, add, h]

end Builder

end LossWindows
