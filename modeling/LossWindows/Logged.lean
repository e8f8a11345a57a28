import LossWindows.Event

/-!
# Computations that tell events

A `Logged` computation has a result and the events that arose on the way to it.
Sequencing keeps their order; an event cannot be taken back, so those of a
computation that fails in the end are there all the same.

## Main definitions

* `Logged` — a result with its events.
* `Logged.tell` — one event and no result.
-/

namespace LossWindows

universe u

/-- A result, and the events on the way to it, the oldest first. -/
structure Logged (α : Type u) where
  value : α
  events : Array Event

namespace Logged

variable {α β γ : Type u}

@[ext] theorem ext {x y : Logged α} (hv : x.value = y.value) (he : x.events = y.events) :
    x = y := by
  cases x
  cases y
  simp_all

/-- A result without any event. -/
def pure (a : α) : Logged α := ⟨a, #[]⟩

/-- Continues with the result and appends the events.  The first computation is
taken apart before the second one starts, so that a result with a single owner can
be updated in place. -/
def bind (x : Logged α) (f : α → Logged β) : Logged β :=
  match x with
  | ⟨value, events⟩ =>
    let next := f value
    ⟨next.value, events ++ next.events⟩

instance : Monad Logged where
  pure := pure
  bind := bind

/-- One event. -/
def tell (event : Event) : Logged PUnit := ⟨⟨⟩, #[event]⟩

@[simp] theorem value_pure (a : α) : (Pure.pure a : Logged α).value = a := rfl

@[simp] theorem events_pure (a : α) : (Pure.pure a : Logged α).events = #[] := rfl

@[simp] theorem value_bind (x : Logged α) (f : α → Logged β) :
    (x >>= f).value = (f x.value).value := rfl

@[simp] theorem events_bind (x : Logged α) (f : α → Logged β) :
    (x >>= f).events = x.events ++ (f x.value).events := rfl

@[simp] theorem value_map (f : α → β) (x : Logged α) : (f <$> x).value = f x.value := rfl

@[simp] theorem events_map (f : α → β) (x : Logged α) : (f <$> x).events = x.events := by
  show x.events ++ #[] = x.events
  simp

@[simp] theorem events_tell (event : Event) : (tell event).events = #[event] := rfl

instance : LawfulMonad Logged := LawfulMonad.mk' Logged
  (fun x => ext rfl (events_map _ x))
  (fun a f => ext rfl (by simp))
  (fun x f g => ext rfl (by simp [Array.append_assoc]))

end Logged

end LossWindows
