import LossWindows.Proofs.Losses.Reading

/-!
# How much the events of reading matter

Each stage of the program tells events of its own level.  Those of reading a drop log are
there for debugging, whatever the log looks like and whether or not it can be read to its
end.

## Main definitions

* `Logged.Tells` — all events of a computation are of one kind.
-/

namespace LossWindows

namespace Logged

universe u

variable {α β : Type u} {p : Event → Prop} {x : Logged α}

/-- All events of a computation are of one kind. -/
def Tells (p : Event → Prop) (x : Logged α) : Prop :=
  ∀ event ∈ x.events, p event

theorem tells_pure (a : α) : (Pure.pure a : Logged α).Tells p := by
  simp [Tells]

@[simp] theorem tells_tell {event : Event} : (tell event).Tells p ↔ p event := by
  simp [Tells]

@[simp] theorem tells_map (f : α → β) : (f <$> x).Tells p ↔ x.Tells p := by
  simp [Tells]

theorem Tells.bind {f : α → Logged β} (hx : x.Tells p) (hf : (f x.value).Tells p) :
    (x >>= f).Tells p := by
  intro event h
  rw [events_bind, Array.mem_append] at h
  exact h.elim (hx event) (hf event)

end Logged

theorem Tally.tells_record (tally : Tally) (drop : Drop) :
    (tally.record drop).Tells (·.level = .debug) := by
  intro event h
  rw [events_record] at h
  split at h
  · rw [List.mem_toArray, List.mem_singleton] at h
    rw [h]
    rfl
  · simp at h

namespace Reading

theorem tells_line (reading : Reading) (text : String) :
    (reading.line text).Tells (·.level = .debug) := by
  rw [line_eq]
  split
  · exact (Logged.tells_map _).2 (Tally.tells_record _ _)
  · exact Logged.tells_pure _

/-- Where only debugging events were told so far, the remaining lines tell no others. -/
theorem tells_linesFrom {told : Logged Reading} (h : told.Tells (·.level = .debug))
    (lines : List (List UInt8)) : (linesFrom told lines).Tells (·.level = .debug) := by
  induction lines generalizing told with
  | nil => exact (Logged.tells_map _).2 h
  | cons bytes rest ih =>
    rw [linesFrom]
    split
    · exact ih (h.bind (tells_line _ _))
    · exact (Logged.tells_map _).2 h

theorem tells_finish (reading : Reading) : reading.finish.Tells (·.level = .debug) := by
  have hrepeated (repeated : Nat) : (tellRepeated repeated).Tells (·.level = .debug) := by
    rw [tellRepeated]
    split
    · exact Logged.tells_pure _
    · exact Logged.tells_tell.2 rfl
  have hread : (Logged.tell (.logRead reading.tally.total reading.skipped)).Tells
      (·.level = .debug) := Logged.tells_tell.2 rfl
  exact (hrepeated _).bind (hread.bind (Logged.tells_pure _))

end Reading

/-- **Reading a log tells nothing but debugging events.** -/
theorem Losses.tells_read (content : ByteArray) :
    (read content).Tells (·.level = .debug) := by
  refine (Reading.tells_linesFrom (Logged.tells_pure _) _).bind ?_
  split
  · exact Logged.tells_pure _
  · exact (Logged.tells_map _).2 (Reading.tells_finish _)

end LossWindows
