import LossWindows.Proofs.Builder.Placement
import LossWindows.Proofs.Run

/-!
# How a batch is used up

A batch is taken in turns.  In each turn the builder looks at the head of what is left: it
stops at a drop out of order, takes the whole leading run when that starts directly behind
the open window, and takes a single drop otherwise.  The leading run of a list that is not
empty is not empty either, and it is no longer than the list, so every turn uses up something
and none reaches past the end.

Nothing of this depends on the order of the drops, nor on what the builder holds.  There are
at most as many turns as drops, and unless one of them is refused no drop is left over.

## Main definitions

* `Turn` — what a turn comes to.
* `Builder.turn` — one turn.
* `Builder.Turns` — so many turns, one after another.
-/

namespace LossWindows

inductive Turn
  | done (intake : Logged Intake)
  | more (told : Logged Builder) (left : List UInt32)

namespace Builder

variable {told next : Logged Builder} {seqs left : List UInt32} {intake : Logged Intake}

/-- One turn: looks at the head of what is left of a batch. -/
def turn (told : Logged Builder) : List UInt32 → Turn
  | [] => .done ((⟨·, none⟩) <$> told)
  | seq :: rest =>
    match told.value.fault? seq with
    | some disorder => .done ((⟨·, some disorder⟩) <$> told)
    | none =>
      if told.value.isBoundary seq then
        .more ((·.placeRun (Run.ofCons seq rest)) <$> told)
          ((seq :: rest).drop (leadingRun (seq :: rest)))
      else .more (told >>= (·.place seq)) rest

/-- So many turns lead from a builder with a batch to another one with what is left. -/
inductive Turns : Nat → Logged Builder → List UInt32 → Logged Builder → List UInt32 → Prop
  | zero (told : Logged Builder) (seqs : List UInt32) : Turns 0 told seqs told seqs
  | succ {count : Nat} {told next last : Logged Builder} {seqs left rest : List UInt32} :
    turn told seqs = .more next left → Turns count next left last rest →
      Turns (count + 1) told seqs last rest

/-- **A batch is taken turn by turn.** -/
theorem addAllFrom_eq_turn (told : Logged Builder) (seqs : List UInt32) :
    addAllFrom told seqs =
      match turn told seqs with
      | .done intake => intake
      | .more next left => addAllFrom next left := by
  cases seqs with
  | nil => rw [addAllFrom, turn]
  | cons seq rest =>
    rw [addAllFrom, turn]
    cases hf : told.value.fault? seq with
    | some disorder => rfl
    | none =>
      by_cases hmeets : told.value.isBoundary seq = true
      · have hdrop : (seq :: rest).drop (leadingRun (seq :: rest)) = (Run.ofCons seq rest).rest :=
          Run.drop_length_ofCons seq rest
        simp only [if_pos hmeets, hdrop]
      · simp only [if_neg hmeets]

/-- A batch comes to its end when nothing is left, or else at a refusal. -/
theorem fault_eq_none_iff_of_turn (h : turn told seqs = .done intake) :
    intake.value.fault = none ↔ seqs = [] := by
  cases seqs with
  | nil =>
    rw [turn, Turn.done.injEq] at h
    subst h
    simp
  | cons seq rest =>
    rw [turn] at h
    split at h
    · rw [Turn.done.injEq] at h
      subst h
      simp
    · split at h <;> cases h

theorem last_placeRun {b : Builder} {seq : UInt32} (h : b.isBoundary seq = true) (run : Run) :
    (b.placeRun run).last = some run.last := by
  cases hb : b.front with
  | none => simp [isBoundary, hb] at h
  | some front => simp [Builder.last, placeRun, hb]

/-- **Every turn uses up some drops, and no more than there are.** -/
theorem exists_drop_of_turn (h : turn told seqs = .more next left) :
    ∃ count, (count = leadingRun seqs ∨ count = 1) ∧ 1 ≤ count ∧ count ≤ seqs.length ∧
      left = seqs.drop count ∧ next.value.last = seqs[count - 1]? := by
  cases seqs with
  | nil => cases h
  | cons seq rest =>
    rw [turn] at h
    split at h
    · cases h
    · split at h
      · next hmeets =>
        cases h
        refine ⟨leadingRun (seq :: rest), Or.inl rfl, Run.one_le_length_ofCons seq rest,
          leadingRun_le _, rfl, ?_⟩
        rw [Logged.value_map, last_placeRun hmeets]
        exact (Run.getElem?_length_ofCons seq rest).symm
      · cases h
        refine ⟨1, Or.inr rfl, Nat.le_refl 1, Nat.le_add_left 1 _, rfl, ?_⟩
        rw [Logged.value_bind, last_place]
        rfl

/-- **So a batch comes to its end**, after no more turns than there are drops. -/
theorem exists_turns (told : Logged Builder) (seqs : List UInt32) :
    ∃ count last rest, count ≤ seqs.length ∧ Turns count told seqs last rest ∧
      turn last rest = .done (addAllFrom told seqs) := by
  induction hlength : seqs.length using Nat.strongRecOn generalizing told seqs with
  | ind length ih =>
    have hbatch := addAllFrom_eq_turn told seqs
    cases hturn : turn told seqs with
    | done intake =>
      rw [hturn] at hbatch
      exact ⟨0, told, seqs, Nat.zero_le _, .zero told seqs, by rw [hturn, hbatch]⟩
    | more next left =>
      rw [hturn] at hbatch
      obtain ⟨used, -, hpos, hle, hleft, -⟩ := exists_drop_of_turn hturn
      have hshort : left.length + used = seqs.length := by
        rw [hleft, List.length_drop]
        omega
      obtain ⟨count, last, rest, hcount, hturns, hdone⟩ := ih left.length (by omega) next left rfl
      exact ⟨count + 1, last, rest, by omega, .succ hturn hturns, by rw [hdone, hbatch]⟩

/-- **The leading run is maximal, and it drives the progress of a batch.**  It is no longer
than the list and empty only if that is; its elements count up from the first one among the
natural numbers, and the element behind it, if there is one, does not go on counting.

A turn at a list uses up its leading run or a single drop, so the list gets shorter by one
element at least and by all of them at most, and the last element that was used up is the
last drop then.  Whatever a builder holds and in whatever order the drops come, the batch
comes to its end after no more turns than there are drops, and it was used up unless a drop
was refused. -/
theorem leadingRun_and_turns (seqs : List UInt32) :
    (leadingRun seqs ≤ seqs.length ∧ (leadingRun seqs = 0 ↔ seqs = []) ∧
      (∀ i < leadingRun seqs, ∃ first q, seqs.head? = some first ∧ seqs[i]? = some q ∧
        q.toNat = first.toNat + i) ∧
      (leadingRun seqs < seqs.length → ∃ prev next, seqs[leadingRun seqs - 1]? = some prev ∧
        seqs[leadingRun seqs]? = some next ∧ next.toNat ≠ prev.toNat + 1)) ∧
    (∀ told next left, turn told seqs = .more next left →
      ∃ count, (count = leadingRun seqs ∨ count = 1) ∧ 1 ≤ count ∧ count ≤ seqs.length ∧
        left = seqs.drop count ∧ next.value.last = seqs[count - 1]?) ∧
    ∀ b : Builder, ∃ count last rest, count ≤ seqs.length ∧
      Turns count (pure b) seqs last rest ∧ turn last rest = .done (b.addAll seqs) ∧
      ((b.addAll seqs).value.fault = none ↔ rest = []) := by
  refine ⟨⟨leadingRun_le seqs, leadingRun_eq_zero_iff, ?_, exists_getElem?_leadingRun⟩,
    fun _ _ _ => exists_drop_of_turn, ?_⟩
  · intro i hi
    cases seqs with
    | nil => cases hi
    | cons seq rest =>
      obtain ⟨q, hq, hnat⟩ := exists_getElem?_of_lt_leadingRun hi
      exact ⟨seq, q, rfl, hq, hnat⟩
  · intro b
    obtain ⟨count, last, rest, hcount, hturns, hdone⟩ := exists_turns (pure b) seqs
    exact ⟨count, last, rest, hcount, hturns, hdone, fault_eq_none_iff_of_turn hdone⟩

/-- A run behind the open window, a drop far away, and then zero behind the largest number. -/
theorem leadingRun_and_turns_past_the_end :
    let width : Width := ⟨4, by decide, by decide⟩
    let b : Builder := ⟨width, #[], some ⟨.opening 1 width, 1⟩⟩
    let seqs : List UInt32 := [5, 6, 4294967295, 0]
    leadingRun seqs = 2 ∧ leadingRun [4294967295, 0] = 1 ∧
      (∃ prev next, seqs[1]? = some prev ∧ seqs[2]? = some next ∧
        next.toNat ≠ prev.toNat + 1) ∧
      (∃ left next, turn (pure b) seqs = .more next left ∧ left.length < seqs.length ∧
        next.value.last = some 6) ∧
      ∃ count last rest, count ≤ 4 ∧ Turns count (pure b) seqs last rest ∧
        turn last rest = .done (b.addAll seqs) ∧ rest ≠ [] := by
  intro width b seqs
  have hrun : leadingRun seqs = 2 := by decide
  have hfirst : turn (pure b) seqs =
      .more (pure (b.placeRun (Run.ofCons 5 [6, 4294967295, 0]))) [4294967295, 0] := rfl
  have hrefused : (b.addAll seqs).value.fault = some ⟨4294967295, 0⟩ := by cbv
  obtain ⟨⟨-, -, -, hmaximal⟩, hturn, hend⟩ := leadingRun_and_turns seqs
  obtain ⟨count, last, rest, hcount, hturns, hdone, hrest⟩ := hend b
  obtain ⟨used, -, hpos, -, hleft, hlast⟩ := hturn _ _ _ hfirst
  have hused : used = 2 := by
    have hlength := congrArg List.length hleft
    simp only [List.length_drop, seqs, List.length_cons, List.length_nil] at hlength
    omega
  rw [hused] at hlast
  refine ⟨hrun, by decide, ?_, ⟨_, _, hfirst, by decide, hlast⟩,
    count, last, rest, hcount, hturns, hdone, ?_⟩
  · rw [hrun] at hmaximal
    exact hmaximal (by decide)
  · rw [ne_eq, ← hrest, hrefused]
    exact Option.some_ne_none _

end Builder

end LossWindows
