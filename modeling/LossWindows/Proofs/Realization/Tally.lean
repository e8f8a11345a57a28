import LossWindows.Proofs.Losses.Extraction
import LossWindows.Proofs.Realization.Word
import Mathlib.Algebra.GroupWithZero.Nat

/-!
# Tallies in machine words

A tally is held in counters of 64 bits, one for all drops and a row of them for the kinds.
Each kind has its place in the row, one before its code.  Counting a drop adds one to the
counter of all drops and, when its kind is known, to the counter in the place of that kind.

A counter of a kind is never ahead of the counter of all drops, so it is enough that the
latter is not exhausted.  Fewer than `2 ^ 64` drops are counted without a fault, whatever
their tags are, and the words stand for the numbers of the tally.

## Main definitions

* `WordTally` — a tally in machine words.
* `Tally.inWords` — the words of a tally.
* `Tally.Bounded` — no kind counts more drops than there are.
-/

namespace LossWindows

/-- A tally in machine words, with a counter for each kind in the order of the kinds. -/
structure WordTally where
  total : UInt64
  kinds : Vector UInt64 DropKind.all.length

namespace WordTally

def empty : WordTally :=
  ⟨0, Vector.replicate _ 0⟩

/-- The place of the counter of a kind. -/
def place? (kind : DropKind) : Option UInt64 :=
  Word.sub? kind.code.toUInt64 1

def count? (tally : WordTally) (kind : DropKind) : Option UInt64 := do
  let place ← place? kind
  tally.kinds[place.toNat]?

/-- Counts one more drop of a kind.  Its place must be one in the row. -/
def countKind? (tally : WordTally) (kind : DropKind) : Option WordTally := do
  let place ← place? kind
  if h : place.toNat < DropKind.all.length then
    return { tally with
      kinds := tally.kinds.set place.toNat (← Word.add? tally.kinds[place.toNat] 1) }
  else none

def record? (tally : WordTally) (drop : Drop) : Option WordTally := do
  let counted : WordTally := { tally with total := ← Word.add? tally.total 1 }
  match drop.kind? with
  | some kind => counted.countKind? kind
  | none => return counted

end WordTally

/-- **The place of a kind in the row is its place among all kinds.** -/
theorem WordTally.exists_place (kind : DropKind) :
    ∃ place, place? kind = some place ∧
      ∃ h : place.toNat < DropKind.all.length, DropKind.all[place.toNat] = kind := by
  cases kind with
  | random => exact ⟨0, rfl, by decide, rfl⟩
  | highFrequency => exact ⟨1, rfl, by decide, rfl⟩
  | burst => exact ⟨2, rfl, by decide, rfl⟩

namespace Tally

variable {tally : Tally} {kind : DropKind}

def inWords (tally : Tally) : WordTally :=
  ⟨.ofNat tally.total, Vector.ofFn fun i => .ofNat (tally.count DropKind.all[i])⟩

/-- A counter in the row shows the number of its kind. -/
theorem getElem_kinds_inWords (tally : Tally) {i : Nat} (hi : i < DropKind.all.length) :
    tally.inWords.kinds[i] = .ofNat (tally.count DropKind.all[i]) :=
  Vector.getElem_ofFn hi

theorem inWords_empty : empty.inWords = .empty := by
  have hkinds : empty.inWords.kinds = Vector.replicate _ 0 := by
    apply Vector.ext
    intro i hi
    rw [getElem_kinds_inWords, Vector.getElem_replicate]
    cases DropKind.all[i] <;> rfl
  rw [WordTally.empty, ← hkinds]
  rfl

theorem total_addKnown (tally : Tally) (kind : DropKind) :
    (tally.addKnown kind).total = tally.total + 1 := by
  cases kind <;> rfl

theorem count_addKnown (tally : Tally) (kind other : DropKind) :
    (tally.addKnown kind).count other = tally.count other + if other = kind then 1 else 0 := by
  cases kind <;> cases other <;> rfl

/-- No kind counts more drops than there are. -/
def Bounded (tally : Tally) : Prop :=
  ∀ kind, tally.count kind ≤ tally.total

theorem bounded_empty : empty.Bounded := by
  intro kind
  cases kind <;> exact Nat.le_refl 0

theorem Bounded.record (h : tally.Bounded) (drop : Drop) :
    (tally.record drop).value.Bounded := by
  intro kind
  have hkind := h kind
  rw [count_record, total_record]
  split <;> omega

/-! ## In words -/

theorem count?_inWords (tally : Tally) (kind : DropKind) :
    tally.inWords.count? kind = some (.ofNat (tally.count kind)) := by
  obtain ⟨place, hplace, hlt, hkind⟩ := WordTally.exists_place kind
  rw [WordTally.count?, hplace, Option.bind_eq_bind, Option.bind_some,
    Vector.getElem?_eq_getElem hlt, getElem_kinds_inWords, hkind]

theorem kinds_addKnown (tally : Tally) {place : Nat} (hlt : place < DropKind.all.length)
    (hkind : DropKind.all[place] = kind) :
    (tally.addKnown kind).inWords.kinds =
      tally.inWords.kinds.set place (.ofNat (tally.count kind + 1)) := by
  have hnodup : DropKind.all.Nodup := by decide
  apply Vector.ext
  intro i hi
  rw [Vector.getElem_set, getElem_kinds_inWords, getElem_kinds_inWords, count_addKnown]
  by_cases heq : place = i
  · subst heq
    rw [if_pos rfl, if_pos hkind, hkind]
  · have hne : DropKind.all[i] ≠ kind := by
      rw [← hkind]
      exact fun h => heq (hnodup.getElem_inj_iff.1 h).symm
    rw [if_neg heq, if_neg hne, Nat.add_zero]

/-- **A known kind has a counter**, which counts on as long as it is not exhausted. -/
theorem countKind?_inWords (h : tally.count kind + 1 < UInt64.size) :
    WordTally.countKind? { tally.inWords with total := .ofNat (tally.total + 1) } kind =
      some (tally.addKnown kind).inWords := by
  have hadd : Word.add? (.ofNat (tally.count kind)) 1 = some (.ofNat (tally.count kind + 1)) :=
    Word.add?_ofNat h
  obtain ⟨place, hplace, hlt, hkind⟩ := WordTally.exists_place kind
  have hkinds := kinds_addKnown tally hlt hkind
  rw [WordTally.countKind?, hplace, Option.bind_eq_bind, Option.bind_some, dif_pos hlt]
  simp only [getElem_kinds_inWords, hkind, hadd, Option.bind_some]
  rw [← hkinds, ← total_addKnown tally kind]
  rfl

/-- **Counting a drop never fails** before the counter of all drops is exhausted. -/
theorem Bounded.record?_inWords (h : tally.Bounded) (hlt : tally.total + 1 < UInt64.size)
    (drop : Drop) : tally.inWords.record? drop = some (tally.record drop).value.inWords := by
  have htotal : Word.add? tally.inWords.total 1 = some (.ofNat (tally.total + 1)) :=
    Word.add?_ofNat hlt
  rw [WordTally.record?, htotal, Option.bind_eq_bind, Option.bind_some, Tally.record]
  cases hkind : drop.kind? with
  | none => rfl
  | some kind =>
    have hcount := h kind
    exact countKind?_inWords (by omega)

/-- So drops are counted as long as there are fewer than that counter can tell. -/
theorem Bounded.foldlM_record?_inWords (h : tally.Bounded) (drops : List Drop)
    (hlt : tally.total + drops.length < UInt64.size) :
    drops.foldlM WordTally.record? tally.inWords =
      some (drops.foldlM Tally.record tally).value.inWords := by
  induction drops generalizing tally with
  | nil => rfl
  | cons drop drops ih =>
    rw [List.length_cons] at hlt
    have hrest : (tally.record drop).value.total + drops.length < UInt64.size := by
      rw [total_record]
      omega
    rw [List.foldlM_cons, h.record?_inWords (by omega), Option.bind_eq_bind, Option.bind_some,
      ih (h.record drop) hrest, List.foldlM_cons, Logged.value_bind]

end Tally

/-! ## Known and unknown kinds -/

/-- The codes are the numbers from one to three. -/
theorem DropKind.exists_code_eq_iff {n : Int} :
    (∃ kind : DropKind, n = (kind.code.toNat : Int)) ↔ 1 ≤ n ∧ n ≤ 3 := by
  constructor
  · rintro ⟨kind, rfl⟩
    cases kind <;> decide
  · intro hn
    obtain rfl | rfl | rfl : n = 1 ∨ n = 2 ∨ n = 3 := by omega
    · exact ⟨.random, rfl⟩
    · exact ⟨.highFrequency, rfl⟩
    · exact ⟨.burst, rfl⟩

/-- **A tag names no kind exactly when it lies outside the codes.** -/
theorem DropKind.ofTag?_eq_none_iff {tag : Int64} :
    ofTag? tag = none ↔ ¬ (1 ≤ tag.toInt ∧ tag.toInt ≤ 3) := by
  rw [← exists_code_eq_iff, Option.eq_none_iff_forall_ne_some, not_exists]
  simp only [ne_eq, ofTag?_eq_some_iff]

theorem Drop.decide_kind?_eq_none (drop : Drop) :
    decide (drop.kind? = none) = decide (¬ (1 ≤ drop.tag.toInt ∧ drop.tag.toInt ≤ 3)) :=
  decide_eq_decide.2 DropKind.ofTag?_eq_none_iff

namespace Tally

theorem sum_count_ofDrops (drops : List Drop) :
    (DropKind.all.map (ofDrops drops).count).sum = drops.countP (·.kind?.isSome) := by
  have hrecord (tally : Tally) (drop : Drop) :
      (DropKind.all.map (tally.record drop).value.count).sum =
        (DropKind.all.map tally.count).sum + if drop.kind?.isSome then 1 else 0 := by
    simp only [DropKind.all, List.map_cons, List.map_nil, List.sum_cons, List.sum_nil,
      count_record]
    cases drop.kind? with
    | none => simp
    | some kind => cases kind <;> simp <;> omega
  exact (foldlM_record_eq_add_countP (f := fun tally => (DropKind.all.map tally.count).sum)
    hrecord drops empty).trans (Nat.zero_add _)

/-- **Every drop counts for its kind or is of none.** -/
theorem sum_count_add_countP (drops : List Drop) :
    (DropKind.all.map (ofDrops drops).count).sum + drops.countP (·.kind? = none) =
      (ofDrops drops).total := by
  have hsplit := List.length_eq_countP_add_countP (fun drop : Drop => drop.kind?.isSome)
    (l := drops)
  have hnone : drops.countP (·.kind? = none) =
      drops.countP fun drop => ¬ drop.kind?.isSome := by
    apply List.countP_congr
    intro drop _
    simp
  rw [sum_count_ofDrops, total_ofDrops, hnone]
  exact hsplit.symm

theorem exists_words (drops : List Drop) (h : drops.length < UInt64.size) :
    ∃ words, drops.foldlM WordTally.record? .empty = some words ∧
      words.total.toNat = (ofDrops drops).total ∧
      ∀ kind, (words.count? kind).map UInt64.toNat = some ((ofDrops drops).count kind) := by
  have hlt : empty.total + drops.length < UInt64.size := by
    rwa [empty, Nat.zero_add]
  have hwords := bounded_empty.foldlM_record?_inWords drops hlt
  rw [inWords_empty] at hwords
  refine ⟨_, hwords, ?_, ?_⟩
  · exact UInt64.toNat_ofNat_of_lt' (by rwa [← ofDrops, total_ofDrops])
  · intro kind
    have hcount : (ofDrops drops).count kind < UInt64.size := by
      rw [count_ofDrops]
      exact Nat.lt_of_le_of_lt List.countP_le_length h
    rw [count?_inWords, Option.map_some, ← ofDrops, UInt64.toNat_ofNat_of_lt' hcount]

/-- **Counting is exact for every list of drops and for all tags.**  All drops are counted,
and a kind counts the drops whose tag is its code, read as a signed number.  What the kinds
do not count are the drops whose tag lies outside the codes; these and no others are told
of, each one once and in their order.  A tag names a kind only by being its code, so none is
mistaken for a code that it merely agrees with in its low bits.

As long as a counter of 64 bits can tell how many drops there are, no counter overflows and
every kind is found in the row, and the counters show the same numbers. -/
theorem foldlM_record_exact (drops : List Drop) (h : drops.length < UInt64.size) :
    let told := drops.foldlM record empty
    let tally := told.value
    let isOutside (drop : Drop) : Bool := ¬ (1 ≤ drop.tag.toInt ∧ drop.tag.toInt ≤ 3)
    tally.total = drops.length ∧
    (∀ kind, tally.count kind =
      drops.countP fun drop => drop.tag.toInt = (kind.code.toNat : Int)) ∧
    (DropKind.all.map tally.count).sum + drops.countP isOutside = tally.total ∧
    told.events.toList.map Event.message =
      (drops.filter isOutside).map (fun drop =>
        s!"Unknown drop kind {drop.tag} for {drop.seq}") ∧
    (∀ (tag : Int64) (kind : DropKind),
      DropKind.ofTag? tag = some kind ↔ tag.toInt = (kind.code.toNat : Int)) ∧
    ∃ words, drops.foldlM WordTally.record? .empty = some words ∧
      words.total.toNat = tally.total ∧
      ∀ kind, (words.count? kind).map UInt64.toNat = some (tally.count kind) := by
  intro told tally isOutside
  have hunknown : (fun drop : Drop => decide (drop.kind? = none)) = isOutside :=
    funext Drop.decide_kind?_eq_none
  refine ⟨total_ofDrops drops, count_ofDrops_eq_countP_tag drops, ?_, ?_,
    fun _ _ => DropKind.ofTag?_eq_some_iff, exists_words drops h⟩
  · rw [← hunknown]
    exact sum_count_add_countP drops
  · rw [← hunknown, events_foldlM_record, List.toList_toArray]
    exact Drop.map_message_complaint? drops

/-- Tags that agree with a code in their low bits, at the end of the range, and none. -/
theorem foldlM_record_exact_aliases :
    let drops : List Drop := [⟨5, 1⟩, ⟨6, 257⟩, ⟨7, -255⟩, ⟨8, 3⟩, ⟨9, 3⟩,
      ⟨4, -9223372036854775808⟩, ⟨4, 0⟩]
    let told := drops.foldlM record empty
    drops.length < UInt64.size ∧ told.value.total = 7 ∧
      told.value.count .random = 1 ∧ told.value.count .highFrequency = 0 ∧
      told.value.count .burst = 2 ∧
      told.events.toList.map Event.message =
        ["Unknown drop kind 257 for 6", "Unknown drop kind -255 for 7",
          "Unknown drop kind -9223372036854775808 for 4", "Unknown drop kind 0 for 4"] ∧
      ∃ words, drops.foldlM WordTally.record? .empty = some words ∧
        words.total.toNat = 7 ∧ (words.count? .burst).map UInt64.toNat = some 2 := by
  intro drops told
  have hlt : drops.length < UInt64.size := by decide
  obtain ⟨htotal, hcount, -, hmessages, -, words, hwords, hsame, hkinds⟩ :=
    foldlM_record_exact drops hlt
  have hburst : told.value.count .burst = 2 := (hcount .burst).trans (by decide)
  exact ⟨hlt, htotal, (hcount .random).trans (by decide),
    (hcount .highFrequency).trans (by decide), hburst, hmessages.trans (by decide),
    words, hwords, hsame.trans htotal, (hkinds .burst).trans (congrArg some hburst)⟩

end Tally

end LossWindows
