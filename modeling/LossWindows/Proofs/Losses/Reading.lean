import LossWindows.Losses
import LossWindows.Proofs.Text.Utf8
import LossWindows.Proofs.Window.Growth

/-!
# What reading a drop log comes to

The content of a file is read byte by byte, but nothing of that matters for its result: a
valid content is a text, its lines are those of the text, and the reading is a fold over
the drops that they tell of.  The other lines leave no trace but a counter.

The sequence numbers of these drops are sorted and then freed of neighbours that are
equal.  What is left is ascending and has the same members, and there is only one such
list.

## Main definitions

* `Drop.ofText` — the drops that the lines of a text tell of.
* `Tally.ofDrops` — the tally of a list of drops.
-/

namespace LossWindows

def Text.linesOf (text : String) : List String :=
  (Text.lines '\n' '\r' text.toList).map String.ofList

/-- The drops that the lines of a text tell of, in their order. -/
def Drop.ofText (text : String) : List Drop :=
  (Text.linesOf text).filterMap Drop.ofLine?

/-- The tally of a list of drops. -/
def Tally.ofDrops (drops : List Drop) : Tally :=
  (drops.foldlM Tally.record Tally.empty).value

/-! ## Tallies -/

namespace Tally

/-- What counts the drops of one sort at every step counts them in a whole list. -/
theorem foldlM_record_eq_add_countP {f : Tally → Nat} {p : Drop → Bool}
    (h : ∀ tally drop, f (tally.record drop).value = f tally + if p drop then 1 else 0)
    (drops : List Drop) (tally : Tally) :
    f (drops.foldlM record tally).value = f tally + drops.countP p := by
  induction drops generalizing tally with
  | nil => rfl
  | cons drop drops ih =>
    rw [List.foldlM_cons, Logged.value_bind, ih, h, List.countP_cons]
    omega

@[simp] theorem total_ofDrops (drops : List Drop) : (ofDrops drops).total = drops.length := by
  rw [ofDrops, foldlM_record_eq_add_countP (f := total) (p := fun _ => true) (by simp) drops,
    List.countP_true]
  exact Nat.zero_add _

theorem count_ofDrops (drops : List Drop) (kind : DropKind) :
    (ofDrops drops).count kind = drops.countP (·.kind? = some kind) := by
  have hzero : empty.count kind = 0 := by cases kind <;> rfl
  have hcount := foldlM_record_eq_add_countP (f := (count · kind)) (p := (·.kind? = some kind))
    (by simp [count_record]) drops empty
  rwa [hzero, Nat.zero_add] at hcount

theorem eq_of_count_eq {tally other : Tally} (htotal : tally.total = other.total)
    (hcount : ∀ kind ∈ DropKind.all, tally.count kind = other.count kind) : tally = other := by
  have hrandom : tally.random = other.random := hcount .random (by decide)
  have hfrequent : tally.highFrequency = other.highFrequency :=
    hcount .highFrequency (by decide)
  have hburst : tally.burst = other.burst := hcount .burst (by decide)
  cases tally
  cases other
  simp_all

/-- **The order of the drops does not matter to their tally.** -/
theorem ofDrops_perm {drops others : List Drop} (h : drops.Perm others) :
    ofDrops drops = ofDrops others := by
  apply eq_of_count_eq
  · rw [total_ofDrops, total_ofDrops, h.length_eq]
  · intro kind _
    rw [count_ofDrops, count_ofDrops, h.countP_eq]

end Tally

/-! ## Sorted and distinct -/

section Distinct

variable {seqs : List UInt32} {seq next : UInt32} {rest : List UInt32}

theorem eraseRepsBy_loop (r : UInt32 → UInt32 → Bool) (seq : UInt32) (rest acc : List UInt32) :
    List.eraseRepsBy.loop r seq rest acc = acc.reverse ++ List.eraseRepsBy.loop r seq rest [] := by
  induction rest generalizing seq acc with
  | nil => simp [List.eraseRepsBy.loop]
  | cons next rest ih =>
    simp only [List.eraseRepsBy.loop]
    split
    · exact ih seq acc
    · rw [ih next (seq :: acc), ih next [seq]]
      simp

theorem eraseReps_cons_cons (seq next : UInt32) (rest : List UInt32) :
    (seq :: next :: rest).eraseReps =
      if seq = next then (next :: rest).eraseReps else seq :: (next :: rest).eraseReps := by
  by_cases h : seq = next
  · simp [List.eraseReps, List.eraseRepsBy, List.eraseRepsBy.loop, h]
  · simp only [List.eraseReps, List.eraseRepsBy, List.eraseRepsBy.loop, h, if_false,
      beq_eq_false_iff_ne.2 h]
    exact eraseRepsBy_loop _ next rest [seq]

@[simp] theorem mem_eraseReps : seq ∈ seqs.eraseReps ↔ seq ∈ seqs := by
  induction seqs with
  | nil => rfl
  | cons first rest ih =>
    cases rest with
    | nil => rfl
    | cons next rest =>
      rw [eraseReps_cons_cons]
      split
      · next heq => simp [ih, heq]
      · rw [List.mem_cons, ih]
        exact List.mem_cons.symm

/-- **A sorted list without equal neighbours is strictly ascending.** -/
theorem ascending_eraseReps (h : seqs.Pairwise (· ≤ ·)) : Ascending seqs.eraseReps := by
  induction seqs with
  | nil => exact List.Pairwise.nil
  | cons first rest ih =>
    cases rest with
    | nil => exact List.pairwise_singleton _ _
    | cons next rest =>
      obtain ⟨hfirst, hrest⟩ := List.pairwise_cons.1 h
      rw [eraseReps_cons_cons]
      split
      · exact ih hrest
      · next hne =>
        refine List.pairwise_cons.2 ⟨?_, ih hrest⟩
        intro q hq
        have hnext : next ≤ q := by
          rcases List.mem_cons.1 (mem_eraseReps.1 hq) with rfl | hq
          · exact UInt32.le_refl _
          · exact (List.pairwise_cons.1 hrest).1 q hq
        exact UInt32.lt_of_lt_of_le (UInt32.lt_of_le_of_ne (hfirst next (by simp)) hne) hnext

theorem pairwise_mergeSort (seqs : List UInt32) : seqs.mergeSort.Pairwise (· ≤ ·) := by
  have hsorted := @List.pairwise_mergeSort UInt32 (fun a b => decide (a ≤ b))
    (by simpa using fun _ _ _ => UInt32.le_trans) (by simpa using UInt32.le_total) seqs
  simpa using hsorted

end Distinct

/-! ## A fold over the drops -/

namespace Reading

/-- Lines that are texts are read one after another. -/
theorem linesFrom_append_encode (told : Logged Reading) (texts : List (List Char))
    (rest : List (List UInt8)) :
    linesFrom told (texts.map Text.encode ++ rest) =
      linesFrom (told >>= (texts.map String.ofList).foldlM line) rest := by
  induction texts generalizing told with
  | nil => simp
  | cons text texts ih =>
    rw [List.map_cons, List.cons_append, linesFrom, Text.fromUTF8?_encode]
    dsimp only
    rw [ih, bind_assoc]
    rfl

theorem linesFrom_encode (told : Logged Reading) (texts : List (List Char)) :
    linesFrom told (texts.map Text.encode) =
      .ok <$> (told >>= (texts.map String.ofList).foldlM line) := by
  have hall := linesFrom_append_encode told texts []
  rwa [List.append_nil, linesFrom] at hall

/-- Reading stops at a line that is no text, if there is one. -/
theorem value_linesFrom_eq_error_iff (told : Logged Reading) {lines : List (List UInt8)}
    {e : ReadError} :
    (linesFrom told lines).value = .error e ↔
      (¬ ∀ bytes ∈ lines, Text.IsText bytes) ∧ e = .notUtf8 := by
  induction lines generalizing told with
  | nil => simp [linesFrom]
  | cons bytes rest ih =>
    rw [linesFrom, List.forall_mem_cons]
    by_cases hbytes : Text.IsText bytes
    · obtain ⟨text, rfl⟩ := hbytes
      rw [Text.fromUTF8?_encode]
      simp only [Text.isText_encode, true_and]
      exact ih _
    · rw [Text.fromUTF8?_eq_none_iff.2 hbytes]
      simp [hbytes, eq_comm]

/-- A line counts for its drop, if it tells of one, and is skipped otherwise. -/
theorem line_eq (reading : Reading) (text : String) :
    reading.line text =
      match Drop.ofLine? text with
      | some drop =>
        (⟨·, reading.seqs.push drop.seq, reading.skipped⟩) <$> reading.tally.record drop
      | none => pure { reading with skipped := reading.skipped + 1 } := by
  cases reading
  rfl

/-- **Reading lines is a fold over their drops.** -/
theorem foldlM_line (texts : List String) (reading : Reading) :
    texts.foldlM line reading =
      (fun tally => ⟨tally, reading.seqs ++ (texts.filterMap Drop.ofLine?).map (·.seq),
        reading.skipped + Int32.ofNat (texts.countP fun text => (Drop.ofLine? text).isNone)⟩) <$>
      (texts.filterMap Drop.ofLine?).foldlM Tally.record reading.tally := by
  induction texts generalizing reading with
  | nil => simp
  | cons text texts ih =>
    rw [List.foldlM_cons, line_eq]
    cases h : Drop.ofLine? text with
    | some drop =>
      rw [List.filterMap_cons_some h, List.foldlM_cons, map_bind, bind_map_left]
      refine bind_congr fun tally => ?_
      simp [ih, h]
    | none =>
      have hskip (count : Int32) : reading.skipped + 1 + count = reading.skipped + (count + 1) := by
        rw [Int32.add_assoc, Int32.add_comm 1]
      rw [List.filterMap_cons_none h, pure_bind, ih]
      simp [h, Int32.ofNat_add, hskip]

end Reading

namespace Losses

/-- Valid content is read as the text that it is. -/
theorem read_toUTF8 (text : String) :
    read text.toUTF8 =
      (Text.linesOf text).foldlM Reading.line Reading.empty >>= (.ok <$> ·.finish) := by
  have hlines : lines text.toUTF8 = (Text.lines '\n' '\r' text.toList).map Text.encode := by
    rw [lines, ← Text.encode_toList]
    exact Text.lines_encode (by decide) (by decide) text.toList
  rw [read, hlines, Reading.linesFrom_encode, pure_bind, bind_map_left]
  rfl

/-- **What reading a text comes to**: the tally of the drops that its lines tell of, and
their sequence numbers, ascending and each of them once. -/
theorem value_read_toUTF8 (text : String) :
    ∃ losses, (read text.toUTF8).value = .ok losses ∧
      losses.tally = Tally.ofDrops (Drop.ofText text) ∧ Ascending losses.seqs ∧
      ∀ q, q ∈ losses.seqs ↔ ∃ drop ∈ Drop.ofText text, drop.seq = q := by
  let seqs := ((Drop.ofText text).map (·.seq)).mergeSort.eraseReps
  refine ⟨⟨Tally.ofDrops (Drop.ofText text), seqs⟩, ?_, rfl,
    ascending_eraseReps (pairwise_mergeSort _), ?_⟩
  · rw [read_toUTF8, Reading.foldlM_line, Logged.value_bind, Logged.value_map, Logged.value_map]
    simp [Reading.finish, Reading.empty, Drop.ofText, Tally.ofDrops, seqs]
  · intro q
    simp [seqs]

/-- These three things determine the losses in a text. -/
theorem value_read_toUTF8_eq_ok_iff {text : String} {losses : Losses} :
    (read text.toUTF8).value = .ok losses ↔
      losses.tally = Tally.ofDrops (Drop.ofText text) ∧ Ascending losses.seqs ∧
        ∀ q, q ∈ losses.seqs ↔ ∃ drop ∈ Drop.ofText text, drop.seq = q := by
  obtain ⟨found, hread, htally, hasc, hmem⟩ := value_read_toUTF8 text
  constructor
  · intro h
    obtain rfl := Except.ok.inj (hread.symm.trans h)
    exact ⟨htally, hasc, hmem⟩
  · intro ⟨htally', hasc', hmem'⟩
    have hseqs : found.seqs = losses.seqs := by
      apply hasc.ext hasc'
      intro q
      rw [hmem, hmem']
    rw [hread]
    cases found
    cases losses
    simp_all

theorem isValidUTF8_iff_forall_lines {content : ByteArray} :
    content.IsValidUTF8 ↔ ∀ bytes ∈ lines content, Text.IsText bytes :=
  Text.isText_iff_isValidUTF8.symm.trans
    (Text.isText_iff_forall_lines '\n' '\r' (by decide) (by decide))

/-- **Content is refused exactly when it is not valid**, wherever in it the fault lies. -/
theorem value_read_eq_error_iff {content : ByteArray} {e : ReadError} :
    (read content).value = .error e ↔ ¬ content.IsValidUTF8 ∧ e = .notUtf8 := by
  rw [isValidUTF8_iff_forall_lines,
    ← Reading.value_linesFrom_eq_error_iff (pure Reading.empty)]
  rw [read, Logged.value_bind]
  split
  · next e' h => rw [h]; simp
  · next reading h => rw [h]; simp

theorem exists_toUTF8_of_value_read {content : ByteArray} {losses : Losses}
    (h : (read content).value = .ok losses) : ∃ text : String, content = text.toUTF8 := by
  have hvalid : content.IsValidUTF8 := by
    by_contra hvalid
    rw [value_read_eq_error_iff.2 ⟨hvalid, rfl⟩] at h
    cases h
  exact ⟨⟨content, hvalid⟩, rfl⟩

/-- What holds of the losses in a text holds of all that can be read. -/
theorem exists_drops_of_value_read {content : ByteArray} {losses : Losses}
    (h : (read content).value = .ok losses) :
    ∃ drops, losses.tally = Tally.ofDrops drops ∧ Ascending losses.seqs ∧
      ∀ q, q ∈ losses.seqs ↔ ∃ drop ∈ drops, drop.seq = q := by
  obtain ⟨text, rfl⟩ := exists_toUTF8_of_value_read h
  obtain ⟨losses', hread, hspec⟩ := value_read_toUTF8 text
  obtain rfl := Except.ok.inj (hread.symm.trans h)
  exact ⟨Drop.ofText text, hspec⟩

/-- A log without drops has no losses at all. -/
theorem eq_empty_of_total_eq_zero {content : ByteArray} {losses : Losses}
    (h : (read content).value = .ok losses) (h0 : losses.tally.total = 0) :
    losses = ⟨Tally.empty, []⟩ := by
  obtain ⟨drops, htally, -, hmem⟩ := exists_drops_of_value_read h
  rw [htally, Tally.total_ofDrops] at h0
  obtain rfl := List.eq_nil_of_length_eq_zero h0
  have hseqs : losses.seqs = [] := by
    rw [List.eq_nil_iff_forall_not_mem]
    simp [hmem]
  obtain ⟨tally, seqs⟩ := losses
  obtain rfl : tally = _ := htally
  obtain rfl : seqs = [] := hseqs
  rfl

end Losses

end LossWindows
