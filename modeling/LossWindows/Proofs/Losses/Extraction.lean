import LossWindows.Proofs.Losses.Messages
import LossWindows.Proofs.Text.Numeral

/-!
# What is extracted from a text, and what is told of it

Three things come out of a drop log: the distinct sequence numbers, the tally, and what is
told on the way.  All of them are functions of the drops that its lines tell of.  The first is
their set, the other two count them with their repetitions.

What is told comes in three parts: the drops of unknown kind one by one, then how many drops
were repetitions, if any, and at last how much was read.  No two parts use the same words, so
the middle one can be found by its wording.

## Main definitions

* `Drop.complaint?` — what is told of a drop of unknown kind.
-/

namespace LossWindows

/-- What is told of a drop while it is counted. -/
def Drop.complaint? (drop : Drop) : Option Event :=
  if drop.kind? = none then some (.unknownKind drop.tag drop.seq) else none

/-- The number of lines of a text that tell of no drop. -/
def Text.skippedOf (text : String) : Nat :=
  (linesOf text).countP fun line => (Drop.ofLine? line).isNone

/-- What the lines of a text come to, one after another. -/
def Reading.ofText (text : String) : Logged Reading :=
  (Text.linesOf text).foldlM Reading.line Reading.empty

/-! ## Wording -/

namespace Event

theorem toList_message_duplicates (count : Nat) :
    (duplicates count).message.toList =
      "Dropped ".toList ++ ((toString count).toList ++ " duplicate sequence numbers".toList) := by
  have hmessage : (duplicates count).message =
      "Dropped " ++ toString count ++ " duplicate sequence numbers" := rfl
  rw [hmessage, String.toList_append, String.toList_append, List.append_assoc]

theorem head?_message_unknownKind (tag : Int64) (seq : UInt32) :
    (unknownKind tag seq).message.toList.head? = some 'U' := by
  have hmessage : (unknownKind tag seq).message =
      "Unknown drop kind " ++ toString tag ++ " for " ++ toString seq := rfl
  simp only [hmessage, String.toList_append]
  rfl

theorem head?_message_logRead (records : Nat) (skipped : Int32) :
    (logRead records skipped).message.toList.head? = some 'R' := by
  have hmessage : (logRead records skipped).message =
      "Read " ++ toString records ++ " records, skipped " ++ toString skipped ++ " lines" := rfl
  simp only [hmessage, String.toList_append]
  rfl

/-- No other debugging event is worded like that of repetitions. -/
theorem message_eq_message_duplicates_iff {event : Event} (h : event.level = .debug)
    {count : Nat} : event.message = (duplicates count).message ↔ event = duplicates count := by
  refine ⟨?_, congrArg message⟩
  intro hmessage
  have htext := congrArg String.toList hmessage
  have hhead := congrArg List.head? htext
  rw [toList_message_duplicates] at htext hhead
  cases event with
  | windowClosed | share | summary => cases h
  | unknownKind tag seq =>
    rw [head?_message_unknownKind] at hhead
    cases hhead
  | logRead records skipped =>
    rw [head?_message_logRead] at hhead
    cases hhead
  | duplicates other =>
    rw [toList_message_duplicates] at htext
    have hrepr := List.append_cancel_right (List.append_cancel_left htext)
    rw [Text.Numeral.nat_eq_of_toString_eq (String.toList_injective hrepr)]

/-- So repetitions can be found among debugging events by their wording. -/
theorem count_message_duplicates {events : List Event} (h : ∀ event ∈ events, event.level = .debug)
    (count : Nat) :
    (events.map message).count (duplicates count).message = events.count (duplicates count) := by
  rw [List.count, List.countP_map, List.count]
  apply List.countP_congr
  intro event hevent
  simp only [Function.comp_apply, beq_iff_eq, message_eq_message_duplicates_iff (h event hevent)]

end Event

/-! ## What is told -/

/-- Counting drops tells of those whose kind is not known, in their order. -/
theorem Tally.events_foldlM_record (drops : List Drop) (tally : Tally) :
    (drops.foldlM record tally).events = (drops.filterMap Drop.complaint?).toArray := by
  induction drops generalizing tally with
  | nil => rfl
  | cons drop drops ih =>
    rw [List.foldlM_cons, Logged.events_bind, ih, events_record]
    by_cases hkind : drop.kind? = none
    · simp [Drop.complaint?, hkind]
    · simp [Drop.complaint?, hkind]

theorem Drop.map_message_complaint? (drops : List Drop) :
    (drops.filterMap complaint?).map Event.message =
      (drops.filter (·.kind? = none)).map fun drop =>
        s!"Unknown drop kind {drop.tag} for {drop.seq}" := by
  induction drops with
  | nil => rfl
  | cons drop drops ih =>
    by_cases hkind : drop.kind? = none
    · have hcomplaint : drop.complaint? = some (.unknownKind drop.tag drop.seq) := if_pos hkind
      rw [List.filterMap_cons_some hcomplaint, List.map_cons, ih,
        List.filter_cons_of_pos (by simpa using hkind), List.map_cons]
      rfl
    · have hcomplaint : drop.complaint? = none := if_neg hkind
      rw [List.filterMap_cons_none hcomplaint, ih,
        List.filter_cons_of_neg (by simpa using hkind)]

namespace Reading

theorem value_ofText (text : String) :
    (ofText text).value = ⟨Tally.ofDrops (Drop.ofText text),
      ((Drop.ofText text).map (·.seq)).toArray, Int32.ofNat (Text.skippedOf text)⟩ := by
  rw [ofText, foldlM_line, Logged.value_map]
  simp [empty, Drop.ofText, Tally.ofDrops, Text.skippedOf]

theorem events_foldlM_line (texts : List String) (reading : Reading) :
    (texts.foldlM line reading).events.toList =
      (texts.filterMap Drop.ofLine?).filterMap Drop.complaint? := by
  rw [foldlM_line, Logged.events_map, Tally.events_foldlM_record]

theorem events_ofText (text : String) :
    (ofText text).events.toList = (Drop.ofText text).filterMap Drop.complaint? :=
  events_foldlM_line _ _

theorem events_tellRepeated (repeated : Nat) :
    (tellRepeated repeated).events =
      (if repeated = 0 then [] else [.duplicates repeated]).toArray := by
  by_cases hzero : repeated = 0
  · simp [tellRepeated, hzero]
  · simp [tellRepeated, hzero]

/-- At the end the repetitions are told, and then how much was read. -/
theorem events_finish (reading : Reading) :
    reading.finish.events.toList =
      (if reading.seqs.size - reading.finish.value.seqs.length = 0 then []
        else [.duplicates (reading.seqs.size - reading.finish.value.seqs.length)]) ++
      [.logRead reading.tally.total reading.skipped] := by
  have hseqs : reading.finish.value.seqs = reading.seqs.toList.mergeSort.eraseReps := rfl
  rw [hseqs, finish, Logged.events_bind, events_tellRepeated, List.length_mergeSort,
    Array.length_toList]
  simp

end Reading

namespace Losses

variable {text : String} {losses : Losses}

theorem read_toUTF8_eq_ofText (text : String) :
    read text.toUTF8 = Reading.ofText text >>= (.ok <$> ·.finish) :=
  read_toUTF8 text

/-- **What is told while a text is read**, from its first line to its end. -/
theorem events_read_toUTF8 (h : (read text.toUTF8).value = .ok losses) :
    (read text.toUTF8).events.toList =
      (Drop.ofText text).filterMap Drop.complaint? ++
      ((if (Drop.ofText text).length - losses.seqs.length = 0 then []
        else [.duplicates ((Drop.ofText text).length - losses.seqs.length)]) ++
      [.logRead (Drop.ofText text).length (Int32.ofNat (Text.skippedOf text))]) := by
  rw [read_toUTF8_eq_ofText, Logged.value_bind, Logged.value_map] at h
  obtain rfl := Except.ok.inj h
  rw [read_toUTF8_eq_ofText, Logged.events_bind, Logged.events_map, Array.toList_append,
    Reading.events_ofText, Reading.events_finish, Reading.value_ofText, Tally.total_ofDrops,
    List.size_toArray, List.length_map]

/-- Repetitions are told once, and with their number. -/
theorem count_duplicates_read (h : (read text.toUTF8).value = .ok losses) (n : Nat) :
    (read text.toUTF8).events.toList.count (.duplicates n) =
      if 0 < n ∧ losses.seqs.length + n = (Drop.ofText text).length then 1 else 0 := by
  have hcomplaints : ((Drop.ofText text).filterMap Drop.complaint?).count (.duplicates n) = 0 := by
    rw [List.count_eq_zero, List.mem_filterMap]
    rintro ⟨drop, -, hdrop⟩
    rw [Drop.complaint?] at hdrop
    split at hdrop <;> cases hdrop
  rw [events_read_toUTF8 h, List.count_append, List.count_append, hcomplaints]
  by_cases hzero : (Drop.ofText text).length - losses.seqs.length = 0
  · have hn : ¬ (0 < n ∧ losses.seqs.length + n = (Drop.ofText text).length) := by omega
    simp [hzero, hn]
  · by_cases hn : (Drop.ofText text).length - losses.seqs.length = n
    · have hpos : 0 < n ∧ losses.seqs.length + n = (Drop.ofText text).length := by omega
      rw [if_neg hzero, if_pos hpos, hn]
      simp
    · have hne : ¬ (0 < n ∧ losses.seqs.length + n = (Drop.ofText text).length) := by omega
      simp [hzero, hn, hne]

end Losses

theorem Tally.count_ofDrops_eq_countP_tag (drops : List Drop) (kind : DropKind) :
    (ofDrops drops).count kind =
      drops.countP fun drop => drop.tag.toInt = (kind.code.toNat : Int) := by
  rw [count_ofDrops]
  apply List.countP_congr
  intro drop _
  rw [decide_eq_true_iff, decide_eq_true_iff]
  exact DropKind.ofTag?_eq_some_iff

namespace Losses

/-- **Extraction is exact.**  Every text can be read.  The sequence numbers come out ascending,
and they are those that some line of the text tells of; the total counts these lines, each of
them for itself, and each kind counts those whose tag is its code.  How many of them were
repetitions is told once, with the difference between the two lengths, and it is not told
when there were none.

As with `Reading.line`, this is about a release build, where the counter of skipped lines wraps
around and no number of them ends the reading. -/
theorem exact_read_toUTF8 (text : String) :
    ∃ losses, (read text.toUTF8).value = .ok losses ∧
      Ascending losses.seqs ∧ (∀ q, q ∈ losses.seqs ↔ ∃ drop ∈ Drop.ofText text, drop.seq = q) ∧
      losses.tally.total = (Drop.ofText text).length ∧
      (∀ kind, losses.tally.count kind =
        (Drop.ofText text).countP fun drop => drop.tag.toInt = (kind.code.toNat : Int)) ∧
      ∀ n : Nat, ((read text.toUTF8).events.toList.map Event.message).count
          s!"Dropped {n} duplicate sequence numbers" =
        if 0 < n ∧ losses.seqs.length + n = (Drop.ofText text).length then 1 else 0 := by
  obtain ⟨losses, hread, htally, hasc, hmem⟩ := value_read_toUTF8 text
  refine ⟨losses, hread, hasc, hmem, ?_, ?_, ?_⟩
  · rw [htally, Tally.total_ofDrops]
  · intro kind
    rw [htally, Tally.count_ofDrops_eq_countP_tag]
  · intro n
    have hdebug : ∀ event ∈ (read text.toUTF8).events.toList, event.level = .debug := by
      intro event hevent
      exact tells_read text.toUTF8 event (Array.mem_toList_iff.1 hevent)
    rw [← count_duplicates_read hread n]
    exact Event.count_message_duplicates hdebug n

end Losses

end LossWindows
