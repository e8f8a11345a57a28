import LossWindows.Proofs.Losses.Extraction

/-!
# Logs that cannot be read

A drop log is refused exactly when it is not valid UTF-8.  Its lines are examined one by one,
and each of them must be valid for itself, be it a drop line or not; but nothing can be wrong
with the whole and with none of its lines, since a character that a newline tears apart, or
the end of the content, leaves a line that is not valid.

Reading goes no further than the first such line.  All that is told up to there are the drops
of unknown kind in the lines before it; whatever is told at the end of a log is not.
-/

namespace LossWindows

namespace Reading

variable {told : Logged Reading}

theorem linesFrom_of_not_isText {bytes : List UInt8} (h : ¬ Text.IsText bytes)
    (rest : List (List UInt8)) :
    linesFrom told (bytes :: rest) = (fun _ => .error .notUtf8) <$> told := by
  rw [linesFrom, Text.fromUTF8?_eq_none_iff.2 h]

end Reading

/-- Lines that are not all valid begin with texts up to the first one that is none. -/
theorem Text.exists_first_not_isText {lines : List (List UInt8)}
    (h : ¬ ∀ bytes ∈ lines, IsText bytes) :
    ∃ (texts : List (List Char)) (bad : List UInt8) (rest : List (List UInt8)),
      lines = texts.map encode ++ bad :: rest ∧ ¬ IsText bad := by
  induction lines with
  | nil => simp at h
  | cons bytes lines ih =>
    by_cases hbytes : IsText bytes
    · obtain ⟨text, rfl⟩ := hbytes
      have hrest : ¬ ∀ bytes ∈ lines, IsText bytes := by
        intro hall
        exact h (List.forall_mem_cons.2 ⟨isText_encode text, hall⟩)
      obtain ⟨texts, bad, rest, rfl, hbad⟩ := ih hrest
      exact ⟨text :: texts, bad, rest, rfl, hbad⟩
    · exact ⟨[], bytes, lines, rfl, hbytes⟩

theorem Drop.head?_of_mem_complaints {drops : List Drop} {message : String}
    (h : message ∈ (drops.filterMap complaint?).map Event.message) :
    message.toList.head? = some 'U' := by
  rw [map_message_complaint?] at h
  obtain ⟨drop, -, rfl⟩ := List.mem_map.1 h
  exact Event.head?_message_unknownKind drop.tag drop.seq

namespace Losses

variable {content : ByteArray}

/-- **A log that cannot be read has a first line that is not valid**, and what is told of it
are the drops of unknown kind before that line. -/
theorem exists_first_invalid (h : ¬ content.IsValidUTF8) :
    ∃ (before : List String) (bad : List UInt8) (after : List (List UInt8)),
      lines content = before.map (·.toUTF8.data.toList) ++ bad :: after ∧
      ¬ bad.toByteArray.IsValidUTF8 ∧
      (read content).events.toList =
        (before.filterMap Drop.ofLine?).filterMap Drop.complaint? := by
  rw [isValidUTF8_iff_forall_lines] at h
  obtain ⟨texts, bad, after, hlines, hbad⟩ := Text.exists_first_not_isText h
  refine ⟨texts.map String.ofList, bad, after, ?_, ?_, ?_⟩
  · rw [hlines, List.map_map]
    congr 1
    apply List.map_congr_left
    intro text _
    rw [Function.comp_apply, ← Text.encode_toList, String.toList_ofList]
  · rwa [← Text.isText_iff_isValidUTF8, List.data_toByteArray, List.toList_toArray]
  · rw [read, hlines, Reading.linesFrom_append_encode, Reading.linesFrom_of_not_isText hbad]
    simp [Reading.events_foldlM_line]

/-- **Reading fails exactly on content that is not valid, and then yields nothing.**  Whether
the fault is in a drop line, in a line that would be skipped or in an unterminated last line,
all that is told are the drops of unknown kind in the lines before it.  Neither repetitions
are told, nor how much was read. -/
theorem read_fails_iff_not_valid (content : ByteArray) :
    ((∃ e, (read content).value = .error e) ↔ ¬ content.IsValidUTF8) ∧
    ∀ e, (read content).value = .error e → e = .notUtf8 ∧
      ∃ (before : List String) (bad : List UInt8) (after : List (List UInt8)),
        lines content = before.map (·.toUTF8.data.toList) ++ bad :: after ∧
        ¬ bad.toByteArray.IsValidUTF8 ∧
        let told := (read content).events.toList.map Event.message
        told = ((before.filterMap Drop.ofLine?).filter (·.kind? = none)).map (fun drop =>
          s!"Unknown drop kind {drop.tag} for {drop.seq}") ∧
        (∀ count : String, s!"Dropped {count} duplicate sequence numbers" ∉ told) ∧
        ∀ records skipped : String,
          s!"Read {records} records, skipped {skipped} lines" ∉ told := by
  constructor
  · constructor
    · rintro ⟨e, h⟩
      exact (value_read_eq_error_iff.1 h).1
    · intro h
      exact ⟨_, value_read_eq_error_iff.2 ⟨h, rfl⟩⟩
  · intro e h
    obtain ⟨hvalid, he⟩ := value_read_eq_error_iff.1 h
    obtain ⟨before, bad, after, hlines, hbad, hevents⟩ := exists_first_invalid hvalid
    refine ⟨he, before, bad, after, hlines, hbad, ?_⟩
    rw [hevents]
    refine ⟨Drop.map_message_complaint? _, ?_, ?_⟩
    · intro count hmem
      have hhead : ("Dropped " ++ count ++ " duplicate sequence numbers").toList.head? =
          some 'D' := by
        simp only [String.toList_append]
        rfl
      exact absurd (hhead.symm.trans (Drop.head?_of_mem_complaints hmem)) (by decide)
    · intro records skipped hmem
      have hhead : ("Read " ++ records ++ " records, skipped " ++ skipped ++
          " lines").toList.head? = some 'R' := by
        simp only [String.toList_append]
        rfl
      exact absurd (hhead.symm.trans (Drop.head?_of_mem_complaints hmem)) (by decide)

/-- A drop of unknown kind, and a character that a newline tears apart. -/
example : (read ("0 0 0 0 5 9\n".toUTF8 ++ ⟨#[0xC3, 0x0A, 0xA9]⟩)).value = .error .notUtf8 ∧
    (read ("0 0 0 0 5 9\n".toUTF8 ++ ⟨#[0xC3, 0x0A, 0xA9]⟩)).events = #[.unknownKind 9 5] := by
  decide +kernel

end Losses

end LossWindows
