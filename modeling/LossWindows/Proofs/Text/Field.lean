import LossWindows.Text.Lines

/-!
# Fields by their ends

A field is a run of characters that are no blanks, and it is maximal: it starts with the line
or behind a blank, and it ends with the line or before a blank.  Read from left to right, a
line has its fields in one way only, and they are those that splitting at blanks finds.

Blanks between two fields only have to be there.  It does not matter which ones they are or
how many, and those at either end of a line do not matter at all.

## Main definitions

* `HasFields` — a line has these fields and no others.
-/

namespace LossWindows.Text

/-- A line has these fields, from left to right, and no others. -/
inductive HasFields : List Char → List (List Char) → Prop
  | nil : HasFields [] []
  | blank {c : Char} {line : List Char} {found : List (List Char)} :
    isBlank c = true → HasFields line found → HasFields (c :: line) found
  | last {word : List Char} :
    word ≠ [] → (∀ c ∈ word, isBlank c = false) → HasFields word [word]
  | field {word : List Char} {c : Char} {line : List Char} {found : List (List Char)} :
    word ≠ [] → (∀ c ∈ word, isBlank c = false) → isBlank c = true →
      HasFields line found → HasFields (word ++ c :: line) (word :: found)

variable {line gap : List Char} {found : List (List Char)}

theorem HasFields.fields_eq (h : HasFields line found) : fields line = found := by
  induction h with
  | nil => exact fields_nil
  | blank hc _ ih => rw [fields_cons_blank hc, ih]
  | last hne hword => exact fields_of_forall hne hword
  | field hne hword hc _ ih =>
    rw [fields_append_blank hc, fields_of_forall hne hword, ih, List.singleton_append]

theorem exists_hasFields (line : List Char) : ∃ found, HasFields line found := by
  induction line with
  | nil => exact ⟨[], .nil⟩
  | cons c line ih =>
    obtain ⟨found, h⟩ := ih
    by_cases hblank : isBlank c = true
    · exact ⟨found, .blank hblank h⟩
    · -- any other character joins the field that starts behind it, or is one by itself
      have hc : isBlank c = false := Bool.eq_false_iff.2 hblank
      have hsingle : ∀ d ∈ [c], isBlank d = false := by simp [hc]
      cases h with
      | nil => exact ⟨[[c]], .last (List.cons_ne_nil _ _) hsingle⟩
      | blank hd h => exact ⟨_, .field (List.cons_ne_nil _ _) hsingle hd h⟩
      | last _ hword =>
        exact ⟨_, .last (List.cons_ne_nil _ _) (List.forall_mem_cons.2 ⟨hc, hword⟩)⟩
      | field _ hword hd h =>
        exact ⟨_, .field (List.cons_ne_nil _ _) (List.forall_mem_cons.2 ⟨hc, hword⟩) hd h⟩

/-- **The fields of a line are its maximal runs without a blank.** -/
theorem fields_eq_iff : fields line = found ↔ HasFields line found := by
  refine ⟨?_, HasFields.fields_eq⟩
  rintro rfl
  obtain ⟨found, h⟩ := exists_hasFields line
  rwa [h.fields_eq]

/-! ## Blanks -/

/-- Blanks at the start of a line make no difference. -/
theorem fields_gap_append (h : ∀ c ∈ gap, isBlank c = true) (line : List Char) :
    fields (gap ++ line) = fields line := by
  induction gap with
  | nil => rfl
  | cons c gap ih =>
    rw [List.forall_mem_cons] at h
    rw [List.cons_append, fields_cons_blank h.1, ih h.2]

/-- **Fields split at any number of blanks** as they do at one. -/
theorem fields_append_gap (hne : gap ≠ []) (h : ∀ c ∈ gap, isBlank c = true)
    (front back : List Char) :
    fields (front ++ (gap ++ back)) = fields front ++ fields back := by
  cases gap with
  | nil => exact absurd rfl hne
  | cons c gap =>
    rw [List.forall_mem_cons] at h
    rw [List.cons_append, fields_append_blank h.1, fields_gap_append h.2]

/-- Nor do blanks at its end. -/
theorem fields_append_of_forall (h : ∀ c ∈ gap, isBlank c = true) (line : List Char) :
    fields (line ++ gap) = fields line := by
  cases gap with
  | nil => rw [List.append_nil]
  | cons c gap =>
    have hsplit := fields_append_gap (List.cons_ne_nil c gap) h line []
    rwa [List.append_nil, fields_nil, List.append_nil] at hsplit

end LossWindows.Text
