/-!
# Lines and fields

A line ends at a newline, which is not part of it, and one carriage return
directly before the newline goes with it.  Whatever follows the last newline is a
line as well unless it is empty, and keeps its carriage return.

The rule needs no more of a text than that its letters can be compared, so it
serves bytes and characters alike.

A line falls into fields at its blanks.  A blank is any character with the
Unicode property `White_Space`, a class much wider than the blanks of ASCII: it
has the no-break space, the ideographic space and the line separators.

## Main definitions

* `lines` — the lines of a text over any alphabet.
* `isBlank` — the characters that separate fields.
* `fields` — the maximal runs of other characters.
* `encode` — the bytes of a text.
-/

namespace LossWindows.Text

/-! ## Lines -/

section Lines

variable {α : Type} [BEq α]

/-- Drops one final `mark`, if there is one. -/
def dropFinal (mark : α) (piece : List α) : List α :=
  if piece.getLast? == some mark then piece.dropLast else piece

/-- The lines of a text with the given newline and carriage return. -/
def lines (newline carriage : α) (text : List α) : List (List α) :=
  let pieces := text.splitOn newline
  let rest := pieces.getLastD []
  pieces.dropLast.map (dropFinal carriage) ++ if rest.isEmpty then [] else [rest]

@[simp] theorem lines_nil (newline carriage : α) : lines newline carriage [] = [] := by
  simp [lines]

/-- A text without a newline is one line, or none when it is empty. -/
theorem lines_of_not_mem [LawfulBEq α] {newline carriage : α} {text : List α}
    (h : newline ∉ text) :
    lines newline carriage text = if text.isEmpty then [] else [text] := by
  simp [lines, List.splitOn_eq_singleton h]

/-- **Behind a newline the lines start afresh.** -/
theorem lines_append_newline [LawfulBEq α] {newline carriage : α} {piece : List α}
    (h : newline ∉ piece) (text : List α) :
    lines newline carriage (piece ++ newline :: text) =
      dropFinal carriage piece :: lines newline carriage text := by
  have hne := List.splitOn_ne_nil newline text
  simp only [lines, List.splitOn_append_cons_self, List.splitOn_eq_singleton h]
  cases hs : text.splitOn newline with
  | nil => exact absurd hs hne
  | cons p ps => simp [List.getLastD]

/-- Newlines at the front are as many empty lines. -/
theorem lines_replicate_append [LawfulBEq α] (newline carriage : α) (count : Nat)
    (text : List α) :
    lines newline carriage (List.replicate count newline ++ text) =
      List.replicate count [] ++ lines newline carriage text := by
  induction count with
  | zero => rfl
  | succ count ih =>
    have hline := @lines_append_newline α _ _ newline carriage [] List.not_mem_nil
      (List.replicate count newline ++ text)
    rw [List.replicate_succ, List.cons_append, List.replicate_succ, List.cons_append, ← ih]
    exact hline

end Lines

/-! ## Fields -/

/-- The code points with the Unicode property `White_Space`, as inclusive ranges in
ascending order. -/
def blankRanges : List (Nat × Nat) :=
  [(0x0009, 0x000D), (0x0020, 0x0020), (0x0085, 0x0085), (0x00A0, 0x00A0),
   (0x1680, 0x1680), (0x2000, 0x200A), (0x2028, 0x2029), (0x202F, 0x202F),
   (0x205F, 0x205F), (0x3000, 0x3000)]

/-- Whether a character separates fields. -/
def isBlank (c : Char) : Bool :=
  blankRanges.any fun range => range.1 ≤ c.toNat && c.toNat ≤ range.2

/-- The fields of a line, from left to right: its maximal runs without a blank. -/
def fields (line : List Char) : List (List Char) :=
  (line.splitOnP isBlank).filter (!·.isEmpty)

/-- The property has 25 characters. -/
example : (blankRanges.map fun range => range.2 - range.1 + 1).sum = 25 := by
  decide

@[simp] theorem fields_nil : fields [] = [] := by
  simp [fields]

/-- **Fields split at a blank.**  How many blanks there are and which ones makes no
difference. -/
theorem fields_append_blank {c : Char} (h : isBlank c = true) (front back : List Char) :
    fields (front ++ c :: back) = fields front ++ fields back := by
  rw [fields, List.splitOnP_append_cons front back h, List.filter_append]
  rfl

/-- Blanks before the first field change nothing. -/
theorem fields_cons_blank {c : Char} (h : isBlank c = true) (line : List Char) :
    fields (c :: line) = fields line := by
  simpa using fields_append_blank h [] line

/-- A text without a blank is a field of its own. -/
theorem fields_of_forall {text : List Char} (hne : text ≠ [])
    (h : ∀ c ∈ text, isBlank c = false) : fields text = [text] := by
  rw [fields, List.splitOnP_eq_singleton h]
  simp [hne]

/-! ## Bytes -/

/-- The bytes of a text in UTF-8. -/
def encode (text : List Char) : List UInt8 :=
  text.flatMap String.utf8EncodeChar

@[simp] theorem encode_nil : encode [] = [] := rfl

@[simp] theorem encode_append (front back : List Char) :
    encode (front ++ back) = encode front ++ encode back :=
  List.flatMap_append

theorem encode_cons (c : Char) (text : List Char) :
    encode (c :: text) = String.utf8EncodeChar c ++ encode text := rfl

/-- The bytes of a line with its newline. -/
def encodeLine (line : String) : List UInt8 :=
  encode (line.toList ++ ['\n'])

end LossWindows.Text
