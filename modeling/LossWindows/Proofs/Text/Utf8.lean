import LossWindows.Text.Lines
import Mathlib.Data.List.Basic

/-!
# Lines of encoded texts

A text may be cut into lines before it is encoded as UTF-8 or after.  A newline is one
byte, no other character has that byte in its encoding, and the same holds of a carriage
return; so both ways give the same lines.

It follows that a text of bytes is valid exactly when each of its lines is.  A character
whose bytes a newline tears apart is found in one of the two lines, and nothing else can
go wrong between lines.
-/

namespace LossWindows.Text

/-! ## Texts line by line -/

section Lines

variable {α : Type} [BEq α] [LawfulBEq α]

/-- A text is a piece without a newline, or such a piece with a newline and a text behind
it. -/
theorem lines_induction (newline : α) {P : List α → Prop}
    (last : ∀ piece, newline ∉ piece → P piece)
    (line : ∀ piece text, newline ∉ piece → P text → P (piece ++ newline :: text))
    (text : List α) : P text := by
  by_cases h : newline ∈ text
  · obtain ⟨piece, rest, heq, hpiece⟩ := List.eq_append_cons_of_mem h
    have hshorter : rest.length < text.length := by
      rw [heq, List.length_append, List.length_cons]
      omega
    rw [heq]
    exact line piece rest hpiece (lines_induction newline last line rest)
  · exact last text h
termination_by text.length

@[simp] theorem dropFinal_concat_self (mark : α) (piece : List α) :
    dropFinal mark (piece ++ [mark]) = piece := by
  simp [dropFinal]

theorem dropFinal_of_getLast? {mark : α} {piece : List α} (h : piece.getLast? ≠ some mark) :
    dropFinal mark piece = piece := by
  simp [dropFinal, h]

end Lines

/-! ## Marks of one byte -/

section Mark

variable {mark c : Char} {text piece : List Char} (hm : mark.toNat < 128)

include hm

theorem toNat_toUInt8_mark : mark.toUInt8.toNat = mark.toNat := by
  show mark.toNat % 256 = mark.toNat
  omega

theorem utf8EncodeChar_mark : String.utf8EncodeChar mark = [mark.toUInt8] := by
  have hle : mark.val.toNat ≤ 127 := Nat.le_of_lt_succ hm
  rw [String.utf8EncodeChar.eq_1, if_pos hle]
  rfl

/-- **No other character has that byte in its encoding.** -/
theorem mem_utf8EncodeChar_mark : mark.toUInt8 ∈ String.utf8EncodeChar c ↔ c = mark := by
  constructor
  · intro h
    have hmark := toNat_toUInt8_mark hm
    rw [← Char.toNat_inj]
    show c.val.toNat = mark.toNat
    rw [String.utf8EncodeChar.eq_1] at h
    -- the bytes of a longer encoding are all at least 128
    split at h
    · next hc =>
      rw [List.mem_singleton.1 h, UInt8.toNat_ofNat'] at hmark
      omega
    · simp only [← UInt8.toNat_inj, apply_ite (mark.toUInt8 ∈ ·), List.mem_cons,
        List.not_mem_nil, or_false, UInt8.toNat_ofNat', hmark] at h
      split at h
      · omega
      · split at h <;> omega
  · rintro rfl
    rw [utf8EncodeChar_mark hm]
    exact List.mem_singleton_self _

theorem mem_encode_mark : mark.toUInt8 ∈ encode text ↔ mark ∈ text := by
  simp [encode, List.mem_flatMap, mem_utf8EncodeChar_mark hm]

theorem encode_cons_mark : encode (mark :: text) = mark.toUInt8 :: encode text := by
  rw [encode_cons, utf8EncodeChar_mark hm]
  rfl

/-- A final mark can be dropped before encoding or after. -/
theorem dropFinal_encode :
    dropFinal mark.toUInt8 (encode piece) = encode (dropFinal mark piece) := by
  obtain rfl | ⟨init, c, rfl⟩ := List.eq_nil_or_concat' piece
  · rfl
  · by_cases hc : c = mark
    · rw [hc, dropFinal_concat_self, encode_append, encode_cons_mark hm]
      exact dropFinal_concat_self _ _
    · have hbyte : mark.toUInt8 ∉ String.utf8EncodeChar c :=
        fun h => hc ((mem_utf8EncodeChar_mark hm).1 h)
      have hchar : (init ++ [c]).getLast? ≠ some mark := by simpa using hc
      rw [dropFinal_of_getLast? hchar, dropFinal_of_getLast?]
      intro h
      have hlast : (String.utf8EncodeChar c).getLast? = some mark.toUInt8 := by
        rwa [encode_append, encode_cons, encode_nil, List.append_nil,
          List.getLast?_append_of_ne_nil _ String.utf8EncodeChar_ne_nil] at h
      exact hbyte (List.mem_of_getLast? hlast)

end Mark

/-! ## Lines of bytes and of characters -/

/-- **The lines of the bytes of a text are the bytes of its lines.** -/
theorem lines_encode {newline carriage : Char} (hn : newline.toNat < 128)
    (hc : carriage.toNat < 128) (text : List Char) :
    lines newline.toUInt8 carriage.toUInt8 (encode text) =
      (lines newline carriage text).map encode := by
  induction text using lines_induction newline with
  | last piece hpiece =>
    have hbyte : newline.toUInt8 ∉ encode piece := fun h => hpiece ((mem_encode_mark hn).1 h)
    rw [lines_of_not_mem hpiece, lines_of_not_mem hbyte]
    cases piece with
    | nil => rfl
    | cons c piece => simp [encode_cons, String.utf8EncodeChar_ne_nil]
  | line piece text hpiece ih =>
    have hbyte : newline.toUInt8 ∉ encode piece := fun h => hpiece ((mem_encode_mark hn).1 h)
    rw [encode_append, encode_cons_mark hn, lines_append_newline hpiece,
      lines_append_newline hbyte, ih, List.map_cons, dropFinal_encode hc]

/-! ## Valid bytes -/

/-- The bytes are those of some text. -/
def IsText (bytes : List UInt8) : Prop :=
  ∃ text, encode text = bytes

theorem isText_encode (text : List Char) : IsText (encode text) :=
  ⟨text, rfl⟩

theorem IsText.append {front back : List UInt8} (h : IsText front) (h' : IsText back) :
    IsText (front ++ back) := by
  obtain ⟨text, rfl⟩ := h
  obtain ⟨text', rfl⟩ := h'
  exact ⟨text ++ text', encode_append _ _⟩

theorem IsText.cons_mark {mark : Char} (hm : mark.toNat < 128) {bytes : List UInt8}
    (h : IsText bytes) : IsText (mark.toUInt8 :: bytes) := by
  obtain ⟨text, rfl⟩ := h
  exact ⟨mark :: text, encode_cons_mark hm⟩

/-- A mark that was dropped is no loss. -/
theorem IsText.of_dropFinal {mark : Char} (hm : mark.toNat < 128) {bytes : List UInt8}
    (h : IsText (dropFinal mark.toUInt8 bytes)) : IsText bytes := by
  by_cases hlast : bytes.getLast? = some mark.toUInt8
  · obtain ⟨init, rfl⟩ := List.getLast?_eq_some_iff.1 hlast
    rw [dropFinal_concat_self] at h
    exact h.append ((isText_encode []).cons_mark hm)
  · rwa [dropFinal_of_getLast? hlast] at h

/-- **Bytes are valid when each line of them is.** -/
theorem isText_iff_forall_lines (newline carriage : Char) (hn : newline.toNat < 128)
    (hc : carriage.toNat < 128) {bytes : List UInt8} :
    IsText bytes ↔ ∀ line ∈ lines newline.toUInt8 carriage.toUInt8 bytes, IsText line := by
  constructor
  · rintro ⟨text, rfl⟩ line hline
    rw [lines_encode hn hc] at hline
    obtain ⟨piece, -, rfl⟩ := List.mem_map.1 hline
    exact isText_encode piece
  · induction bytes using lines_induction newline.toUInt8 with
    | last piece hpiece =>
      rw [lines_of_not_mem hpiece]
      cases piece with
      | nil => exact fun _ => isText_encode []
      | cons byte piece => exact fun h => h _ (List.mem_singleton_self _)
    | line piece bytes hpiece ih =>
      rw [lines_append_newline hpiece]
      intro h
      rw [List.forall_mem_cons] at h
      exact (h.1.of_dropFinal hc).append ((ih h.2).cons_mark hn)

theorem isText_iff_isValidUTF8 {bytes : ByteArray} :
    IsText bytes.data.toList ↔ bytes.IsValidUTF8 := by
  constructor
  · rintro ⟨text, h⟩
    refine ⟨text, ?_⟩
    rw [List.utf8Encode, ← encode, h]
    exact ByteArray.ext (by simp)
  · rintro ⟨text, rfl⟩
    exact ⟨text, by simp [List.utf8Encode, encode]⟩

theorem encode_toList (text : String) : encode text.toList = text.toUTF8.data.toList := by
  rw [String.toUTF8_eq_toByteArray, ← String.utf8Encode_toList, List.utf8Encode]
  simp [encode]

theorem length_encode_toList (text : String) : (encode text.toList).length = text.utf8ByteSize := by
  rw [encode_toList, Array.length_toList]
  rfl

theorem fromUTF8?_encode (text : List Char) :
    String.fromUTF8? (encode text).toByteArray = some (String.ofList text) :=
  dif_pos (ByteArray.isValidUTF8_utf8Encode (l := text))

/-- Only the bytes of a text are read. -/
theorem fromUTF8?_eq_none_iff {bytes : List UInt8} :
    String.fromUTF8? bytes.toByteArray = none ↔ ¬ IsText bytes := by
  have h := @isText_iff_isValidUTF8 bytes.toByteArray
  rw [List.data_toByteArray, List.toList_toArray] at h
  rw [h]
  exact dite_eq_right_iff.trans (by simp)

end LossWindows.Text
