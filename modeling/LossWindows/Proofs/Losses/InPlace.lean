import LossWindows.InPlace
import LossWindows.Proofs.Losses.Reading
import Mathlib.Data.List.TakeWhile

/-!
# Reading in place comes to the same

The scan finds the lines that the content has as a list of bytes, one after another, and they
are read with the same result and the same events.  What carries the induction is the list of
the bytes that are left: a run of newlines at its front is as many empty lines, and behind them
it is at its end or begins with a line that is not empty.
-/

namespace LossWindows

namespace Text

section Scan

variable (test : UInt8 → Bool) (content : ByteArray) (pos : Nat)

/-- The scan stops behind the bytes that pass the test. -/
theorem pastWhile_eq :
    pastWhile test content pos =
      pos + ((content.data.toList.drop pos).takeWhile test).length := by
  fun_induction pastWhile test content pos with
  | case1 pos h htest ih =>
    have hlt : pos < content.data.toList.length := by simpa using h
    have hbyte : test content.data.toList[pos] = true := htest
    rw [ih, List.drop_eq_getElem_cons hlt, List.takeWhile_cons_of_pos hbyte, List.length_cons]
    omega
  | case2 pos h htest =>
    have hlt : pos < content.data.toList.length := by simpa using h
    have hbyte : ¬ test content.data.toList[pos] = true := htest
    rw [List.drop_eq_getElem_cons hlt, List.takeWhile_cons_of_neg hbyte, List.length_nil]
    rfl
  | case3 pos h =>
    have hle : content.data.toList.length ≤ pos := by simpa using h
    rw [List.drop_eq_nil_of_le hle]
    rfl

theorem toList_extract_pastWhile :
    (content.extract pos (pastWhile test content pos)).data.toList =
      (content.data.toList.drop pos).takeWhile test := by
  rw [ByteArray.data_extract, Array.toList_extract, List.extract_eq_take_drop, pastWhile_eq,
    Nat.add_sub_cancel_left]
  exact (List.prefix_iff_eq_take.1 (List.takeWhile_prefix test)).symm

theorem drop_pastWhile :
    content.data.toList.drop (pastWhile test content pos) =
      (content.data.toList.drop pos).dropWhile test := by
  rw [pastWhile_eq, ← List.drop_drop]
  generalize content.data.toList.drop pos = bytes
  have hsplit := @List.drop_left _ (bytes.takeWhile test) (bytes.dropWhile test)
  rwa [List.takeWhile_append_dropWhile] at hsplit

theorem extract_pastWhile_append_drop :
    (content.extract pos (pastWhile test content pos)).data.toList ++
      content.data.toList.drop (pastWhile test content pos) = content.data.toList.drop pos := by
  rw [toList_extract_pastWhile, drop_pastWhile]
  exact List.takeWhile_append_dropWhile

/-- The byte at which the scan stops does not pass. -/
theorem getElem_pastWhile (h : pastWhile test content pos < content.data.toList.length) :
    test content.data.toList[pastWhile test content pos] = false := by
  have hnext := List.head?_dropWhile_not test (content.data.toList.drop pos)
  rw [← drop_pastWhile, List.drop_eq_getElem_cons h] at hnext
  simpa using hnext

end Scan

theorem toList_dropFinalByte (mark : UInt8) (bytes : ByteArray) :
    (dropFinalByte mark bytes).data.toList = dropFinal mark bytes.data.toList := by
  have hlast : bytes[bytes.size - 1]? = bytes.data.toList.getLast? := by
    rw [List.getLast?_eq_getElem?]
    simp [getElem?_def, ByteArray.getElem_eq_getElem_data]
  rw [dropFinalByte, dropFinal, hlast]
  split
  · simp [List.dropLast_eq_take]
  · rfl

/-- A run of newlines at the front is as many empty lines. -/
theorem lines_eq_replicate_append (newline carriage : UInt8) (bytes : List UInt8) :
    lines newline carriage bytes =
      List.replicate (bytes.takeWhile (· == newline)).length [] ++
        lines newline carriage (bytes.dropWhile (· == newline)) := by
  have hrun : bytes.takeWhile (· == newline) =
      List.replicate (bytes.takeWhile (· == newline)).length newline := by
    rw [List.eq_replicate_iff]
    refine ⟨rfl, ?_⟩
    intro byte hbyte
    exact eq_of_beq (List.mem_takeWhile_imp (p := (· == newline)) hbyte)
  rw [← lines_replicate_append, ← hrun, List.takeWhile_append_dropWhile]

/-- Where the content goes on there is a line, up to the next newline or to the end. -/
theorem lines_drop_eq_cons (newline carriage : UInt8) {content : ByteArray} {start : Nat}
    (h : start < content.size) :
    lines newline carriage (content.data.toList.drop start) =
      (lineAt carriage content start
        (pastWhile (· != newline) content start)).data.toList ::
      lines newline carriage
        (content.data.toList.drop (pastWhile (· != newline) content start + 1)) := by
  have hsplit := extract_pastWhile_append_drop (· != newline) content start
  have hbyte := getElem_pastWhile (· != newline) content start
  have hmem : newline ∉
      (content.extract start (pastWhile (· != newline) content start)).data.toList := by
    rw [toList_extract_pastWhile]
    intro hnewline
    simpa using List.mem_takeWhile_imp hnewline
  generalize pastWhile (· != newline) content start = stop at hsplit hbyte hmem ⊢
  by_cases hstop : stop < content.size
  · have hlt : stop < content.data.toList.length := hstop
    have hnewline : content.data.toList[stop] = newline := by simpa using hbyte hlt
    rw [lineAt, if_pos hstop, toList_dropFinalByte, ← hsplit, List.drop_eq_getElem_cons hlt,
      hnewline]
    exact lines_append_newline hmem _
  · have hle : content.data.toList.length ≤ stop := Nat.le_of_not_lt hstop
    rw [List.drop_eq_nil_of_le hle, List.append_nil] at hsplit
    have hne : content.data.toList.drop start ≠ [] :=
      List.drop_eq_nil_iff.not.2 (Nat.not_le_of_lt h)
    rw [lineAt, if_neg hstop, List.drop_eq_nil_of_le (Nat.le_succ_of_le hle), lines_nil, hsplit,
      lines_of_not_mem (hsplit ▸ hmem), List.isEmpty_eq_false_iff.2 hne]
    rfl

end Text

namespace Reading

theorem linesFrom_replicate_append (told : Logged Reading) (count : Nat)
    (rest : List (List UInt8)) :
    linesFrom told (List.replicate count [] ++ rest) =
      linesFrom ((skip · count) <$> told) rest := by
  have hempty : Drop.ofLine? (String.ofList []) = none := Drop.ofLine?_empty
  have hread := linesFrom_append_encode told (List.replicate count []) rest
  rw [List.map_replicate, Text.encode_nil, List.map_replicate] at hread
  rw [hread, map_eq_pure_bind]
  congr 2
  funext reading
  rw [foldlM_line, List.filterMap_replicate_of_none hempty, List.countP_replicate, hempty]
  simp [skip]

theorem linesFrom_cons (told : Logged Reading) (bytes : ByteArray) (rest : List (List UInt8)) :
    linesFrom told (bytes.data.toList :: rest) =
      match String.fromUTF8? bytes with
      | some text => linesFrom (told >>= (·.line text)) rest
      | none => (fun _ => .error .notUtf8) <$> told := by
  have hbytes : bytes.data.toList.toByteArray = bytes := ByteArray.ext (by simp)
  have hread : linesFrom told (bytes.data.toList :: rest) =
      match String.fromUTF8? bytes.data.toList.toByteArray with
      | some text => linesFrom (told >>= (·.line text)) rest
      | none => (fun _ => .error .notUtf8) <$> told := rfl
  rwa [hbytes] at hread

/-- Up to the first byte that is no newline there are only empty lines. -/
theorem linesFrom_drop (told : Logged Reading) (content : ByteArray) (pos : Nat) :
    let start := Text.pastWhile (· == '\n'.toUInt8) content pos
    linesFrom told (Text.lines '\n'.toUInt8 '\r'.toUInt8 (content.data.toList.drop pos)) =
      linesFrom ((skip · (start - pos)) <$> told)
        (Text.lines '\n'.toUInt8 '\r'.toUInt8 (content.data.toList.drop start)) := by
  intro start
  have hcount : start - pos =
      ((content.data.toList.drop pos).takeWhile (· == '\n'.toUInt8)).length := by
    have hstart := Text.pastWhile_eq (· == '\n'.toUInt8) content pos
    omega
  rw [Text.lines_eq_replicate_append, linesFrom_replicate_append, hcount, Text.drop_pastWhile]

/-- **The lines that are left are read alike**, wherever the scan stands. -/
theorem linesInPlace_eq (told : Logged Reading) (content : ByteArray) (pos : Nat) :
    linesInPlace told content pos =
      linesFrom told (Text.lines '\n'.toUInt8 '\r'.toUInt8 (content.data.toList.drop pos)) := by
  fun_induction linesInPlace told content pos with
  | case1 told pos start told' h stop text htext ih =>
    rw [ih, linesFrom_drop told, Text.lines_drop_eq_cons _ _ h, linesFrom_cons, htext]
  | case2 told pos start told' h stop htext =>
    rw [linesFrom_drop told, Text.lines_drop_eq_cons _ _ h, linesFrom_cons, htext]
  | case3 told pos start told' h =>
    have hend : content.data.toList.drop start = [] :=
      List.drop_eq_nil_of_le (Nat.le_of_not_lt h)
    rw [linesFrom_drop told, hend, Text.lines_nil]
    rfl

end Reading

/-- **Content is read in place as it is read from its lines**, with the same result and the same
events. -/
theorem Losses.readInPlace_eq_read (content : ByteArray) :
    readInPlace content = read content := by
  rw [readInPlace, read, Reading.linesInPlace_eq]
  rfl

end LossWindows
