import LossWindows.Proofs.Builder.Record
import LossWindows.Proofs.Realization.Unpacking
import LossWindows.Proofs.Report.Readable

/-!
# Wire words in a report

A report shows a bitmap twice if it is asked to: position by position at the end of the line
of its window, and packed into four words in a line of its own below.  The second line is all
that is added.  Whoever reads its words as numbers and unpacks as many positions as the line
above shows has the bitmap that the line above shows.

The two lines have nothing in common but the bitmap.  One goes through it in the order of the
positions, while in a word the first position is the lowest bit and stands last.

## Main definitions

* `Text.Hex.IsWritten` — the texts that are the written form of a word.
* `Report.ShowsWords` — a line of four written words.
-/

namespace LossWindows

/-! ## Written words -/

namespace Text.Hex

/-- The written form of some word: `0x` and sixteen lower-case digits. -/
def IsWritten (text : List Char) : Prop :=
  ∃ digits, text = '0' :: 'x' :: digits ∧ digits.length = 16 ∧
    ∀ c ∈ digits, c ∈ "0123456789abcdef".toList

theorem digitChar_mem {d : Nat} (h : d < 16) : d.digitChar ∈ "0123456789abcdef".toList := by
  have : ∀ d, d < 16 → d.digitChar ∈ "0123456789abcdef".toList := by decide
  exact this d h

theorem isWritten_encode (word : UInt64) : IsWritten (encode word) := by
  refine ⟨_, rfl, by simp, ?_⟩
  intro c h
  obtain ⟨d, hd, rfl⟩ := List.mem_map.1 h
  exact digitChar_mem (lt_of_mem_digits hd)

end Text.Hex

namespace Report

/-- A line of four written words, which read as `words`. -/
def ShowsWords (line : String) (words : WireWords) : Prop :=
  ∃ a b c d : String, line = s!"    wire=[{a}, {b}, {c}, {d}]" ∧
    (∀ text ∈ [a, b, c, d], Text.Hex.IsWritten text.toList) ∧
    [a, b, c, d].mapM (fun text => Text.Hex.decode text.toList) = some words.toList

theorem wireText_eq (a b c d : String) : s!"    wire=[{a}, {b}, {c}, {d}]" =
    "    wire=[" ++ a ++ ", " ++ b ++ ", " ++ c ++ ", " ++ d ++ "]" := rfl

/-- **The line of wire words shows them.** -/
theorem showsWords_wireLine (window : Window) : ShowsWords (wireLine window) window.wire := by
  have hlength : window.wire.toList.length = 4 := Vector.length_toList
  match hwords : window.wire.toList, hlength with
  | [a, b, c, d], _ =>
    let written (word : UInt64) : String := String.ofList (Text.Hex.encode word)
    refine ⟨written a, written b, written c, written d, ?_, ?_, ?_⟩
    · rw [wireLine, hwords, wireText_eq]
      simp [written, String.append_assoc]
    · simp [written, Text.Hex.isWritten_encode]
    · simp [written, Text.Hex.decode_encode, hwords]

/-! ## Single lines -/

theorem newline_not_mem_windowLine (number : Nat) (window : Window) :
    '\n' ∉ (windowLine number window).toList := by
  have hdigit : '\n'.isDigit = false := by decide
  have hnumber := Text.not_mem_toString_nat hdigit number
  have hstart := Text.not_mem_toString_int hdigit (by decide) window.start
  have hlen := Text.not_mem_toString_nat hdigit window.len
  have hbitmap := newline_not_mem_bitmap window.bits
  simp only [windowLine_eq, String.toList_append, Window.bitmap, String.toList_ofList,
    List.mem_append, hnumber, hstart, hlen, hbitmap, or_false]
  decide

theorem newline_not_mem_wireLine (window : Window) : '\n' ∉ (wireLine window).toList := by
  obtain ⟨a, b, c, d, hline, hwritten, -⟩ := showsWords_wireLine window
  have htext (text : String) (htext : text ∈ [a, b, c, d]) : '\n' ∉ text.toList := by
    obtain ⟨digits, heq, -, hdigits⟩ := hwritten text htext
    rw [heq]
    intro h
    simp at h
    exact absurd (hdigits _ h) (by decide)
  simp only [hline, wireText_eq, String.toList_append, List.mem_append, htext a (by simp),
    htext b (by simp), htext c (by simp), htext d (by simp), or_false]
  decide

/-! ## Two reports -/

/-- The lines of windows, numbered from one, each with the line of its wire words. -/
def rows (windows : List Window) : List (String × String) :=
  (windows.zipIdx 1).map fun (window, number) => (windowLine number window, wireLine window)

theorem length_rows (windows : List Window) : (rows windows).length = windows.length := by
  simp [rows]

theorem getElem?_rows {windows : List Window} {i : Nat} {window : Window}
    (h : windows[i]? = some window) :
    (rows windows)[i]? = some (windowLine (i + 1) window, wireLine window) := by
  simp [rows, h, Nat.add_comm]

variable {tally : Tally}

/-- A report with drops begins with the one without windows. -/
theorem lines_eq_append (h : tally.total ≠ 0) (name : String) (windows : List Window)
    (wire : Bool) : (mk name tally windows wire).lines = (mk name tally [] false).lines ++
      (windows.zipIdx 1).flatMap fun (window, number) => windowLines wire number window := by
  simp only [lines, if_neg h, List.zipIdx_nil, List.flatMap_nil, List.append_nil]

/-- Without wire words each window has its line. -/
theorem text_of_wire_eq_false (h : tally.total ≠ 0) (name : String) (windows : List Window) :
    (mk name tally windows false).text = (mk name tally [] false).text ++
      String.join ((rows windows).map fun row => row.1 ++ "\n") := by
  apply String.toList_injective
  rw [toList_text, String.toList_append, toList_text, lines_eq_append h]
  simp [windowLines, rows, List.flatMap_map, List.flatMap_assoc]

/-- **Showing wire words adds a line below each window**, and changes nothing else. -/
theorem text_of_wire_eq_true (h : tally.total ≠ 0) (name : String) (windows : List Window) :
    (mk name tally windows true).text = (mk name tally [] false).text ++
      String.join ((rows windows).map fun row => row.1 ++ "\n" ++ row.2 ++ "\n") := by
  apply String.toList_injective
  rw [toList_text, String.toList_append, toList_text, lines_eq_append h]
  simp [windowLines, rows, List.flatMap_map, List.flatMap_assoc]

/-- **The two bitmaps of a window agree.**  A report that shows wire words is the report that
does not, with one more line directly below the line of each window.  That line shows four
words, and unpacking as many positions of them as the bitmap in the line above has gives this
bitmap again. -/
theorem text_wire_agrees {width : Width} {seqs : List UInt32} (hasc : Ascending seqs)
    (htotal : tally.total ≠ 0) (name : String) :
    ∃ windows, (windowsOf width.positions seqs).value = .ok windows ∧
    ∃ (front : String) (pairs : List (String × String)), pairs.length = windows.length ∧
      (mk name tally windows false).text =
        front ++ String.join (pairs.map fun (line, _) => line ++ "\n") ∧
      (mk name tally windows true).text =
        front ++ String.join (pairs.map fun (line, extra) => line ++ "\n" ++ extra ++ "\n") ∧
      ∀ i w line extra, windows[i]? = some w → pairs[i]? = some (line, extra) →
        '\n' ∉ line.toList ∧ '\n' ∉ extra.toList ∧
        line = s!"  Window {i + 1}: start={w.start}, length={w.len}, bitmap={w.bitmap}" ∧
        ∃ words, ShowsWords extra words ∧
          String.ofList ((words.toBits w.bitmap.length).map fun bit => if bit then '1' else '0') =
            w.bitmap := by
  obtain ⟨windows, hvalue, hcanonical, -⟩ := exists_windowsOf width hasc
  refine ⟨windows, hvalue, (mk name tally [] false).text, rows windows, length_rows windows,
    text_of_wire_eq_false htotal name windows, text_of_wire_eq_true htotal name windows, ?_⟩
  intro i w line extra hw hpair
  rw [getElem?_rows hw] at hpair
  obtain ⟨rfl, rfl⟩ := Prod.mk.inj (Option.some.inj hpair)
  have hfits : w.bits.length ≤ maxWidth := by
    have hwidth := (hcanonical.each w (List.mem_of_getElem? hw)).width_eq
    rw [Window.width] at hwidth
    rw [hwidth]
    exact width.le_max
  have hlength : w.bitmap.length = w.bits.length := by
    simp [Window.bitmap]
  refine ⟨newline_not_mem_windowLine _ _, newline_not_mem_wireLine _, rfl, w.wire,
    showsWords_wireLine w, ?_⟩
  rw [hlength, Window.wire, WireWords.toBits_length_ofBits hfits, Window.bitmap]

/-- A bitmap that ends one position into the second word, under a name that imitates a line of
the report. -/
theorem text_wire_agrees_across_words :
    let tally : Tally := ⟨2, 1, 0, 1⟩
    let name := "a\n  Window 1: start=4, length=4, bitmap=0000"
    let w : Window := ⟨7, false :: List.replicate 63 true ++ [false], 0⟩
    Ascending [7, 71] ∧ tally.total ≠ 0 ∧ (windowsOf 65 [7, 71]).value = .ok [w] ∧
      ∃ front line extra words,
        (mk name tally [w] false).text = front ++ (line ++ "\n") ∧
        (mk name tally [w] true).text = front ++ (line ++ "\n" ++ extra ++ "\n") ∧
        line = windowLine 1 w ∧ ShowsWords extra words ∧
        String.ofList ((words.toBits 65).map fun bit => if bit then '1' else '0') = w.bitmap := by
  intro tally name w
  let width : Width := ⟨65, by decide, by decide⟩
  have hasc : Ascending [7, 71] := by decide
  have htotal : tally.total ≠ 0 := by decide
  have hvalue : (windowsOf 65 [7, 71]).value = .ok [w] :=
    (@value_windowsOf_eq_ok_iff width _ _).2 ⟨by decide, by decide⟩
  obtain ⟨windows, hvalue', front, pairs, hlength, hplain, hwired, heach⟩ :=
    @text_wire_agrees tally width [7, 71] hasc htotal name
  obtain rfl := Except.ok.inj (hvalue'.symm.trans hvalue)
  obtain ⟨⟨line, extra⟩, rfl⟩ := List.length_eq_one_iff.1 hlength
  obtain ⟨-, -, hline, words, hwords, hbits⟩ := heach 0 w line extra rfl rfl
  have hwidth : w.bitmap.length = 65 := by
    rw [Window.bitmap, String.length_ofList, List.length_map]
    rfl
  rw [hwidth] at hbits
  refine ⟨hasc, htotal, hvalue, front, line, extra, words, ?_, ?_, hline, hwords, hbits⟩
  · rw [hplain]
    simp
  · rw [hwired]
    simp

end Report

end LossWindows
