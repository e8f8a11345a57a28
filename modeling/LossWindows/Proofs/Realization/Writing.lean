import LossWindows.Proofs.Text.Utf8
import LossWindows.Report
import Mathlib.Data.List.Basic

/-!
# Reports in fragments

A report is not written as one text.  Each of its lines is formatted in fragments, a bitmap
position by position, and each fragment is offered until the writer has taken all of it, in
as many calls as that needs.  A call that takes nothing ends the writing at once, wherever it
is: no later fragment of the line is offered, and no later line.

Nothing of this can be seen in what was taken.  A computation *writes* certain bytes when it
appends as many of them as there is room for and fails exactly if some are left; two such
computations one after another write the bytes of both.  So the fragments of a report write
its text, and a writer that is too small is left with the beginning of it.  A sink, to which
the lines are offered as a whole, is left with the same.

Only that two computations may follow each other matters to the fragments, so that the same
holds of a report that is written through a buffer.

## Main definitions

* `InSequence` — a notion of writing bytes that two computations may share.
* `Writer.Writes` — appending bytes as far as there is room.
* `Sink.offered` — a sink in terms of all that it was offered.
-/

namespace LossWindows

/-! ## Fragments -/

/-- A notion of writing bytes under which nothing is written by doing nothing, and what is
written one after another is written in one. -/
structure InSequence {m : Type → Type} [Monad m] (W : List UInt8 → m PUnit → Prop) : Prop where
  nil : W [] (pure ⟨⟩)
  append : ∀ {front back x y}, W front x → W back y → W (front ++ back) (x >>= fun _ => y)

namespace Report

theorem join_kindFragments (tally : Tally) (kind : DropKind) :
    String.join (kindFragments tally kind) = kindLine tally kind := by
  simp [kindLine_eq, kindFragments, String.join_cons, String.append_assoc]

theorem join_bits (window : Window) :
    String.join (window.bits.map fun bit => if bit then "1" else "0") = window.bitmap := by
  apply String.toList_injective
  have hbit : (fun bit : Bool => (if bit then "1" else "0").toList) =
      fun bit => [if bit then '1' else '0'] := by
    funext bit
    cases bit <;> rfl
  rw [String.toList_join, List.flatMap_map, hbit, Window.bitmap, String.toList_ofList]
  exact List.map_eq_flatMap.symm

theorem join_windowFragments (number : Nat) (window : Window) :
    String.join (windowFragments number window) = windowLine number window := by
  simp [windowLine_eq, windowFragments, String.join_cons, String.append_assoc, join_bits]

theorem join_wireFragments (window : Window) :
    String.join (wireFragments window) = wireLine window := by
  simp [wireFragments, wireLine, String.join_cons, String.append_assoc]

theorem join_pair (label text : String) : String.join [label, text] = label ++ text := by
  simp [String.join_cons]

end Report

namespace InSequence

variable {m : Type → Type} [Monad m] {W : List UInt8 → m PUnit → Prop} (hW : InSequence W)
  {write : String → m PUnit} (hwrite : ∀ fragment, W (Text.encode fragment.toList) (write fragment))

include hW

/-- A loop writes what its steps write. -/
theorem forM {α : Type} {f : α → m PUnit} {bytes : α → List UInt8}
    (h : ∀ a, W (bytes a) (f a)) (l : List α) : W (l.flatMap bytes) (l.forM f) := by
  induction l with
  | nil => exact hW.nil
  | cons a l ih => exact hW.append (h a) ih

include hwrite

/-- A line writes its fragments and a newline. -/
theorem writeLine {fragments : List String} {line : String} (h : String.join fragments = line) :
    W (Text.encodeLine line) (Report.writeLine write fragments) := by
  have hfragments : Text.encode line.toList =
      fragments.flatMap fun fragment => Text.encode fragment.toList := by
    rw [← h, String.toList_join]
    exact List.flatMap_assoc
  rw [Text.encodeLine, Text.encode_append, hfragments]
  exact hW.append (hW.forM hwrite fragments) (hwrite "\n")

theorem writeWindow (wire : Bool) (row : Window × Nat) :
    W ((Report.windowLines wire row.2 row.1).flatMap Text.encodeLine) (do
      Report.writeLine write (Report.windowFragments row.2 row.1)
      if wire then Report.writeLine write (Report.wireFragments row.1)) := by
  rw [Report.windowLines, List.flatMap_cons]
  apply hW.append (hW.writeLine hwrite (Report.join_windowFragments row.2 row.1))
  cases wire with
  | false => exact hW.nil
  | true =>
    rw [if_pos rfl, List.flatMap_singleton]
    exact hW.writeLine hwrite (Report.join_wireFragments row.1)

/-- **The fragments of a report write its lines.** -/
theorem writeWith (report : Report) :
    W (report.lines.flatMap Text.encodeLine) (report.writeWith write) := by
  by_cases h0 : report.tally.total = 0
  · rw [Report.lines_of_total_eq_zero h0, Report.writeWith, if_pos h0, List.flatMap_singleton]
    exact hW.writeLine hwrite (Report.join_pair _ _)
  · have hlabelled (label text : String) :
        W (Text.encodeLine (label ++ text)) (Report.writeLine write [label, text]) :=
      hW.writeLine hwrite (Report.join_pair label text)
    have hplain (line : String) : W (Text.encodeLine line) (Report.writeLine write [line]) :=
      hW.writeLine hwrite (by simp)
    have hempty : W (Text.encodeLine "") (Report.writeLine write []) :=
      hW.writeLine hwrite (by simp)
    have hkinds := hW.forM
      (fun kind => hW.writeLine hwrite (Report.join_kindFragments report.tally kind)) DropKind.all
    have hwindows := hW.forM (hW.writeWindow hwrite report.wire) (report.windows.zipIdx 1)
    have hall := hW.append (hlabelled "Analyzing " report.name)
      (hW.append (hlabelled "Total records: " (toString report.tally.total))
      (hW.append (hplain "Drops by kind:") (hW.append hkinds
      (hW.append hempty (hW.append (hplain "Windows:") hwindows)))))
    rw [Report.writeWith, if_neg h0, Report.lines, if_neg h0]
    simp only [List.flatMap_append, List.flatMap_cons, List.flatMap_map, List.flatMap_assoc,
      List.append_assoc, List.cons_append, List.nil_append]
    exact hall

end InSequence

/-! ## Writers -/

namespace Writer

/-- Appending `bytes` as far as there is room, and failing exactly if some are left. -/
def Writes (w : Writer) (bytes : List UInt8) (x : Writing PUnit) : Prop :=
  ∀ taken, taken.length ≤ w.limit →
    x.outcome taken =
      if (taken ++ bytes).length ≤ w.limit then (.ok ⟨⟩, taken ++ bytes)
      else (.error .nothingTaken, (taken ++ bytes).take w.limit)

variable {w : Writer} {bytes front back : List UInt8} {x y : Writing PUnit}

theorem writes_pure (w : Writer) : w.Writes [] (pure ⟨⟩) := by
  intro taken h
  rw [Attempt.outcome_pure, List.append_nil, if_pos h]

/-- **What is written one after another is written in one.** -/
theorem Writes.bind (hx : w.Writes front x) (hy : w.Writes back y) :
    w.Writes (front ++ back) (x >>= fun _ => y) := by
  intro taken h
  rw [Attempt.outcome_bind, hx taken h, ← List.append_assoc]
  by_cases hfront : (taken ++ front).length ≤ w.limit
  · rw [if_pos hfront]
    exact hy _ hfront
  · -- the front does not fit already, and nothing of the back is offered
    have hall : ¬ (taken ++ front ++ back).length ≤ w.limit := by
      rw [List.length_append]
      omega
    rw [if_neg hfront, if_neg hall, List.take_append_of_le_length (Nat.le_of_not_le hfront)]

theorem inSequence (w : Writer) : InSequence w.Writes where
  nil := w.writes_pure
  append := Writes.bind

/-- **Offering bytes until they are taken writes them**, whatever the calls take. -/
theorem writes_writeBytes (w : Writer) (bytes : List UInt8) :
    w.Writes bytes (w.writeBytes bytes) := by
  induction hlength : bytes.length using Nat.strongRecOn generalizing bytes with
  | ind length ih =>
    intro taken h
    rw [writeBytes]
    by_cases hbytes : bytes = []
    · rw [dif_pos hbytes, hbytes]
      exact w.writes_pure taken h
    · have hpos := List.length_pos_of_ne_nil hbytes
      have hroom := w.portion_le_room (w.limit - taken.length) bytes.length
      have hoffered := w.portion_le_offered (w.limit - taken.length) bytes.length
      rw [dif_neg hbytes, Attempt.outcome_bind, outcome_call]
      dsimp only
      by_cases hcount : w.count taken bytes = 0
      · -- there is no room left
        have hfull : taken.length = w.limit := by
          by_contra hne
          have hfree : 0 < w.limit - taken.length := by omega
          exact (Nat.ne_of_gt (w.portion_pos hfree hpos)) hcount
        have hlong : ¬ (taken ++ bytes).length ≤ w.limit := by
          rw [List.length_append]
          omega
        rw [dif_pos hcount, Attempt.outcome_throw, if_neg hlong, hcount, List.take_zero,
          List.append_nil, ← hfull, List.take_left]
      · have hshorter : (bytes.drop (w.count taken bytes)).length < length := by
          rw [List.length_drop]
          omega
        have htaken : (taken ++ bytes.take (w.count taken bytes)).length ≤ w.limit := by
          rw [List.length_append, List.length_take, count]
          omega
        rw [dif_neg hcount, ih _ hshorter _ rfl _ htaken, List.append_assoc,
          List.take_append_drop]

end Writer

/-! ## Reports -/

namespace Report

theorem writes_writeBy (report : Report) (w : Writer) :
    w.Writes (report.lines.flatMap Text.encodeLine) (report.writeBy w) :=
  w.inSequence.writeWith (fun _ => w.writes_writeBytes _) report

theorem flatMap_encodeLine (report : Report) :
    report.lines.flatMap Text.encodeLine = report.text.toUTF8.data.toList := by
  rw [← Text.encode_toList, toList_text]
  exact List.flatMap_assoc.symm

end Report

/-! ## Sinks -/

namespace Sink

/-- A sink of `limit` bytes that was offered the bytes of `all`. -/
def offered (limit : Nat) (all : ByteArray) : Sink :=
  ⟨limit, all.extract 0 limit, decide (limit < all.size)⟩

theorem extract_of_size_le {all : ByteArray} {limit : Nat} (h : all.size ≤ limit) :
    all.extract 0 limit = all := by
  rw [← Nat.max_eq_left h]
  exact ByteArray.extract_zero_max_size

theorem empty_eq_offered (limit : Nat) : empty limit = offered limit .empty := by
  have hempty : ByteArray.empty.extract 0 limit = .empty := extract_of_size_le (Nat.zero_le _)
  rw [offered, hempty]
  simp [empty]

/-- **A sink keeps the first bytes of what it is offered.** -/
theorem write_offered (limit : Nat) (all : ByteArray) (text : String) :
    (offered limit all).write text = offered limit (all ++ text.toUTF8) := by
  have hsize : (all ++ text.toUTF8).size = all.size + text.utf8ByteSize := by
    rw [ByteArray.size_append]
    rfl
  have hfirst : (all ++ text.toUTF8).extract 0 limit =
      all.extract 0 limit ++ text.toUTF8.extract 0 (limit - all.size) := by
    rw [ByteArray.extract_append, Nat.zero_sub]
  by_cases hrefused : limit < all.size
  · -- the first bytes are complete already
    have hall : limit < all.size + text.utf8ByteSize := by omega
    have hnone : limit - all.size = 0 := by omega
    rw [write_of_refused (decide_eq_true hrefused), offered, offered, hsize, hfirst, hnone,
      ByteArray.extract_same, ByteArray.append_empty, decide_eq_true hrefused,
      decide_eq_true hall]
  · have hkept := extract_of_size_le (Nat.le_of_not_lt hrefused)
    have hoffered : offered limit all = ⟨limit, all, false⟩ := by
      rw [offered, hkept, decide_eq_false hrefused]
    rw [hoffered, offered, hsize, hfirst, hkept]
    by_cases hfits : text.utf8ByteSize ≤ limit - all.size
    · have hall : ¬ limit < all.size + text.utf8ByteSize := by omega
      have hwhole : text.toUTF8.extract 0 (limit - all.size) = text.toUTF8 :=
        extract_of_size_le hfits
      rw [write_of_fits rfl hfits, hwhole, decide_eq_false hall]
    · have hall : limit < all.size + text.utf8ByteSize := by omega
      rw [write_of_not_fits rfl hfits, decide_eq_true hall]

/-- So it does, text by text. -/
theorem writeAll_offered (limit : Nat) (all : ByteArray) (texts : List String) :
    (offered limit all).writeAll texts = offered limit (all ++ (String.join texts).toUTF8) := by
  induction texts generalizing all with
  | nil => simp [writeAll]
  | cons text texts ih =>
    rw [writeAll, List.foldl_cons, write_offered, ← writeAll, ih, String.join_cons,
      String.toUTF8_eq_toByteArray, String.toUTF8_eq_toByteArray, String.toUTF8_eq_toByteArray,
      String.toByteArray_append, ByteArray.append_assoc]

end Sink

/-! ## Reports that are cut -/

namespace Report

/-- Writing lines to a sink leaves it with the first bytes of the text. -/
theorem writeTo_empty (report : Report) (limit : Nat) :
    report.writeTo (Sink.empty limit) = Sink.offered limit report.text.toUTF8 := by
  rw [writeTo, Sink.empty_eq_offered, Sink.writeAll_offered, ByteArray.empty_append, text]

/-- **A report that is cut is an exact prefix.**  A writer that takes `limit` bytes in all, in
whatever portions, takes the whole text of a report if that has no more bytes; otherwise it is
left with the first `limit` bytes, wherever in the text they end, and writing the report
fails.  A sink of that size is left with the same. -/
theorem writeBy_and_writeTo_cut (report : Report) (w : Writer) :
    let text := report.text.toUTF8
    (text.size ≤ w.limit →
      (report.writeBy w).outcome [] = (.ok ⟨⟩, text.data.toList) ∧
        report.writeTo (Sink.empty w.limit) = ⟨w.limit, text, false⟩) ∧
    (w.limit < text.size →
      (report.writeBy w).outcome [] = (.error .nothingTaken, text.data.toList.take w.limit) ∧
        report.writeTo (Sink.empty w.limit) = ⟨w.limit, text.extract 0 w.limit, true⟩) := by
  intro text
  have hlength : text.data.toList.length = text.size := Array.length_toList
  have hwrites := report.writes_writeBy w [] (Nat.zero_le _)
  rw [flatMap_encodeLine, List.nil_append, hlength] at hwrites
  rw [hwrites, writeTo_empty, Sink.offered]
  constructor
  · intro hfits
    rw [if_pos hfits, Sink.extract_of_size_le hfits, decide_eq_false (Nat.not_lt.2 hfits)]
    exact ⟨rfl, rfl⟩
  · intro hlong
    rw [if_neg (Nat.not_le.2 hlong), decide_eq_true hlong]
    exact ⟨rfl, rfl⟩

/-- A report of one line, taken three bytes at a time and cut within the name. -/
example : ((mk "drops.txt" Tally.empty [] false).writeBy (.stepwise 24 3 (by decide))).outcome [] =
    (.error .nothingTaken, Text.encode "No valid records in drop".toList) := by
  cbv

end Report

end LossWindows
