import LossWindows.Proofs.Losses.Windows
import LossWindows.Proofs.Text.Numeral
import LossWindows.Report
import Mathlib.Data.List.Basic

/-!
# Reading a report back

A report can be read in one way only.  Its numbers are not padded, but each of them is
followed by a character that no number contains, and so it ends where that character
comes first; a bitmap ends at its newline in the same way.  Everything else in a report is
either fixed or depends on what was read already: a percentage on two numbers before it,
the wire words on the bitmap, and the name of the log is known.

So two logs have the same report under the same name only if they have the same tally and
the same windows.  As windows tell their drops, they then have the same sequence numbers.

## Main definitions

* `Text.EndsAt` — written forms that end at a mark.
-/

namespace LossWindows

/-! ## Written forms that end at a mark -/

namespace Text

/-- With `mark` behind them, written forms can be told from whatever follows. -/
def EndsAt {α : Type} (mark : Char) (write : α → List Char) : Prop :=
  ∀ ⦃a b rest others⦄, write a ++ mark :: rest = write b ++ mark :: others →
    a = b ∧ rest = others

/-- A text ends at the first place of a character that it does not contain. -/
theorem append_cons_inj_of_not_mem {mark : Char} {text other rest others : List Char}
    (ht : mark ∉ text) (ho : mark ∉ other)
    (h : text ++ mark :: rest = other ++ mark :: others) : text = other ∧ rest = others := by
  induction text generalizing other with
  | nil =>
    cases other with
    | nil => exact ⟨rfl, (List.cons.inj h).2⟩
    | cons c other => exact absurd (List.cons.inj h).1 (List.ne_of_not_mem_cons ho)
  | cons c text ih =>
    cases other with
    | nil => exact absurd (List.cons.inj h).1.symm (List.ne_of_not_mem_cons ht)
    | cons d other =>
      obtain ⟨rfl, htail⟩ := List.cons.inj h
      obtain ⟨rfl, hrest⟩ :=
        ih (List.not_mem_of_not_mem_cons ht) (List.not_mem_of_not_mem_cons ho) htail
      exact ⟨rfl, hrest⟩

/-- Different values are to be written differently, and without the mark. -/
theorem endsAt_of_not_mem {α : Type} {mark : Char} {write : α → List Char}
    (hinj : Function.Injective write) (hm : ∀ a, mark ∉ write a) : EndsAt mark write := by
  intro a b rest others h
  obtain ⟨heq, hrest⟩ := append_cons_inj_of_not_mem (hm a) (hm b) h
  exact ⟨hinj heq, hrest⟩

theorem not_mem_toString_nat {mark : Char} (hm : mark.isDigit = false) (n : Nat) :
    mark ∉ (toString n).toList := by
  intro h
  rw [(Numeral.digits_toString n).isDigit mark h] at hm
  cases hm

theorem not_mem_toString_int {mark : Char} (hm : mark.isDigit = false) (hsign : mark ≠ '-')
    (n : Int) : mark ∉ (toString n).toList := by
  rw [Int.toString_eq_repr, Int.repr_eq_if]
  split
  · exact not_mem_toString_nat hm _
  · rw [String.toList_append, List.mem_append, not_or]
    exact ⟨fun h => hsign (List.mem_singleton.1 h), not_mem_toString_nat hm _⟩

/-- A number ends where its digits end. -/
theorem endsAt_nat {mark : Char} (hm : mark.isDigit = false) :
    EndsAt mark fun n : Nat => (toString n).toList := by
  apply endsAt_of_not_mem
  · intro m n h
    exact Numeral.nat_eq_of_toString_eq (String.toList_injective h)
  · exact not_mem_toString_nat hm

/-- So does a number with a sign. -/
theorem endsAt_int {mark : Char} (hm : mark.isDigit = false) (hsign : mark ≠ '-') :
    EndsAt mark fun n : Int => (toString n).toList := by
  apply endsAt_of_not_mem
  · intro m n h
    exact Numeral.int_eq_of_toString_eq (String.toList_injective h)
  · exact not_mem_toString_int hm hsign

end Text

/-- A window is determined by its anchor, its length and its bitmap. -/
theorem Window.eq_of_start_eq {w other : Window} (hstart : w.start = other.start)
    (hlen : w.len = other.len) (hbits : w.bits = other.bits) : w = other := by
  have hfirst : w.first = other.first := by
    rw [start, start] at hstart
    exact UInt32.toNat_inj.1 (by omega)
  have hextension : w.extension = other.extension := by
    rw [len, len, width, width, hbits] at hlen
    omega
  cases w
  cases other
  simp_all

namespace Report

/-! ## The lines of a window -/

theorem newline_not_mem_bitmap (bits : List Bool) :
    '\n' ∉ bits.map fun bit => if bit then '1' else '0' := by
  intro h
  obtain ⟨bit, -, hbit⟩ := List.mem_map.1 h
  cases bit <;> simp at hbit

theorem endsAt_bitmap :
    Text.EndsAt '\n' fun bits : List Bool => bits.map fun bit => if bit then '1' else '0' := by
  apply Text.endsAt_of_not_mem
  · apply List.map_injective_iff.2
    intro bit other h
    cases bit <;> cases other <;> simp_all
  · exact newline_not_mem_bitmap

def windowText (wire : Bool) (number : Nat) (window : Window) : List Char :=
  (windowLines wire number window).flatMap fun line => line.toList ++ ['\n']

/-- The lines of a window, as far as they are read one part after another. -/
theorem windowText_append (wire : Bool) (number : Nat) (window : Window) (rest : List Char) :
    windowText wire number window ++ rest =
      "  Window ".toList ++ ((toString number).toList ++ (": start=".toList ++
      ((toString window.start).toList ++ ',' :: (" length=".toList ++
      ((toString window.len).toList ++ ',' :: (" bitmap=".toList ++
      ((window.bits.map fun bit => if bit then '1' else '0') ++ '\n' ::
        ((if wire then (wireLine window).toList ++ ['\n'] else []) ++ rest)))))))) := by
  have hlength : ", length=".toList = ',' :: " length=".toList := rfl
  have hbitmap : ", bitmap=".toList = ',' :: " bitmap=".toList := rfl
  simp only [windowText, windowLines, windowLine_eq, List.flatMap_cons, String.toList_append, hlength,
    hbitmap, Window.bitmap, String.toList_ofList, List.append_assoc, List.cons_append]
  cases wire <;> simp

/-- **A window can be read back from its lines**, and they end where they end. -/
theorem windowText_append_inj {wire : Bool} {number : Nat} {window other : Window}
    {rest others : List Char}
    (h : windowText wire number window ++ rest = windowText wire number other ++ others) :
    window = other ∧ rest = others := by
  rw [windowText_append, windowText_append] at h
  have h := List.append_cancel_left (List.append_cancel_left (List.append_cancel_left h))
  obtain ⟨hstart, h⟩ := Text.endsAt_int (by decide) (by decide) h
  obtain ⟨hlen, h⟩ := Text.endsAt_nat (by decide) (List.append_cancel_left h)
  obtain ⟨hbits, h⟩ := endsAt_bitmap (List.append_cancel_left h)
  obtain rfl := Window.eq_of_start_eq hstart hlen hbits
  exact ⟨rfl, List.append_cancel_left h⟩

/-- The written lines of windows, numbered from `number` on. -/
def windowsText (wire : Bool) (number : Nat) (windows : List Window) : List Char :=
  (windows.zipIdx number).flatMap fun (window, number) => windowText wire number window

@[simp] theorem windowsText_nil (wire : Bool) (number : Nat) :
    windowsText wire number [] = [] := rfl

@[simp] theorem windowsText_cons (wire : Bool) (number : Nat) (window : Window)
    (rest : List Window) : windowsText wire number (window :: rest) =
      windowText wire number window ++ windowsText wire (number + 1) rest := rfl

theorem windowText_ne_nil (wire : Bool) (number : Nat) (window : Window) :
    windowText wire number window ≠ [] := by
  simp [windowText, windowLines]

/-- **Windows can be read back from their lines.** -/
theorem windowsText_injective {wire : Bool} {number : Nat} {windows others : List Window}
    (h : windowsText wire number windows = windowsText wire number others) :
    windows = others := by
  induction windows generalizing number others with
  | nil =>
    cases others with
    | nil => rfl
    | cons other others => simp [windowText_ne_nil] at h
  | cons window windows ih =>
    cases others with
    | nil => simp [windowText_ne_nil] at h
    | cons other others =>
      obtain ⟨rfl, hrest⟩ := windowText_append_inj h
      rw [ih hrest]

/-! ## The lines of the tally -/

def kindsText (tally : Tally) (kinds : List DropKind) : List Char :=
  kinds.flatMap fun kind => (kindLine tally kind).toList ++ ['\n']

theorem kindsText_cons_append (tally : Tally) (kind : DropKind) (kinds : List DropKind)
    (rest : List Char) : kindsText tally (kind :: kinds) ++ rest =
      s!"  Kind {kind.code} ({kind.name}): ".toList ++ ((toString (tally.count kind)).toList ++
      ' ' :: ("packets, ".toList ++ ((tally.share kind).percentText.toList ++
      (" %\n".toList ++ (kindsText tally kinds ++ rest))))) := by
  have hline : kindLine tally kind =
      s!"  Kind {kind.code} ({kind.name}): " ++ toString (tally.count kind) ++ " packets, " ++
        ((tally.share kind).percentText ++ " %") := rfl
  have hpackets : " packets, ".toList = ' ' :: "packets, ".toList := rfl
  have hpercent : " %\n".toList = " %".toList ++ ['\n'] := rfl
  simp only [kindsText, hline, List.flatMap_cons, String.toList_append, hpackets, hpercent,
    List.append_assoc, List.cons_append]

/-- The counts of kinds can be read back from their lines, once the total is known: what
a line says beyond its count follows from both. -/
theorem kindsText_append_inj {tally other : Tally} {kinds : List DropKind}
    {rest others : List Char} (htotal : tally.total = other.total)
    (h : kindsText tally kinds ++ rest = kindsText other kinds ++ others) :
    (∀ kind ∈ kinds, tally.count kind = other.count kind) ∧ rest = others := by
  induction kinds with
  | nil => exact ⟨by simp, h⟩
  | cons kind kinds ih =>
    rw [kindsText_cons_append, kindsText_cons_append] at h
    obtain ⟨hcount, h⟩ := Text.endsAt_nat (by decide) (List.append_cancel_left h)
    have hshare : tally.share kind = other.share kind := by
      rw [Tally.share, Tally.share, hcount, htotal]
    rw [hshare] at h
    have h := List.append_cancel_left (List.append_cancel_left (List.append_cancel_left h))
    obtain ⟨hcounts, hrest⟩ := ih h
    exact ⟨List.forall_mem_cons.2 ⟨hcount, hcounts⟩, hrest⟩

/-! ## Whole reports -/

theorem toList_text_of_total_eq_zero {report : Report} (h : report.tally.total = 0) :
    report.text.toList = "No valid records in ".toList ++ (report.name.toList ++ ['\n']) := by
  rw [toList_text, lines_of_total_eq_zero h]
  have hline : s!"No valid records in {report.name}" = "No valid records in " ++ report.name := rfl
  rw [List.flatMap_singleton, hline, String.toList_append, List.append_assoc]

/-- The report on a log with drops, as far as it is read one part after another. -/
theorem toList_text_of_total_ne_zero {report : Report} (h : report.tally.total ≠ 0) :
    report.text.toList =
      "Analyzing ".toList ++ (report.name.toList ++ ("\nTotal records: ".toList ++
      ((toString report.tally.total).toList ++ '\n' :: ("Drops by kind:\n".toList ++
      (kindsText report.tally DropKind.all ++ ("\nWindows:\n".toList ++
      windowsText report.wire 1 report.windows)))))) := by
  have hname : s!"Analyzing {report.name}" = "Analyzing " ++ report.name := rfl
  have htotal : s!"Total records: {report.tally.total}" =
      "Total records: " ++ toString report.tally.total := rfl
  have htotal' : "\nTotal records: ".toList = ['\n'] ++ "Total records: ".toList := rfl
  have hkinds : "Drops by kind:\n".toList = "Drops by kind:".toList ++ ['\n'] := rfl
  have hwindows : "\nWindows:\n".toList = ['\n'] ++ ("Windows:".toList ++ ['\n']) := rfl
  rw [toList_text, lines, if_neg h, hname, htotal]
  simp only [kindsText, windowsText, windowText, htotal', hkinds, hwindows, List.flatMap_append,
    List.flatMap_cons, List.flatMap_map, List.flatMap_assoc, String.toList_append,
    String.toList_empty, List.append_assoc, List.nil_append, List.cons_append]

section TwoReports

variable {name : String} {tally other : Tally} {windows others : List Window} {wire : Bool}

/-- **A report with drops can be read back**, when the name of the log is known and
whether wire words are shown. -/
theorem eq_of_text_eq (h0 : tally.total ≠ 0) (h0' : other.total ≠ 0)
    (h : (mk name tally windows wire).text = (mk name other others wire).text) :
    tally = other ∧ windows = others := by
  have h := congrArg String.toList h
  rw [toList_text_of_total_ne_zero h0, toList_text_of_total_ne_zero h0'] at h
  have h := List.append_cancel_left (List.append_cancel_left (List.append_cancel_left h))
  obtain ⟨htotal, h⟩ := Text.endsAt_nat (by decide) h
  obtain ⟨hcounts, h⟩ := kindsText_append_inj htotal (List.append_cancel_left h)
  exact ⟨Tally.eq_of_count_eq htotal hcounts,
    windowsText_injective (List.append_cancel_left h)⟩

/-- The reports on a log without drops and on one with drops differ in their first
letter. -/
theorem text_ne_of_total (h0 : tally.total = 0) (h0' : other.total ≠ 0) :
    (mk name tally windows wire).text ≠ (mk name other others wire).text := by
  intro h
  have hhead := congrArg List.head? (congrArg String.toList h)
  rw [toList_text_of_total_eq_zero h0, toList_text_of_total_ne_zero h0'] at hhead
  simp at hhead

end TwoReports

/-- **The report tells a log.**  Two logs have the same report under the same name exactly
when they have the same tally and the same sequence numbers. -/
theorem text_eq_iff_of_read {content content' : ByteArray} {losses losses' : Losses}
    (h : (Losses.read content).value = .ok losses)
    (h' : (Losses.read content').value = .ok losses') (name : String) (width : Width)
    (wire : Bool) :
    ∃ windows windows', (losses.windows width.positions).value = .ok windows ∧
      (losses'.windows width.positions).value = .ok windows' ∧
      ((Report.mk name losses.tally windows wire).text =
          (Report.mk name losses'.tally windows' wire).text ↔
        losses.tally = losses'.tally ∧ losses.seqs = losses'.seqs) := by
  obtain ⟨-, -, hasc, -⟩ := Losses.exists_drops_of_value_read h
  obtain ⟨-, -, hasc', -⟩ := Losses.exists_drops_of_value_read h'
  obtain ⟨windows, hvalue, -, hdrops⟩ := Losses.exists_windows hasc width
  obtain ⟨windows', hvalue', -, hdrops'⟩ := Losses.exists_windows hasc' width
  refine ⟨windows, windows', hvalue, hvalue', ?_, ?_⟩
  · intro htext
    by_cases h0 : losses.tally.total = 0
    · by_cases h0' : losses'.tally.total = 0
      · rw [Losses.eq_empty_of_total_eq_zero h h0, Losses.eq_empty_of_total_eq_zero h' h0']
        exact ⟨rfl, rfl⟩
      · exact absurd htext (text_ne_of_total h0 h0')
    · by_cases h0' : losses'.tally.total = 0
      · exact absurd htext.symm (text_ne_of_total h0' h0)
      · obtain ⟨htally, rfl⟩ := eq_of_text_eq h0 h0' htext
        exact ⟨htally, hdrops.symm.trans hdrops'⟩
  · rintro ⟨htally, hseqs⟩
    rw [Losses.windows, ← hseqs] at hvalue'
    obtain rfl := Except.ok.inj (hvalue.symm.trans hvalue')
    rw [htally]

/-- The same sequence numbers, one of them named twice, under a name that imitates a line
of the report. -/
theorem text_eq_iff_of_read_repeated :
    let content := "0 0 0 0 9 1\n0 0 0 0 5 3\n".toUTF8
    let content' := "0 0 0 0 5 3\r\nno drop\n0 0 0 0 9 1\n0 0 0 0 9 1".toUTF8
    let losses : Losses := ⟨⟨2, 1, 0, 1⟩, [5, 9]⟩
    let losses' : Losses := ⟨⟨3, 2, 0, 1⟩, [5, 9]⟩
    (Losses.read content).value = .ok losses ∧ (Losses.read content').value = .ok losses' ∧
      ∃ windows windows', (losses.windows 4).value = .ok windows ∧
        (losses'.windows 4).value = .ok windows' ∧
        (Report.mk "a\nTotal records: 3" losses.tally windows true).text ≠
          (Report.mk "a\nTotal records: 3" losses'.tally windows' true).text := by
  intro content content' losses losses'
  have hdrops : Drop.ofText "0 0 0 0 9 1\n0 0 0 0 5 3\n" = [⟨9, 1⟩, ⟨5, 3⟩] := by decide +kernel
  have hdrops' : Drop.ofText "0 0 0 0 5 3\r\nno drop\n0 0 0 0 9 1\n0 0 0 0 9 1" =
      [⟨5, 3⟩, ⟨9, 1⟩, ⟨9, 1⟩] := by decide +kernel
  have h : (Losses.read content).value = .ok losses := by
    rw [Losses.value_read_toUTF8_eq_ok_iff, hdrops]
    exact ⟨by decide, by decide, by simp [losses, or_comm, eq_comm]⟩
  have h' : (Losses.read content').value = .ok losses' := by
    rw [Losses.value_read_toUTF8_eq_ok_iff, hdrops']
    exact ⟨by decide, by decide, by simp [losses', eq_comm]⟩
  obtain ⟨windows, windows', hvalue, hvalue', htext⟩ :=
    text_eq_iff_of_read h h' "a\nTotal records: 3" ⟨4, by decide, by decide⟩ true
  refine ⟨h, h', windows, windows', hvalue, hvalue', ?_⟩
  intro heq
  have htally : losses.tally ≠ losses'.tally := by decide
  exact htally (htext.1 heq).1

end Report

end LossWindows
