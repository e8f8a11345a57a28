import LossWindows.Proofs.Command.Endings

/-!
# What the report on a log does not depend on

The drop lines of a log may come in any order, with any other lines between them.  The
tally counts them one by one, and the sequence numbers are sorted, so neither of the two
can tell the order; whatever is made of them later cannot either.

The windows depend on even less.  They are laid out from the sequence numbers alone, each
of which is kept once, so that repetitions and tags do not matter to them.
-/

namespace LossWindows

namespace Losses

variable {text text' : String} {losses losses' : Losses}

/-- Texts that name the same sequence numbers, however often, are read to the same ones. -/
theorem seqs_eq_of_read (h : (read text.toUTF8).value = .ok losses)
    (h' : (read text'.toUTF8).value = .ok losses')
    (hseqs : ∀ q, (∃ drop ∈ Drop.ofText text, drop.seq = q) ↔
      ∃ drop ∈ Drop.ofText text', drop.seq = q) : losses.seqs = losses'.seqs := by
  obtain ⟨-, hasc, hmem⟩ := value_read_toUTF8_eq_ok_iff.1 h
  obtain ⟨-, hasc', hmem'⟩ := value_read_toUTF8_eq_ok_iff.1 h'
  apply hasc.ext hasc'
  intro q
  rw [hmem, hmem', hseqs]

/-- **Texts whose drop lines differ in their order only are read alike.** -/
theorem value_read_eq_of_perm (h : (Drop.ofText text).Perm (Drop.ofText text')) :
    (read text.toUTF8).value = (read text'.toUTF8).value := by
  obtain ⟨losses, hread, htally, hasc, hmem⟩ := value_read_toUTF8 text
  have hread' : (read text'.toUTF8).value = .ok losses := by
    refine value_read_toUTF8_eq_ok_iff.2 ⟨?_, hasc, ?_⟩
    · rw [htally, Tally.ofDrops_perm h]
    · intro q
      simp only [hmem, h.mem_iff]
  rw [hread, hread']

end Losses

namespace Command

variable {options : Options}

/-- A report depends on the content of the file through the losses in it. -/
theorem report_congr {bytes bytes' : ByteArray}
    (h : (Losses.read bytes).value = (Losses.read bytes').value) :
    (options.report (.ok bytes)).value = (options.report (.ok bytes')).value := by
  rw [report_ok, report_ok, Logged.value_bind, Logged.value_bind, h]

/-- On a text there is a report, or else the width is out of bounds. -/
theorem report_toUTF8 (options : Options) (text : String) :
    (options.report (.ok text.toUTF8)).value =
        .error (.building (.widthOutOfBounds options.width)) ∨
      ∃ report, (options.report (.ok text.toUTF8)).value = .ok report := by
  have hvalid : text.toUTF8.IsValidUTF8 := text.isValidUTF8
  by_cases hwidth : options.width = 0 ∨ maxWidth < options.width
  · exact Or.inl (report_of_out_of_bounds hvalid hwidth).1
  · have hpos : 0 < options.width := by omega
    have hle : options.width ≤ maxWidth := by omega
    obtain ⟨losses, windows, -, -, hreport⟩ := exists_report hvalid hpos hle
    exact Or.inr ⟨_, hreport⟩

end Command

namespace Losses

/-- **The order of the drop lines, other lines and repetitions do not matter.**  Two texts
whose drop lines tell of the same drops, in whatever order, are read to the same losses;
so under every name, width and choice of wire words they have the same report, or the
same fault in the width.  If the texts only name the same sequence numbers, whatever the
tags are and however often they repeat themselves, then the windows are the same at every
width. -/
theorem same_report_of_perm_same_windows_of_seqs (text text' : String) :
    ((Drop.ofText text).Perm (Drop.ofText text') →
      (∃ losses, (read text.toUTF8).value = .ok losses ∧
        (read text'.toUTF8).value = .ok losses) ∧
      ∀ options : Command.Options,
        ((options.report (.ok text.toUTF8)).value =
            .error (.building (.widthOutOfBounds options.width)) ∧
          (options.report (.ok text'.toUTF8)).value =
            .error (.building (.widthOutOfBounds options.width))) ∨
        ∃ report : Report, (options.report (.ok text.toUTF8)).value = .ok report ∧
          (options.report (.ok text'.toUTF8)).value = .ok report) ∧
    ((∀ q, (∃ drop ∈ Drop.ofText text, drop.seq = q) ↔
        ∃ drop ∈ Drop.ofText text', drop.seq = q) →
      ∃ losses losses', (read text.toUTF8).value = .ok losses ∧
        (read text'.toUTF8).value = .ok losses' ∧
        ∀ width, losses.windows width = losses'.windows width) := by
  obtain ⟨losses, hread, -⟩ := value_read_toUTF8 text
  obtain ⟨losses', hread', -⟩ := value_read_toUTF8 text'
  constructor
  · intro hperm
    have hsame := value_read_eq_of_perm hperm
    refine ⟨⟨losses, hread, hsame ▸ hread⟩, fun options => ?_⟩
    rw [← Command.report_congr hsame]
    simpa using Command.report_toUTF8 options text
  · intro hseqs
    refine ⟨losses, losses', hread, hread', fun width => ?_⟩
    rw [windows, windows, seqs_eq_of_read hread hread' hseqs]

/-- Drop lines in another order, with another line between them, and then the same sequence
numbers under other tags and without repetition. -/
theorem same_report_of_shuffled :
    let text := "0 0 0 0 5 3\nno drop\n0 0 0 0 9 1\n0 0 0 0 9 7"
    let text' := "0 0 0 0 9 7\r\n0 0 0 0 5 3\n\n0 0 0 0 9 1\n"
    let text'' := "0 0 0 0 5 2\n0 0 0 0 9 2\n"
    let options : Command.Options := ⟨"drops.txt", 4, true⟩
    (Drop.ofText text).Perm (Drop.ofText text') ∧
      (options.report (.ok text.toUTF8)).value = (options.report (.ok text'.toUTF8)).value ∧
      ∃ losses losses', (read text.toUTF8).value = .ok losses ∧
        (read text''.toUTF8).value = .ok losses' ∧ losses.tally ≠ losses'.tally ∧
        losses.windows 4 = losses'.windows 4 := by
  intro text text' text'' options
  have h : Drop.ofText text = [⟨5, 3⟩, ⟨9, 1⟩, ⟨9, 7⟩] := by decide +kernel
  have h' : Drop.ofText text' = [⟨9, 7⟩, ⟨5, 3⟩, ⟨9, 1⟩] := by decide +kernel
  have h'' : Drop.ofText text'' = [⟨5, 2⟩, ⟨9, 2⟩] := by decide +kernel
  have hperm : (Drop.ofText text).Perm (Drop.ofText text') := by
    rw [h, h']
    decide
  have hseqs : ∀ q, (∃ drop ∈ Drop.ofText text, drop.seq = q) ↔
      ∃ drop ∈ Drop.ofText text'', drop.seq = q := by
    intro q
    rw [h, h'']
    simp
  obtain ⟨hreport, -⟩ := same_report_of_perm_same_windows_of_seqs text text'
  obtain ⟨-, hwindows⟩ := same_report_of_perm_same_windows_of_seqs text text''
  have hsame : (options.report (.ok text.toUTF8)).value =
      (options.report (.ok text'.toUTF8)).value := by
    rcases (hreport hperm).2 options with ⟨hfault, hfault'⟩ | ⟨report, hvalue, hvalue'⟩
    · rw [hfault, hfault']
    · rw [hvalue, hvalue']
  obtain ⟨losses, losses', hread, hread', heq⟩ := hwindows hseqs
  have htally : losses.tally ≠ losses'.tally := by
    rw [(value_read_toUTF8_eq_ok_iff.1 hread).1, (value_read_toUTF8_eq_ok_iff.1 hread').1, h, h'']
    decide
  exact ⟨hperm, hsame, losses, losses', hread, hread', htally, heq 4⟩

end Losses

end LossWindows
