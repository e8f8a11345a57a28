import LossWindows.Proofs.Losses.Extraction
import Mathlib.Data.Int.ModEq

/-!
# The account of lines

At its end a reading tells how many records it found and how many lines it skipped.  Every
line is one or the other, so the two numbers add up to the lines of the text.  But they are
not counted alike: the records in a counter that no log fills, the skipped lines in one of 32
bits with a sign.  What is told of the latter is their number up to a multiple of `2 ^ 32`,
brought into the range of that counter, and so the account is right as long as fewer than
`2 ^ 31` lines were skipped and wrong from there on.  That is what a release build tells; a
debug build stops where the account would become wrong.

## Main definitions

* `Text.newlines` — a text of so many newlines, all of whose lines are skipped.
-/

namespace LossWindows

def Text.newlines (count : Nat) : String :=
  String.ofList (List.replicate count '\n')

/-! ## Lines -/

/-- **Every line tells of a drop or is skipped.** -/
theorem Text.length_ofText_add_skippedOf (text : String) :
    (Drop.ofText text).length + skippedOf text = (linesOf text).length := by
  have hsome := List.length_filterMap_eq_countP (f := Drop.ofLine?) (l := linesOf text)
  have hsplit := List.length_eq_countP_add_countP (fun line => (Drop.ofLine? line).isSome)
    (l := linesOf text)
  have hnone : skippedOf text =
      (linesOf text).countP fun line => ¬ (Drop.ofLine? line).isSome := by
    apply List.countP_congr
    intro line _
    simp
  rw [Drop.ofText, hsome, hnone]
  exact hsplit.symm

theorem Text.linesOf_newlines (count : Nat) :
    linesOf (newlines count) = List.replicate count "" := by
  have hlines := lines_replicate_append '\n' '\r' count []
  rw [lines_nil, List.append_nil, List.append_nil] at hlines
  rw [linesOf, newlines, String.toList_ofList, hlines, List.map_replicate]

theorem Text.skippedOf_newlines (count : Nat) : skippedOf (newlines count) = count := by
  rw [skippedOf, linesOf_newlines, List.countP_replicate, Drop.ofLine?_empty]
  rfl

theorem Drop.ofText_newlines (count : Nat) : ofText (Text.newlines count) = [] := by
  rw [ofText, Text.linesOf_newlines, List.filterMap_replicate_of_none ofLine?_empty]

/-! ## Counters of 32 bits -/

section Counter

variable (count : Nat)

/-- A counter is right below `2 ^ 31` only. -/
theorem toInt_counter_eq_iff : (Int32.ofNat count).toInt = count ↔ count < 2 ^ 31 := by
  constructor
  · intro h
    have hlt := (Int32.ofNat count).toInt_lt
    omega
  · exact Int32.toInt_ofNat_of_lt

/-- A counter is negative for every other `2 ^ 31` numbers. -/
theorem toInt_counter_neg_iff :
    (Int32.ofNat count).toInt < 0 ↔ 2 ^ 31 ≤ count % 2 ^ 32 := by
  rw [Int32.toInt_ofNat', Int32.size, Int.bmod_def]
  split <;> omega

end Counter

/-! ## What is told at the end -/

namespace Losses

theorem getLast?_events_read (text : String) :
    (read text.toUTF8).events.toList.getLast? =
      some (.logRead (Drop.ofText text).length (Int32.ofNat (Text.skippedOf text))) := by
  obtain ⟨losses, hread, -⟩ := value_read_toUTF8 text
  rw [events_read_toUTF8 hread, ← List.append_assoc, List.getLast?_concat]

/-- **The account that is given of the lines.**  Every text can be read, and the last that is
told is how many records there were and how many lines were skipped.  The records are exactly
the lines that tell of a drop, and together with the other lines they are all lines.  The
number of skipped lines is told up to a multiple of `2 ^ 32`: the two numbers add up to the
number of lines exactly when fewer than `2 ^ 31` lines were skipped, and the second one can
be negative. -/
theorem account_read_toUTF8 (text : String) :
    ∃ (losses : Losses) (skipped : Int32), (read text.toUTF8).value = .ok losses ∧
      ((read text.toUTF8).events.toList.map Event.message).getLast? =
        some s!"Read {losses.tally.total} records, skipped {skipped} lines" ∧
      losses.tally.total = (Text.linesOf text).countP (fun line => (Drop.ofLine? line).isSome) ∧
      losses.tally.total + Text.skippedOf text = (Text.linesOf text).length ∧
      (losses.tally.total + skipped.toInt ≡ (Text.linesOf text).length [ZMOD 2 ^ 32]) ∧
      (losses.tally.total + skipped.toInt = (Text.linesOf text).length ↔
        Text.skippedOf text < 2 ^ 31) ∧
      (skipped.toInt < 0 ↔ 2 ^ 31 ≤ Text.skippedOf text % 2 ^ 32) := by
  obtain ⟨losses, hread, htally, -⟩ := value_read_toUTF8 text
  have htotal : losses.tally.total = (Drop.ofText text).length := by
    rw [htally, Tally.total_ofDrops]
  have hsum := Text.length_ofText_add_skippedOf text
  refine ⟨losses, Int32.ofNat (Text.skippedOf text), hread, ?_, ?_, ?_, ?_, ?_, ?_⟩
  · rw [List.getLast?_map, getLast?_events_read, htotal]
    rfl
  · rw [htotal, Drop.ofText, List.length_filterMap_eq_countP]
  · rw [htotal, hsum]
  · rw [htotal, ← hsum, Int32.toInt_ofNat', Nat.cast_add]
    exact Int.ModEq.add_left _ Int.bmod_emod
  · rw [htotal, ← hsum, ← toInt_counter_eq_iff, Nat.cast_add]
    exact add_right_inj _
  · exact toInt_counter_neg_iff _

/-- After `2 ^ 31` empty lines a negative number of lines is told to have been skipped. -/
theorem account_read_newlines :
    (Text.linesOf (Text.newlines 2147483648)).length = 2147483648 ∧
      Text.skippedOf (Text.newlines 2147483648) = 2147483648 ∧
      ((read (Text.newlines 2147483648).toUTF8).events.toList.map Event.message).getLast? =
        some "Read 0 records, skipped -2147483648 lines" := by
  refine ⟨?_, Text.skippedOf_newlines _, ?_⟩
  · rw [Text.linesOf_newlines, List.length_replicate]
  · have hcounter : Int32.ofNat 2147483648 = -2147483648 := by decide
    rw [List.getLast?_map, getLast?_events_read, Drop.ofText_newlines, Text.skippedOf_newlines,
      hcounter]
    rfl

end Losses

end LossWindows
