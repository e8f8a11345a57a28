import LossWindows.Drop.Basic
import LossWindows.Proofs.Text.Field
import LossWindows.Proofs.Text.Numeral
import Mathlib.Tactic.ByContra

/-!
# Drop lines by their grammar

A line is a drop line when it has six fields at least, of which the fifth is a numeral without
a minus sign and the sixth one with either sign, and both numbers fit the words that they are
kept in.  It then tells of the drop with these two numbers.

Nothing else of a line matters.  The other fields can be anything, there can be any number of
them behind the sixth, and the blanks around the fields can be any blanks.

## Main definitions

* `HasNumerals` — the fifth and the sixth field of a line.
-/

namespace LossWindows.Drop

open Text (isBlank fields HasFields fields_eq_iff)
open Text.Numeral (Unsigned Signed unsigned signed? unsigned_eq_ok_iff signed?_eq_some_iff)

/-- The fifth field of a line is `seq` and the sixth is `tag`. -/
def HasNumerals (line seq tag : List Char) : Prop :=
  ∃ a b c d more, HasFields line (a :: b :: c :: d :: seq :: tag :: more)

variable {line : String} {text seq tag : List Char} {drop : Drop} {n : Nat} {i : Int}

theorem exists_eq_cons_iff {found : List (List Char)} :
    (∃ a b c d more, found = a :: b :: c :: d :: seq :: tag :: more) ↔
      found[seqField]? = some seq ∧ found[tagField]? = some tag := by
  constructor
  · rintro ⟨a, b, c, d, more, rfl⟩
    exact ⟨rfl, rfl⟩
  · rintro ⟨hseq, htag⟩
    match found with
    | [] | [_] | [_, _] | [_, _, _] | [_, _, _, _] | [_, _, _, _, _] => cases htag
    | a :: b :: c :: d :: fifth :: sixth :: more =>
      cases hseq
      cases htag
      exact ⟨a, b, c, d, more, rfl⟩

theorem hasNumerals_iff : HasNumerals text seq tag ↔
    (fields text)[seqField]? = some seq ∧ (fields text)[tagField]? = some tag := by
  simp only [HasNumerals, ← fields_eq_iff, exists_eq_cons_iff]

/-! ## Numbers in words -/

theorem toOption_unsigned_eq_some_iff :
    (unsigned (UInt32.size - 1) seq).toOption = some n ↔ Unsigned seq n ∧ n ≤ 4294967295 := by
  have hread : unsigned (UInt32.size - 1) seq = .ok n ↔ Unsigned seq n ∧ n ≤ 4294967295 :=
    unsigned_eq_ok_iff
  rw [← hread]
  cases unsigned (UInt32.size - 1) seq <;> simp [Except.toOption]

theorem signed?_64_eq_some_iff : signed? 64 tag = some i ↔
    Signed tag i ∧ -9223372036854775808 ≤ i ∧ i ≤ 9223372036854775807 := by
  have hbound : ((1 <<< (64 - 1) : Nat) : Int) = 9223372036854775808 := rfl
  have hlt : i < 9223372036854775808 ↔ i ≤ 9223372036854775807 := by omega
  rw [signed?_eq_some_iff, hbound, hlt]

theorem mk_eq_iff (hn : n ≤ 4294967295)
    (hi : -9223372036854775808 ≤ i ∧ i ≤ 9223372036854775807) :
    (⟨UInt32.ofNat n, Int64.ofInt i⟩ : Drop) = drop ↔
      drop.seq.toNat = n ∧ drop.tag.toInt = i := by
  have hseq : (UInt32.ofNat n).toNat = n := by
    apply UInt32.toNat_ofNat_of_lt'
    unfold UInt32.size
    omega
  have htag : (Int64.ofInt i).toInt = i := Int64.toInt_ofInt_of_le (by omega) (by omega)
  constructor
  · rintro rfl
    exact ⟨hseq, htag⟩
  · rintro ⟨rfl, rfl⟩
    rw [UInt32.ofNat_toNat, Int64.ofInt_toInt]

/-- **What a line tells of**, with all that it is read for. -/
theorem ofLine?_eq_some_iff_exists : ofLine? line = some drop ↔
    ∃ seq tag n i, HasNumerals line.toList seq tag ∧ (Unsigned seq n ∧ n ≤ 4294967295) ∧
      (Signed tag i ∧ -9223372036854775808 ≤ i ∧ i ≤ 9223372036854775807) ∧
      (⟨UInt32.ofNat n, Int64.ofInt i⟩ : Drop) = drop := by
  simp only [ofLine?, Option.bind_eq_bind, Option.bind_eq_some_iff, Option.pure_def,
    Option.some_inj, toOption_unsigned_eq_some_iff, signed?_64_eq_some_iff, hasNumerals_iff]
  constructor
  · rintro ⟨seq, hseq, tag, htag, n, hn, i, hi, hdrop⟩
    exact ⟨seq, tag, n, i, ⟨hseq, htag⟩, hn, hi, hdrop⟩
  · rintro ⟨seq, tag, n, i, ⟨hseq, htag⟩, hn, hi, hdrop⟩
    exact ⟨seq, hseq, tag, htag, n, hn, i, hi, hdrop⟩

/-- A line whose numbers are those of a drop tells of this drop. -/
theorem ofLine?_eq_some_iff_hasNumerals : ofLine? line = some drop ↔
    ∃ seq tag, HasNumerals line.toList seq tag ∧ Unsigned seq drop.seq.toNat ∧
      Signed tag drop.tag.toInt := by
  rw [ofLine?_eq_some_iff_exists]
  constructor
  · rintro ⟨seq, tag, n, i, hfields, ⟨hseq, hn⟩, ⟨htag, hi⟩, hdrop⟩
    obtain ⟨rfl, rfl⟩ := (mk_eq_iff hn hi).1 hdrop
    exact ⟨seq, tag, hfields, hseq, htag⟩
  · rintro ⟨seq, tag, hfields, hseq, htag⟩
    have hn : drop.seq.toNat ≤ 4294967295 := Nat.le_of_lt_succ drop.seq.toNat_lt
    have hi : -9223372036854775808 ≤ drop.tag.toInt ∧ drop.tag.toInt ≤ 9223372036854775807 :=
      ⟨drop.tag.le_toInt, Int.le_of_lt_add_one drop.tag.toInt_lt⟩
    exact ⟨seq, tag, _, _, hfields, ⟨hseq, hn⟩, ⟨htag, hi⟩, (mk_eq_iff hn hi).2 ⟨rfl, rfl⟩⟩

/-- Any other line is no drop line: of the numbers that it has, if it has two, one does not
fit. -/
theorem ofLine?_eq_none_iff_hasNumerals : ofLine? line = none ↔
    ∀ seq tag n i, HasNumerals line.toList seq tag → Unsigned seq n → Signed tag i →
      4294967295 < n ∨ i < -9223372036854775808 ∨ 9223372036854775807 < i := by
  rw [Option.eq_none_iff_forall_ne_some]
  constructor
  · intro h seq tag n i hfields hseq htag
    by_contra hfits
    have hn : n ≤ 4294967295 := by omega
    have hi : -9223372036854775808 ≤ i ∧ i ≤ 9223372036854775807 := by omega
    exact h _ (ofLine?_eq_some_iff_exists.2
      ⟨seq, tag, n, i, hfields, ⟨hseq, hn⟩, ⟨htag, hi⟩, rfl⟩)
  · intro h drop hdrop
    obtain ⟨seq, tag, n, i, hfields, ⟨hseq, hn⟩, ⟨htag, hi⟩, -⟩ :=
      ofLine?_eq_some_iff_exists.1 hdrop
    have hout := h seq tag n i hfields hseq htag
    omega

/-! ## What does not matter -/

/-- Two lines with the same numerals tell of the same drop. -/
theorem ofLine?_eq_of_hasNumerals {other : String} (h : HasNumerals line.toList seq tag)
    (h' : HasNumerals other.toList seq tag) : ofLine? other = ofLine? line := by
  rw [hasNumerals_iff] at h h'
  simp only [ofLine?, h.1, h.2, h'.1, h'.2]

theorem ofLine?_ofList_eq {text : List Char} (h : fields text = fields line.toList) :
    ofLine? (String.ofList text) = ofLine? line :=
  ofLine?_congr (by rw [String.toList_ofList, h])

/-- **The grammar of drop lines.**  A line tells of a drop exactly when its fifth field is a
numeral without a minus sign for the sequence number and its sixth a numeral of either sign for
the tag; it tells of none exactly when the numbers of these two fields, if they are numerals at
all, do not fit the words.  The other fields do not matter, nor does it matter which blanks and
how many stand between two fields, before the first one or behind the last. -/
theorem ofLine?_iff_grammar (line : String) :
    (∀ drop, ofLine? line = some drop ↔
      ∃ seq tag, HasNumerals line.toList seq tag ∧ Unsigned seq drop.seq.toNat ∧
        Signed tag drop.tag.toInt) ∧
    (ofLine? line = none ↔
      ∀ seq tag n i, HasNumerals line.toList seq tag → Unsigned seq n → Signed tag i →
        4294967295 < n ∨ i < -9223372036854775808 ∨ 9223372036854775807 < i) ∧
    (∀ (other : String) (seq tag : List Char), HasNumerals line.toList seq tag →
      HasNumerals other.toList seq tag → ofLine? other = ofLine? line) ∧
    (∀ front gap gap' back, line.toList = front ++ (gap ++ back) → gap ≠ [] → gap' ≠ [] →
      (∀ c ∈ gap, isBlank c = true) → (∀ c ∈ gap', isBlank c = true) →
      ofLine? (String.ofList (front ++ (gap' ++ back))) = ofLine? line) ∧
    ∀ before after, (∀ c ∈ before, isBlank c = true) → (∀ c ∈ after, isBlank c = true) →
      ofLine? (String.ofList (before ++ (line.toList ++ after))) = ofLine? line := by
  refine ⟨fun drop => ofLine?_eq_some_iff_hasNumerals, ofLine?_eq_none_iff_hasNumerals,
    fun other seq tag => ofLine?_eq_of_hasNumerals, ?_, ?_⟩
  · intro front gap gap' back hline hne hne' hgap hgap'
    apply ofLine?_ofList_eq
    rw [hline, Text.fields_append_gap hne' hgap', Text.fields_append_gap hne hgap]
  · intro before after hbefore hafter
    apply ofLine?_ofList_eq
    rw [Text.fields_gap_append hbefore, Text.fields_append_of_forall hafter]

/-- The largest sequence number, with a sign and zeros in front, and the smallest tag; then
the same with other fields, with other blanks between two of them, and with blanks at either
end; and a sequence number that is too large by one. -/
theorem ofLine?_iff_grammar_at_both_ends :
    let line := "0 0 0 0 +004294967295 -9223372036854775808"
    let drop : Drop := ⟨4294967295, Int64.minValue⟩
    ofLine? line = some drop ∧
      ofLine? "x y\tz  + +004294967295\u3000-9223372036854775808 1 2\r" = some drop ∧
      ofLine? (String.ofList ("0 0 0 0".toList ++
        (['\u2028', '\u00A0'] ++ "+004294967295 -9223372036854775808".toList))) = some drop ∧
      ofLine? (String.ofList (['\t', ' '] ++ (line.toList ++ ['\n']))) = some drop ∧
      ofLine? "0 0 0 0 4294967296 1" = none := by
  intro line drop
  have hfields : HasNumerals line.toList "+004294967295".toList "-9223372036854775808".toList :=
    ⟨"0".toList, "0".toList, "0".toList, "0".toList, [], fields_eq_iff.1 (by decide +kernel)⟩
  have hother : HasNumerals "x y\tz  + +004294967295\u3000-9223372036854775808 1 2\r".toList
      "+004294967295".toList "-9223372036854775808".toList :=
    ⟨"x".toList, "y".toList, "z".toList, "+".toList, ["1".toList, "2".toList],
      fields_eq_iff.1 (by decide +kernel)⟩
  have hlarge : fields "0 0 0 0 4294967296 1".toList = ["0".toList, "0".toList, "0".toList,
      "0".toList, "4294967296".toList, "1".toList] := by decide +kernel
  have hseq : Unsigned "+004294967295".toList drop.seq.toNat :=
    @Unsigned.plus "004294967295".toList _ ⟨by decide, by simp, by decide⟩
  have htag : Signed "-9223372036854775808".toList drop.tag.toInt :=
    @Signed.minus "9223372036854775808".toList 9223372036854775808
      ⟨by decide, by simp, by decide⟩
  have hblank {c : Char} (hc : c ∈ [' ', '\t', '\n', '\u00A0', '\u2028']) : isBlank c = true := by
    revert c
    simp [isBlank, Text.blankRanges]
  obtain ⟨hsome, -, hsame, hgap, hends⟩ := ofLine?_iff_grammar line
  obtain ⟨-, hnone, -⟩ := ofLine?_iff_grammar "0 0 0 0 4294967296 1"
  have hline : ofLine? line = some drop := (hsome drop).2 ⟨_, _, hfields, hseq, htag⟩
  refine ⟨hline, (hsame _ _ _ hfields hother).trans hline, Eq.trans ?_ hline,
    Eq.trans ?_ hline, hnone.2 ?_⟩
  · apply hgap "0 0 0 0".toList [' '] _ "+004294967295 -9223372036854775808".toList (by decide)
    all_goals simp [hblank]
  · apply hends <;> simp [hblank]
  · intro seq tag n i h hn hi
    rw [hasNumerals_iff, hlarge] at h
    obtain rfl : "4294967296".toList = seq := Option.some_inj.1 h.1
    have hdigits := (Text.Numeral.unsigned_iff_digits (by simp)).1 hn
    have hvalue : 4294967296 = n := hdigits.value
    omega

end LossWindows.Drop
