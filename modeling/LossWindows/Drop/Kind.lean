/-!
# Kinds of drops

A drop log tags each drop with a 64-bit integer.  Three tags name a kind; every
other integer is a tag as well, of a kind that is not known.

The step from a tag to a kind goes through a byte, and only tags that *are* bytes
take it.  Nothing is narrowed on the way, so no tag can be mistaken for another
that agrees with it in its low bits.

## Main definitions

* `DropKind` — the known kinds.
* `DropKind.ofCode` — the kind of a byte.
* `DropKind.ofTag?` — the kind of a tag.
-/

namespace LossWindows

/-- Why a packet was dropped. -/
inductive DropKind
  | random
  | highFrequency
  | burst
deriving DecidableEq

/-- A byte that names no kind of drop. -/
structure UnknownCode where
  code : UInt8
deriving DecidableEq

def UnknownCode.message (unknown : UnknownCode) : String :=
  s!"No discriminant in enum `LossKind` matches the value `{unknown.code}`"

namespace DropKind

/-- All kinds, in the order of their codes. -/
def all : List DropKind :=
  [random, highFrequency, burst]

/-- The byte that stands for a kind. -/
def code : DropKind → UInt8
  | random => 1
  | highFrequency => 2
  | burst => 3

def name : DropKind → String
  | random => "random"
  | highFrequency => "high frequency"
  | burst => "burst"

/-- The kind that a byte stands for. -/
def ofCode (code : UInt8) : Except UnknownCode DropKind :=
  match all.find? fun kind => kind.code == code with
  | some kind => .ok kind
  | none => .error ⟨code⟩

/-- A tag as a byte, if it is one. -/
def codeOfTag? (tag : Int64) : Option UInt8 :=
  if 0 ≤ tag.toInt ∧ tag.toInt < 256 then some (UInt8.ofNat tag.toInt.toNat) else none

/-- The kind that a tag stands for, if it is known. -/
def ofTag? (tag : Int64) : Option DropKind :=
  (codeOfTag? tag).bind fun code => (ofCode code).toOption

@[simp] theorem ofCode_code (kind : DropKind) : ofCode kind.code = .ok kind := by
  cases kind <;> rfl

/-- A byte stands for a kind exactly when it is the kind's code. -/
theorem ofCode_eq_ok_iff {code : UInt8} {kind : DropKind} :
    ofCode code = .ok kind ↔ kind.code = code := by
  constructor
  · intro h
    unfold ofCode at h
    split at h
    · next found hf =>
      cases h
      simpa using List.find?_some hf
    · cases h
  · rintro rfl
    exact ofCode_code kind

/-- **A tag stands for a kind exactly when it equals the kind's code as an
integer.** -/
theorem ofTag?_eq_some_iff {tag : Int64} {kind : DropKind} :
    ofTag? tag = some kind ↔ tag.toInt = kind.code.toNat := by
  have hk : kind.code.toNat < 256 := kind.code.toNat_lt
  simp only [ofTag?, codeOfTag?]
  constructor
  · intro h
    split at h
    · next hr =>
      simp only [Option.bind_some, Except.toOption] at h
      split at h
      · next found hf =>
        cases h
        rw [ofCode_eq_ok_iff.1 hf, UInt8.toNat_ofNat', Nat.mod_eq_of_lt] <;> omega
      · cases h
    · cases h
  · intro h
    rw [if_pos (by omega), h]
    simp [Except.toOption]

end DropKind

end LossWindows
