import LossWindows.Losses

/-!
# Reading content in place

A log can be far longer than what fits into memory as a list of its bytes.  Here its lines
are found by a scan over the content, and each of them is taken out only when it is read.
Newlines that follow one another are passed at once: the lines between them are empty, and
empty lines are skipped.

## Main definitions

* `Text.pastWhile` — where a run of bytes ends.
* `Losses.readInPlace` — the losses in the content of a file.
-/

namespace LossWindows

/-- The first place from `pos` on whose byte does not pass the test. -/
@[specialize] def Text.pastWhile (test : UInt8 → Bool) (content : ByteArray) (pos : Nat) : Nat :=
  if h : pos < content.size then
    if test content[pos] then pastWhile test content (pos + 1) else pos
  else pos
termination_by content.size - pos

theorem Text.le_pastWhile (test : UInt8 → Bool) (content : ByteArray) (pos : Nat) :
    pos ≤ pastWhile test content pos := by
  fun_induction pastWhile test content pos with
  | case1 pos h htest ih => exact Nat.le_of_succ_le ih
  | case2 => exact Nat.le_refl _
  | case3 => exact Nat.le_refl _

def Text.dropFinalByte (mark : UInt8) (bytes : ByteArray) : ByteArray :=
  if bytes[bytes.size - 1]? == some mark then bytes.extract 0 (bytes.size - 1) else bytes

/-- The line from `start` on that ends at `stop`.  A carriage return is dropped only before a
newline, not at the end of the content. -/
def Text.lineAt (carriage : UInt8) (content : ByteArray) (start stop : Nat) : ByteArray :=
  let piece := content.extract start stop
  if stop < content.size then dropFinalByte carriage piece else piece

namespace Reading

/-- Skips so many lines. -/
def skip (reading : Reading) (count : Nat) : Reading :=
  { reading with skipped := reading.skipped + Int32.ofNat count }

/-- Reads the lines from `pos` on. -/
def linesInPlace (told : Logged Reading) (content : ByteArray) (pos : Nat) :
    Logged (Except ReadError Reading) :=
  let start := Text.pastWhile (· == '\n'.toUInt8) content pos
  let told := (skip · (start - pos)) <$> told
  if start < content.size then
    let stop := Text.pastWhile (· != '\n'.toUInt8) content start
    match String.fromUTF8? (Text.lineAt '\r'.toUInt8 content start stop) with
    | some text => linesInPlace (told >>= (·.line text)) content (stop + 1)
    | none => (fun _ => .error .notUtf8) <$> told
  else .ok <$> told
termination_by content.size - pos
decreasing_by
  have hstart := Text.le_pastWhile (· == '\n'.toUInt8) content pos
  have hstop := Text.le_pastWhile (· != '\n'.toUInt8) content
    (Text.pastWhile (· == '\n'.toUInt8) content pos)
  omega

end Reading

/-- The losses in the content of a file, found in place. -/
def Losses.readInPlace (content : ByteArray) : Logged (Except ReadError Losses) := do
  match ← Reading.linesInPlace (pure Reading.empty) content 0 with
  | .error e => return .error e
  | .ok reading => .ok <$> reading.finish

end LossWindows
