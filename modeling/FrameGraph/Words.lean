/-!
# Machine words and aborts

Sizes and coordinates are machine words. Arithmetic on them is done in the natural numbers and then
checked: a result outside the word aborts the operation. Aborts are not errors: an error is an
answer that the caller expects, an abort ends the operation in the middle of its work.
-/

namespace FrameGraph

/-- Why an operation was aborted. -/
inductive Panic
  | addOverflow
  | subOverflow
  | mulOverflow
  | emptyChunk
  | said (text : String)
  | silent
  deriving DecidableEq, Repr

def Panic.message : Panic → String
  | .addOverflow => "attempt to add with overflow"
  | .subOverflow => "attempt to subtract with overflow"
  | .mulOverflow => "attempt to multiply with overflow"
  | .emptyChunk => "chunk size must be non-zero"
  | .said text => text
  | .silent => "unknown panic"

abbrev Checked (α : Type) := Except Panic α

namespace Checked

/-- The number of values of a 32-bit word. -/
abbrev word32 : Nat := 0x100000000

/-- The number of values of a 64-bit word. -/
abbrev word64 : Nat := 0x10000000000000000

@[inline] def add (word : Nat) (a b : Nat) : Checked Nat :=
  if a + b < word then .ok (a + b) else .error .addOverflow

@[inline] def mul (word : Nat) (a b : Nat) : Checked Nat :=
  if a * b < word then .ok (a * b) else .error .mulOverflow

/-- The product of two 32-bit words as a 32-bit word. -/
def mul32 (a b : Nat) : Checked UInt32 := (mul word32 a b).map UInt32.ofNat

/-! ### Laws -/

theorem add_eq_ok_iff {word a b n : Nat} : add word a b = .ok n ↔ a + b < word ∧ n = a + b := by
  unfold add
  split <;> rename_i h
  · simp [h, eq_comm]
  · simp [h]

theorem mul_eq_ok_iff {word a b n : Nat} : mul word a b = .ok n ↔ a * b < word ∧ n = a * b := by
  unfold mul
  split <;> rename_i h
  · simp [h, eq_comm]
  · simp [h]

end Checked

end FrameGraph
