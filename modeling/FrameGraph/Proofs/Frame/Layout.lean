import FrameGraph.Frame.Format
import Mathlib.Tactic.Common

/-!
# The planes of a payload

The planes of a picture lie end to end from the first byte of the payload on. They fill the payload,
with one exception: a planar picture with two quarter planes whose number of pixels leaves a
remainder of two or three has one byte behind its last plane that belongs to none.
-/

namespace FrameGraph

namespace PixelFormat

open Checked (word32 word64 mul mul32)

variable {f : PixelFormat} {width height : UInt32} {size : Nat}

/-- The bytes that the planes of a picture take together. -/
def covered (f : PixelFormat) (width height : UInt32) : Nat :=
  match f with
  | .unknown => 0
  | .yuv420p => pixels width height + pixels width height / 4 + pixels width height / 4
  | .nv12 | .nv21 => pixels width height + pixels width height / 2
  | f => pixels width height * f.bytesPerPixel?.getD 0

/-- The picture's pixels divide into its planes without a rest. -/
def Divides (f : PixelFormat) (width height : UInt32) : Prop :=
  f = .yuv420p → pixels width height % 4 < 2

instance : Decidable (f.Divides width height) :=
  inferInstanceAs (Decidable (f = .yuv420p → pixels width height % 4 < 2))

/-- The bytes of a row can be counted in a 32-bit word. -/
def Strided (f : PixelFormat) (width : UInt32) : Prop :=
  width.toNat * f.bytesPerPixel?.getD 0 < word32

instance : Decidable (f.Strided width) :=
  inferInstanceAs (Decidable (width.toNat * f.bytesPerPixel?.getD 0 < word32))

/-- What the planes leave of a payload is one byte or nothing. -/
theorem payloadSize_eq_covered (h : f.payloadSize width height = .ok size) :
    size = f.covered width height + if f.Divides width height then 0 else 1 := by
  have hpacked {b : Nat} (h : mul word64 (pixels width height) b = .ok size) :
      size = pixels width height * b :=
    (Checked.mul_eq_ok_iff.1 h).2
  have hplanar (h : (mul word64 (pixels width height) 3).map (· / 2) = .ok size) :
      size = pixels width height * 3 / 2 := by
    cases hmul : mul word64 (pixels width height) 3 with
    | error p => simp [hmul, Except.map] at h
    | ok n =>
      rw [hmul] at h
      cases h
      rw [(Checked.mul_eq_ok_iff.1 hmul).2]
  cases f
  case unknown =>
    cases h
    simp [covered, Divides]
  case yuv420p =>
    rw [hplanar h]
    by_cases hrest : pixels width height % 4 < 2
    · have hdivides : yuv420p.Divides width height := fun _ => hrest
      rw [if_pos hdivides, covered]
      omega
    · have hdivides : ¬ yuv420p.Divides width height := fun h => hrest (h rfl)
      rw [if_neg hdivides, covered]
      omega
  case nv12 | nv21 =>
    rw [hplanar h, if_pos (by simp [Divides]), covered]
    omega
  all_goals
    rw [hpacked h, if_pos (by simp [Divides])]
    rfl

lemma covered_le (h : f.payloadSize width height = .ok size) : f.covered width height ≤ size :=
  (payloadSize_eq_covered h).symm ▸ Nat.le_add_right ..

lemma covered_of_divides (h : f.payloadSize width height = .ok size)
    (hdivides : f.Divides width height) : f.covered width height = size := by
  rw [payloadSize_eq_covered h, if_pos hdivides, Nat.add_zero]

/-! ### Tilings -/

/-- From number `i` on, `count` planes lie end to end from `start` to `stop`. -/
def Tiles (f : PixelFormat) (width height : UInt32) : (count i start stop : Nat) → Prop
  | 0, _, start, stop => start = stop
  | count + 1, i, start, stop =>
    ∃ l : PlaneLayout, f.planeLayout width height i = .ok (some l) ∧ l.offset = start ∧
      f.Tiles width height count (i + 1) (start + l.length) stop

lemma Tiles.le {count i start stop : Nat} (h : f.Tiles width height count i start stop) :
    start ≤ stop := by
  induction count generalizing i start with
  | zero => exact Nat.le_of_eq h
  | succ count ih =>
    obtain ⟨l, -, -, hrest⟩ := h
    exact Nat.le_trans (Nat.le_add_right ..) (ih hrest)

lemma Tiles.layout {count i start stop k : Nat} (h : f.Tiles width height count i start stop)
    (hk : k < count) :
    ∃ l, f.planeLayout width height (i + k) = .ok (some l) ∧ l.offset + l.length ≤ stop := by
  induction count generalizing i start k with
  | zero => exact absurd hk (Nat.not_lt_zero k)
  | succ count ih =>
    obtain ⟨l, hl, rfl, hrest⟩ := h
    cases k with
    | zero => exact ⟨l, hl, hrest.le⟩
    | succ k =>
      obtain ⟨l', hl', hstop⟩ := ih hrest (Nat.lt_of_succ_lt_succ hk)
      exact ⟨l', by rwa [Nat.add_assoc, Nat.add_comm 1] at hl', hstop⟩

/-- No payload of an addressable size makes the offset of a plane overflow. -/
lemma mul_pixels_five (h : (mul word64 (pixels width height) 3).map (· / 2) = .ok size)
    (hsize : size < word64 / 4) :
    mul word64 (pixels width height) 5 = .ok (pixels width height * 5) := by
  cases hmul : mul word64 (pixels width height) 3 with
  | error p => simp [hmul, Except.map] at h
  | ok n =>
    rw [hmul] at h
    cases h
    have hn := (Checked.mul_eq_ok_iff.1 hmul).2
    rw [word64] at hsize
    refine Checked.mul_eq_ok_iff.2 ⟨?_, rfl⟩
    show pixels width height * 5 < 0x10000000000000000
    dsimp only at hsize
    omega

lemma planeLayout_packed {b : Nat} (hpacked : f.bytesPerPixel? = some b)
    (h : f.payloadSize width height = .ok size) :
    f.planeLayout width height 0 =
      if f.Strided width then .ok (some ⟨0, size, .ofNat (width.toNat * b)⟩)
      else .error .mulOverflow := by
  have hmul : mul word64 (pixels width height) b = .ok size := by
    cases f <;> cases hpacked <;> exact h
  have hlayout : f.planeLayout width height 0 = (do
      let length ← mul word64 (pixels width height) b
      let stride ← mul32 width.toNat b
      return some ⟨0, length, stride⟩) := by
    cases f <;> cases hpacked <;> rfl
  rw [hlayout, hmul]
  by_cases hrow : width.toNat * b < word32
  · rw [if_pos (by rwa [Strided, hpacked])]
    simp [mul32, mul, hrow, Except.map, bind, Except.bind, pure, Except.pure]
  · rw [if_neg (by rwa [Strided, hpacked])]
    simp [mul32, mul, hrow, Except.map, bind, Except.bind]

/-- The planes of a picture follow each other from the start of its payload. -/
theorem tiles_planes (h : f.payloadSize width height = .ok size) (hsize : size < word64 / 4)
    (hrows : f.Strided width) :
    f.Tiles width height f.planeCount 0 0 (f.covered width height) := by
  have hpacked {b : Nat} (hf : f.bytesPerPixel? = some b)
      (hcovered : f.covered width height = size) :
      f.Tiles width height 1 0 0 (f.covered width height) := by
    refine ⟨_, (planeLayout_packed hf h).trans (if_pos hrows), rfl, ?_⟩
    rw [Tiles, hcovered]
    exact Nat.zero_add size
  cases f
  case unknown => rfl
  case yuv420p =>
    have hoffset := mul_pixels_five h hsize
    refine ⟨_, rfl, rfl, _, rfl, Nat.zero_add _ |>.symm, _,
      by rw [planeLayout, hoffset]; rfl, ?_, ?_⟩
    · show pixels width height * 5 / 4 = 0 + pixels width height + pixels width height / 4
      omega
    · show 0 + pixels width height + pixels width height / 4 + pixels width height / 4 = _
      rw [covered, Nat.zero_add]
  case nv12 | nv21 =>
    refine ⟨_, rfl, rfl, _, rfl, Nat.zero_add _ |>.symm, ?_⟩
    show 0 + pixels width height + pixels width height / 2 = _
    rw [covered, Nat.zero_add]
  all_goals exact hpacked rfl (covered_of_divides h (by simp [Divides]))

/-- Behind the last plane of a format there is none. -/
lemma planeLayout_of_ge {i : Nat} (h : f.planeCount ≤ i) :
    f.planeLayout width height i = .ok none := by
  cases f with
  | unknown => rfl
  | yuv420p =>
    obtain ⟨k, rfl⟩ := Nat.exists_eq_add_of_le' h
    rfl
  | nv12 | nv21 =>
    obtain ⟨k, rfl⟩ := Nat.exists_eq_add_of_le' h
    rfl
  | _ =>
    obtain ⟨k, rfl⟩ := Nat.exists_eq_add_of_le' h
    rfl

/-- Rows that are too long for a word are found out at the first plane. -/
lemma planeLayout_of_not_strided (h : f.payloadSize width height = .ok size)
    (hrows : ¬ f.Strided width) :
    f.planeCount = 1 ∧ f.planeLayout width height 0 = .error .mulOverflow := by
  cases hf : f.bytesPerPixel? with
  | none => simp [Strided, hf] at hrows
  | some b =>
    refine ⟨?_, (planeLayout_packed hf h).trans (if_neg hrows)⟩
    cases f <;> first | rfl | cases hf

end PixelFormat

end FrameGraph
