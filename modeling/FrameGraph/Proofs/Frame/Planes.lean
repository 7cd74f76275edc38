import FrameGraph.Proofs.Frame.Copies

/-!
# Planes side by side

The planes of a picture share one payload. They lie end to end, whatever is left over when the
number of pixels is divided: no plane reaches into another one or beyond the payload. So what is
written through one of them is not seen through the others.
-/

namespace FrameGraph

/-! ### Places -/

/-- Planes that lie end to end: the first one is where the payload starts, with rows of `stride`
bytes, every other one starts where the one before it ends, and the last one ends at `stop`. -/
structure EndToEnd (planes : List PlaneLayout) (stride : UInt32) (stop : Nat) : Prop where
  first : ∀ l ∈ planes.head?, l.offset = 0 ∧ l.stride = stride
  adjacent : planes.IsChain fun l l' => l'.offset = l.offset + l.length
  last : ∀ l ∈ planes.getLast?, l.offset + l.length = stop

/-- No plane reaches beyond the end of the last one. -/
lemma EndToEnd.end_le {planes : List PlaneLayout} {stride : UInt32} {stop : Nat} {l : PlaneLayout}
    (h : EndToEnd planes stride stop)
    (hordered : planes.Pairwise fun l l' => l.offset + l.length ≤ l'.offset) (hl : l ∈ planes) :
    l.offset + l.length ≤ stop := by
  obtain rfl | ⟨before, last, rfl⟩ := List.eq_nil_or_concat planes
  · cases hl
  · rw [List.concat_eq_append] at *
    have hstop : last.offset + last.length = stop := h.last last (by simp)
    rcases List.mem_append.1 hl with hbefore | hlast
    · have hgap : l.offset + l.length ≤ last.offset :=
        (List.pairwise_append.1 hordered).2.2 l hbefore last (List.mem_singleton_self last)
      omega
    · rw [List.mem_singleton.1 hlast]
      exact Nat.le_of_eq hstop

namespace PixelFormat

open Checked (word64 mul)

variable {f : PixelFormat} {width height : UInt32} {size : Nat} {stride : UInt32} {i j : Nat}
  {l l' : PlaneLayout}

lemma lt_planeCount (h : f.planeLayout width height i = .ok (some l)) : i < f.planeCount := by
  by_contra hi
  rw [planeLayout_of_ge (Nat.le_of_not_lt hi)] at h
  cases h

/-- The offset of the third plane is the only one that is computed by a product. -/
lemma planeLayout_two : yuv420p.planeLayout width height 2 =
    if pixels width height * 5 < word64 then
      .ok (some ⟨pixels width height * 5 / 4, pixels width height / 4, width / 2⟩)
    else .error .mulOverflow := by
  rw [planeLayout, mul]
  split <;> rfl

/-- Of two planes the one with the lower number ends before the other one starts. -/
theorem end_le_offset (hi : f.planeLayout width height i = .ok (some l))
    (hj : f.planeLayout width height j = .ok (some l')) (hij : i < j) :
    l.offset + l.length ≤ l'.offset := by
  have hcount := lt_planeCount hj
  cases f with
  | unknown => cases hi
  | yuv420p =>
    obtain rfl | rfl : j = 1 ∨ j = 2 := by
      simp only [planeCount] at hcount
      omega
    · obtain rfl : i = 0 := by omega
      cases hi
      cases hj
      exact Nat.le_of_eq (Nat.zero_add _)
    · rw [planeLayout_two] at hj
      split at hj
      · cases hj
        obtain rfl | rfl : i = 0 ∨ i = 1 := by omega
        all_goals
          cases hi
          dsimp only
          omega
      · cases hj
  | nv12 | nv21 =>
    obtain ⟨rfl, rfl⟩ : i = 0 ∧ j = 1 := by
      simp only [planeCount] at hcount
      omega
    cases hi
    cases hj
    exact Nat.le_of_eq (Nat.zero_add _)
  | _ =>
    simp only [planeCount] at hcount
    omega

/-- A format that keeps its pixels in one plane keeps the whole payload in it. -/
lemma planeLayout_of_packed {b : Nat} (hpacked : f.bytesPerPixel? = some b)
    (hsize : f.payloadSize width height = .ok size) (hstride : f.defaultStride width = .ok stride)
    (i : Nat) : f.planeLayout width height i = .ok [⟨0, size, stride⟩][i]? := by
  cases i with
  | zero =>
    obtain ⟨hrows, rfl⟩ : f.Strided width ∧ stride = .ofNat (width.toNat * b) := by
      simp only [defaultStride, hpacked, Checked.mul32, mul] at hstride
      split at hstride
      · rename_i hrows
        cases hstride
        exact ⟨by rwa [Strided, hpacked], rfl⟩
      · cases hstride
    exact (planeLayout_packed hpacked hsize).trans (if_pos hrows)
  | succ i =>
    have hcount : f.planeCount = 1 := by cases f <;> first | rfl | cases hpacked
    rw [planeLayout_of_ge (hcount ▸ Nat.le_add_left 1 i)]
    rfl

/-- When all places can be computed, there is one for each plane, and they lie end to end as far as
the planes reach. -/
lemma exists_planes (hsize : f.payloadSize width height = .ok size)
    (hstride : f.defaultStride width = .ok stride)
    (hplanes : ∀ i < f.planeCount, (f.planeLayout width height i).isOk) :
    ∃ planes : List PlaneLayout, planes.length = f.planeCount ∧
      (∀ i, f.planeLayout width height i = .ok planes[i]?) ∧
      EndToEnd planes stride (f.covered width height) := by
  cases f with
  | unknown => exact ⟨[], rfl, fun i => rfl, by simp, .nil, by simp⟩
  | yuv420p =>
    cases hstride
    refine ⟨[⟨0, pixels width height, width⟩,
      ⟨pixels width height, pixels width height / 4, width / 2⟩,
      ⟨pixels width height * 5 / 4, pixels width height / 4, width / 2⟩], rfl, fun i => ?_, ?_⟩
    · obtain rfl | rfl | rfl | hi : i = 0 ∨ i = 1 ∨ i = 2 ∨ 3 ≤ i := by omega
      · rfl
      · rfl
      · have hok := hplanes 2 (by decide)
        rw [planeLayout_two] at hok ⊢
        split at hok
        · rw [if_pos ‹_›]
          rfl
        · cases hok
      · rw [List.getElem?_eq_none hi]
        exact planeLayout_of_ge hi
    · have hthird : pixels width height * 5 / 4 =
          pixels width height + pixels width height / 4 := by omega
      exact ⟨by simp, by simp [hthird], by simp [covered, hthird]⟩
  | nv12 | nv21 =>
    cases hstride
    refine ⟨[⟨0, pixels width height, width⟩,
      ⟨pixels width height, pixels width height / 2, width⟩], rfl, fun i => ?_, ?_⟩
    · obtain rfl | rfl | hi : i = 0 ∨ i = 1 ∨ 2 ≤ i := by omega
      · rfl
      · rfl
      · rw [List.getElem?_eq_none hi]
        exact planeLayout_of_ge hi
    · exact ⟨by simp, by simp, by simp [covered]⟩
  | _ =>
    have hcovered := covered_of_divides hsize (by simp [Divides])
    refine ⟨[⟨0, size, stride⟩], rfl, planeLayout_of_packed rfl hsize hstride, ?_⟩
    exact ⟨by simp, .singleton _, by simp [hcovered]⟩

end PixelFormat

/-! ### Writing -/

namespace Region

variable {r : Region} {offset i : Nat} {new : List UInt8}

/-- A byte that is not written stays as it was. -/
lemma getElem?_write_of_outside (h : i < offset ∨ offset + new.length ≤ i) :
    (r.write offset new).bytes[i]? = r.bytes[i]? := by
  obtain hi | hi := Nat.lt_or_ge i r.capacity
  · have hbytes : i < r.bytes.length := hi
    rw [write]
    obtain hbefore | hbehind := h
    · have hleft : i < (r.bytes.take offset).length := by
        rw [List.length_take]
        omega
      rw [List.append_assoc, List.getElem?_append_left hleft, List.getElem?_take_of_lt hbefore]
    · have hlength : (r.bytes.take offset ++ new.take (r.capacity - offset)).length =
          offset + new.length := by
        rw [List.length_append, List.length_take, List.length_take]
        omega
      rw [List.getElem?_append_right (hlength ▸ hbehind), hlength, List.getElem?_drop,
        Nat.add_sub_cancel' hbehind]
  · have hwritten : (r.write offset new).capacity ≤ i := capacity_write r offset new ▸ hi
    rw [List.getElem?_eq_none hwritten, List.getElem?_eq_none hi]

/-- As far as the region goes, the new bytes are found where they were written. -/
lemma getElem?_write_of_inside (h : offset + i < r.capacity) (hi : i < new.length) :
    (r.write offset new).bytes[offset + i]? = new[i]? := by
  have hbefore : (r.bytes.take offset).length = offset :=
    List.length_take_of_le (Nat.le_of_lt (Nat.lt_of_le_of_lt (Nat.le_add_right ..) h))
  have hright : i < (new.take (r.capacity - offset)).length := by
    rw [List.length_take]
    omega
  rw [write, List.append_assoc, List.getElem?_append_right (by omega), hbefore,
    Nat.add_sub_cancel_left, List.getElem?_append_left hright, List.getElem?_take_of_lt (by omega)]

end Region

namespace FrameBuffer

variable {b : FrameBuffer} {i j : Nat} {l l' : PlaneLayout} {new : List UInt8}

lemma layout_eq_some (h : b.layout i = .ok (some l)) :
    b.info.format.planeLayout b.info.width b.info.height i = .ok (some l) ∧
      l.offset + l.length ≤ b.size := by
  unfold layout at h
  cases hplane : b.info.format.planeLayout b.info.width b.info.height i with
  | error p => simp [hplane, Bind.bind, Except.bind] at h
  | ok found =>
    cases found with
    | none => simp [hplane, Bind.bind, Except.bind, pure, Except.pure] at h
    | some l' =>
      by_cases hfits : l'.offset + l'.length ≤ b.size
      · obtain rfl : l' = l := by
          simpa [hplane, hfits, Bind.bind, Except.bind, pure, Except.pure] using h
        exact ⟨rfl, hfits⟩
      · simp [hplane, hfits, Bind.bind, Except.bind, pure, Except.pure] at h

lemma slice_writePlane_of_disjoint
    (h : l.offset + l.length ≤ l'.offset ∨ l'.offset + l'.length ≤ l.offset) (new : List UInt8) :
    (b.writePlane l new).slice l' = b.slice l' := by
  have hnew : (new.take l.length).length ≤ l.length := List.length_take_le ..
  refine List.ext_getElem? fun k => ?_
  simp only [slice, List.getElem?_take, List.getElem?_drop, writePlane]
  split
  · rw [Region.getElem?_write_of_outside (by omega)]
  · rfl

/-- What is written through one plane is not seen through another one. -/
theorem plane_writePlane_of_ne (hi : b.layout i = .ok (some l)) (hij : i ≠ j) (new : List UInt8) :
    (b.writePlane l new).plane j = b.plane j := by
  have hlayout : (b.writePlane l new).layout j = b.layout j := rfl
  rw [plane, plane, hlayout]
  cases hj : b.layout j with
  | error p => rfl
  | ok found =>
    cases found with
    | none => rfl
    | some l' =>
      obtain ⟨hi, -⟩ := layout_eq_some hi
      obtain ⟨hj, -⟩ := layout_eq_some hj
      have hdisjoint : l.offset + l.length ≤ l'.offset ∨ l'.offset + l'.length ≤ l.offset :=
        (Nat.lt_or_gt_of_ne hij).imp (PixelFormat.end_le_offset hi hj)
          (PixelFormat.end_le_offset hj hi)
      show Except.ok _ = Except.ok _
      simp only [Option.map_some, slice_writePlane_of_disjoint hdisjoint]

/-- What is written through a plane is seen through it. -/
lemma plane_writePlane_self (hi : b.layout i = .ok (some l)) (hvalid : b.isValid = true)
    (hnew : new.length = l.length) :
    (b.writePlane l new).plane i = .ok (some ⟨new, l.stride⟩) := by
  have hlayout : (b.writePlane l new).layout i = .ok (some l) := hi
  have hroom : l.offset + l.length ≤ b.region.capacity :=
    Nat.le_trans (layout_eq_some hi).2 (of_decide_eq_true hvalid)
  have hslice : (b.writePlane l new).slice l = new := by
    refine List.ext_getElem? fun k => ?_
    rw [slice, List.getElem?_take, List.getElem?_drop, writePlane, ← hnew, List.take_length]
    split
    · exact Region.getElem?_write_of_inside (by omega) ‹_›
    · rw [List.getElem?_eq_none (by omega)]
  have hplane : (b.writePlane l new).plane i =
      .ok (some ⟨(b.writePlane l new).slice l, l.stride⟩) := by
    rw [plane, hlayout]
    rfl
  rw [hplane, hslice]

end FrameBuffer

/-! ### The geometry -/

namespace PixelFormat

/-- As long as nothing overflows, a picture has as many places as it has planes, and they lie end to
end from the start of the payload. They are in order, none of them beyond the payload, which ends
with the last one or, if the pixels of a picture with quarter planes do not divide, one byte later.
So a plane shows what was written through it, and no other plane does. -/
theorem planes_apart {f : PixelFormat} {width height : UInt32} {size : Nat} {stride : UInt32}
    (hsize : f.payloadSize width height = .ok size) (hstride : f.defaultStride width = .ok stride)
    (hplanes : ∀ i < f.planeCount, (f.planeLayout width height i).isOk) :
    ∃ planes stop, planes.length = f.planeCount ∧
      (∀ i, f.planeLayout width height i = .ok planes[i]?) ∧
      EndToEnd planes stride stop ∧
      size = stop + (if f = .yuv420p ∧ 2 ≤ pixels width height % 4 then 1 else 0) ∧
      (planes.Pairwise fun l l' => l.offset + l.length ≤ l'.offset) ∧
      (∀ l ∈ planes, l.offset + l.length ≤ size) ∧
      ∀ b : FrameBuffer, b.info.format = f → b.info.width = width → b.info.height = height →
        ∀ i l new, b.layout i = .ok (some l) →
          (∀ j ≠ i, (b.writePlane l new).plane j = b.plane j) ∧
          (b.isValid = true → new.length = l.length →
            (b.writePlane l new).plane i = .ok (some ⟨new, l.stride⟩)) := by
  obtain ⟨planes, hcount, hlayout, hends⟩ := exists_planes hsize hstride hplanes
  have hat (i : Nat) (hi : i < planes.length) :
      f.planeLayout width height i = .ok (some planes[i]) := by
    rw [hlayout, List.getElem?_eq_getElem hi]
  have hordered : planes.Pairwise fun l l' => l.offset + l.length ≤ l'.offset :=
    List.pairwise_iff_getElem.2 fun i j hi hj hij => end_le_offset (hat i hi) (hat j hj) hij
  refine ⟨planes, f.covered width height, hcount, hlayout, hends, ?_, hordered, fun l hl => ?_,
    fun b _ _ _ i l new hi => ⟨fun j hj => ?_, FrameBuffer.plane_writePlane_self hi⟩⟩
  · have hrest : f.Divides width height ↔ ¬ (f = .yuv420p ∧ 2 ≤ pixels width height % 4) := by
      rw [Divides, not_and, Nat.not_le]
    simp only [payloadSize_eq_covered hsize, hrest, ite_not]
  · exact Nat.le_trans (hends.end_le hordered hl) (covered_le hsize)
  · exact FrameBuffer.plane_writePlane_of_ne hi hj.symm new

/-- Three columns and two rows of pixels in quarter planes. -/
def sixPixels : FrameBuffer where
  region := ⟨[1, 2, 3, 4, 5, 6, 7, 8, 9]⟩
  info := { width := 3, height := 2, stride := 3, format := .yuv420p }
  size := 9

/-- There is a plane of six bytes, there are two of one byte each, and the last byte is in none. -/
theorem planes_apart_sixPixels :
    ∃ planes stop, planes.length = 3 ∧ EndToEnd planes 3 stop ∧ 9 = stop + 1 ∧
      (∀ j ≠ 1, (sixPixels.writePlane ⟨6, 1, 1⟩ [0]).plane j = sixPixels.plane j) ∧
      (sixPixels.writePlane ⟨6, 1, 1⟩ [0]).plane 1 = .ok (some ⟨[0], 1⟩) := by
  have hsize : yuv420p.payloadSize 3 2 = .ok 9 := rfl
  have hstride : yuv420p.defaultStride 3 = .ok 3 := rfl
  obtain ⟨planes, stop, hcount, -, hends, hstop, -, -, hwrites⟩ :=
    planes_apart hsize hstride (by decide)
  obtain ⟨hothers, hself⟩ := hwrites sixPixels rfl rfl rfl 1 ⟨6, 1, 1⟩ [0] rfl
  exact ⟨planes, stop, hcount, hends, hstop, hothers, hself rfl rfl⟩

end PixelFormat

end FrameGraph
