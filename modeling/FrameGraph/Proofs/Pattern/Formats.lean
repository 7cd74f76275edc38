import FrameGraph.Proofs.Frame.Sizes
import FrameGraph.Proofs.Pattern.Pictures

/-!
# One picture in all formats

Drawing replaces the first bytes of a payload, as far as the planes reach, and nothing else. Which
bytes these are depends on the picture, the dimensions and the format alone: each point has one
colour, and a format says how many bytes it takes, in which order, or that only its brightness
counts.
-/

namespace FrameGraph

/-! ### The start of a payload -/

namespace FrameBuffer

variable {b : FrameBuffer} {l : PlaneLayout} {bytes new : List UInt8}

/-- The payload is the one that the metadata asks for, and it fits the region and the address
space. -/
structure Carries (b : FrameBuffer) : Prop where
  payload : b.info.frameSize = .ok b.size
  fits : b.size ≤ b.capacity
  addressable : b.size ≤ Region.addressSpace

lemma Carries.covered_le (h : b.Carries) : b.covered ≤ b.size := PixelFormat.covered_le h.payload

lemma Carries.covered_of_divides (h : b.Carries) (hdivides : b.Divides) : b.covered = b.size :=
  PixelFormat.covered_of_divides h.payload hdivides

/-- The buffer with other bytes at its start. -/
def painted (b : FrameBuffer) (bytes : List UInt8) : FrameBuffer :=
  { b with region := ⟨bytes ++ b.region.bytes.drop bytes.length⟩ }

lemma layout_painted (i : Nat) : (b.painted bytes).layout i = b.layout i := rfl

/-- A plane is written behind the bytes that are there already. -/
lemma writePlane_painted (hstart : l.offset = bytes.length) (hlength : l.length = new.length)
    (hfits : l.offset + l.length ≤ b.capacity) :
    (b.painted bytes).writePlane l new = b.painted (bytes ++ new) := by
  have hroom : new.length ≤ (b.painted bytes).region.capacity - l.offset := by
    simp only [painted, Region.capacity, List.length_append, List.length_drop,
      FrameBuffer.capacity] at *
    omega
  have hregion : (b.painted bytes).region.write l.offset (new.take l.length) =
      (b.painted (bytes ++ new)).region := by
    rw [Region.write, hlength, List.take_length, List.take_of_length_le hroom, hstart]
    simp only [painted, List.take_left, List.length_append, List.append_assoc, ← List.drop_drop,
      List.drop_left]
  rw [writePlane, hregion]
  rfl

lemma writePlane_eq_painted (hstart : l.offset = 0) (hlength : l.length = new.length)
    (hfits : l.offset + l.length ≤ b.capacity) : b.writePlane l new = b.painted new := by
  have hwrite : (b.painted []).writePlane l new = b.painted ([] ++ new) :=
    writePlane_painted hstart hlength hfits
  exact hwrite

lemma data_painted (h : bytes.length ≤ b.size) :
    (b.painted bytes).data = bytes ++ b.data.drop bytes.length := by
  rw [data, painted, List.take_append, List.take_of_length_le h, data, List.drop_take]

lemma take_drop_append {offset count : Nat} {rest : List UInt8}
    (h : offset + count ≤ bytes.length) :
    ((bytes ++ rest).drop offset).take count = (bytes.drop offset).take count := by
  have hlength : count ≤ (bytes.drop offset).length := by
    rw [List.length_drop]
    omega
  rw [List.drop_append_of_le_length (by omega), List.take_append_of_le_length hlength]

lemma plane_painted {i : Nat} (hlayout : b.layout i = .ok (some l))
    (h : l.offset + l.length ≤ bytes.length) :
    (b.painted bytes).plane i = .ok (some ⟨(bytes.drop l.offset).take l.length, l.stride⟩) := by
  rw [plane, layout_painted, hlayout, ← take_drop_append h]
  rfl

/-- Some bytes of the payload. -/
def bytesAt (b : FrameBuffer) (offset count : Nat) : List UInt8 := (b.data.drop offset).take count

lemma bytesAt_painted {offset count : Nat} (h : offset + count ≤ bytes.length)
    (hsize : bytes.length ≤ b.size) :
    (b.painted bytes).bytesAt offset count = (bytes.drop offset).take count := by
  rw [bytesAt, data_painted hsize, take_drop_append h]

end FrameBuffer

/-! ### Drawing -/

namespace Picture

variable {p : Picture} {f : PixelFormat} {b b' : FrameBuffer} {width height n : Nat}

/-- The bytes behind those of the points: two planes of the middle value. -/
def neutral (f : PixelFormat) (points : Nat) : List UInt8 :=
  if f = .yuv420p then List.replicate (points / 4) 128 ++ List.replicate (points / 4) 128 else []

/-- All bytes that are drawn. -/
def drawing (p : Picture) (f : PixelFormat) (width height : Nat) : List UInt8 :=
  p.image f width height ++ neutral f (width * height)

lemma drawing_of_packed (h : f ≠ .yuv420p) : p.drawing f width height = p.image f width height := by
  rw [drawing, neutral, if_neg h, List.append_nil]

lemma drawing_of_planar (h : f = .yuv420p) : p.drawing f width height =
    p.image f width height ++ (List.replicate (width * height / 4) 128 ++
      List.replicate (width * height / 4) 128) := by
  rw [drawing, neutral, if_pos h]

/-- In a planar format a point takes one byte. -/
lemma length_image_of_planar (h : f = .yuv420p) :
    (p.image f width height).length = width * height := by
  rw [length_image, h, Nat.mul_comm]
  exact congrArg (· * _) (Nat.mul_one _)

lemma drawFirstPlane_eq_ok_iff {l : PlaneLayout} (hwidth : 0 < b.info.width.toNat)
    (hheight : 0 < b.info.height.toNat) (hn : 0 < n) (hlayout : b.layout 0 = .ok (some l))
    (hstride : l.stride.toNat = b.info.width.toNat * n)
    (hlength : l.length = b.info.width.toNat * n * b.info.height.toNat) :
    p.drawFirstPlane n b = .ok b' ↔ p.Steady b.info.width.toNat b.info.height.toNat ∧
      b' = b.writePlane l (p.image b.info.format b.info.width.toNat b.info.height.toNat) := by
  have hrow : 0 < b.info.width.toNat * n := Nat.mul_pos hwidth hn
  have hnonzero : l.stride ≠ 0 := fun h => by
    rw [h] at hstride
    exact absurd hstride (Nat.ne_of_lt hrow)
  have hdraw : p.drawFirstPlane n b = (do
      let bytes ← p.planeBytes b.info.format b.info.width.toNat b.info.height.toNat
        (l.stride.toNat / n) (l.length / l.stride.toNat) 0
      return b.writePlane l bytes) := by
    rw [drawFirstPlane, hlayout]
    exact if_neg hnonzero
  rw [hdraw, hstride, hlength, Nat.mul_div_cancel _ hn, Nat.mul_div_cancel_left _ hrow, bind_eq_ok]
  constructor
  · rintro ⟨bytes, hbytes, ⟨⟩⟩
    obtain ⟨hsteady, rfl⟩ := (planeBytes_eq_ok_iff hwidth hheight).1 hbytes
    exact ⟨hsteady, rfl⟩
  · rintro ⟨hsteady, rfl⟩
    exact ⟨_, (planeBytes_eq_ok_iff hwidth hheight).2 ⟨hsteady, rfl⟩, rfl⟩

/-- A plane is filled behind the bytes that are there already. -/
lemma fillPlane_painted {i : Nat} {v : UInt8} {l : PlaneLayout} {bytes : List UInt8}
    (hlayout : b.layout i = .ok (some l)) (hstart : l.offset = bytes.length)
    (hfits : l.offset + l.length ≤ b.capacity) :
    fillPlane i v (b.painted bytes) = .ok (b.painted (bytes ++ List.replicate l.length v)) := by
  have hwrite : (b.painted bytes).writePlane l (List.replicate l.length v) =
      b.painted (bytes ++ List.replicate l.length v) :=
    FrameBuffer.writePlane_painted hstart List.length_replicate.symm hfits
  rw [fillPlane, FrameBuffer.layout_painted, hlayout, ← hwrite]
  rfl

lemma covered_of_packed {width height : UInt32} (h : f.bytesPerPixel? = some n) :
    f.covered width height = PixelFormat.pixels width height * n := by
  cases f <;> cases h <;> rfl

/-- A format that keeps whole pixels together has one plane, which is the payload. -/
lemma drawFirstPlane_packed (hb : b.Carries) (hwidth : 0 < b.info.width.toNat)
    (hheight : 0 < b.info.height.toNat) (hpacked : b.info.format.bytesPerPixel? = some n)
    (hn : pixelLength b.info.format = n) (hpos : 0 < n) :
    p.drawFirstPlane n b = .ok b' ↔ b.Strided ∧
      p.Steady b.info.width.toNat b.info.height.toNat ∧
      b' = b.painted (p.image b.info.format b.info.width.toNat b.info.height.toNat) := by
  have hplane := PixelFormat.planeLayout_packed hpacked hb.payload
  by_cases hrows : b.Strided
  · have hsize : b.size = b.info.width.toNat * n * b.info.height.toNat := by
      have hdivides : b.Divides := fun hplanar => by
        rw [hplanar] at hpacked
        cases hpacked
      rw [← hb.covered_of_divides hdivides, FrameBuffer.covered, covered_of_packed hpacked,
        PixelFormat.pixels, Nat.mul_right_comm]
    have hstride : (UInt32.ofNat (b.info.width.toNat * n)).toNat = b.info.width.toNat * n := by
      rw [FrameBuffer.Strided, PixelFormat.Strided, hpacked] at hrows
      exact UInt32.toNat_ofNat_of_lt' hrows
    have hlayout := FrameBuffer.layout_of_le (hplane.trans (if_pos hrows))
      (Nat.le_of_eq (Nat.zero_add _))
    rw [drawFirstPlane_eq_ok_iff hwidth hheight hpos hlayout hstride hsize,
      FrameBuffer.writePlane_eq_painted rfl]
    · simp only [hrows, true_and]
    · show b.size = _
      rw [length_image, hn, hsize, Nat.mul_comm]
    · show 0 + b.size ≤ b.capacity
      rw [Nat.zero_add]
      exact hb.fits
  · have hnone : b.layout 0 = .error .mulOverflow := by
      rw [FrameBuffer.layout, hplane.trans (if_neg hrows)]
      rfl
    rw [drawFirstPlane, hnone]
    exact iff_of_false (by simp [bind, Except.bind]) fun h => hrows h.1

/-- The planes of a planar picture. -/
lemma layouts_of_planar (hb : b.Carries) (hplanar : b.info.format = .yuv420p) {points : Nat}
    (hpoints : b.info.width.toNat * b.info.height.toNat = points) :
    b.layout 0 = .ok (some ⟨0, points, b.info.width⟩) ∧
      b.layout 1 = .ok (some ⟨points, points / 4, b.info.width / 2⟩) ∧
      b.layout 2 = .ok (some ⟨points + points / 4, points / 4, b.info.width / 2⟩) ∧
      points + points / 4 + points / 4 ≤ b.size := by
  have hpayload : b.info.format.payloadSize b.info.width b.info.height = .ok b.size := hb.payload
  have hsize : points + points / 4 + points / 4 ≤ b.size := by
    rw [(PixelFormat.payloadSize_eq_ok_iff.1 hpayload).2, hplanar, PixelFormat.payload,
      Nat.mul_assoc, hpoints]
    omega
  have hoffset : Checked.mul Checked.word64 points 5 = .ok (points * 5) := by
    rw [hplanar] at hpayload
    exact hpoints ▸ PixelFormat.mul_pixels_five hpayload
      (Nat.lt_of_le_of_lt hb.addressable (by decide))
  have hthird : points * 5 / 4 = points + points / 4 := by omega
  refine ⟨FrameBuffer.layout_of_le ?_ ?_, FrameBuffer.layout_of_le ?_ ?_,
    FrameBuffer.layout_of_le ?_ ?_, hsize⟩
  · rw [hplanar, PixelFormat.planeLayout, PixelFormat.pixels, hpoints]
  · simp only
    omega
  · rw [hplanar, PixelFormat.planeLayout, PixelFormat.pixels, hpoints]
  · simp only
    omega
  · rw [hplanar, PixelFormat.planeLayout, PixelFormat.pixels, hpoints, hoffset, ← hthird]
    rfl
  · exact hsize

/-- The planes of a drawing: the brightness of the points, and the middle value. -/
lemma planes_painted (hb : b.Carries) (hplanar : b.info.format = .yuv420p) {points : Nat}
    {image : List UInt8} (hpoints : b.info.width.toNat * b.info.height.toNat = points)
    (himage : image.length = points) {gray : List UInt8} (hgray : gray.length = points / 4) :
    (b.painted (image ++ (gray ++ gray))).plane 0 = .ok (some ⟨image, b.info.width⟩) ∧
      ∀ i ∈ [1, 2], (b.painted (image ++ (gray ++ gray))).plane i =
        .ok (some ⟨gray, b.info.width / 2⟩) := by
  obtain ⟨hfirst, hsecond, hthird, -⟩ := layouts_of_planar hb hplanar hpoints
  have hlength : (image ++ (gray ++ gray)).length = points + points / 4 + points / 4 := by
    simp only [List.length_append, himage, hgray, Nat.add_assoc]
  have hskip : (image ++ (gray ++ gray)).drop (points + points / 4) = gray := by
    rw [← List.drop_drop, List.drop_left' himage, List.drop_left' hgray]
  simp only [List.forall_mem_cons]
  refine ⟨?_, ?_, ?_, by simp⟩
  · rw [FrameBuffer.plane_painted hfirst (by simp only [hlength]; omega)]
    simp only [List.drop_zero, List.take_left' himage]
  · rw [FrameBuffer.plane_painted hsecond (by simp only [hlength]; omega)]
    simp only [List.drop_left' himage, List.take_left' hgray]
  · rw [FrameBuffer.plane_painted hthird (Nat.le_of_eq hlength.symm)]
    simp only [hskip, List.take_of_length_le (Nat.le_of_eq hgray)]

/-- A planar format keeps the brightness of the points in its first plane, and the others are
filled. -/
lemma draw_planar (hb : b.Carries) (hwidth : 0 < b.info.width.toNat)
    (hheight : 0 < b.info.height.toNat) (hplanar : b.info.format = .yuv420p) :
    p.draw b = .ok b' ↔ p.Steady b.info.width.toNat b.info.height.toNat ∧
      b' = b.painted (p.drawing b.info.format b.info.width.toNat b.info.height.toNat) := by
  obtain ⟨hfirst, hsecond, hthird, hsize⟩ := layouts_of_planar hb hplanar rfl
  have hroom := Nat.le_trans hsize hb.fits
  have himage : (p.image b.info.format b.info.width.toNat b.info.height.toNat).length = _ :=
    length_image_of_planar hplanar
  have hluma (first : FrameBuffer) : p.drawFirstPlane 1 b = .ok first ↔
      p.Steady b.info.width.toNat b.info.height.toNat ∧
        first = b.painted (p.image b.info.format b.info.width.toNat b.info.height.toNat) := by
    have hfits : 0 + b.info.width.toNat * b.info.height.toNat ≤ b.capacity := by omega
    rw [drawFirstPlane_eq_ok_iff hwidth hheight Nat.one_pos hfirst (Nat.mul_one _).symm
      (by rw [Nat.mul_one]), FrameBuffer.writePlane_eq_painted rfl himage.symm hfits]
  have hchroma : (fillPlane 1 128
      (b.painted (p.image b.info.format b.info.width.toNat b.info.height.toNat)) >>=
        fillPlane 2 128) =
      .ok (b.painted (p.drawing b.info.format b.info.width.toNat b.info.height.toNat)) := by
    rw [fillPlane_painted hsecond himage.symm (by simp only; omega), drawing_of_planar hplanar,
      ← List.append_assoc]
    refine fillPlane_painted hthird ?_ hroom
    rw [List.length_append, himage, List.length_replicate]
  have hdraw : p.draw b =
      (p.drawFirstPlane 1 b >>= fun first => fillPlane 1 128 first >>= fillPlane 2 128) := by
    rw [draw, hplanar]
  rw [hdraw, bind_eq_ok]
  constructor
  · rintro ⟨first, hfirst, hrest⟩
    obtain ⟨hsteady, rfl⟩ := (hluma first).1 hfirst
    rw [hchroma] at hrest
    cases hrest
    exact ⟨hsteady, rfl⟩
  · rintro ⟨hsteady, rfl⟩
    exact ⟨_, (hluma _).2 ⟨hsteady, rfl⟩, hchroma⟩

end Picture

namespace TestPattern

open Picture (Steady pixelLength image neutral drawing pixelBytes)

variable {g : TestPattern} {f : PixelFormat} {b b' : FrameBuffer}

/-- The formats that pictures are drawn in are a planar one and those that keep whole pixels
together. -/
lemma packed_of_supports (h : g.supports f = true) (hplanar : f ≠ .yuv420p) :
    f.bytesPerPixel? = some (pixelLength f) ∧ 0 < pixelLength f ∧
      f ∈ [.rgb24, .bgr24, .rgba32, .bgra32, .yuyv] := by
  cases f with
  | yuv420p => exact absurd rfl hplanar
  | unknown | nv12 | nv21 | uyvy => cases h
  | _ => exact ⟨rfl, by decide, by decide⟩

/-- A picture is drawn if and only if its rows can be counted and every point has a colour, and then
the bytes of the drawing stand at the start of the payload. -/
theorem draw_eq_ok_iff {p : Picture} (hb : b.Carries) (hformat : g.supports b.info.format = true)
    (hwidth : 0 < b.info.width.toNat) (hheight : 0 < b.info.height.toNat) :
    p.draw b = .ok b' ↔ b.Strided ∧ p.Steady b.info.width.toNat b.info.height.toNat ∧
      b' = b.painted (p.drawing b.info.format b.info.width.toNat b.info.height.toNat) := by
  by_cases hplanar : b.info.format = .yuv420p
  · have hrows : b.Strided := by simp [FrameBuffer.Strided, PixelFormat.Strided, hplanar,
      PixelFormat.bytesPerPixel?]
    rw [Picture.draw_planar hb hwidth hheight hplanar]
    simp only [hrows, true_and]
  · obtain ⟨hpacked, hpos, hlist⟩ := packed_of_supports hformat hplanar
    have hdraw : p.draw b = p.drawFirstPlane (pixelLength b.info.format) b := by
      simp only [List.mem_cons, List.not_mem_nil, or_false] at hlist
      rcases hlist with hf | hf | hf | hf | hf <;>
      · rw [Picture.draw, hf]
        rfl
    rw [hdraw, Picture.drawFirstPlane_packed hb hwidth hheight hpacked rfl hpos,
      Picture.drawing_of_packed hplanar]

/-- A drawing reaches as far as the planes do. -/
lemma length_drawing {p : Picture} {width height : UInt32} (h : g.supports f = true) :
    (p.drawing f width.toNat height.toNat).length = f.covered width height := by
  have hpixels : height.toNat * (width.toNat * pixelLength f) =
      PixelFormat.pixels width height * pixelLength f := by
    rw [PixelFormat.pixels, ← Nat.mul_assoc, Nat.mul_comm height.toNat]
  by_cases hplanar : f = .yuv420p
  · rw [Picture.drawing_of_planar hplanar, List.length_append, List.length_append,
      List.length_replicate, Picture.length_image_of_planar hplanar, hplanar, ← Nat.add_assoc]
    rfl
  · obtain ⟨hpacked, -⟩ := packed_of_supports h hplanar
    rw [Picture.drawing_of_packed hplanar, Picture.length_image, hpixels,
      Picture.covered_of_packed hpacked]

end TestPattern

/-! ### Points of a frame -/

namespace FrameBuffer

/-- A frame shows a colour at a point: in the order of the channels that its format asks for, or as
the brightness of the colour. -/
def ShowsAt (b : FrameBuffer) (x y : Nat) (c : Color) : Prop :=
  let n := y * b.info.width.toNat + x
  match b.info.format with
  | .rgb24 => b.bytesAt (n * 3) 3 = c.channels
  | .bgr24 => b.bytesAt (n * 3) 3 = c.channels.reverse
  | .rgba32 => b.bytesAt (n * 4) 4 = c.channels ++ [255]
  | .bgra32 => b.bytesAt (n * 4) 4 = c.channels.reverse ++ [255]
  | .yuyv => b.bytesAt (n * 2) 2 = [c.luma, 128]
  | .yuv420p => ∃ plane, b.plane 0 = .ok (some plane) ∧ plane.data[n]? = some c.luma
  | _ => False

end FrameBuffer

namespace TestPattern

variable {g : TestPattern} {b b' : FrameBuffer}

/-- Where a drawing stands, every point has the colour of the picture. -/
lemma showsAt_painted {p : Picture} {x y : Nat} (hb : b.Carries)
    (hformat : g.supports b.info.format = true) (hx : x < b.info.width.toNat)
    (hy : y < b.info.height.toNat) :
    (b.painted (p.drawing b.info.format b.info.width.toNat b.info.height.toNat)).ShowsAt x y
      (p.shown b.info.width.toNat b.info.height.toNat x y) := by
  have hpoint := Picture.image_at (p := p) (f := b.info.format) hx hy
  by_cases hplanar : b.info.format = .yuv420p
  · obtain ⟨hplane, -⟩ := Picture.planes_painted hb hplanar rfl
      (Picture.length_image_of_planar (p := p) hplanar) List.length_replicate
    have hluma := congrArg (·[0]?) hpoint
    simp only [hplanar, Picture.pixelBytes, Picture.pixelLength, List.length_singleton, Nat.mul_one,
      List.getElem?_take_of_lt Nat.one_pos, List.getElem?_drop, Nat.add_zero] at hluma
    rw [Picture.drawing_of_planar hplanar]
    simp only [FrameBuffer.ShowsAt, hplanar, FrameBuffer.painted] at hplane ⊢
    exact ⟨_, hplane, hluma⟩
  · have hsize : (p.drawing b.info.format b.info.width.toNat b.info.height.toNat).length ≤ b.size :=
      length_drawing hformat ▸ hb.covered_le
    rw [Picture.drawing_of_packed hplanar] at hsize ⊢
    rw [← FrameBuffer.bytesAt_painted (Picture.length_image ▸ Picture.point_fits hx hy) hsize]
      at hpoint
    obtain ⟨-, -, hlist⟩ := packed_of_supports hformat hplanar
    simp only [List.mem_cons, List.not_mem_nil, or_false] at hlist
    unfold FrameBuffer.ShowsAt
    rcases hlist with hf | hf | hf | hf | hf <;>
    · simp only [FrameBuffer.painted, hf] at hpoint ⊢
      exact hpoint

/-- What is drawn is the payload as far as the planes reach. -/
lemma data_painted {p : Picture} (hb : b.Carries) (hformat : g.supports b.info.format = true) :
    (b.painted (p.drawing b.info.format b.info.width.toNat b.info.height.toNat)).data =
      p.drawing b.info.format b.info.width.toNat b.info.height.toNat ++ b.data.drop b.covered := by
  have hlength : (p.drawing b.info.format b.info.width.toNat b.info.height.toNat).length =
      b.covered := length_drawing hformat
  rw [FrameBuffer.data_painted (hlength ▸ hb.covered_le), hlength]

lemma data_painted_of_divides {p : Picture} (hb : b.Carries)
    (hformat : g.supports b.info.format = true) (hdivides : b.Divides) :
    (b.painted (p.drawing b.info.format b.info.width.toNat b.info.height.toNat)).data =
      p.drawing b.info.format b.info.width.toNat b.info.height.toNat := by
  rw [data_painted hb hformat, hb.covered_of_divides hdivides, FrameBuffer.data,
    List.drop_of_length_le (List.length_take_le ..), List.append_nil]

/-- A picture is drawn if and only if no number on the way leaves its word. Then every point has one
colour, and a frame of any format shows it there: with its channels in the order that the format
asks for, followed by a full byte if there is room for one, or as its brightness, next to the middle
value or with two planes of it. In a format that keeps whole pixels together every byte is drawn, so
nothing is left of what was in the region before. -/
theorem formats_agree (hb : b.Carries) (hkind : g.picture.kind ≠ .noise)
    (hformat : g.supports b.info.format = true) (hwidth : 0 < b.info.width.toNat)
    (hheight : 0 < b.info.height.toNat) :
    ((∃ b', (g.render b).1 = .ok b') ↔
        b.Strided ∧ g.picture.Steady b.info.width.toNat b.info.height.toNat) ∧
      ∀ b', (g.render b).1 = .ok b' →
        b'.info = b.info ∧ b'.size = b.size ∧
        (∀ y < b.info.height.toNat, ∀ x < b.info.width.toNat, ∃ c,
          g.picture.colorAt b.info.width.toNat b.info.height.toNat x y = .ok c ∧
            b'.ShowsAt x y c) ∧
        (b.info.format = .yuv420p → ∀ i ∈ [1, 2], ∃ plane, b'.plane i = .ok (some plane) ∧
          plane.data = List.replicate (b.info.width.toNat * b.info.height.toNat / 4) 128) ∧
        ∀ n, b.info.format.bytesPerPixel? = some n →
          b'.data.length = b.info.width.toNat * b.info.height.toNat * n ∧
          ∀ region : Region, region.capacity = b.capacity →
            ∃ b'', (g.render { b with region }).1 = .ok b'' ∧ b''.data = b'.data := by
  have hdraw (b : FrameBuffer) : (g.render b).1 = g.picture.draw b := by
    rw [render, if_neg hkind]
  simp only [hdraw, draw_eq_ok_iff hb hformat hwidth hheight]
  refine ⟨by simp only [exists_and_left, exists_eq, and_true], ?_⟩
  rintro b' ⟨hrows, hsteady, rfl⟩
  have hpacked {n : Nat} (hn : b.info.format.bytesPerPixel? = some n) : b.Divides := by
    intro hplanar
    rw [hplanar] at hn
    cases hn
  refine ⟨rfl, rfl, fun y hy x hx => ?_, fun hplanar i hi => ?_,
    fun n hn => ⟨?_, fun region hregion => ?_⟩⟩
  · obtain ⟨c, hc⟩ := (Picture.forall_colorAt_iff hwidth hheight).2 hsteady y hy x hx
    exact ⟨c, hc, Picture.shown_of_colorAt hc ▸ showsAt_painted hb hformat hx hy⟩
  · obtain ⟨-, hplane⟩ := Picture.planes_painted hb hplanar rfl
      (Picture.length_image_of_planar (p := g.picture) hplanar) List.length_replicate
    rw [Picture.drawing_of_planar hplanar]
    exact ⟨_, hplane i hi, rfl⟩
  · rw [data_painted_of_divides hb hformat (hpacked hn), length_drawing hformat,
      Picture.covered_of_packed hn, PixelFormat.pixels]
  · have hregion : ({ b with region } : FrameBuffer).Carries :=
      ⟨hb.payload, le_of_le_of_eq hb.fits hregion.symm, hb.addressable⟩
    refine ⟨_, (draw_eq_ok_iff hregion hformat hwidth hheight).2 ⟨hrows, hsteady, rfl⟩, ?_⟩
    exact (data_painted_of_divides hregion hformat (hpacked hn)).trans
      (data_painted_of_divides hb hformat (hpacked hn)).symm

/-! ### Two bars -/

/-- Two pixels in a region that was used before. -/
def usedPair : FrameBuffer where
  region := ⟨[7, 7, 7, 7, 7, 7]⟩
  info := { width := 2, height := 1, format := .bgr24 }
  size := 6

/-- The second bar is yellow, and blue comes first. -/
theorem formats_agree_usedPair :
    ∃ b', ((ofKind .bars).render usedPair).1 = .ok b' ∧ b'.bytesAt 3 3 = [0, 255, 255] := by
  have hb : usedPair.Carries := ⟨rfl, by decide, by decide⟩
  obtain ⟨hdrawn, hshown⟩ := formats_agree (g := ofKind .bars) hb (by decide) rfl (by decide)
    (by decide)
  obtain ⟨b', hb'⟩ := hdrawn.2 ⟨by decide, trivial⟩
  obtain ⟨hinfo, -, hpoints, -⟩ := hshown b' hb'
  obtain ⟨c, hc, hpoint⟩ := hpoints 0 (by decide) 1 (by decide)
  cases hc
  rw [FrameBuffer.ShowsAt, hinfo] at hpoint
  exact ⟨b', hb', hpoint⟩

end TestPattern

end FrameGraph
