import FrameGraph.Proofs.Frame.Reworks
import FrameGraph.Proofs.Pattern.Aborts

/-!
# What a buffer says of itself

A buffer keeps its size, its metadata and its handle apart from each other and from its region.
However it was obtained and whatever its holder does with it, they agree: the size is the one that
the geometry asks for and fits the region, the metadata names the handle with which the buffer was
marked, and the planes are there that the format has, each at its place in the payload.
-/

namespace FrameGraph

/-! ### Careers of buffers -/

/-- The handle under which the pool lends next: that of the region that has been free for longest,
or the next one that nobody had. -/
def BufferPool.upcoming (p : BufferPool) : Nat := (p.free.head?.map Prod.fst).getD p.nextHandle

namespace FrameBuffer

/-- The ways to a buffer, with the handle with which it is marked then. -/
inductive Obtained : FrameBuffer → Option Nat → Prop
  | new {b capacity} (h : FrameBuffer.new capacity = .ok b) : Obtained b none
  | forInfo {b info} (hrows : info.Strided) (h : FrameBuffer.forInfo info = .ok b) :
    Obtained b none
  | lent {region} (lender : Lender) (hspace : region.capacity ≤ Region.addressSpace) :
    Obtained (.lent region lender) none
  /-- A pool lends a region, whatever was done with the pool before. -/
  | acquired {p q : BufferPool} {b hands info number limit}
    (hnew : BufferPool.new number limit = .ok p) (hdeals : p.Deals q hands)
    (hrows : info.Strided) (h : (q.acquire info).1 = .ok b) : Obtained b (some q.upcoming)

/-- What becomes of a buffer of some capacity in the hands of its holder, with the handle with which
it was marked last. A binding that fails leaves the buffer alone. What is copied from a buffer is no
change to it, and may come from any other buffer. -/
inductive Career : Nat → FrameBuffer → Option Nat → Prop
  | obtained {b mark} (h : Obtained b mark) : Career b.capacity b mark
  | binds {n b mark} (info : FrameInfo) (hrows : info.Strided) (h : Career n b mark) :
    Career n ((b.bind info).toOption.getD b) mark
  | resets {n b mark} (h : Career n b mark) : Career n b.reset mark
  | stamps {n b mark} (timestamp sequence : Nat) (h : Career n b mark) :
    Career n (b.stamp timestamp sequence) mark
  | marks {n b mark} (handle : Nat) (h : Career n b mark) :
    Career n (b.markHardware handle) (some handle)
  | writes {n b mark} (new : List UInt8) (h : Career n b mark) : Career n (b.writeData new) mark
  | writesPlane {n b mark i l} (hl : b.layout i = .ok (some l)) (new : List UInt8)
    (h : Career n b mark) : Career n (b.writePlane l new) mark
  | copies {n b mark n' source mark'} (hsource : Career n' source mark') (h : Career n b mark) :
    Career n (source.copyInto b).2 mark

/-! ### What is kept -/

variable {b source : FrameBuffer} {mark mark' : Option Nat} {n n' : Nat} {info : FrameInfo}

/-- All that a buffer keeps agrees. -/
structure Coherent (n : Nat) (b : FrameBuffer) (mark : Option Nat) : Prop extends b.Bound where
  strided : b.Strided
  handle : b.handle = mark
  hardware : b.info.hardware = mark
  capacity : b.capacity = n

/-- Rows without bytes can be counted. -/
lemma strided_of_unknown (h : b.info.format = .unknown) : b.Strided := by
  rw [Strided, h]
  exact Nat.lt_of_le_of_lt (Nat.le_of_eq (Nat.mul_zero _)) (by decide)

lemma coherent_new (h : FrameBuffer.new n = .ok b) : b.Coherent b.capacity none := by
  have hbound := Bound.new h
  unfold FrameBuffer.new Region.allocate at h
  split at h
  · cases h
    exact ⟨hbound, strided_of_unknown rfl, rfl, rfl, rfl⟩
  · cases h

lemma coherent_lent {region : Region} (lender : Lender)
    (hspace : region.capacity ≤ Region.addressSpace) :
    Coherent region.capacity (.lent region lender) none :=
  ⟨⟨rfl, Nat.zero_le _, hspace⟩, strided_of_unknown rfl, rfl, rfl, rfl⟩

/-- A binding takes over all of the metadata but the handle. -/
lemma Coherent.bound (h : b.Coherent n mark) (hrows : info.Strided) (hcount : info.Countable)
    (hfits : info.payload ≤ b.capacity) : (b.bound info).Coherent n mark :=
  ⟨⟨FrameInfo.frameSize_of_countable hcount, hfits, h.addressable⟩, hrows, h.handle, h.handle,
    h.capacity⟩

lemma Coherent.bind (h : b.Coherent n mark) (hrows : info.Strided) :
    ((b.bind info).toOption.getD b).Coherent n mark := by
  rw [bind_eq]
  by_cases hcount : info.Countable
  · rw [if_neg (not_not.2 hcount)]
    split
    · rename_i hfits
      exact h.bound hrows hcount hfits
    · exact h
  · rw [if_pos hcount]
    exact h

lemma Coherent.markHardware (h : b.Coherent n mark) (handle : Nat) :
    (b.markHardware handle).Coherent n (some handle) :=
  ⟨⟨h.payload, h.fits, h.addressable⟩, h.strided, rfl, rfl, h.capacity⟩

lemma Coherent.reset (h : b.Coherent n mark) : b.reset.Coherent n mark :=
  ⟨⟨rfl, Nat.zero_le _, h.addressable⟩, strided_of_unknown rfl, h.handle, h.handle, h.capacity⟩

lemma Coherent.stamp (h : b.Coherent n mark) (timestamp sequence : Nat) :
    (b.stamp timestamp sequence).Coherent n mark :=
  ⟨⟨h.payload, h.fits, h.addressable⟩, h.strided, h.handle, h.hardware, h.capacity⟩

/-- What is written to the region of a buffer leaves everything else alone. -/
lemma Coherent.write (h : b.Coherent n mark) (offset : Nat) (new : List UInt8) :
    Coherent n { b with region := b.region.write offset new } mark := by
  have hcapacity : FrameBuffer.capacity { b with region := b.region.write offset new } =
      b.capacity := Region.capacity_write ..
  exact ⟨⟨h.payload, Nat.le_trans h.fits (Nat.le_of_eq hcapacity.symm),
    Nat.le_trans (Nat.le_of_eq hcapacity) h.addressable⟩, h.strided, h.handle, h.hardware,
    hcapacity.trans h.capacity⟩

/-- A copy is a binding and a few writes, unless there is no room for it. -/
lemma Coherent.copyInto (hsource : source.Coherent n' mark') (h : b.Coherent n mark) :
    (source.copyInto b).2.Coherent n mark := by
  rcases Nat.lt_or_ge b.capacity source.size with hroom | hroom
  · rw [FrameBuffer.copyInto, if_pos hroom]
    exact h
  · have hcovered := hsource.covered_le
    have hcapacity : (b.imprint source source.covered).capacity = b.capacity :=
      Region.capacity_received (Nat.le_trans hcovered hsource.fits) (Nat.le_trans hcovered hroom)
    rw [copyInto_of_fits hsource.toBound hroom, if_pos hsource.strided]
    exact ⟨⟨hsource.payload, Nat.le_trans hroom (Nat.le_of_eq hcapacity.symm),
      Nat.le_trans (Nat.le_of_eq hcapacity) h.addressable⟩, hsource.strided, h.handle, h.handle,
      hcapacity.trans h.capacity⟩

lemma coherent_forInfo (hrows : info.Strided) (h : FrameBuffer.forInfo info = .ok b) :
    b.Coherent b.capacity none := by
  by_cases hcount : info.Countable
  · by_cases hempty : info.payload = 0
    · obtain ⟨text, htext⟩ := FrameInfo.display_of_strided hrows
      rw [forInfo_of_empty hempty, htext] at h
      cases h
    · rw [forInfo_of_countable hcount hempty] at h
      split at h
      · rename_i region halloc
        cases h
        have hnew : FrameBuffer.new info.payload = .ok { region } := by
          rw [FrameBuffer.new, halloc]
          rfl
        have hfits : info.payload ≤ region.capacity :=
          Nat.le_of_eq (Region.capacity_allocate halloc).symm
        exact (coherent_new hnew).bound hrows hcount hfits
      · cases h
  · rw [forInfo_of_not_countable hcount] at h
    cases h

/-! ### Buffers from a pool -/

/-- A pool lends a region under the handle that is next. -/
lemma handle_of_acquire {p : BufferPool} (h : (p.acquire info).1 = .ok b) :
    b.handle = some p.upcoming := by
  have hlend {q : BufferPool} {handle : Nat} {region : Region}
      (h : (q.lend handle region info).1 = .ok b) : b.handle = some handle := by
    unfold BufferPool.lend at h
    split at h
    · rename_i c hbind
      cases h
      exact (sameStorage_of_bind hbind).handle
    · cases h
  unfold BufferPool.acquire at h
  split at h
  · cases h
  rename_i needed hneeded
  cases hfree : p.free with
  | cons r rest =>
    have htake : p.takeFree = (some r, { p with free := rest }) := by
      simp [BufferPool.takeFree, hfree]
    have hnext : p.upcoming = r.1 := by simp [BufferPool.upcoming, hfree]
    rw [hnext]
    simp only [htake] at h
    split at h
    · exact hlend h
    · split at h
      · exact hlend h
      · cases h
  | nil =>
    have htake : p.takeFree = (none, p) := by simp [BufferPool.takeFree, hfree]
    have hnext : p.upcoming = p.nextHandle := by simp [BufferPool.upcoming, hfree]
    rw [hnext]
    simp only [htake, BufferPool.reserve] at h
    by_cases hroom : p.live < p.limit
    · simp only [if_pos hroom] at h
      split at h
      · exact hlend h
      · cases h
    · simp only [if_neg hroom] at h
      cases h

lemma coherent_acquire {p : BufferPool} (hp : p.Addressable) (hrows : info.Strided)
    (h : (p.acquire info).1 = .ok b) : b.Coherent b.capacity (some p.upcoming) := by
  have hhandle := handle_of_acquire h
  rcases BufferPool.acquire_eq hp info with
    ⟨q, handle, region, heq, -, hspace, hcount, hfits⟩ | ⟨f, q, heq, -⟩
  · rw [heq] at h
    cases h
    obtain rfl : handle = p.upcoming := Option.some.inj hhandle
    exact ((coherent_lent _ hspace).markHardware _).bound hrows hcount hfits
  · simp [heq] at h

/-! ### Careers -/

lemma Obtained.coherent (h : b.Obtained mark) : b.Coherent b.capacity mark := by
  cases h with
  | new h => exact coherent_new h
  | forInfo hrows h => exact coherent_forInfo hrows h
  | lent lender hspace => exact coherent_lent lender hspace
  | acquired hnew hdeals hrows h =>
    exact coherent_acquire (hdeals.addressable (BufferPool.addressable_new hnew)).1 hrows h

lemma Career.coherent (h : Career n b mark) : b.Coherent n mark := by
  induction h with
  | obtained h => exact h.coherent
  | binds info hrows _ ih => exact ih.bind hrows
  | resets _ ih => exact ih.reset
  | stamps timestamp sequence _ ih => exact ih.stamp timestamp sequence
  | marks handle _ ih => exact ih.markHardware handle
  | writes new _ ih => exact ih.write _ _
  | writesPlane _ new _ ih => exact ih.write _ _
  | copies _ _ ihsource ih => exact ihsource.copyInto ih

/-- The planes that a format has are there, and each is a piece of the payload. -/
lemma Coherent.plane (h : b.Coherent n mark) (i : Nat) :
    if i < b.planeCount then
      ∃ l, b.info.format.planeLayout b.info.width b.info.height i = .ok (some l) ∧
        l.offset + l.length ≤ b.size ∧
        b.plane i = .ok (some ⟨(b.data.drop l.offset).take l.length, l.stride⟩)
    else b.plane i = .ok none := by
  have hsize : b.size < Checked.word64 / 4 :=
    Nat.lt_of_le_of_lt (Nat.le_trans h.fits h.addressable) (by decide)
  split
  · rename_i hi
    obtain ⟨l, hl, hstop⟩ :=
      (PixelFormat.tiles_planes h.payload hsize h.strided).layout (k := i) hi
    rw [Nat.zero_add] at hl
    have hend : l.offset + l.length ≤ b.size := Nat.le_trans hstop h.covered_le
    have hslice : b.slice l = (b.data.drop l.offset).take l.length := by
      have hroom : l.length ≤ b.size - l.offset := by omega
      rw [slice, data, List.drop_take, List.take_take, Nat.min_eq_left hroom]
    refine ⟨l, hl, hend, ?_⟩
    rw [FrameBuffer.plane, layout_of_le hl hend, ← hslice]
    rfl
  · rename_i hi
    rw [FrameBuffer.plane, layout, PixelFormat.planeLayout_of_ge (Nat.le_of_not_lt hi)]
    rfl

/-- However a buffer was obtained and whatever was done with it, as long as the rows of its
geometries can be counted, its size is the one that its geometry asks for, and fits the capacity,
which stays as it was. The metadata names the handle with which the buffer was marked last, or none
if it was not marked, whatever metadata was bound. The planes are those of the format, each one the
piece of the payload where the format has it. -/
theorem Career.consistent (h : Career n b mark) :
    b.info.frameSize = .ok b.size ∧ b.size ≤ b.capacity ∧ b.capacity = n ∧ b.isValid = true ∧
      b.data.length = b.size ∧ b.info.hardware = mark ∧
      ∀ i, if i < b.planeCount then
          ∃ l, b.info.format.planeLayout b.info.width b.info.height i = .ok (some l) ∧
            l.offset + l.length ≤ b.size ∧
            b.plane i = .ok (some ⟨(b.data.drop l.offset).take l.length, l.stride⟩)
        else b.plane i = .ok none := by
  have hb := h.coherent
  exact ⟨hb.payload, hb.fits, hb.capacity, decide_eq_true hb.fits, List.length_take_of_le hb.fits,
    hb.hardware, hb.plane⟩

/-- A region of four bytes that a pool lent under its first handle. -/
def borrowed : FrameBuffer where
  region := ⟨[0, 0, 0, 0]⟩
  info := { width := 1, height := 1, stride := 4, format := .rgba32, hardware := some 1 }
  size := 4
  disposal := .giveBack (.pool 0)
  handle := some 1

/-- A buffer from a pool that is written to, refuses a larger picture, takes a smaller one that
claims another handle, and receives a copy. -/
theorem Career.consistent_borrowed : ∃ b, Career 4 b (some 1) ∧ b.size = 3 ∧
    b.info.hardware = some 1 ∧ b.plane 0 = .ok (some ⟨[7, 8, 9], 3⟩) ∧ b.plane 1 = .ok none := by
  have hacquire : (BufferPool.acquire { limit := 1 }
      { width := 1, height := 1, stride := 4, format := .rgba32, hardware := some 9 }).1 =
      .ok borrowed := by decide
  have hpool : BufferPool.new 0 1 = .ok { limit := 1 } := rfl
  have hborrowed : Career 4 borrowed (some 1) :=
    .obtained (.acquired hpool .begins (by decide) hacquire)
  have hplane : borrowed.layout 0 = .ok (some ⟨0, 4, 4⟩) := by decide
  have hwritten := hborrowed.writesPlane hplane [1, 2, 3, 4]
  have hrefused := hwritten.binds { width := 2, height := 2, stride := 8, format := .rgba32 }
    (by decide)
  have hbound := hrefused.binds
    { width := 1, height := 1, stride := 3, format := .rgb24, hardware := some 9 } (by decide)
  have hlent : Obtained (.lent ⟨[7, 8, 9]⟩ .keeper) none := .lent .keeper (by decide)
  have hsource := ((Career.obtained hlent).binds
    { width := 1, height := 1, stride := 3, format := .rgb24 } (by decide)).marks 5
  have hcopied := hsource.copies hbound
  obtain ⟨-, -, -, -, -, hhardware, -⟩ := Career.consistent hcopied
  exact ⟨_, hcopied, by decide, hhardware, by decide, by decide⟩

end FrameBuffer

end FrameGraph
