import FrameGraph.Proofs.Pattern.Formats

/-!
# Pictures in used regions

A fresh region is all zeros, and a region of the pool has the bytes that its last user left. Both
get the same drawing, so two frames of one picture differ only where nothing is drawn: in the one
byte behind the last plane of a planar picture whose pixels do not divide.
-/

namespace FrameGraph

namespace FrameBuffer

variable {b c : FrameBuffer} {info : FrameInfo}

/-- What a binding that succeeded says, however large the region is. -/
lemma bound_of_bind (h : b.bind info = .ok c) :
    info.Countable ∧ info.payload ≤ b.capacity ∧ c = b.bound info := by
  rw [bind_eq] at h
  split at h
  · cases h
  · rename_i hcount
    split at h
    · rename_i hfits
      cases h
      exact ⟨not_not.1 hcount, hfits, rfl⟩
    · cases h

end FrameBuffer

namespace TestPattern

variable {g : TestPattern} {info : FrameInfo} {pool : BufferPool} {b frame : FrameBuffer}

/-! ### Making a frame -/

lemma finish_of_draw (hkind : g.picture.kind ≠ .noise) (hdraw : g.picture.draw b = .ok frame)
    (hcounter : g.picture.counter + 1 < Checked.word64) :
    ∃ next, g.finish b = (.ok (frame, next), g) := by
  have hadvance := Checked.add_eq_ok_iff.2 ⟨hcounter, rfl⟩
  refine ⟨{ g with picture := { g.picture with counter := g.picture.counter + 1 } }, ?_⟩
  rw [finish, render, if_neg hkind, hdraw]
  simp only [advance, hadvance, Except.map]

lemma draw_of_finish {next last : TestPattern} (hkind : g.picture.kind ≠ .noise)
    (h : g.finish b = (.ok (frame, next), last)) :
    g.picture.draw b = .ok frame ∧ g.picture.counter + 1 < Checked.word64 := by
  rw [finish, render, if_neg hkind] at h
  cases hdraw : g.picture.draw b with
  | error a => simp [hdraw] at h
  | ok drawn =>
    cases hadvance : Checked.add Checked.word64 g.picture.counter 1 with
    | error a => simp [hdraw, advance, hadvance, Except.map] at h
    | ok counter =>
      simp only [hdraw, advance, hadvance, Except.map, Prod.mk.injEq, Except.ok.injEq] at h
      exact ⟨congrArg Except.ok h.1.1, (Checked.add_eq_ok_iff.1 hadvance).1⟩

/-- A frame is made if there is a buffer for it, it can be drawn, and it can be counted. -/
lemma generate_eq_ok_iff (hkind : g.picture.kind ≠ .noise) :
    (g.generate info pool).outcome = .ok (some frame) ↔
      (∃ b, (g.obtain info pool).1 = .ok b ∧ g.picture.draw b = .ok frame) ∧
        g.picture.counter + 1 < Checked.word64 := by
  unfold generate
  split
  · rename_i f rest hobtain
    simp [hobtain]
  · rename_i b rest hobtain
    simp only [hobtain, Except.ok.injEq, exists_eq_left']
    constructor
    · intro h
      split at h
      · rename_i hfinish
        cases h
        exact draw_of_finish hkind hfinish
      · cases h
    · rintro ⟨hdraw, hcounter⟩
      obtain ⟨next, hfinish⟩ := finish_of_draw hkind hdraw hcounter
      rw [hfinish]

/-! ### With and without the pool -/

/-- The same generator, with or without the pool. -/
def withPool (g : TestPattern) (usePool : Bool) : TestPattern := { g with usePool }

/-- A picture with points has a payload. -/
lemma payload_ne_zero (hformat : g.supports info.format = true) (hwidth : 0 < info.width.toNat)
    (hheight : 0 < info.height.toNat) : info.payload ≠ 0 := by
  have hpoints := Nat.mul_pos hwidth hheight
  rw [FrameInfo.payload]
  cases hf : info.format with
  | unknown | nv12 | nv21 | uyvy =>
    rw [hf] at hformat
    cases hformat
  | yuv420p =>
    rw [PixelFormat.payload, Nat.mul_assoc]
    omega
  | _ =>
    rw [PixelFormat.payload]
    omega

/-- A region of zeros with the payload bound to it. -/
def blank (info : FrameInfo) : FrameBuffer :=
  ({ region := ⟨List.replicate info.payload 0⟩ } : FrameBuffer).bound info

lemma forInfo_eq_ok_iff (hcount : info.Countable) (hpayload : info.payload ≠ 0) :
    FrameBuffer.forInfo info = .ok b ↔ info.payload ≤ Region.addressSpace ∧ b = blank info := by
  rw [FrameBuffer.forInfo_of_countable hcount hpayload, Region.allocate]
  split
  · rename_i region halloc
    split at halloc
    · rename_i hspace
      cases halloc
      simp only [Except.ok.injEq, hspace, true_and]
      exact eq_comm
    · cases halloc
  · rename_i e halloc
    split at halloc
    · cases halloc
    · rename_i hspace
      simp [refuse, hspace]

lemma capacity_blank (info : FrameInfo) : (blank info).capacity = info.payload :=
  List.length_replicate

lemma data_blank (info : FrameInfo) : (blank info).data = List.replicate info.payload 0 :=
  List.take_of_length_le (Nat.le_of_eq List.length_replicate)

lemma carries_blank (hcount : info.Countable) (h : info.payload ≤ Region.addressSpace) :
    (blank info).Carries :=
  ⟨FrameInfo.frameSize_of_countable hcount, Nat.le_of_eq (capacity_blank info).symm, h⟩

/-- The byte behind all others. -/
lemma exists_last {α : Type} {l : List α} {n : Nat} (h : l.length = n + 1) :
    ∃ a, l.drop n = [a] ∧ l.getLast? = some a := by
  have hlength : (l.drop n).length = 1 := by
    rw [List.length_drop, h, Nat.add_sub_cancel_left]
  obtain ⟨a, ha⟩ := List.length_eq_one_iff.1 hlength
  refine ⟨a, ha, ?_⟩
  rw [← List.take_append_drop n l, ha, List.getLast?_concat]

/-- If the pixels do not divide, the last byte of the buffer is still there behind the drawing. -/
lemma data_painted_of_rest {p : Picture} (hb : b.Carries)
    (hformat : g.supports b.info.format = true) (hrest : ¬ b.Divides) :
    ∃ last, b.data.getLast? = some last ∧
      (b.painted (p.drawing b.info.format b.info.width.toNat b.info.height.toNat)).data =
        p.drawing b.info.format b.info.width.toNat b.info.height.toNat ++ [last] := by
  have hsize : b.size = b.covered + 1 :=
    (PixelFormat.payloadSize_eq_covered hb.payload).trans (congrArg (_ + ·) (if_neg hrest))
  have hlength : b.data.length = b.covered + 1 := (List.length_take_of_le hb.fits).trans hsize
  obtain ⟨last, hdrop, hlast⟩ := exists_last hlength
  exact ⟨last, hlast, hdrop ▸ data_painted hb hformat⟩

/-- Without the pool a picture is drawn on zeros. -/
lemma generate_withoutPool_eq_ok_iff (hkind : g.picture.kind ≠ .noise)
    (hformat : g.supports info.format = true) (hwidth : 0 < info.width.toNat)
    (hheight : 0 < info.height.toNat) (hcount : info.Countable) :
    ((g.withPool false).generate info pool).outcome = .ok (some frame) ↔
      info.payload ≤ Region.addressSpace ∧ info.Strided ∧
        g.picture.Steady info.width.toNat info.height.toNat ∧
        g.picture.counter + 1 < Checked.word64 ∧
        frame = (blank info).painted
          (g.picture.drawing info.format info.width.toNat info.height.toNat) := by
  have hblank (h : info.payload ≤ Region.addressSpace) := carries_blank hcount h
  have hobtain (b : FrameBuffer) := forInfo_eq_ok_iff (b := b) hcount
    (payload_ne_zero hformat hwidth hheight)
  rw [generate_eq_ok_iff (g := g.withPool false) hkind]
  constructor
  · rintro ⟨⟨b, hb, hdraw⟩, hcounter⟩
    obtain ⟨hspace, rfl⟩ := (hobtain b).1 hb
    obtain ⟨hrows, hsteady, rfl⟩ := (draw_eq_ok_iff (hblank hspace) hformat hwidth hheight).1 hdraw
    exact ⟨hspace, hrows, hsteady, hcounter, rfl⟩
  · rintro ⟨hspace, hrows, hsteady, hcounter, rfl⟩
    exact ⟨⟨_, (hobtain _).2 ⟨hspace, rfl⟩,
      (draw_eq_ok_iff (hblank hspace) hformat hwidth hheight).2 ⟨hrows, hsteady, rfl⟩⟩, hcounter⟩

/-- A picture in a region of the pool and one in a fresh region are the same, but for the handle and
for a last byte that no plane has: this is zero in the fresh region, and in the other one it is what
the last user left there. -/
theorem pooled_spec {lent : FrameBuffer} (hkind : g.picture.kind ≠ .noise)
    (hformat : g.supports info.format = true) (hwidth : 0 < info.width.toNat)
    (hheight : 0 < info.height.toNat) (hacquire : (pool.acquire info).1 = .ok lent) :
    ((∃ fresh, ((g.withPool false).generate info pool).outcome = .ok (some fresh)) ↔
        info.payload ≤ Region.addressSpace ∧ info.Strided ∧
          g.picture.Steady info.width.toNat info.height.toNat ∧
          g.picture.counter + 1 < Checked.word64) ∧
      ∀ fresh, ((g.withPool false).generate info pool).outcome = .ok (some fresh) →
        ∃ drawn, ((g.withPool true).generate info pool).outcome = .ok (some drawn) ∧
          drawn.info = { fresh.info with hardware := lent.handle } ∧ drawn.size = fresh.size ∧
          (info.format.Divides info.width info.height → drawn.data = fresh.data) ∧
          (¬ info.format.Divides info.width info.height →
            ∃ shown stale, fresh.data = shown ++ [0] ∧ drawn.data = shown ++ [stale] ∧
              lent.data.getLast? = some stale) := by
  obtain ⟨used, hcount, hfits, rfl⟩ : ∃ used : FrameBuffer,
      info.Countable ∧ info.payload ≤ used.capacity ∧ lent = used.bound info := by
    obtain ⟨-, -, handle, region, hbind⟩ := BufferPool.acquire_ok hacquire
    exact ⟨_, FrameBuffer.bound_of_bind hbind⟩
  have hused (h : info.payload ≤ Region.addressSpace) : (used.bound info).Carries :=
    ⟨FrameInfo.frameSize_of_countable hcount, hfits, h⟩
  have hfresh (fresh : FrameBuffer) :=
    @generate_withoutPool_eq_ok_iff g info pool fresh hkind hformat hwidth hheight hcount
  refine ⟨by simp only [hfresh, exists_and_left, exists_eq, and_true], fun fresh hmade => ?_⟩
  obtain ⟨hspace, hrows, hsteady, hcounter, rfl⟩ := (hfresh fresh).1 hmade
  have hdraw := (draw_eq_ok_iff (p := g.picture) (hused hspace) hformat hwidth hheight).2
    ⟨hrows, hsteady, rfl⟩
  refine ⟨_, (generate_eq_ok_iff (g := g.withPool true) hkind).2 ⟨⟨_, hacquire, hdraw⟩, hcounter⟩,
    rfl, rfl, fun hdivides => ?_, fun hrest => ?_⟩
  · exact (data_painted_of_divides (hused hspace) hformat hdivides).trans
      (data_painted_of_divides (carries_blank hcount hspace) hformat hdivides).symm
  · obtain ⟨zero, hzero, hshown⟩ :=
      data_painted_of_rest (p := g.picture) (carries_blank hcount hspace) hformat hrest
    obtain ⟨stale, hstale, hdrawn⟩ :=
      data_painted_of_rest (p := g.picture) (hused hspace) hformat hrest
    rw [data_blank, List.getLast?_replicate,
      if_neg (payload_ne_zero hformat hwidth hheight)] at hzero
    cases hzero
    exact ⟨_, stale, hshown, hdrawn, hstale⟩

/-! ### A byte that is left over -/

/-- A pool of one region, in which a white pixel was drawn before. -/
def usedPool : BufferPool :=
  match ((ofKind .solid).withPool true).generate { width := 1, height := 1, format := .rgb24 }
    { limit := 1 } with
  | ⟨.ok (some b), _, pool⟩ => pool.recycle b.region b.handle
  | ⟨_, _, pool⟩ => pool

/-- Two pixels of a planar picture. -/
def twoPixels : FrameInfo := { width := 2, height := 1, format := .yuv420p }

/-- The last byte of the white pixel shows up behind the planes of the next picture. -/
theorem not_same_twoPixels : ∃ fresh drawn,
    (((ofKind .solid).withPool false).generate twoPixels usedPool).outcome = .ok (some fresh) ∧
      (((ofKind .solid).withPool true).generate twoPixels usedPool).outcome = .ok (some drawn) ∧
      drawn.data ≠ fresh.data := by
  refine ⟨_, _, rfl, rfl, fun hsame => ?_⟩
  have hlast : some (255 : UInt8) = some 0 := congrArg List.getLast? hsame
  exact absurd hlast (by decide)

/-- It was found in the region, where a fresh one has a zero. -/
theorem pooled_spec_twoPixels : ∃ drawn shown,
    (((ofKind .solid).withPool true).generate twoPixels usedPool).outcome = .ok (some drawn) ∧
      drawn.data = shown ++ [255] := by
  have hspec := @pooled_spec (ofKind .solid) twoPixels usedPool
  obtain ⟨hiff, hmade⟩ := hspec (by decide) rfl (by decide) (by decide) rfl
  obtain ⟨fresh, hfresh⟩ := hiff.2 ⟨by decide, by decide, trivial, by decide⟩
  obtain ⟨drawn, hdrawn, -, -, -, hrest⟩ := hmade fresh hfresh
  obtain ⟨shown, stale, -, hdata, hstale⟩ := hrest (by decide)
  cases hstale
  exact ⟨drawn, shown, hdrawn, hdata⟩

end TestPattern

end FrameGraph
