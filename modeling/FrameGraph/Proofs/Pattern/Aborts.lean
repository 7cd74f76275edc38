import FrameGraph.Proofs.Pattern.Recycling

/-!
# Pictures that cannot be made

A picture is made in three steps: a buffer is obtained, the picture is drawn in it, and it is
counted. No buffer is obtained when the memory or the pool is exhausted, or when the size of the
payload is a product out of range. Where there is a buffer, a picture of any kind is drawn unless a
number that depends on the dimensions leaves its word, and nothing else can abort the drawing. A
picture that is not made is not counted.
-/

namespace FrameGraph

/-! ### Numbers that leave their words -/

namespace Checked

variable {α β : Type} {x : Checked α} {word m n : Nat}

/-- If the computation is aborted, then because a sum or a product left its word. -/
def OnlyOverflows (x : Checked α) : Prop :=
  ∀ a, x = .error a → a = .addOverflow ∨ a = .mulOverflow

lemma onlyOverflows_ok {v : α} : OnlyOverflows (.ok v) := by
  intro a h
  cases h

lemma onlyOverflows_add : OnlyOverflows (add word m n) := by
  intro a h
  unfold add at h
  split at h <;> cases h
  exact .inl rfl

lemma onlyOverflows_mul : OnlyOverflows (mul word m n) := by
  intro a h
  unfold mul at h
  split at h <;> cases h
  exact .inr rfl

lemma OnlyOverflows.bind {f : α → Checked β} (hx : OnlyOverflows x)
    (hf : ∀ v, x = .ok v → OnlyOverflows (f v)) : OnlyOverflows (x >>= f) := by
  intro a h
  cases hv : x with
  | error e =>
    rw [hv] at h
    cases h
    exact hx _ hv
  | ok v =>
    rw [hv] at h
    exact hf v hv a h

lemma OnlyOverflows.map {f : α → β} (hx : OnlyOverflows x) : OnlyOverflows (x.map f) := by
  intro a h
  cases hv : x with
  | error e =>
    rw [hv] at h
    cases h
    exact hx _ hv
  | ok v =>
    rw [hv] at h
    cases h

end Checked

/-! ### Drawing -/

namespace Picture

open Checked

variable {p : Picture} {f : PixelFormat} {b : FrameBuffer} {width height x y n : Nat}

lemma onlyOverflows_colorAt : OnlyOverflows (p.colorAt width height x y) := by
  unfold colorAt
  cases p.kind with
  | solid | noise | bars | checkerboard => exact onlyOverflows_ok
  | gradient =>
    refine onlyOverflows_mul.map.bind fun _ _ => onlyOverflows_mul.map.bind fun _ _ => ?_
    refine onlyOverflows_add.bind fun _ _ => onlyOverflows_mul.bind fun _ _ => ?_
    exact onlyOverflows_add.bind fun _ _ => onlyOverflows_ok
  | movingBox =>
    refine OnlyOverflows.map (onlyOverflows_add.bind fun _ _ => ?_)
    exact onlyOverflows_add.bind fun _ _ => onlyOverflows_ok

lemma onlyOverflows_rowBytes : OnlyOverflows (p.rowBytes f width height y n x) := by
  induction n generalizing x with
  | zero => exact onlyOverflows_ok
  | succ n ih =>
    rw [rowBytes_succ]
    exact onlyOverflows_colorAt.map.bind fun _ _ => ih.bind fun _ _ => onlyOverflows_ok

lemma onlyOverflows_planeBytes {columns : Nat} :
    OnlyOverflows (p.planeBytes f width height columns n y) := by
  induction n generalizing y with
  | zero => exact onlyOverflows_ok
  | succ n ih =>
    exact onlyOverflows_rowBytes.bind fun _ _ => ih.bind fun _ _ => onlyOverflows_ok

lemma onlyOverflows_drawFirstPlane (hlayout : OnlyOverflows (b.layout 0))
    (hstride : ∀ l, b.layout 0 = .ok (some l) → l.stride ≠ 0) :
    OnlyOverflows (p.drawFirstPlane n b) := by
  refine hlayout.bind fun l hl => ?_
  cases l with
  | none => exact onlyOverflows_ok
  | some l =>
    simp only [if_neg (hstride l hl)]
    exact onlyOverflows_planeBytes.bind fun _ _ => onlyOverflows_ok

lemma onlyOverflows_fillPlane {i : Nat} {v : UInt8} (hlayout : OnlyOverflows (b.layout i)) :
    OnlyOverflows (fillPlane i v b) := by
  refine hlayout.bind fun l _ => ?_
  cases l with
  | none => exact onlyOverflows_ok
  | some l => exact onlyOverflows_ok

/-- The first plane has rows if there are points. -/
lemma stride_ne_zero {l : PlaneLayout} (hb : b.Carries) (hwidth : 0 < b.info.width.toNat)
    (hlayout : b.layout 0 = .ok (some l)) : l.stride ≠ 0 := by
  have hplane : b.info.format.planeLayout b.info.width b.info.height 0 = .ok (some l) := by
    obtain ⟨l', hl', h⟩ := bind_eq_ok.1 hlayout
    cases l' with
    | none => cases h
    | some l' =>
      dsimp only at h
      split at h <;> cases h
      exact hl'
  have hne : l.stride.toNat ≠ 0 := by
    cases hf : b.info.format.bytesPerPixel? with
    | some n =>
      rw [PixelFormat.planeLayout_packed hf hb.payload] at hplane
      split at hplane
      · rename_i hrows
        cases hplane
        have hn : 0 < n := by
          cases hformat : b.info.format <;> rw [hformat] at hf <;> cases hf <;> decide
        have hrow : b.info.width.toNat * n < word32 := by
          simpa [PixelFormat.Strided, hf] using hrows
        have hstride : (UInt32.ofNat (b.info.width.toNat * n)).toNat = b.info.width.toNat * n :=
          UInt32.toNat_ofNat_of_lt' hrow
        exact ne_of_eq_of_ne hstride (Nat.ne_of_gt (Nat.mul_pos hwidth hn))
      · cases hplane
    | none =>
      cases hformat : b.info.format <;> rw [hformat] at hf hplane <;> cases hf <;> cases hplane <;>
        exact Nat.ne_of_gt hwidth
  intro h
  rw [h] at hne
  exact hne rfl

/-- Nothing but a number that leaves its word keeps a picture from being drawn. -/
lemma onlyOverflows_draw (hb : b.Carries) (hwidth : 0 < b.info.width.toNat) :
    OnlyOverflows (p.draw b) := by
  have hlayout (i : Nat) : OnlyOverflows (b.layout i) := by
    have hsize : b.size < word64 / 4 := Nat.lt_of_le_of_lt hb.addressable (by decide)
    refine OnlyOverflows.bind (fun a ha => .inr ?_) fun l _ => ?_
    · exact ((PixelFormat.planeLayout_eq_error_iff hb.payload hsize).1 ha).1
    · cases l with
      | none => exact onlyOverflows_ok
      | some l => exact onlyOverflows_ok
  have hfirst {n : Nat} : OnlyOverflows (p.drawFirstPlane n b) :=
    onlyOverflows_drawFirstPlane (hlayout 0) fun l => stride_ne_zero hb hwidth
  unfold draw
  split
  case h_6 =>
    refine hfirst.bind fun first h => ?_
    have hdrawn := drawn_of_drawFirstPlane h
    refine OnlyOverflows.bind (onlyOverflows_fillPlane (hdrawn.layout 1 ▸ hlayout 1))
      fun second h => onlyOverflows_fillPlane ?_
    rw [(hdrawn.trans (drawn_of_fillPlane h)).layout 2]
    exact hlayout 2
  case h_7 => exact onlyOverflows_ok
  all_goals exact hfirst

end Picture

/-! ### Pools -/

/-- A region is made as large as it is asked for, if the address space has room for it. -/
lemma Region.allocate_cases (n : Nat) :
    (∃ region, allocate n = .ok region ∧ region.capacity = n ∧ n ≤ addressSpace) ∨
    allocate n = .error (.allocation n) ∧ addressSpace < n := by
  by_cases hspace : n ≤ addressSpace
  · exact .inl ⟨_, if_pos hspace, capacity_allocate (if_pos hspace), hspace⟩
  · exact .inr ⟨if_neg hspace, Nat.lt_of_not_le hspace⟩

namespace BufferPool

variable {p q : BufferPool} {info : FrameInfo} {region : Region} {handle : Option Nat}

/-- The free regions lie in the address space. -/
def Addressable (p : BufferPool) : Prop := ∀ r ∈ p.free, r.2.capacity ≤ Region.addressSpace

lemma Addressable.recycle (hp : p.Addressable) (h : region.capacity ≤ Region.addressSpace) :
    (p.recycle region handle).Addressable := by
  unfold BufferPool.recycle
  split
  · intro r hr
    rcases List.mem_append.1 hr with hr | hr
    · exact hp r hr
    · rw [List.mem_singleton.1 hr]
      exact h
  · exact hp

lemma lend_of_fits {handle : Nat} (hcount : info.Countable)
    (hfits : info.payload ≤ region.capacity) : p.lend handle region info =
      (.ok (((FrameBuffer.lent region (.pool p.number)).markHardware handle).bound info), p) := by
  have hbind : ((FrameBuffer.lent region (.pool p.number)).markHardware handle).bind info = _ :=
    (FrameBuffer.bind_eq ..).trans ((if_neg (not_not.2 hcount)).trans (if_pos hfits))
  rw [lend, hbind]

/-- Why a pool hands out no region for a picture. -/
inductive Refuses (p : BufferPool) (info : FrameInfo) : Fault → Prop
  | uncountable (h : ¬ info.Countable) : Refuses p info (.panic .mulOverflow)
  | memory (hcount : info.Countable) (h : Region.addressSpace < info.payload) :
    Refuses p info (.error (.allocation info.payload))
  | exhausted (hcount : info.Countable) (hfree : p.free = []) (hlimit : p.limit ≤ p.live) :
    Refuses p info (.error (.bufferUnavailable p.limit))

/-- A pool hands out a region that is large enough, or it has a reason not to. No region becomes
free. -/
lemma acquire_eq (hp : p.Addressable) (info : FrameInfo) :
    (∃ (q : BufferPool) (handle : Nat) (region : Region),
      p.acquire info =
        (.ok (((FrameBuffer.lent region (.pool q.number)).markHardware handle).bound info), q) ∧
      q.Addressable ∧ region.capacity ≤ Region.addressSpace ∧ info.Countable ∧
      info.payload ≤ region.capacity) ∨
    ∃ (f : Fault) (q : BufferPool), p.acquire info = (.error f, q) ∧ q.Addressable ∧
      p.Refuses info f := by
  by_cases hcount : info.Countable
  · rw [acquire, FrameInfo.frameSize_of_countable hcount]
    cases hfree : p.free with
    | cons r rest =>
      have htake : p.takeFree = (some r, { p with free := rest }) := by simp [takeFree, hfree]
      have hrest : Addressable { p with free := rest } := fun s hs =>
        hp s (hfree ▸ List.mem_cons_of_mem r hs)
      simp only [htake]
      split
      · rename_i hfits
        exact .inl ⟨_, r.1, r.2, lend_of_fits hcount hfits, hrest,
          hp r (hfree ▸ List.mem_cons_self ..), hcount, hfits⟩
      -- the free region is too small, and a new one takes its number
      · rcases Region.allocate_cases info.payload with
          ⟨region, hnew, hsize, hspace⟩ | ⟨hnew, hspace⟩
        · have hfits : info.payload ≤ region.capacity := Nat.le_of_eq hsize.symm
          rw [hnew]
          exact .inl ⟨_, r.1, region, lend_of_fits hcount hfits, hrest, hsize ▸ hspace, hcount,
            hfits⟩
        · rw [hnew]
          exact .inr ⟨_, _, rfl, hrest, .memory hcount hspace⟩
    | nil =>
      have htake : p.takeFree = (none, p) := by simp [takeFree, hfree]
      simp only [htake, reserve]
      by_cases hroom : p.live < p.limit
      · simp only [if_pos hroom]
        rcases Region.allocate_cases info.payload with
          ⟨region, hnew, hsize, hspace⟩ | ⟨hnew, hspace⟩
        · have hfits : info.payload ≤ region.capacity := Nat.le_of_eq hsize.symm
          rw [hnew]
          exact .inl ⟨_, _, region, lend_of_fits hcount hfits, hp, hsize ▸ hspace, hcount, hfits⟩
        · rw [hnew]
          exact .inr ⟨_, _, rfl, hp, .memory hcount hspace⟩
      · simp only [if_neg hroom]
        exact .inr ⟨_, _, rfl, hp, .exhausted hcount hfree (Nat.le_of_not_lt hroom)⟩
  · rw [acquire, FrameInfo.frameSize_of_not_countable hcount]
    exact .inr ⟨_, _, rfl, hp, .uncountable hcount⟩

/-- However somebody deals with a pool, the regions that it gets back lie in the address space. -/
lemma Deals.addressable {hands : List FrameBuffer} (h : p.Deals q hands) (hp : p.Addressable) :
    q.Addressable ∧
      ∀ b ∈ hands, ∀ n, b.isFrom n = true → b.capacity ≤ Region.addressSpace := by
  induction h with
  | begins => exact ⟨hp, by simp⟩
  | acquires info _ hb ih =>
    rcases acquire_eq ih.1 info with ⟨_, _, _, heq, hq, hspace, -⟩ | ⟨_, _, heq, -⟩
    · rw [heq] at hb ⊢
      cases hb
      exact ⟨hq, List.forall_mem_cons.2 ⟨fun _ _ => hspace, ih.2⟩⟩
    · simp [heq] at hb
  | refused info _ hf ih =>
    rcases acquire_eq ih.1 info with ⟨_, _, _, heq, -⟩ | ⟨_, _, heq, hq, -⟩
    · simp [heq] at hf
    · rw [heq]
      exact ⟨hq, ih.2⟩
  | finds _ hb ih =>
    refine ⟨ih.1, List.forall_mem_cons.2 ⟨fun n hn => ?_, ih.2⟩⟩
    exact absurd (FrameBuffer.isFrom_iff.1 hn) (hb n)
  | reworks _ hc ih =>
    obtain ⟨hb, hands⟩ := List.forall_mem_cons.1 ih.2
    refine ⟨ih.1, List.forall_mem_cons.2 ⟨fun n hn => hc.capacity ▸ hb n ?_, hands⟩⟩
    rw [FrameBuffer.isFrom_iff] at hn ⊢
    exact hc.disposal ▸ hn
  | turns _ hperm ih => exact ⟨ih.1, fun b hb => ih.2 b (hperm.mem_iff.2 hb)⟩
  | drops _ ih =>
    obtain ⟨hb, hands⟩ := List.forall_mem_cons.1 ih.2
    refine ⟨?_, hands⟩
    unfold takeBack
    split
    · exact ih.1.recycle (hb _ ‹_›)
    · exact ih.1

lemma addressable_new {number limit : Nat} (h : new number limit = .ok p) : p.Addressable := by
  unfold new at h
  split at h
  · cases h
  · cases h
    intro r hr
    cases hr

end BufferPool

/-! ### Generators -/

namespace TestPattern

variable {g : TestPattern} {info : FrameInfo} {pool : BufferPool} {b : FrameBuffer}

/-- Why there is no buffer for a picture. -/
inductive Lacks (g : TestPattern) (info : FrameInfo) (pool : BufferPool) : Fault → Prop
  | uncountable (h : ¬ info.Countable) : Lacks g info pool (.panic .mulOverflow)
  | memory (hcount : info.Countable) (h : Region.addressSpace < info.payload) :
    Lacks g info pool (.error (.allocation info.payload))
  | regions (hcount : info.Countable) (hpool : g.usePool = true) (hfree : pool.free = [])
    (hlimit : pool.limit ≤ pool.live) :
    Lacks g info pool (.error (.bufferUnavailable pool.limit))

/-- No number on the way to the bytes of a picture leaves its word. Noise needs no numbers. -/
def Drawable (g : TestPattern) (info : FrameInfo) : Prop :=
  g.picture.kind = .noise ∨
    info.Strided ∧ g.picture.Steady info.width.toNat info.height.toNat

/-- The buffer for a picture has the geometry that was asked for. -/
lemma carries_of_obtain (hpool : pool.Addressable) (hformat : g.supports info.format = true)
    (hwidth : 0 < info.width.toNat) (hheight : 0 < info.height.toNat)
    (h : (g.obtain info pool).1 = .ok b) :
    b.Carries ∧ b.info = { info with hardware := b.info.hardware } ∧ b.size = info.payload := by
  unfold obtain at h
  split at h
  · rcases BufferPool.acquire_eq hpool info with
      ⟨q, handle, region, heq, -, hspace, hcount, hfits⟩ | ⟨_, _, heq, -⟩
    · rw [heq] at h
      cases h
      exact ⟨⟨FrameInfo.frameSize_of_countable hcount, hfits, Nat.le_trans hfits hspace⟩, rfl, rfl⟩
    · simp [heq] at h
  · by_cases hcount : info.Countable
    · obtain ⟨hspace, rfl⟩ :=
        (forInfo_eq_ok_iff hcount (payload_ne_zero hformat hwidth hheight)).1 h
      exact ⟨carries_blank hcount hspace, rfl, rfl⟩
    · simp [FrameBuffer.forInfo_of_not_countable hcount] at h

lemma lacks_of_obtain {f : Fault} (hpool : pool.Addressable)
    (hformat : g.supports info.format = true) (hwidth : 0 < info.width.toNat)
    (hheight : 0 < info.height.toNat) (h : (g.obtain info pool).1 = .error f) :
    g.Lacks info pool f := by
  unfold obtain at h
  split at h
  · rename_i huses
    rcases BufferPool.acquire_eq hpool info with ⟨_, _, _, heq, -⟩ | ⟨_, _, heq, -, hrefuses⟩
    · simp [heq] at h
    · rw [heq] at h
      cases h
      cases hrefuses with
      | uncountable hcount => exact .uncountable hcount
      | memory hcount hspace => exact .memory hcount hspace
      | exhausted hcount hfree hlimit => exact .regions hcount huses hfree hlimit
  · by_cases hcount : info.Countable
    · dsimp only at h
      rw [FrameBuffer.forInfo_of_countable hcount (payload_ne_zero hformat hwidth hheight)] at h
      rcases Region.allocate_cases info.payload with ⟨region, hnew, -⟩ | ⟨hnew, hspace⟩
      · simp [hnew] at h
      · rw [hnew] at h
        cases h
        exact .memory hcount hspace
    · dsimp only at h
      rw [FrameBuffer.forInfo_of_not_countable hcount] at h
      cases h
      exact .uncountable hcount

/-- In a buffer every picture is drawn whose numbers stay in their words, and it is counted. -/
lemma finish_of_drawable (hb : b.Carries) (hformat : g.supports b.info.format = true)
    (hwidth : 0 < b.info.width.toNat) (hheight : 0 < b.info.height.toNat)
    (hcounter : g.picture.counter + 1 < Checked.word64) (h : g.Drawable b.info) :
    ∃ frame next last, g.finish b = (.ok (frame, next), last) ∧ b.Drawn frame ∧
      next.picture = { g.picture with counter := g.picture.counter + 1 } := by
  have hrender : ∃ frame last, g.render b = (.ok frame, last) ∧ last.picture = g.picture := by
    unfold render
    split
    · exact ⟨_, _, rfl, rfl⟩
    · rename_i hkind
      obtain ⟨hrows, hsteady⟩ := h.resolve_left hkind
      exact ⟨_, g, by rw [(draw_eq_ok_iff hb hformat hwidth hheight).2 ⟨hrows, hsteady, rfl⟩], rfl⟩
  obtain ⟨frame, last, hrender, hpicture⟩ := hrender
  have hadvance : last.advance = .ok
      { last with picture := { g.picture with counter := g.picture.counter + 1 } } := by
    rw [advance, hpicture, Checked.add_eq_ok_iff.2 ⟨hcounter, rfl⟩]
    rfl
  refine ⟨frame, { last with picture := { g.picture with counter := g.picture.counter + 1 } }, last,
    ?_, drawn_of_render hrender, rfl⟩
  rw [finish, hrender]
  simp only [hadvance]
  rfl

lemma finish_of_not_drawable (hb : b.Carries) (hformat : g.supports b.info.format = true)
    (hwidth : 0 < b.info.width.toNat) (hheight : 0 < b.info.height.toNat)
    (h : ¬ g.Drawable b.info) :
    ∃ a, g.finish b = (.error a, g) ∧ (a = .addOverflow ∨ a = .mulOverflow) := by
  have hkind : g.picture.kind ≠ .noise := fun hkind => h (.inl hkind)
  cases hdraw : g.picture.draw b with
  | ok frame =>
    obtain ⟨hrows, hsteady, -⟩ := (draw_eq_ok_iff hb hformat hwidth hheight).1 hdraw
    exact absurd (.inr ⟨hrows, hsteady⟩) h
  | error a =>
    refine ⟨a, ?_, Picture.onlyOverflows_draw hb hwidth a hdraw⟩
    rw [finish, render, if_neg hkind, hdraw]

lemma generate_of_drawable (hpool : pool.Addressable) (hformat : g.supports info.format = true)
    (hwidth : 0 < info.width.toNat) (hheight : 0 < info.height.toNat)
    (hcounter : g.picture.counter + 1 < Checked.word64) (hobtain : (g.obtain info pool).1 = .ok b)
    (h : g.Drawable info) :
    ∃ frame next, g.generate info pool = ⟨.ok (some frame), next, (g.obtain info pool).2⟩ ∧
      b.Drawn frame ∧ frame.info = { info with hardware := b.info.hardware } ∧
      frame.size = info.payload ∧
      next.picture = { g.picture with counter := g.picture.counter + 1 } := by
  obtain ⟨hb, hinfo, hsize⟩ := carries_of_obtain hpool hformat hwidth hheight hobtain
  have hdrawable : g.Drawable b.info := by rw [hinfo]; exact h
  obtain ⟨frame, next, last, hfinish, hdrawn, hcounted⟩ := finish_of_drawable hb (hinfo ▸ hformat)
    (hinfo ▸ hwidth) (hinfo ▸ hheight) hcounter hdrawable
  have hpair : g.obtain info pool = (.ok b, (g.obtain info pool).2) := Prod.ext hobtain rfl
  refine ⟨frame, next, ?_, hdrawn, hdrawn.info.trans hinfo, hdrawn.size.trans hsize, hcounted⟩
  rw [generate, hpair]
  simp only [hfinish]

lemma generate_of_not_drawable (hpool : pool.Addressable) (hformat : g.supports info.format = true)
    (hwidth : 0 < info.width.toNat) (hheight : 0 < info.height.toNat)
    (hobtain : (g.obtain info pool).1 = .ok b) (h : ¬ g.Drawable info) :
    ∃ a, (a = .addOverflow ∨ a = .mulOverflow) ∧
      (g.generate info pool).outcome = .error (.panic a) ∧
      (g.generate info pool).generator = g := by
  obtain ⟨hb, hinfo, -⟩ := carries_of_obtain hpool hformat hwidth hheight hobtain
  have hdrawable : ¬ g.Drawable b.info := by rw [hinfo]; exact h
  obtain ⟨a, hfinish, ha⟩ := finish_of_not_drawable hb (hinfo ▸ hformat) (hinfo ▸ hwidth)
    (hinfo ▸ hheight) hdrawable
  have hpair : g.obtain info pool = (.ok b, (g.obtain info pool).2) := Prod.ext hobtain rfl
  refine ⟨a, ha, ?_, ?_⟩ <;>
  · rw [generate, hpair]
    simp only [hfinish]

lemma generate_of_refused {f : Fault} (h : (g.obtain info pool).1 = .error f) :
    g.generate info pool = ⟨.error f, g, (g.obtain info pool).2⟩ := by
  have hpair : g.obtain info pool = (.error f, (g.obtain info pool).2) := Prod.ext h rfl
  rw [generate, hpair]

/-- What becomes of a picture, with any pool that has come about. If there is a buffer for it, it is
made and counted, unless a number that depends on the dimensions leaves its word; then it is
aborted by that overflow. If there is no buffer, then the memory or the pool is exhausted, or the
size of the payload leaves its word. A picture that is not made leaves the generator as it is. -/
theorem generate_spec {number limit : Nat} {first : BufferPool} {hands : List FrameBuffer}
    (hnew : BufferPool.new number limit = .ok first) (hdeals : first.Deals pool hands)
    (hformat : g.supports info.format = true) (hwidth : 0 < info.width.toNat)
    (hheight : 0 < info.height.toNat) (hcounter : g.picture.counter + 1 < Checked.word64) :
    (∀ b, (g.obtain info pool).1 = .ok b →
      (g.Drawable info → ∃ frame next,
        g.generate info pool = ⟨.ok (some frame), next, (g.obtain info pool).2⟩ ∧
          b.Drawn frame ∧ frame.info = { info with hardware := b.info.hardware } ∧
          frame.size = info.payload ∧
          next.picture = { g.picture with counter := g.picture.counter + 1 }) ∧
      (¬ g.Drawable info → ∃ a, (a = .addOverflow ∨ a = .mulOverflow) ∧
        (g.generate info pool).outcome = .error (.panic a) ∧
        (g.generate info pool).generator = g)) ∧
    ∀ f, (g.obtain info pool).1 = .error f →
      g.generate info pool = ⟨.error f, g, (g.obtain info pool).2⟩ ∧ g.Lacks info pool f := by
  have hpool := (hdeals.addressable (BufferPool.addressable_new hnew)).1
  refine ⟨fun b hobtain => ⟨fun h => ?_, fun h => ?_⟩, fun f hobtain => ⟨?_, ?_⟩⟩
  · exact generate_of_drawable hpool hformat hwidth hheight hcounter hobtain h
  · exact generate_of_not_drawable hpool hformat hwidth hheight hobtain h
  · exact generate_of_refused hobtain
  · exact lacks_of_obtain hpool hformat hwidth hheight hobtain

/-! ### Pictures out of range -/

/-- One row of points; the gradient has numbers for the points of a row of this length, and not for
those of a longer one. -/
def strip : FrameInfo := { width := 16843010, height := 1, format := .yuv420p }

def longStrip : FrameInfo := { strip with width := 16843011 }

lemma obtain_blank (huses : g.usePool = false) (hcount : info.Countable)
    (hpayload : info.payload ≠ 0) (hspace : info.payload ≤ Region.addressSpace) :
    g.obtain info pool = (.ok (blank info), pool) := by
  rw [obtain, huses, ← (forInfo_eq_ok_iff hcount hpayload).2 ⟨hspace, rfl⟩]
  rfl

/-- There is a buffer for the longer strip, but no gradient is drawn in it. For the huge picture
there is no memory, which is not what its maker hears. -/
theorem not_made_longStrip :
    (∃ b, ((ofKind .gradient).obtain longStrip { limit := 3 }).1 = .ok b) ∧
      (∃ a, ((ofKind .gradient).generate longStrip { limit := 3 }).outcome = .error (.panic a)) ∧
      Region.addressSpace < FrameBuffer.huge.payload ∧
      ((ofKind .bars).generate FrameBuffer.huge { limit := 3 }).outcome =
        .error (.panic .mulOverflow) := by
  have hobtain : ((ofKind .gradient).obtain longStrip { limit := 3 }).1 = .ok (blank longStrip) :=
    congrArg Prod.fst (obtain_blank rfl (by decide) (by decide) (by decide))
  have hdrawable : ¬ (ofKind .gradient).Drawable longStrip := by
    rintro (hkind | ⟨-, hsteady⟩)
    · cases hkind
    · have hlast : (16843011 - 1 + (1 - 1)) * 255 < Checked.word32 := hsteady
      exact absurd hlast (by decide)
  have hpool : BufferPool.Addressable { limit := 3 } := by simp [BufferPool.Addressable]
  obtain ⟨a, -, hgenerate, -⟩ := generate_of_not_drawable hpool rfl (by decide) (by decide) hobtain
    hdrawable
  have hhuge : ((ofKind .bars).obtain FrameBuffer.huge { limit := 3 }).1 =
      .error (.panic .mulOverflow) := FrameBuffer.forInfo_of_not_countable (by decide)
  exact ⟨⟨_, hobtain⟩, ⟨a, hgenerate⟩, by decide,
    congrArg Generated.outcome (generate_of_refused hhuge)⟩

/-- The shorter strip is drawn, and counted as the first picture. -/
theorem generate_spec_strip :
    ∃ frame next, ((ofKind .gradient).generate strip { limit := 3 }).outcome = .ok (some frame) ∧
      ((ofKind .gradient).generate strip { limit := 3 }).generator = next ∧
      next.picture.counter = 1 := by
  have hobtain : ((ofKind .gradient).obtain strip { limit := 3 }).1 = .ok (blank strip) :=
    congrArg Prod.fst (obtain_blank rfl (by decide) (by decide) (by decide))
  have hnew : BufferPool.new 0 3 = .ok { limit := 3 } := rfl
  have hformat : (ofKind .gradient).supports strip.format = true := rfl
  obtain ⟨hmade, -⟩ := generate_spec hnew .begins hformat (by decide) (by decide) (by decide)
  have hsteady : (16843010 - 1 + (1 - 1)) * 255 < Checked.word32 := by decide
  obtain ⟨frame, next, hgenerate, -, -, -, hcounted⟩ :=
    (hmade _ hobtain).1 (.inr ⟨by decide, hsteady⟩)
  exact ⟨frame, next, congrArg Generated.outcome hgenerate, congrArg Generated.generator hgenerate,
    congrArg Picture.counter hcounted⟩

end TestPattern

end FrameGraph
