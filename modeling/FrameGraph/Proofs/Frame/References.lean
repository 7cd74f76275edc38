import FrameGraph.Frame.Storage
import FrameGraph.Proofs.Pool.Dealings
import Mathlib.Data.List.Dedup

/-!
# References and what they stand for

A storage backs the references and the buffers that there are if it counts each reference once, and
if each region that a pool has lent is behind exactly one frame or one buffer that is not shared.
Every operation on a storage keeps this up when a reference or a buffer comes and goes with it.
-/

namespace FrameGraph.Storage

variable {s t : Storage} {f g : Frame} {b c : FrameBuffer} {n k : Nat}
  {frames frames' : List Frame} {buffers buffers' : List FrameBuffer}

/-! ### Counts -/

lemma lookup_map_set {l : List (Nat × Nat)} {id j : Nat} :
    (l.map fun c => if c.1 == id then (id, n) else c).lookup j =
      if j = id then (l.lookup id).map fun _ => n else l.lookup j := by
  induction l with
  | nil => simp
  | cons c l ih =>
    rw [List.map_cons, List.lookup_cons, List.lookup_cons, List.lookup_cons, ih]
    have hne {a b : Nat} (h : a ≠ b) : (a == b) = false := by simpa using h
    by_cases hc : c.1 = id
    · subst hc
      by_cases hj : j = c.1
      · simp [hj]
      · simp [hj, hne hj]
    · by_cases hj : j = c.1
      · simp [hc, hj]
      · simp [hc, hne hj, hne (Ne.symm hc)]

lemma refCount_setCount_self (h : s.refCount f ≠ 0) : (s.setCount f.id n).refCount f = n := by
  rw [refCount, setCount, lookup_map_set, if_pos rfl]
  cases hlookup : s.counts.lookup f.id with
  | none => simp [refCount, hlookup] at h
  | some _ => rfl

lemma refCount_setCount_of_ne (h : g.id ≠ f.id) :
    (s.setCount f.id n).refCount g = s.refCount g := by
  rw [refCount, setCount, lookup_map_set, if_neg h, refCount]

lemma refCount_forget (h : g.id ≠ f.id) : (s.forget f).refCount g = s.refCount g := by
  have hlookup (l : List (Nat × Nat)) :
      (l.filter fun c => c.1 != f.id).lookup g.id = l.lookup g.id := by
    induction l with
    | nil => rfl
    | cons c l ih =>
      rw [List.filter_cons, List.lookup_cons]
      by_cases hc : c.1 = f.id
      · have hne : (g.id == f.id) = false := by simpa using h
        simp [hc, hne, ih]
      · rw [if_pos (by simpa using hc), List.lookup_cons, ih]
  rw [refCount, forget, hlookup, refCount]

lemma refCount_congr (h : t.counts = s.counts) (f : Frame) : t.refCount f = s.refCount f := by
  rw [refCount, h, refCount]

lemma counts_dispose (s : Storage) (b : FrameBuffer) :
    (s.dispose b).counts = s.counts ∧ (s.dispose b).next = s.next := by
  unfold Storage.dispose giveBack
  repeat' split
  all_goals exact ⟨rfl, rfl⟩

/-! ### Pools -/

/-- So many regions of the pool `n` are lent; a pool that is not there lends none. -/
def Lends (s : Storage) (n k : Nat) : Prop :=
  match s.pool? n with
  | some p => p.number = n ∧ p.Lends k
  | none => k = 0

lemma lends_congr (h : t.pools = s.pools) : t.Lends n k ↔ s.Lends n k := by
  rw [Lends, Lends, pool?, pool?, h]

/-- Where something is lent there is a pool. -/
lemma Lends.pool (h : s.Lends n (k + 1)) :
    ∃ p, s.pool? n = some p ∧ p.number = n ∧ p.Lends (k + 1) := by
  unfold Lends at h
  split at h
  · rename_i p hp
    exact ⟨p, hp, h⟩
  · cases h

lemma Lends.of_pool {p : BufferPool} (h : s.Lends n k) (hp : s.pool? n = some p) :
    p.number = n ∧ p.Lends k := by
  rwa [Lends, hp] at h

lemma lends_setPool_self {p q : BufferPool} (hp : s.pool? n = some p) (hnumber : q.number = n)
    (hq : q.Lends k) : (s.setPool q).Lends n k := by
  have hpool : (s.setPool q).pool? n = some q := by
    obtain ⟨hn, -⟩ := List.getElem?_eq_some_iff.1 hp
    rw [pool?, setPool, hnumber, List.getElem?_set_self hn]
  rw [Lends, hpool]
  exact ⟨hnumber, hq⟩

lemma lends_setPool_of_ne {q : BufferPool} (h : q.number ≠ n) :
    (s.setPool q).Lends n k ↔ s.Lends n k := by
  rw [Lends, Lends, pool?, setPool, List.getElem?_set_ne h, pool?]

/-- One pool more. -/
def Opens (s t : Storage) : Prop := t = s ∨ ∃ limit number, s.openPool limit = .ok (number, t)

lemma Opens.counts (ht : s.Opens t) : t.counts = s.counts ∧ t.next = s.next := by
  rcases ht with rfl | ⟨limit, number, ht⟩
  · exact ⟨rfl, rfl⟩
  unfold openPool BufferPool.new at ht
  split at ht
  · cases ht
  · cases ht
    exact ⟨rfl, rfl⟩

lemma Lends.opens (h : s.Lends n k) (ht : s.Opens t) : t.Lends n k := by
  rcases ht with rfl | ⟨limit, number, ht⟩
  · exact h
  unfold openPool BufferPool.new at ht
  split at ht
  · cases ht
  cases ht
  rcases Nat.lt_trichotomy n s.pools.length with hn | rfl | hn
  · rw [Lends, pool?, List.getElem?_append_left hn]
    exact h
  · rw [Lends, pool?, List.getElem?_eq_none (Nat.le_refl _)] at h
    subst h
    rw [Lends, pool?, List.getElem?_concat_length]
    exact ⟨rfl, rfl⟩
  · rw [Lends, pool?, List.getElem?_eq_none (Nat.le_of_lt hn)] at h
    have hlast (p : BufferPool) : (s.pools ++ [p]).length ≤ n := by
      rw [List.length_append, List.length_singleton]
      exact hn
    rw [Lends, pool?, List.getElem?_eq_none (hlast _)]
    exact h

/-! ### Balance -/

/-- The buffers that exist: one behind each frame, and those that are not shared. -/
def behind (frames : List Frame) (buffers : List FrameBuffer) : List FrameBuffer :=
  frames.dedup.map (·.buffer) ++ buffers

/-- A frame that is referred to once is as good as its buffer. -/
lemma behind_cons_of_notMem (h : f ∉ frames) :
    (behind (f :: frames) buffers).Perm (behind frames (f.buffer :: buffers)) := by
  rw [behind, List.dedup_cons_of_notMem h, behind]
  exact List.perm_middle.symm

/-- The storage counts each of these references once, and what its pools have lent is behind these
frames and buffers. -/
structure Backs (s : Storage) (frames : List Frame) (buffers : List FrameBuffer) : Prop where
  counted : ∀ f ∈ frames, s.refCount f = frames.count f
  known : ∀ f ∈ frames, f.id < s.next
  distinct : ∀ f ∈ frames, ∀ g ∈ frames, f.id = g.id → f = g
  lends : ∀ n, s.Lends n ((behind frames buffers).countP (FrameBuffer.isFrom n))

lemma backs_empty : ({} : Storage).Backs [] [] :=
  ⟨by simp, by simp, by simp, fun _ => rfl⟩

lemma Backs.perm (h : s.Backs frames buffers) (hframes : frames.Perm frames')
    (hbuffers : buffers.Perm buffers') : s.Backs frames' buffers' where
  counted f hf := by
    rw [h.counted f (hframes.mem_iff.2 hf), hframes.count_eq]
  known f hf := h.known f (hframes.mem_iff.2 hf)
  distinct f hf g hg := h.distinct f (hframes.mem_iff.2 hf) g (hframes.mem_iff.2 hg)
  lends n := by
    have hbehind : (behind frames buffers).Perm (behind frames' buffers') :=
      (hframes.dedup.map _).append hbuffers
    rw [← hbehind.countP_eq]
    exact h.lends n

/-- The references stay as they are. -/
lemma Backs.relend (h : s.Backs frames buffers) (hcounts : t.counts = s.counts)
    (hnext : t.next = s.next)
    (hlends : ∀ n, s.Lends n ((behind frames buffers).countP (FrameBuffer.isFrom n)) →
      t.Lends n ((behind frames buffers').countP (FrameBuffer.isFrom n))) :
    t.Backs frames buffers' where
  counted f hf := by
    rw [refCount, hcounts]
    exact h.counted f hf
  known f hf := by
    rw [hnext]
    exact h.known f hf
  distinct := h.distinct
  lends n := hlends n (h.lends n)

lemma Backs.opens (h : s.Backs frames buffers) (ht : s.Opens t) : t.Backs frames buffers :=
  h.relend ht.counts.1 ht.counts.2 fun _ hn => hn.opens ht

/-! ### Buffers -/

lemma behind_cons (b : FrameBuffer) :
    (behind frames (b :: buffers)).Perm (b :: behind frames buffers) := List.perm_middle

/-- A buffer is dropped. -/
lemma Backs.dispose (h : s.Backs frames (b :: buffers)) : (s.dispose b).Backs frames buffers := by
  obtain ⟨hcounts, hnext⟩ := counts_dispose s b
  refine h.relend hcounts hnext fun n hn => ?_
  rw [(behind_cons b).countP_eq, List.countP_cons] at hn
  match hdisposal : b.disposal with
  | .free =>
    simpa [Storage.dispose, hdisposal, FrameBuffer.isFrom] using hn
  | .giveBack .keeper =>
    have hpools : (s.dispose b).pools = s.pools := by simp [Storage.dispose, hdisposal, giveBack]
    rw [lends_congr hpools]
    simpa [hdisposal, FrameBuffer.isFrom] using hn
  | .giveBack (.pool m) =>
    have hfrom : b.isFrom n = true ↔ m = n := by simp [FrameBuffer.isFrom_iff, hdisposal]
    simp only [hfrom] at hn
    simp only [Storage.dispose, hdisposal, giveBack]
    by_cases hmn : m = n
    · subst hmn
      rw [if_pos rfl] at hn
      obtain ⟨p, hp, hnumber, hlends⟩ := hn.pool
      simp only [hp]
      exact lends_setPool_self hp (BufferPool.number_recycle.trans hnumber) hlends.recycle
    · rw [if_neg hmn] at hn
      split
      · exact hn
      · rename_i p hp
        obtain ⟨hnumber, -⟩ := (h.lends m).of_pool hp
        rw [lends_setPool_of_ne]
        · exact hn
        · rwa [BufferPool.number_recycle, hnumber]

/-- A buffer changes, but not its lender. -/
lemma Backs.rework (h : s.Backs frames (b :: buffers)) (hc : c.disposal = b.disposal) :
    s.Backs frames (c :: buffers) := by
  refine h.relend rfl rfl fun n hn => ?_
  have hfrom : c.isFrom n = b.isFrom n := by rw [FrameBuffer.isFrom, FrameBuffer.isFrom, hc]
  rw [(behind_cons b).countP_eq, List.countP_cons] at hn
  rwa [(behind_cons c).countP_eq, List.countP_cons, hfrom]

/-- Somebody deals with a pool. -/
theorem Backs.deals {p q : BufferPool} {hands : List FrameBuffer} (h : s.Backs frames buffers)
    (hp : s.pool? n = some p) (hq : p.Deals q hands) :
    (s.setPool q).Backs frames (hands ++ buffers) := by
  obtain ⟨hnumber, hlends⟩ := (h.lends n).of_pool hp
  subst hnumber
  obtain ⟨hq, hdealt, hlender⟩ := hq.dealt hlends
  refine h.relend rfl rfl fun m hm => ?_
  have hbehind : (behind frames (hands ++ buffers)).countP (FrameBuffer.isFrom m) =
      (behind frames buffers).countP (FrameBuffer.isFrom m)
        + hands.countP (FrameBuffer.isFrom m) := by
    simp only [behind, List.countP_append]
    omega
  rw [hbehind]
  by_cases hmn : p.number = m
  · subst hmn
    exact lends_setPool_self hp hq hdealt
  · have hnone : hands.countP (FrameBuffer.isFrom m) = 0 :=
      List.countP_eq_zero.2 fun b hb hfrom => hmn (hlender b hb m hfrom).symm
    rw [hnone, lends_setPool_of_ne (hq ▸ hmn)]
    exact hm

/-! ### Frames -/

lemma Backs.ne_of_ne (h : s.Backs frames buffers) (hf : f ∈ frames) (hg : g ∈ frames)
    (hne : g ≠ f) : g.id ≠ f.id := fun hid => hne (h.distinct g hg f hf hid)

/-- A buffer is shared. -/
lemma Backs.share (h : s.Backs frames (b :: buffers)) :
    (s.share b).2.Backs ((s.share b).1 :: frames) buffers := by
  have hnew : (s.share b).1 ∉ frames := fun hf => Nat.lt_irrefl _ (h.known _ hf)
  have hid {g : Frame} (hg : g ∈ frames) : g.id ≠ s.next := Nat.ne_of_lt (h.known g hg)
  refine ⟨fun g hg => ?_, fun g hg => ?_, fun g hg g' hg' heq => ?_, fun n => ?_⟩
  · rcases List.mem_cons.1 hg with rfl | hg
    · rw [List.count_cons_self, List.count_eq_zero.2 hnew]
      simp [Storage.share, refCount]
    · have hother : (s.share b).1 ≠ g := by
        rintro rfl
        exact hnew hg
      rw [List.count_cons_of_ne hother, ← h.counted g hg]
      have hne : (g.id == s.next) = false := by simpa using hid hg
      simp [Storage.share, refCount, List.lookup_cons, hne]
  · rcases List.mem_cons.1 hg with rfl | hg
    · exact Nat.lt_succ_self _
    · exact Nat.lt_succ_of_lt (h.known g hg)
  · rcases List.mem_cons.1 hg with rfl | hg <;> rcases List.mem_cons.1 hg' with rfl | hg'
    · rfl
    · exact absurd heq.symm (hid hg')
    · exact absurd heq (hid hg)
    · exact h.distinct g hg g' hg' heq
  · rw [(behind_cons_of_notMem hnew).countP_eq]
    exact (lends_congr rfl).2 (h.lends n)

/-- The references to one frame become more or fewer. -/
lemma Backs.recount (h : s.Backs frames buffers) (hf : f ∈ frames) (hne : s.refCount f ≠ 0)
    (hmem : ∀ g, g ∈ frames' ↔ g ∈ frames)
    (hcount : ∀ g, g ≠ f → frames'.count g = frames.count g) :
    (s.setCount f.id (frames'.count f)).Backs frames' buffers := by
  refine ⟨fun g hg => ?_, fun g hg => h.known g ((hmem g).1 hg), fun g hg g' hg' =>
    h.distinct g ((hmem g).1 hg) g' ((hmem g').1 hg'), fun n => ?_⟩
  · by_cases heq : g = f
    · subst heq
      exact refCount_setCount_self hne
    · rw [refCount_setCount_of_ne (h.ne_of_ne hf ((hmem g).1 hg) heq), hcount g heq]
      exact h.counted g ((hmem g).1 hg)
  · have hdedup : frames'.dedup.Perm frames.dedup := by
      refine (List.perm_ext_iff_of_nodup (List.nodup_dedup _) (List.nodup_dedup _)).2 fun g => ?_
      rw [List.mem_dedup, List.mem_dedup, hmem]
    have hbehind : (behind frames' buffers).Perm (behind frames buffers) :=
      (hdedup.map _).append_right _
    rw [hbehind.countP_eq]
    exact (lends_congr rfl).2 (h.lends n)

lemma Backs.refCount_ne (h : s.Backs frames buffers) (hf : f ∈ frames) : s.refCount f ≠ 0 := by
  rw [h.counted f hf]
  exact Nat.ne_of_gt (List.count_pos_iff.2 hf)

/-- Another reference to a frame is made. -/
lemma Backs.retain (h : s.Backs frames buffers) (hf : f ∈ frames) :
    (s.retain f).Backs (f :: frames) buffers := by
  have hcount : s.refCount f + 1 = (f :: frames).count f := by
    rw [List.count_cons_self, h.counted f hf]
  rw [Storage.retain, hcount]
  refine h.recount hf (h.refCount_ne hf) (fun g => ?_) fun g hg => ?_
  · rw [List.mem_cons, or_iff_right_of_imp]
    rintro rfl
    exact hf
  · exact List.count_cons_of_ne (Ne.symm hg)

/-- The last reference to a frame is forgotten. -/
lemma Backs.forget (h : s.Backs (f :: frames) buffers) (hf : f ∉ frames) :
    (s.forget f).Backs frames (f.buffer :: buffers) := by
  have hmem {g : Frame} (hg : g ∈ frames) : g ∈ f :: frames := List.mem_cons_of_mem f hg
  refine ⟨fun g hg => ?_, fun g hg => h.known g (hmem hg), fun g hg g' hg' =>
    h.distinct g (hmem hg) g' (hmem hg'), fun n => ?_⟩
  · have hne : g ≠ f := fun heq => hf (heq ▸ hg)
    rw [refCount_forget (h.ne_of_ne List.mem_cons_self (hmem hg) hne), h.counted g (hmem hg),
      List.count_cons_of_ne (Ne.symm hne)]
  · rw [← (behind_cons_of_notMem hf).countP_eq]
    exact (lends_congr rfl).2 (h.lends n)

/-- A reference is released, and the buffer is disposed of with the last one. -/
theorem Backs.release (h : s.Backs (f :: frames) buffers) :
    (s.release f).Backs frames buffers := by
  have hself : f ∈ f :: frames := List.mem_cons_self
  have hcount : s.refCount f = frames.count f + 1 := by
    rw [h.counted f hself, List.count_cons_self]
  unfold Storage.release
  split
  · exact absurd ‹_› (h.refCount_ne hself)
  · rename_i hone
    have hlast : f ∉ frames := List.count_eq_zero.1 (by omega)
    exact (h.forget hlast).dispose
  · rename_i n hmore
    have hleft : n + 1 = frames.count f := by omega
    have hmem : f ∈ frames := List.count_pos_iff.1 (by omega)
    rw [hleft]
    refine h.recount hself (h.refCount_ne hself) (fun g => ?_) fun g hg => ?_
    · rw [List.mem_cons, or_iff_right_of_imp]
      rintro rfl
      exact hmem
    · exact (List.count_cons_of_ne (Ne.symm hg)).symm

lemma Backs.releaseAll {gone : List Frame} (h : s.Backs (gone ++ frames) buffers) :
    (s.releaseAll gone).Backs frames buffers := by
  induction gone generalizing s with
  | nil => exact h
  | cons f gone ih => exact ih (s := s.release f) h.release

/-- When there are no frames and no buffers any more, all regions are free. -/
theorem Backs.whole (h : s.Backs [] []) {p : BufferPool} (hp : p ∈ s.pools) :
    p.free.length = p.live := by
  obtain ⟨n, hn⟩ := List.mem_iff_getElem?.1 hp
  obtain ⟨-, hlends⟩ := (h.lends n).of_pool hn
  exact hlends.symm

end FrameGraph.Storage
