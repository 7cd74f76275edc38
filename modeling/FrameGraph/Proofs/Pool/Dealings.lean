import FrameGraph.Block.Hooks
import FrameGraph.Proofs.Frame.Reworks

/-!
# Dealings with a pool

Whoever deals with a pool acquires frames from it, works on them, and drops them again. What is
neither free nor dropped is then in its hands. A generator may hand a frame over, and has nothing in
its hands otherwise.
-/

namespace FrameGraph

/-- Whether the region of a buffer goes back to this pool. -/
def FrameBuffer.isFrom (n : Nat) (b : FrameBuffer) : Bool := b.disposal = .giveBack (.pool n)

lemma FrameBuffer.isFrom_iff {n : Nat} {b : FrameBuffer} :
    b.isFrom n = true ↔ b.disposal = .giveBack (.pool n) := decide_eq_true_iff

namespace BufferPool

variable {p : BufferPool} {k : Nat} {region : Region} {handle : Option Nat} {info : FrameInfo}

/-! ### Regions that are lent -/

/-- So many regions of the pool are lent. -/
def Lends (p : BufferPool) (k : Nat) : Prop := p.live = p.free.length + k

@[simp] lemma number_recycle : (p.recycle region handle).number = p.number := by
  unfold recycle
  split <;> rfl

/-- A region that comes back is free, or it is given up. -/
lemma Lends.recycle (h : p.Lends (k + 1)) : (p.recycle region handle).Lends k := by
  unfold Lends at *
  unfold BufferPool.recycle
  split
  · simp only [List.length_append, List.length_singleton]
    omega
  · simp only [surrender]
    omega

lemma Lends.surrender (h : p.Lends (k + 1)) : p.surrender.Lends k := by
  simp only [Lends, BufferPool.surrender] at h ⊢
  omega

/-! ### Acquisitions -/

/-- An acquisition makes a frame of a region that was free or is new, or it fails and gives up what
it had in hand. -/
lemma acquire_cases (p : BufferPool) (info : FrameInfo) :
    (∃ (q : BufferPool) (handle : Nat) (region : Region),
      p.acquire info = q.lend handle region info ∧ q.number = p.number ∧
        ∀ k, p.Lends k → q.Lends (k + 1)) ∨
    ∃ (f : Fault) (q : BufferPool), p.acquire info = (.error f, q) ∧ q.number = p.number ∧
      ∀ k, p.Lends k → q.Lends k := by
  unfold acquire
  split
  · exact .inr ⟨_, p, rfl, rfl, fun _ => id⟩
  rename_i needed _
  cases hfree : p.free with
  | cons r rest =>
    have htake : p.takeFree = (some r, { p with free := rest }) := by simp [takeFree, hfree]
    have htaken (k : Nat) (h : p.Lends k) : Lends { p with free := rest } (k + 1) := by
      simp only [Lends, hfree, List.length_cons] at h ⊢
      omega
    simp only [htake]
    split
    · exact .inl ⟨_, _, _, rfl, rfl, htaken⟩
    · split
      · exact .inl ⟨_, _, _, rfl, rfl, htaken⟩
      · exact .inr ⟨_, _, rfl, rfl, fun k h => (htaken k h).surrender⟩
  | nil =>
    have htake : p.takeFree = (none, p) := by simp [takeFree, hfree]
    simp only [htake, reserve]
    by_cases hroom : p.live < p.limit
    · have hreserved (k : Nat) (h : p.Lends k) : Lends { p with live := p.live + 1 } (k + 1) := by
        simp only [Lends] at h ⊢
        omega
      simp only [if_pos hroom]
      split
      · exact .inl ⟨_, _, _, rfl, rfl, hreserved⟩
      · exact .inr ⟨_, _, rfl, rfl, fun k h => (hreserved k h).surrender⟩
    · simp only [if_neg hroom]
      exact .inr ⟨_, _, rfl, rfl, fun _ => id⟩

/-- What a pool hands out is bound in a region that goes back to this pool. -/
lemma acquire_ok (h : (p.acquire info).1 = .ok b) :
    (p.acquire info).2.number = p.number ∧
      (∀ k, p.Lends k → (p.acquire info).2.Lends (k + 1)) ∧ ∃ handle region,
        ((FrameBuffer.lent region (.pool p.number)).markHardware handle).bind info = .ok b := by
  rcases acquire_cases p info with ⟨q, handle, region, heq, hnumber, hlends⟩ | ⟨f, q, heq, -⟩
  · rw [heq] at h ⊢
    unfold lend at h ⊢
    split at h
    · rename_i c hbind
      cases h
      exact ⟨hnumber, hlends, handle, region, hnumber ▸ hbind⟩
    · cases h
  · simp [heq] at h

/-- An acquisition that fails leaves as many regions lent as before. -/
lemma acquire_error {f : Fault} (h : (p.acquire info).1 = .error f) :
    (p.acquire info).2.number = p.number ∧ ∀ k, p.Lends k → (p.acquire info).2.Lends k := by
  rcases acquire_cases p info with ⟨q, handle, region, heq, hnumber, hlends⟩ | ⟨f, q, heq, hq⟩
  · rw [heq] at h ⊢
    unfold lend at h ⊢
    split at h
    · cases h
    · exact ⟨number_recycle.trans hnumber, fun k hk => (hlends k hk).recycle⟩
  · rw [heq]
    exact hq

/-! ### Dealings -/

/-- What becomes of a pool when somebody drops a buffer, which the pool may have lent. -/
def takeBack (p : BufferPool) (b : FrameBuffer) : BufferPool :=
  if b.isFrom p.number then p.recycle b.region b.handle else p

/-- What somebody does with a pool and with the buffers in hand; in the beginning there are none. -/
inductive Deals (p : BufferPool) : BufferPool → List FrameBuffer → Prop
  | begins : Deals p p []
  | acquires {q b hands} (info : FrameInfo) (h : Deals p q hands)
    (hb : (q.acquire info).1 = .ok b) : Deals p (q.acquire info).2 (b :: hands)
  | refused {q f hands} (info : FrameInfo) (h : Deals p q hands)
    (hf : (q.acquire info).1 = .error f) : Deals p (q.acquire info).2 hands
  /-- A buffer comes from elsewhere. -/
  | finds {q b hands} (h : Deals p q hands) (hb : ∀ n, b.disposal ≠ .giveBack (.pool n)) :
    Deals p q (b :: hands)
  /-- A buffer gets other contents, or another geometry. -/
  | reworks {q b c hands} (h : Deals p q (b :: hands)) (hc : b.SameStorage c) :
    Deals p q (c :: hands)
  | turns {q hands hands'} (h : Deals p q hands) (hperm : hands.Perm hands') : Deals p q hands'
  | drops {q b hands} (h : Deals p q (b :: hands)) : Deals p (q.takeBack b) hands

/-- What is lent in the end: what was lent before, and what is in hand. -/
structure Dealt (p : BufferPool) (k : Nat) (q : BufferPool) (hands : List FrameBuffer) : Prop where
  number : q.number = p.number
  lends : q.Lends (k + hands.countP (FrameBuffer.isFrom p.number))
  /-- What is in hand is from this pool, or from none. -/
  lender : ∀ b ∈ hands, ∀ n, b.isFrom n = true → n = p.number

/-- However somebody deals with a pool, each lent region is in some hands. -/
theorem Deals.dealt {q : BufferPool} {hands : List FrameBuffer} (h : p.Deals q hands)
    (hp : p.Lends k) : p.Dealt k q hands := by
  induction h with
  | begins => exact ⟨rfl, hp, by simp⟩
  | @acquires q b hands info _ hb ih =>
    obtain ⟨hnumber, hlends, handle, region, hbind⟩ := acquire_ok hb
    have hdisposal : b.disposal = .giveBack (.pool q.number) :=
      (FrameBuffer.sameStorage_of_bind hbind).disposal
    have hfrom : b.isFrom p.number = true := FrameBuffer.isFrom_iff.2 (by rw [hdisposal, ih.number])
    refine ⟨hnumber.trans ih.number, ?_, ?_⟩
    · rw [List.countP_cons_of_pos hfrom]
      exact hlends _ ih.lends
    · intro c hc n hn
      rcases List.mem_cons.1 hc with rfl | hc
      · rw [FrameBuffer.isFrom_iff, hdisposal] at hn
        cases hn
        exact ih.number
      · exact ih.lender c hc n hn
  | @refused q f hands info _ hf ih =>
    obtain ⟨hnumber, hlends⟩ := acquire_error hf
    exact ⟨hnumber.trans ih.number, hlends _ ih.lends, ih.lender⟩
  | @finds q b hands _ hb ih =>
    refine ⟨ih.number, ?_, ?_⟩
    · rw [List.countP_cons_of_neg fun h => hb _ (FrameBuffer.isFrom_iff.1 h)]
      exact ih.lends
    · intro c hc n hn
      rcases List.mem_cons.1 hc with rfl | hc
      · exact absurd (FrameBuffer.isFrom_iff.1 hn) (hb n)
      · exact ih.lender c hc n hn
  | @reworks q b c hands _ hc ih =>
    have hsame (n : Nat) : c.isFrom n = b.isFrom n := by
      rw [FrameBuffer.isFrom, FrameBuffer.isFrom, hc.disposal]
    refine ⟨ih.number, ?_, ?_⟩
    · rw [List.countP_cons, hsame, ← List.countP_cons]
      exact ih.lends
    · intro d hd n hn
      rcases List.mem_cons.1 hd with rfl | hd
      · exact ih.lender b List.mem_cons_self n (hsame n ▸ hn)
      · exact ih.lender d (List.mem_cons_of_mem b hd) n hn
  | turns _ hperm ih =>
    refine ⟨ih.number, ?_, fun b hb => ih.lender b (hperm.mem_iff.2 hb)⟩
    rw [← hperm.countP_eq]
    exact ih.lends
  | @drops q b hands _ ih =>
    have hlender (c : FrameBuffer) (hc : c ∈ hands) := ih.lender c (List.mem_cons_of_mem b hc)
    have hlends := ih.lends
    rw [List.countP_cons] at hlends
    unfold takeBack
    rw [ih.number]
    split
    · rename_i hfrom
      rw [if_pos hfrom] at hlends
      exact ⟨number_recycle.trans ih.number, Lends.recycle hlends, hlender⟩
    · rename_i hfrom
      rw [if_neg hfrom] at hlends
      exact ⟨ih.number, hlends, hlender⟩

end BufferPool

/-! ### Generators -/

/-- The frame that a call of a generator hands over, if there is one. -/
def Generated.buffers {γ : Type} (made : Generated γ) : List FrameBuffer :=
  match made.outcome with
  | .ok (some b) => [b]
  | _ => []

/-- A generator takes frames from the pool of its source or from elsewhere. It holds none of them
back, whether it hands one over, has none, refuses or is aborted. -/
def Generator.Borrows (γ : Type) [Generator γ] : Prop :=
  ∀ (g : γ) (format : FrameInfo) (pool : BufferPool),
    pool.Deals (Generator.generate g format pool).pool (Generator.generate g format pool).buffers

end FrameGraph
