import FrameGraph.Proofs.Network.Effects

/-!
# What surrounds a source

While the thread of a source stands still, others go on. They give it the answer for which it waits
and leave it alone otherwise. Nobody turns the clock back or takes a pool away.
-/

namespace FrameGraph

/-! ### Pools -/

namespace Storage

variable (s : Storage)

@[simp] lemma length_pools_setPool (p : BufferPool) :
    (s.setPool p).pools.length = s.pools.length := List.length_set

@[simp] lemma length_pools_dispose (b : FrameBuffer) :
    (s.dispose b).pools.length = s.pools.length := by
  unfold dispose giveBack
  repeat' split
  all_goals simp

@[simp] lemma length_pools_release (f : Frame) :
    (s.release f).pools.length = s.pools.length := by
  unfold release
  split
  · rfl
  · rw [length_pools_dispose]
    rfl
  · rfl

@[simp] lemma length_pools_releaseAll (fs : List Frame) :
    (s.releaseAll fs).pools.length = s.pools.length := by
  induction fs generalizing s with
  | nil => rfl
  | cons f fs ih => exact (ih (s.release f)).trans (s.length_pools_release f)

end Storage

namespace Network

variable {ω γ π : Type} {s t u : Network ω γ π} {i : Nat}

/-- The clock shows the same time, and there are as many pools. -/
structure Keeps (s t : Network ω γ π) : Prop where
  clock : t.clock = s.clock
  pools : t.storage.pools.length = s.storage.pools.length

namespace Keeps

lemma refl (s : Network ω γ π) : s.Keeps s := ⟨rfl, rfl⟩

lemma trans (h : s.Keeps t) (h' : t.Keeps u) : s.Keeps u :=
  ⟨h'.clock.trans h.clock, h'.pools.trans h.pools⟩

lemma setSource (h : s.Keeps t) (x : SourceBlock γ) : s.Keeps (t.setSource i x) :=
  h.trans ⟨rfl, rfl⟩

lemma setSink (h : s.Keeps t) (y : SinkBlock π) : s.Keeps (t.setSink i y) :=
  h.trans ⟨rfl, rfl⟩

lemma release (h : s.Keeps t) (f : Frame) : s.Keeps (t.release f) :=
  h.trans ⟨rfl, t.storage.length_pools_release f⟩

lemma elim_release (h : s.Keeps t) (f : Option Frame) : s.Keeps (f.elim t t.release) := by
  cases f with
  | none => exact h
  | some f => exact h.release f

lemma hear (h : s.Keeps t) (report : Option Report) : s.Keeps (t.hear report) := by
  refine h.trans ?_
  unfold Network.hear
  split
  · split
    · exact ⟨rfl, rfl⟩
    · exact .refl t
  · exact .refl t

lemma fail (h : s.Keeps t) (message : String) : s.Keeps (t.fail i message) := by
  unfold Network.fail
  split
  · exact h
  · rename_i b _
    have hset : s.Keeps (t.setBlock i (b.mapCore fun _ => (b.core.fail message).1)) :=
      h.trans ⟨rfl, rfl⟩
    exact hset.hear _

lemma answer (h : s.Keeps t) (p : Producer) (r : Except Error Unit) : s.Keeps (t.answer p r) := by
  unfold Network.answer
  split
  · exact h.trans ⟨rfl, rfl⟩
  · split
    · split
      · exact h.setSource _
      · exact h
    · exact h

end Keeps

/-! ### The thread of a source goes on -/

lemma keeps_tapFrame (tap : Tap) (f : Frame) : s.Keeps (s.tapFrame tap f).2 := by
  have hrelease := s.storage.length_pools_release f
  unfold tapFrame
  split
  · exact ⟨rfl, hrelease⟩
  · exact ⟨rfl, rfl⟩
  · exact ⟨rfl, hrelease⟩
  · exact ⟨rfl, hrelease⟩

lemma Keeps.takeGenerated (h : s.Keeps t) (b : SourceBlock γ)
    (outcome : Result (Option FrameBuffer)) : s.Keeps (t.takeGenerated i b outcome) := by
  unfold Network.takeGenerated
  split
  · exact h.setSource _
  · exact h.setSource _
  · split
    · exact (h.setSource _).fail _
    · exact h.setSource _
  · exact (h.setSource _).fail _

lemma keeps_check [Generator γ] (b : SourceBlock γ) : s.Keeps (s.check i b) := by
  unfold check
  split
  · exact (Keeps.refl s).setSource _
  split
  · exact (Keeps.refl s).setSource _
  split
  · exact (Keeps.refl s).setSource _
  · rename_i pool _
    let made := Generator.generate b.generator b.format pool
    have hpool : s.Keeps (s.mapStorage (·.setPool made.pool)) :=
      ⟨rfl, s.storage.length_pools_setPool made.pool⟩
    exact hpool.takeGenerated _ _

lemma Keeps.countDelivered (h : s.Keeps t) (b : SourceBlock γ) (bytes : Nat) :
    s.Keeps (t.countDelivered i b bytes) := by
  unfold Network.countDelivered
  split
  · exact h.setSource _
  · exact h.setSource _

lemma keeps_emitTo (b : SourceBlock γ) (c : Consumer) (buffer : FrameBuffer) :
    s.Keeps (s.emitTo i b c buffer) := by
  have hshare : s.Keeps { s with storage := (s.storage.share buffer).2 } := ⟨rfl, rfl⟩
  unfold emitTo
  dsimp only
  split
  · exact (hshare.release _).setSource _
  · exact hshare.setSource _
  · rename_i tap
    have htap := hshare.trans (keeps_tapFrame tap (s.storage.share buffer).1)
    split
    · exact htap.countDelivered _ _
    · exact (htap.setSource _).hear _

lemma keeps_emit (b : SourceBlock γ) (buffer : FrameBuffer) : s.Keeps (s.emit i b buffer) := by
  have hdispose : s.Keeps (s.mapStorage (·.dispose buffer)) :=
    ⟨rfl, s.storage.length_pools_dispose buffer⟩
  unfold emit
  split
  · exact hdispose.setSource _
  · exact hdispose.setSource _
  · exact keeps_emitTo _ _ _

lemma keeps_deliver (b : SourceBlock γ) (f : Frame) (target : Nat) (rest : List Nat) :
    s.Keeps (s.deliver i b f target rest) := by
  unfold deliver
  dsimp only
  generalize hr : (if rest.isEmpty = true then s else s.mapStorage (·.retain f)) = r
  have hkeeps : s.Keeps r := by
    rw [← hr]
    split <;> exact ⟨rfl, rfl⟩
  split
  · exact (hkeeps.release f).setSource _
  · split
    · exact (hkeeps.release f).setSource _
    · exact (hkeeps.setSink _).setSource _

lemma keeps_moveSource [Generator γ] (h : s.moveSource i = some t) : s.Keeps t := by
  unfold moveSource at h
  split at h
  · cases h
  split at h
  case h_1 | h_2 | h_3 => cases h
  case h_4 =>
    cases h
    exact keeps_check _
  case h_5 =>
    split at h
    · cases h
      exact (Keeps.refl s).setSource _
    · cases h
  case h_6 =>
    cases h
    exact keeps_emit _ _
  case h_7 =>
    cases h
    exact (Keeps.refl s).countDelivered _ _
  case h_8 =>
    cases h
    exact keeps_deliver _ _ _ _

/-! ### Others go on -/

lemma keeps_process [Processor ω π] (b : SinkBlock π) (f : Frame) : s.Keeps (s.process i b f) := by
  have hworld : s.Keeps { s with world := (Processor.process b.processor f.buffer s.world).2.2 } :=
    ⟨rfl, rfl⟩
  exact ((hworld.setSink _).release f).hear _

lemma keeps_moveWorker [Processor ω π] (h : s.moveWorker i = some t) : s.Keeps t := by
  unfold moveWorker at h
  split at h
  · cases h
  split at h
  case h_1 | h_2 | h_3 => cases h
  case h_4 =>
    cases h
    exact (Keeps.refl s).setSink _
  case h_5 =>
    cases h
    exact ((Keeps.refl s).setSink _).elim_release _
  case h_6 =>
    split at h
    · cases h
      exact keeps_process _ _
    · cases h

lemma keeps_moveThrough [Processor ω π] (h : s.moveThrough i = some t) : s.Keeps t := by
  unfold moveThrough at h
  split at h
  · cases h
  split at h
  · cases h
    exact keeps_process _ _
  · cases h

lemma keeps_look (b : SinkBlock π) (o : Offer) : s.Keeps (s.look i b o) := by
  unfold look
  dsimp only
  split
  · rename_i evicted _
    have hevicted : s.Keeps ((s.setSink i { b with engine := (b.engine.consider o).2 }).mapStorage
        (·.releaseAll evicted)) := ⟨rfl, s.storage.length_pools_releaseAll evicted⟩
    exact hevicted.answer _ _
  · exact (((Keeps.refl s).setSink _).release _).answer _ _
  · exact (Keeps.refl s).setSink _

lemma keeps_moveArrival {k : Nat} (h : s.moveArrival i k = some t) : s.Keeps t := by
  unfold moveArrival at h
  split at h
  · cases h
  split at h
  · cases h
  · cases h
    exact keeps_look _ _

lemma keeps_moveRetry {k : Nat} (h : s.moveRetry i k = some t) : s.Keeps t := by
  unfold moveRetry at h
  split at h
  · cases h
  split at h
  · cases h
  · cases h
    exact keeps_look _ _

variable [Generator γ] [Processor ω π]

/-- With a move the clock does not go back, and no pool is taken away. -/
theorem perform_onward {m : Move} (h : s.perform m = some t) :
    s.clock ≤ t.clock ∧ t.storage.pools.length = s.storage.pools.length := by
  have hkeeps (hk : s.Keeps t) :
      s.clock ≤ t.clock ∧ t.storage.pools.length = s.storage.pools.length :=
    ⟨Nat.le_of_eq hk.clock.symm, hk.pools⟩
  cases m with
  | tick span =>
    cases h
    exact ⟨Nat.le_add_right _ _, rfl⟩
  | deny reason =>
    cases h
    exact hkeeps ⟨rfl, rfl⟩
  | source i => exact hkeeps (keeps_moveSource h)
  | worker i => exact hkeeps (keeps_moveWorker h)
  | letThrough i => exact hkeeps (keeps_moveThrough h)
  | arrive i k => exact hkeeps (keeps_moveArrival h)
  | retry i k => exact hkeeps (keeps_moveRetry h)

end Network

/-! ### The source itself -/

/-- What others make of a source: nothing, or they give it the answer for which it waits. -/
inductive SourceBlock.Answered {γ : Type} (x : SourceBlock γ) : SourceBlock γ → Prop
  | refl : Answered x x
  | goesOn {f targets} (hthread : x.thread = .submitting f targets) :
    Answered x { x with thread := .delivering f targets }

namespace Network

variable {ω γ π : Type} {s t : Network ω γ π} {i : Nat} {x : SourceBlock γ}

lemma answered_answer (hx : s.block? i = some (.source x)) (p : Producer)
    (r : Except Error Unit) :
    ∃ x', (s.answer p r).block? i = some (.source x') ∧ x.Answered x' := by
  unfold answer
  split
  · exact ⟨x, hx, .refl⟩
  rename_i j
  split
  · rename_i z hz
    rw [source?_eq_some] at hz
    split
    · rename_i f targets hthread
      by_cases hji : j = i
      · subst hji
        obtain rfl : x = z := by simpa [hx] using hz
        exact ⟨_, block?_of_set_self (blocks_setSource _) hx, .goesOn hthread⟩
      · exact ⟨x, (block?_of_set_ne (blocks_setSource _) hji).trans hx, .refl⟩
    · exact ⟨x, hx, .refl⟩
  · exact ⟨x, hx, .refl⟩

/-- Others leave a source alone, but for the answer for which it waits. -/
theorem Effect.answered [Generator γ] [Processor ω π] {m : Move} (h : s.Effect m t)
    (hm : m ≠ .source i) (hx : s.block? i = some (.source x)) :
    ∃ x', t.block? i = some (.source x') ∧ x.Answered x' := by
  have hother {j : Nat} (hj : Move.source j ≠ .source i) : j ≠ i := fun hji => hj (hji ▸ rfl)
  have hset {j : Nat} {b' : Block γ π} (hji : j ≠ i) (ht : t.blocks = s.blocks.set j b') :
      ∃ x', t.block? i = some (.source x') ∧ x.Answered x' :=
    ⟨x, (block?_of_set_ne ht hji).trans hx, .refl⟩
  cases h with
  | tick _ ht => exact ⟨x, (block?_of_blocks_eq ht i).trans hx, .refl⟩
  | deny _ ht => exact ⟨x, (block?_of_blocks_eq ht i).trans hx, .refl⟩
  | source _ _ ht => exact hset (hother hm) ht
  | skips _ _ _ ht => exact hset (hother hm) ht
  | @hands _ j z f k rest y _ _ hy _ ht =>
    let r := s.setSink k { y with engine := y.engine.approach ⟨.source j, f⟩ }
    have hr : r.block? i = some (.source x) :=
      (block?_of_set_ne (blocks_setSink _) (ne_of_source_of_sink hx hy).symm).trans hx
    have ht' : t.blocks = r.blocks.set j _ := ht
    exact ⟨x, (block?_of_set_ne ht' (hother hm)).trans hr, .refl⟩
  | seeks hy _ ht => exact hset (ne_of_source_of_sink hx hy).symm ht
  | begins hy _ ht => exact hset (ne_of_source_of_sink hx hy).symm ht
  | finishes _ hy _ ht => exact hset (ne_of_source_of_sink hx hy).symm ht
  | waits hy _ _ ht => exact hset (ne_of_source_of_sink hx hy).symm ht
  | @answers _ _ j y o e r hy _ _ ht =>
    let u := s.setSink j { y with engine := (e.consider o).2 }
    have hu : u.block? i = some (.source x) :=
      (block?_of_set_ne (blocks_setSink _) (ne_of_source_of_sink hx hy).symm).trans hx
    obtain ⟨x', hx', hanswered⟩ := answered_answer hu o.producer r
    exact ⟨x', (block?_of_blocks_eq ht i).trans hx', hanswered⟩

end Network

end FrameGraph
