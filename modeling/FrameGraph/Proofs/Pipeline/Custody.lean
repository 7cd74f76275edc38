import FrameGraph.Proofs.Network.References
import FrameGraph.Proofs.Pipeline.Links
import FrameGraph.Proofs.Pipeline.Sweeping

/-!
# In whose hands frames are

As long as all frames come from the sources of the graph, a sink that gets one has a worker, and
each reference is in the hands of a block. A call leaves references where they are, but for those
that a worker left, which it drops.
-/

namespace FrameGraph

namespace SinkEngine

variable {e e' : SinkEngine}

/-- All offers are those of sources. -/
def Sourced (e : SinkEngine) : Prop := ∀ o ∈ e.pending, ∃ i, o.producer = .source i

lemma Sourced.of_pending (h : e.Sourced) (hpending : e'.pending ⊆ e.pending) : e'.Sourced :=
  fun o ho => h o (hpending ho)

/-- A sink that keeps its worker is swept. -/
lemma Drift.swept (h : e.Drift e') (hworker : e.worker ≠ .absent) : e'.Swept :=
  fun habsent => absurd (h.absent.1 habsent) hworker

lemma refs_halt (e : SinkEngine) : e.halt.refs = e.refs := by
  have hpending : e.halt.pending = e.pending := by
    rw [halt, pending_notifyProducers, pending_wakeWorker]
    rfl
  have hqueue : e.halt.queue = e.queue := by simp [halt, notifyProducers]
  have hheld : e.halt.worker.held = e.worker.held :=
    held_wakeWorker { e with stopping := true }
  rw [refs, refs, hpending, hqueue, hheld]

lemma refs_discard (e : SinkEngine) : (e.queue ++ e.discard.2.refs).Perm e.refs := by
  have hpending : e.discard.2.pending = e.pending := rfl
  rw [refs, refs, hpending]
  exact List.perm_append_comm_assoc ..

end SinkEngine

namespace Block

variable {γ π : Type} {b b' b'' : Block γ π}

/-- All offers are those of sources. -/
def Sourced : Block γ π → Prop
  | .sink y => y.engine.Sourced
  | _ => True

/-- What threads do to a block while all frames come from sources. -/
structure Tends (b b' : Block γ π) : Prop where
  spares : b.Spares b'
  sourced : b.Sourced → b'.Sourced

lemma Tends.refl (b : Block γ π) : b.Tends b := ⟨.refl b, id⟩

lemma Tends.trans (h : b.Tends b') (h' : b'.Tends b'') : b.Tends b'' :=
  ⟨h.spares.trans h'.spares, h'.sourced ∘ h.sourced⟩

lemma tends_source {x x' : SourceBlock γ} : (.source x : Block γ π).Tends (.source x') :=
  ⟨.source, fun _ => trivial⟩

lemma tends_mapCore (f : BlockCore → BlockCore) : b.Tends (b.mapCore f) := by
  refine ⟨(leaves_mapCore f).spares, fun hb => ?_⟩
  cases b <;> exact hb

lemma tends_sink {y y' : SinkBlock π} (h : y.engine.Swept → y'.engine.Swept)
    (hpending : y'.engine.pending ⊆ y.engine.pending) :
    (.sink y : Block γ π).Tends (.sink y') :=
  ⟨.sink h, fun hb => SinkEngine.Sourced.of_pending hb hpending⟩

lemma Tallies.sourced {routed : List Nat → Prop} (h : b.Tallies routed b') (hb : b.Sourced) :
    b'.Sourced := by
  cases h with
  | sink h => exact SinkEngine.Sourced.of_pending hb h.pending.subset
  | _ => trivial

lemma Fresh.sourced (h : b.Fresh) : b.Sourced := by
  cases b with
  | sink y =>
    intro o ho
    simp [h.pending] at ho
  | _ => trivial

/-! ### What is in the hands of a block -/

/-- What the block has in its hands stays there. -/
structure Carries (b b' : Block γ π) : Prop where
  refs : b'.refs = b.refs
  offered : b'.offered = b.offered

lemma Carries.refl (b : Block γ π) : b.Carries b := ⟨rfl, rfl⟩

lemma carries_mapCore (f : BlockCore → BlockCore) : b.Carries (b.mapCore f) :=
  ⟨refs_mapCore f, offered_mapCore f⟩

lemma carries_of_thread {x x' : SourceBlock γ} (h : x'.thread = x.thread) :
    (.source x : Block γ π).Carries (.source x') :=
  ⟨by rw [Block.refs, Block.refs, h], by rw [Block.offered, Block.offered, h]⟩

/-- A thread that starts or is forgotten has nothing in its hands. -/
lemma carries_of_absent {x x' : SourceBlock γ} (h : x.thread = .absent ∨ x.thread = .ended)
    (h' : x'.thread = .absent ∨ x'.thread = .checking) :
    (.source x : Block γ π).Carries (.source x') := by
  constructor
  · rcases h with h | h <;> rcases h' with h' | h' <;> simp [Block.refs, SourceThread.refs, h, h']
  · rcases h with h | h <;> rcases h' with h' | h' <;>
      simp [Block.offered, SourceThread.offered, h, h']

lemma carries_of_refs {y y' : SinkBlock π} (h : y'.engine.refs = y.engine.refs) :
    (.sink y : Block γ π).Carries (.sink y') := ⟨h, rfl⟩

lemma carries_of_held {y y' : SinkBlock π} (hpending : y'.engine.pending = y.engine.pending)
    (hqueue : y'.engine.queue = y.engine.queue)
    (hheld : y'.engine.worker.held = y.engine.worker.held) :
    (.sink y : Block γ π).Carries (.sink y') := by
  apply carries_of_refs
  rw [SinkEngine.refs, SinkEngine.refs, hpending, hqueue, hheld]

/-- A sink has the same references and the same worker. -/
lemma adjusts_of_pending {y y' : SinkBlock π} (hpending : y'.engine.pending = y.engine.pending)
    (hqueue : y'.engine.queue = y.engine.queue) (hworker : y'.engine.worker = y.engine.worker) :
    (.sink y : Block γ π).Tends (.sink y') ∧ (.sink y : Block γ π).Carries (.sink y') := by
  refine ⟨tends_sink (fun hswept habsent => ?_) (List.Perm.of_eq hpending).subset,
    carries_of_held hpending hqueue (by rw [hworker])⟩
  rw [hqueue]
  exact hswept (hworker.symm.trans habsent)

lemma Opens.carries (h : b.Opens b') : b.Carries b' := by
  cases h with
  | source h =>
    cases h with
    | spawns generator lending hthread => exact carries_of_absent (.inl hthread) (.inr rfl)
    | _ => exact carries_of_thread rfl
  | sink h =>
    cases h with
    | spawns hworker => exact carries_of_held rfl rfl (by rw [hworker]; rfl)
    | _ => exact carries_of_refs rfl

/-- Nothing is lost as long as the queue stays. -/
lemma Closes.carries (h : b.Closes b') (hqueue : b'.queue = b.queue) : b.Carries b' := by
  cases h with
  | source h =>
    cases h with
    | forgets hthread => exact carries_of_absent hthread (.inl rfl)
    | _ => exact carries_of_thread rfl
  | sink h =>
    cases h with
    | stops | rests => exact carries_of_refs rfl
    | halts => exact carries_of_refs (SinkEngine.refs_halt _)
    | forgets hworker =>
      refine carries_of_held rfl rfl ?_
      rcases hworker with h | h <;> simp [h]
    | discards => exact carries_of_held rfl hqueue rfl
  | unheard => exact carries_mapCore _

lemma Control.carries (h : b.Control b') (hqueue : b'.queue = b.queue) : b.Carries b' :=
  h.elim Opens.carries (·.carries hqueue)

lemma Configures.carries (h : b.Configures b') : b.Carries b' := by
  cases h with
  | source hthread => exact carries_of_thread hthread
  | sink hqueue hworker hstop hstats happroaching hwaiting =>
    refine carries_of_held ?_ hqueue (by rw [hworker])
    rw [SinkEngine.pending, SinkEngine.pending, happroaching, hwaiting]

lemma Joins.carries {routed : List Nat → Prop} (h : b.Joins routed b') : b.Carries b' := by
  cases h with
  | same => exact .refl b
  | sink => exact carries_of_refs rfl
  | source _ => exact carries_of_thread rfl

lemma Fresh.carries (h : b.Fresh) : b.refs = [] ∧ b.offered = [] := by
  cases b with
  | source x => simp [Block.refs, Block.offered, SourceThread.refs, SourceThread.offered, h.thread]
  | sink y => simp [Block.refs, Block.offered, SinkEngine.refs, h.pending, h.queue, h.worker]
  | stage z => exact h.elim

end Block

namespace Network

variable {ω γ π : Type} {s t : Network ω γ π} {i : Nat} {b b' : Block γ π}

/-- A change of a core that blocks are indifferent to. -/
lemma each_mapCore {R : Block γ π → Block γ π → Prop} {f : BlockCore → BlockCore}
    (hf : ∀ {b : Block γ π} (f : BlockCore → BlockCore), R b (b.mapCore f)) (hrefl : ∀ b, R b b) :
    s.Each (fun _ => R) (s.mapCore i f) := by
  cases hb : s.block? i with
  | none => exact each_of_blocks_eq (by simp [mapCore, hb]) fun _ => hrefl
  | some b => exact each_of_set (blocks_mapCore hb f) hb (hf f) fun _ => hrefl

/-! ### Threads -/

lemma tends_answer (s : Network ω γ π) (p : Producer) (r : Except Error Unit) :
    s.Each (fun _ => Block.Tends) (s.answer p r) := by
  unfold answer
  split
  · exact each_of_blocks_eq rfl fun _ => .refl
  split
  · rename_i x hx
    split
    · exact each_of_set rfl (source?_eq_some.1 hx) Block.tends_source fun _ => .refl
    · exact .refl (fun _ => .refl) s
  · exact .refl (fun _ => .refl) s

/-- What a move does, as long as producers come only to sinks that have workers. -/
theorem Effect.tends [Generator γ] [Processor ω π] {m : Move} (h : s.Effect m t)
    (hmanned : ∀ k y o e, s.block? k = some (.sink y) → y.engine.Picks k m o e →
      y.engine.worker ≠ .absent) : s.Each (fun _ => Block.Tends) t := by
  have hsink {k : Nat} {y y' : SinkBlock π} {r : Network ω γ π}
      (hy : s.block? k = some (.sink y)) (hdrift : y.engine.Drift y'.engine)
      (hworker : y.engine.worker ≠ .absent)
      (hpending : y'.engine.pending ⊆ y.engine.pending)
      (hr : r.blocks = s.blocks.set k (.sink y')) : s.Each (fun _ => Block.Tends) r :=
    each_of_set hr hy (Block.tends_sink (fun _ => hdrift.swept hworker) hpending) fun _ => .refl
  cases h with
  | tick _ ht => exact each_of_blocks_eq ht fun _ => .refl
  | deny _ ht => exact each_of_blocks_eq ht fun _ => .refl
  | source hx _ ht => exact each_of_set ht hx Block.tends_source fun _ => .refl
  | skips hx _ _ ht => exact each_of_set ht hx Block.tends_source fun _ => .refl
  | @hands _ i x f k rest y hx hthread hy _ ht =>
    let e := y.engine.approach ⟨.source i, f⟩
    have hcomes : (.sink y : Block γ π).Tends (.sink { y with engine := e }) := by
      refine ⟨.sink id, fun hb o ho => ?_⟩
      rcases List.mem_cons.1 ((y.engine.pending_approach _).mem_iff.1 ho) with rfl | ho
      · exact ⟨i, rfl⟩
      · exact hb o ho
    have hx' : (s.setSink k { y with engine := e }).block? i = some (.source x) :=
      (block?_of_set_ne rfl (ne_of_source_of_sink hx hy).symm).trans hx
    exact (each_of_set (t := s.setSink k { y with engine := e }) rfl hy hcomes fun _ => .refl).trans
      (each_of_set ht hx' Block.tends_source fun _ => .refl) fun _ _ _ _ => .trans
  | seeks hy hworker ht =>
    exact hsink hy (SinkEngine.drift_seek hworker) (by simp [hworker])
      (SinkEngine.seek_tallies hworker).pending.subset ht
  | begins hy hworker ht =>
    exact hsink hy (SinkEngine.drift_begin hworker) (by simp [hworker])
      (SinkEngine.begin_tallies hworker).pending.subset ht
  | finishes _ hy hworker ht =>
    exact hsink hy (SinkEngine.drift_finish hworker _ _) (by simp [hworker])
      (SinkEngine.finish_tallies hworker _ _).pending.subset ht
  | waits hy hpick hwaits ht =>
    exact hsink hy (hpick.drift.trans SinkEngine.drift_consider) (hmanned _ _ _ _ hy hpick)
      (hpick.waits_tallies hwaits).pending.subset ht
  | @answers _ _ k y o e r hy hpick hanswer ht =>
    have hpending : (e.consider o).2.pending ⊆ y.engine.pending := by
      rw [SinkEngine.pending_of_answer hanswer]
      exact fun _ ho => hpick.pending.mem_iff.2 (List.mem_cons_of_mem _ ho)
    have hconsiders : s.Each (fun _ => Block.Tends)
        (s.setSink k { y with engine := (e.consider o).2 }) :=
      hsink hy (hpick.drift.trans SinkEngine.drift_consider) (hmanned _ _ _ _ hy hpick) hpending rfl
    have hanswers := hconsiders.trans (tends_answer _ o.producer r) fun _ _ _ _ => .trans
    exact hanswers.trans (each_of_blocks_eq ht fun _ => .refl) fun _ _ _ _ => .trans

/-! ### References -/

/-- What the blocks have in their hands stays there, and a pool is opened at most. -/
lemma Backs.carries (h : s.Backs [] []) (hopens : s.storage.Opens t.storage)
    (heach : s.Each (fun _ => Block.Carries) t) : t.Backs [] [] := by
  have hrefs : t.refs = s.refs := by
    rw [refs, refs, List.flatMap_def, List.flatMap_def, heach.map_eq fun _ _ _ h => h.refs]
  have hoffered : t.offered = s.offered := by
    rw [Network.offered, Network.offered, List.flatMap_def, List.flatMap_def,
      heach.map_eq fun _ _ _ h => h.offered]
  rw [Backs, hrefs, hoffered]
  exact Storage.Backs.opens h hopens

/-- What a worker left is dropped. -/
lemma Backs.discard (h : s.Backs [] []) (i : Nat) : (discard i s).Backs [] [] := by
  unfold Network.discard
  split
  · exact h
  · rename_i y hy
    rw [sink?_eq_some] at hy
    refine Backs.releaseAll ?_
    rw [List.append_nil]
    exact h.sink hy rfl rfl y.engine.refs_discard.symm

/-- One block is replaced by a call, and no queue is emptied. -/
lemma Backs.stepAt {G : Block γ π → Block γ π → Prop} (h : s.Backs [] [])
    (hst : StepAt G i s t) (hopens : s.storage.Opens t.storage)
    (hqueue : ∀ i b b', s.block? i = some b → t.block? i = some b' → b'.queue = b.queue)
    (hG : ∀ b b', G b b' → b'.queue = b.queue → b.Carries b') : t.Backs [] [] := by
  refine h.carries hopens ?_
  rcases hst with hblocks | ⟨b, b', hb, hstep, ht⟩
  · exact each_of_blocks_eq hblocks fun _ => .refl
  · have hb' := block?_of_set_self ht hb
    exact each_of_set ht hb (hG b b' hstep (hqueue i b b' hb hb')) fun _ => .refl

end Network

end FrameGraph
