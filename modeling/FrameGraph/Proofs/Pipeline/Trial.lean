import FrameGraph.Proofs.Network.Legality
import FrameGraph.Proofs.Pipeline.Deeds

/-!
# Trying a configuration

Whether a block accepts its parameters depends on the block itself and on the world that its
processor finds, and on nothing else in its network. So the outcome of a configuration can be told
beforehand, as long as others leave the block and the world alone.
-/

namespace FrameGraph

/-! ### What a configuration depends on -/

namespace SourceBlock

variable {γ : Type} {storage : Storage}

/-- Whether a pool can be opened does not depend on the others. -/
lemma readPool_eq (p : Params) (storage storage' : Storage) :
    (readPool p storage).map (fun _ => ()) = (readPool p storage').map (fun _ => ()) := by
  simp only [readPool, bind, Except.bind]
  cases p.read "buffer_count" Params.word64 with
  | error e => rfl
  | ok count =>
    simp only [Storage.openPool, BufferPool.new]
    split <;> rfl

lemma fst_applyParameters [Generator γ] (x : SourceBlock γ) (storage storage' : Storage) :
    (x.applyParameters storage).1 = (x.applyParameters storage').1 := by
  have hpool := readPool_eq x.core.params storage storage'
  simp only [applyParameters, bind, Except.bind, pure, Except.pure]
  cases x.readFormat x.core.params with
  | error f => rfl
  | ok format =>
    cases readRate x.core.params with
    | error e => rfl
    | ok fps =>
      cases h : readPool x.core.params storage <;>
        cases h' : readPool x.core.params storage' <;>
        simp only [h, h', Except.map, Except.error.injEq, reduceCtorEq] at hpool
      · subst hpool
        rfl
      · cases x.core.params.read "cpu_core" Params.word64 with
        | error e => rfl
        | ok pinned =>
          simp only [Except.mapError]
          obtain ⟨r, generator⟩ := Generator.configure x.generator x.core.params format
          cases r with
          | error f => rfl
          | ok _ =>
            dsimp only
            obtain ⟨r, x'⟩ := ({ x with generator } : SourceBlock γ).applyRate fps
            cases r <;> rfl

lemma fst_configure [Generator γ] (x : SourceBlock γ) (storage : Storage) :
    (x.configure storage).1 = if x.core.state ∈ Verb.configure.allowed
      then (x.applyParameters {}).1 else refuse (.invalidState "configure" x.core.state) := by
  by_cases hstate : x.core.state ∈ Verb.configure.allowed
  · have h : x.core.state ∈ [.uninitialized, .initialized] := hstate
    rw [if_pos hstate, x.fst_applyParameters {} storage]
    simp only [configure, BlockCore.require, if_pos h]
    split
    all_goals
      rename_i heq
      exact (congrArg Prod.fst heq).symm
  · rw [if_neg hstate, configure_refused hstate]

end SourceBlock

namespace SinkBlock

variable {ω π : Type} [Processor ω π]

lemma fst_configure (y : SinkBlock π) (world : ω) :
    (y.configure world).1 = if y.core.state ∈ Verb.configure.allowed
      then (y.applyParameters world).1 else refuse (.invalidState "configure" y.core.state) := by
  by_cases hstate : y.core.state ∈ Verb.configure.allowed
  · have h : y.core.state ∈ [.uninitialized, .initialized] := hstate
    rw [if_pos hstate]
    simp only [configure, BlockCore.require, if_pos h]
    split
    all_goals
      rename_i heq
      exact (congrArg Prod.fst heq).symm
  · rw [if_neg hstate, configure_refused hstate]

end SinkBlock

/-! ### Outcomes -/

namespace StageBlock

/-- Whether a stage does what it is asked to do. -/
def consents (z : StageBlock) (operation : String) : Except Error Unit :=
  if z.core.params.text "refuse" == operation then
    .error (.block z.core.name s!"refused to {operation}")
  else .ok ()

/-- Whether a stage accepts its parameters. -/
def trial (z : StageBlock) : Except Error Unit := do
  z.core.require "configure" [.uninitialized, .initialized]
  z.consents "configure"

end StageBlock

namespace Block

variable {ω γ π : Type} [Generator γ] [Processor ω π] {b c : Block γ π} {w : ω}

/-- What the configuration of a block comes to, and the world that it leaves behind. -/
def trial (b : Block γ π) (w : ω) : Result Unit × ω :=
  match b with
  | .source x => ((x.configure {}).1, w)
  | .sink y => ((y.configure w).1, (y.configure w).2.2.1)
  | .stage z => (z.trial.mapError .error, w)

/-- A block took its parameters over. -/
inductive Configured (w : ω) : Block γ π → Block γ π → Prop
  | source {x : SourceBlock γ} (storage : Storage) (h : (x.configure storage).1 = .ok ()) :
    Configured w (.source x) (.source (x.configure storage).2.1)
  | sink {y : SinkBlock π} (h : (y.configure w).1 = .ok ()) :
    Configured w (.sink y) (.sink (y.configure w).2.1)
  | stage {z : StageBlock} :
    Configured w (.stage z) (.stage { z with core := { z.core with state := .initialized } })

/-- The block can be asked to consume frames. -/
def isSink : Block γ π → Bool
  | .sink _ => true
  | _ => false

lemma Configured.state (h : b.Configured w c) : c.state = .initialized := by
  cases h with
  | @source x storage h =>
    have hallowed : x.core.state ∈ Verb.configure.allowed := by
      by_contra hstate
      rw [SourceBlock.configure_refused hstate] at h
      cases h
    have hends := @SourceBlock.configure_ends γ _ x storage hallowed
    generalize (x.configure storage).1 = r, hstate : (x.configure storage).2.1.core.state = state
      at h hends
    subst h
    cases hends
    exact hstate
  | @sink y h =>
    have hallowed : y.core.state ∈ Verb.configure.allowed := by
      by_contra hstate
      rw [SinkBlock.configure_refused hstate] at h
      cases h
    have hends := @SinkBlock.configure_ends ω π _ y w hallowed
    generalize (y.configure w).1 = r, hstate : (y.configure w).2.1.core.state = state at h hends
    subst h
    cases hends
    exact hstate
  | stage => rfl

lemma Configured.name (h : b.Configured w c) : c.name = b.name := by
  cases h with
  | @source x storage h =>
    obtain ⟨_, _, hcore⟩ := x.core_configure storage
    exact (congrArg BlockCore.name hcore :)
  | @sink y h =>
    obtain ⟨_, _, hcore⟩ := y.core_configure w
    exact (congrArg BlockCore.name hcore :)
  | stage => rfl

lemma Configured.isSource (h : b.Configured w c) : c.isSource = b.isSource := by
  cases h <;> rfl

lemma Configured.isSink (h : b.Configured w c) : c.isSink = b.isSink := by
  cases h <;> rfl

end Block

/-! ### While others keep away -/

namespace Network

variable {ω γ π : Type} {s t u : Network ω γ π} {n i : Nat} {b : Block γ π}

/-- What others do to a network that leaves the world and the blocks from a position on alone. -/
structure Apart (n : Nat) (s t : Network ω γ π) : Prop where
  world : t.world = s.world
  length : t.blocks.length = s.blocks.length
  blocks : t.blocks.drop n = s.blocks.drop n

lemma interference_apart (n : Nat) :
    Routine.Interference (Apart (ω := ω) (γ := γ) (π := π) n) where
  refl _ := ⟨rfl, rfl, rfl⟩
  trans h h' := ⟨h'.world.trans h.world, h'.length.trans h.length, h'.blocks.trans h.blocks⟩

lemma Apart.block? (h : Apart n s t) (hi : n ≤ i) : t.block? i = s.block? i := by
  have hblock := congrArg (fun l => l[i - n]?) h.blocks
  simpa [Network.block?, List.getElem?_drop, Nat.add_sub_cancel' hi] using hblock

/-- In a network one block was replaced, from a position on. -/
structure Replaces (n i : Nat) (c : Block γ π) (s t : Network ω γ π) : Prop where
  length : t.blocks.length = s.blocks.length
  blocks : t.blocks.drop n = (s.blocks.drop n).set (i - n) c

lemma Replaces.later {c : Block γ π} (h : Replaces n i c s t) (htu : Apart n t u) :
    Replaces n i c s u :=
  ⟨htu.length.trans h.length, htu.blocks.trans h.blocks⟩

lemma replaces_of_set {c : Block γ π} (h : t.blocks = s.blocks.set i c) (hi : n ≤ i) :
    Replaces n i c s t := by
  refine ⟨by rw [h, List.length_set], ?_⟩
  rw [h, List.drop_set, if_neg (Nat.not_lt.2 hi)]

lemma Replaces.earlier {c : Block γ π} (h : Replaces n i c t u) (hst : Apart n s t) :
    Replaces n i c s u :=
  ⟨h.length.trans hst.length, by rw [h.blocks, hst.blocks]⟩

/-- The core of a block is changed, and nothing else. -/
lemma mapCore_replaces (hb : s.block? i = some b) (hi : n ≤ i) (f : BlockCore → BlockCore) :
    (Routine.modify fun s => s.mapCore i f).Meets (Apart n) (fun _ _ => True)
      (fun _ t => Replaces n i (b.mapCore f) s t ∧ t.world = s.world) s := by
  intro t hst
  have ht : t.block? i = some b := (hst.block? hi).trans hb
  have hworld : (t.mapCore i f).world = t.world := by simp [mapCore, ht, setBlock]
  refine ⟨trivial, fun u htu => ⟨?_, (htu.world.trans hworld).trans hst.world⟩⟩
  exact ((replaces_of_set (blocks_mapCore ht f) hi).earlier hst).later htu

variable [Generator γ] [Processor ω π]

/-- What is found after a configuration. -/
structure Tried (n i : Nat) (b : Block γ π) (s : Network ω γ π) (r : Result Unit)
    (t : Network ω γ π) : Prop where
  result : r = (b.trial s.world).1
  world : r = .ok () → t.world = (b.trial s.world).2
  block : r = .ok () → ∃ c, b.Configured s.world c ∧ Replaces n i c s t

lemma Tried.earlier {r : Result Unit} (h : Tried n i b t r u) (hst : Apart n s t) :
    Tried n i b s r u := by
  obtain ⟨hresult, hworld, hblock⟩ := h
  rw [hst.world] at hresult hworld hblock
  refine ⟨hresult, hworld, fun hr => ?_⟩
  obtain ⟨c, hc, hreplaces⟩ := hblock hr
  exact ⟨c, hc, hreplaces.earlier hst⟩

lemma Tried.later {r : Result Unit} (h : Tried n i b s r t) (htu : Apart n t u) :
    Tried n i b s r u where
  result := h.result
  world hr := htu.world.trans (h.world hr)
  block hr :=
    have ⟨c, hc, hreplaces⟩ := h.block hr
    ⟨c, hc, hreplaces.later htu⟩

omit [Generator γ] [Processor ω π] in
lemma world_hear (s : Network ω γ π) (report : Option Report) :
    (s.hear report).world = s.world := by
  unfold hear
  split
  · split <;> rfl
  · rfl

lemma configureEngine_tried (hb : s.block? i = some b) (hthreaded : b.Threaded) (hi : n ≤ i) :
    Tried n i b s (configureEngine i s).1 (configureEngine i s).2 := by
  cases b with
  | source x =>
    simp only [configureEngine, hb]
    refine ⟨?_, fun _ => world_hear _ _, fun hr => ⟨_, .source s.storage hr, ?_⟩⟩
    · exact (x.fst_configure s.storage).trans (x.fst_configure {}).symm
    · exact replaces_of_set (by simp) hi
  | sink y =>
    simp only [configureEngine, hb]
    exact ⟨rfl, fun _ => world_hear _ _, fun hr => ⟨_, .sink hr, replaces_of_set (by simp) hi⟩⟩
  | stage z => exact absurd hthreaded id

omit [Generator γ] [Processor ω π] in
/-- A stage notes in the journal what it is asked to do, unless it refuses. -/
lemma request_consents {z : StageBlock} {operation : String}
    (hb : s.block? i = some (.stage z)) (hi : n ≤ i) :
    (request i operation).Meets (Apart n) (fun _ _ => True)
      (fun r t => r = z.consents operation ∧ Apart n s t) s := by
  intro t hst
  refine ⟨trivial, fun u htu => ?_⟩
  have ht : t.block? i = some (.stage z) := (hst.block? hi).trans hb
  simp only [ht] at htu ⊢
  by_cases hrefuses : ((Block.stage z : Block γ π).core.params.text "refuse" == operation) = true
  · simp only [if_pos hrefuses] at htu ⊢
    exact ⟨(if_pos hrefuses).symm, (interference_apart n).trans hst htu⟩
  · simp only [if_neg hrefuses] at htu ⊢
    exact ⟨(if_neg hrefuses).symm,
      ⟨htu.world.trans hst.world, htu.length.trans hst.length, htu.blocks.trans hst.blocks⟩⟩

lemma configureStage_tried {z : StageBlock} (hb : s.block? i = some (.stage z)) (hi : n ≤ i) :
    (configureStage i z.core).Meets (Apart n) (fun _ _ => True)
      (fun r => Tried n i (.stage z) s (r.mapError .error)) s := by
  have hR := interference_apart (ω := ω) (γ := γ) (π := π) n
  have hrefused {t : Network ω γ π} {e : Error} (htrial : z.trial = .error e) :
      Tried n i (.stage z) s (refuse e) t :=
    ⟨by simp [Block.trial, htrial, refuse, Except.mapError], by simp [refuse], by simp [refuse]⟩
  unfold configureStage
  cases hrequire : z.core.require "configure" [.uninitialized, .initialized] with
  | error e =>
    have htrial : z.trial = .error e := by simp [StageBlock.trial, hrequire, bind, Except.bind]
    exact fun t _ => hrefused htrial
  | ok _ =>
    have htrial : z.trial = z.consents "configure" := by
      simp [StageBlock.trial, hrequire, bind, Except.bind]
    refine .bind hR ((request_consents hb hi).weaken fun r t ht => ?_)
    obtain ⟨rfl, hst⟩ := ht
    cases hconsents : z.consents "configure" with
    | error e => exact fun u _ => hrefused (htrial.trans hconsents)
    | ok _ =>
      refine fun u htu => ⟨trivial, fun v huv => ?_⟩
      have hsu := hR.trans hst htu
      have hu : u.block? i = some (.stage z) := (hsu.block? hi).trans hb
      refine Tried.later (Tried.earlier ?_ hsu) huv
      refine ⟨by simp [Block.trial, htrial, hconsents, Except.mapError], fun _ => ?_,
        fun _ => ⟨_, .stage, replaces_of_set (blocks_mapCore hu _) hi⟩⟩
      simp [mapCore, hu, Block.trial, setBlock]

/-- Configuring a block comes to what was told beforehand. -/
theorem configure_tried (hb : s.block? i = some b) (hi : n ≤ i) :
    (configure i).Meets (Apart n) (fun _ _ => True) (Tried n i b s) s := by
  have hR := interference_apart (ω := ω) (γ := γ) (π := π) n
  refine Routine.meets_get.2 fun t hst => ⟨trivial, ?_⟩
  have ht : t.block? i = some b := (hst.block? hi).trans hb
  have hengine (hthreaded : b.Threaded) : (Routine.modifyGet (configureEngine i)).Meets (Apart n)
      (fun _ _ => True) (Tried n i b s) t := by
    intro u htu
    have hsu := hR.trans hst htu
    have hu : u.block? i = some b := (hsu.block? hi).trans hb
    exact ⟨trivial, fun v huv => ((configureEngine_tried hu hthreaded hi).earlier hsu).later huv⟩
  simp only [ht]
  cases b with
  | source x => exact hengine trivial
  | sink y => exact hengine trivial
  | stage z =>
    refine .bind hR ((configureStage_tried ht hi).weaken fun r u hu v huv => ?_)
    exact (hu.earlier hst).later huv

end Network

end FrameGraph
