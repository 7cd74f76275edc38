import FrameGraph.Proofs.Pipeline.Custody
import FrameGraph.Proofs.Pipeline.Precedence

/-!
# No region is lost

As long as all frames come from the sources of the graph, each region that a pool has lent is behind
a frame or a buffer in the hands of a block. When a pipeline has come to rest, no block has anything
in its hands, so all regions are back in their pools.
-/

namespace FrameGraph.Pipeline

variable {ω γ π : Type} {p q : Pipeline ω γ π} {i k : Nat}

/-! ### What is known of the references of a pipeline -/

/-- All offers are those of sources, and each reference is in the hands of a block. -/
structure Kempt (p : Pipeline ω γ π) : Prop where
  sourced : p.network.All fun _ => Block.Sourced
  backs : p.network.Backs [] []

/-- A producer that comes to a sink is a source, so the sink has a worker. -/
lemma Kempt.manned (h : p.Kempt) (hlinked : p.Linked) (horderly : p.Orderly) {m : Move}
    {y : SinkBlock π} {o : Offer} {e : SinkEngine} (hy : p.network.block? k = some (.sink y))
    (hpick : y.engine.Picks k m o e) : y.engine.worker ≠ .absent := by
  have ho : o ∈ y.engine.pending := hpick.pending.mem_iff.2 List.mem_cons_self
  have hsourced : y.engine.Sourced := h.sourced k _ hy
  obtain ⟨i, hproducer⟩ := hsourced o ho
  obtain ⟨hk, x, f, rest, hx, hthread⟩ := hlinked.submitting hy ho hproducer
  have hup : (Block.sink y : Block γ π).Up := (horderly i x hx (by simp [hthread])).2 k hk y hy
  exact hup.isOpen.2

/-- A source with a thread shows its frames to no tap. -/
lemma Linked.untapped (hp : p.Linked) (horderly : p.Orderly) {x : SourceBlock γ}
    (hx : p.network.block? i = some (.source x)) (hthread : x.thread ≠ .absent) (tap : Tap) :
    x.engine.consumer ≠ some (.tap tap) := by
  obtain ⟨hmem, -⟩ := horderly i x hx hthread
  rcases (hp.source hx).2 hmem with h | ⟨targets, h, -⟩ <;> simp [h]

/-! ### Others -/

section Others

variable [Generator γ] [Processor ω π]

/-- What others do to a pipeline without frames of their own: threads and producers go on, settings
change, and blocks fail. -/
inductive Works (p : Pipeline ω γ π) : Pipeline ω γ π → Prop
  | moves {s} (m : Move) (h : p.network.perform m = some s) : Works p { p with network := s }
  | setMaxDepth (i depth : Nat) : Works p { p with network := (p.network.setMaxDepth i depth).2 }
  | setPolicy (i : Nat) (policy : Backpressure) :
    Works p { p with network := p.network.setPolicy i policy }
  | fail (i : Nat) (message : String) : Works p { p with network := p.network.fail i message }
  /-- Whatever concerns neither the blocks nor the regions that pools have lent. -/
  | elsewhere {s} (hblocks : s.blocks = p.network.blocks)
    (hstorage : p.network.storage.Opens s.storage) : Works p { p with network := s }

lemma Moves.works (h : p.Moves q) : p.Works q := by
  obtain ⟨m, s, hm, rfl⟩ := h
  exact .moves m hm

lemma Works.occurs (h : p.Works q) : p.Occurs q := by
  cases h with
  | moves m h => exact .happens (.inl ⟨m, h⟩)
  | setMaxDepth i depth => exact .happens (.inr (.setMaxDepth i depth))
  | setPolicy i policy => exact .happens (.inr (.setPolicy i policy))
  | fail i message => exact .happens (.inr (.fail i message))
  | elsewhere hblocks hstorage => exact .elsewhere hblocks

/-- What is not done by a thread or a producer moves no reference. -/
lemma Works.adjusts (h : p.Works q) :
    p.Moves q ∨ p.network.storage.Opens q.network.storage ∧
        p.network.Each (fun _ b b' => b.Tends b' ∧ b.Carries b') q.network := by
  have hrefl (_ : Nat) (c : Block γ π) : c.Tends c ∧ c.Carries c := ⟨.refl c, .refl c⟩
  cases h with
  | moves m h => exact .inl ⟨m, _, h, rfl⟩
  | setMaxDepth i depth =>
    right
    simp only [Network.setMaxDepth]
    split
    · exact ⟨.inl rfl, .refl hrefl _⟩
    · rename_i y hy
      refine ⟨.inl rfl, Network.each_of_set rfl (Network.sink?_eq_some.1 hy) ?_ hrefl⟩
      apply Block.adjusts_of_pending (y.engine.pending_setMaxDepth depth)
      all_goals
        unfold SinkEngine.setMaxDepth
        split <;> rfl
  | setPolicy i policy =>
    right
    simp only [Network.setPolicy]
    split
    · exact ⟨.inl rfl, .refl hrefl _⟩
    · rename_i y hy
      exact ⟨.inl rfl, Network.each_of_set rfl (Network.sink?_eq_some.1 hy)
        (Block.adjusts_of_pending (y.engine.pending_setPolicy policy) rfl rfl) hrefl⟩
  | fail i message =>
    right
    cases hb : p.network.block? i with
    | none =>
      have hsame : p.network.fail i message = p.network := by simp [Network.fail, hb]
      rw [hsame]
      exact ⟨.inl rfl, .refl hrefl _⟩
    | some b =>
      have hstorage : (p.network.fail i message).storage = p.network.storage := by
        simp [Network.fail, hb, Network.setBlock]
      exact ⟨.inl hstorage, Network.each_of_set (Network.blocks_fail hb message) hb
        ⟨Block.tends_mapCore _, Block.carries_mapCore _⟩ hrefl⟩
  | elsewhere hblocks hstorage => exact .inr ⟨hstorage, Network.each_of_blocks_eq hblocks hrefl⟩

lemma Works.tends (h : p.Works q) (hp : p.Kempt) (hlinked : p.Linked) (horderly : p.Orderly) :
    p.network.Each (fun _ => Block.Tends) q.network := by
  rcases h.adjusts with ⟨m, s, hm, rfl⟩ | ⟨-, hadjusts⟩
  · exact (Network.perform_effect hm).tends fun k y o e hy hpick =>
      hp.manned hlinked horderly hy hpick
  · exact hadjusts.mono fun _ _ _ h => h.1

lemma Works.backs (hγ : Generator.Borrows γ) (h : p.Works q) (hp : p.network.Backs [] [])
    (hlinked : p.Linked) (horderly : p.Orderly) : q.network.Backs [] [] := by
  rcases h.adjusts with ⟨m, s, hm, rfl⟩ | ⟨hopens, hadjusts⟩
  · exact hp.move hγ (fun i x hx hthread => hlinked.untapped horderly hx hthread) hm
  · exact hp.carries hopens (hadjusts.mono fun _ _ _ h => h.2)

lemma Kempt.works (hγ : Generator.Borrows γ) (hp : p.Kempt) (h : p.Works q) (hlinked : p.Linked)
    (horderly : p.Orderly) : q.Kempt where
  sourced i b' hb' := by
    obtain ⟨b, hb, htends⟩ := (h.tends hp hlinked horderly).source hb'
    exact htends.sourced (hp.sourced i b hb)
  backs := h.backs hγ hp.backs hlinked horderly

end Others

/-! ### Calls -/

/-- A block that is made has nothing in its hands. -/
lemma backs_makes {b : Block γ π} (h : p.network.Backs [] []) (hb : b.Fresh)
    (hblocks : q.network.blocks = p.network.blocks ++ [b])
    (hopens : p.network.storage.Opens q.network.storage) : q.network.Backs [] [] := by
  obtain ⟨hrefs, hoffered⟩ := hb.carries
  have hrefs' : q.network.refs = p.network.refs := by
    simp [Network.refs, hblocks, hrefs]
  have hoffered' : q.network.offered = p.network.offered := by
    simp [Network.offered, hblocks, hoffered]
  rw [Network.Backs, hrefs', hoffered']
  exact Storage.Backs.opens h hopens

/-- Each step of a call keeps all references backed. -/
theorem Does.backs (h : p.Does q) (hhandles : p.Handles q)
    (hregistry : p.registry.Makes Block.Fresh) (hp : p.network.Backs [] []) :
    q.network.Backs [] [] := by
  unfold Handles at hhandles
  generalize hs : q.network = s at hhandles
  cases hhandles with
  | discards i => exact hp.discard i
  | keeps hopens hqueue =>
    subst hs
    obtain ⟨hdeed | ⟨i, rfl⟩, -⟩ := h
    · cases hdeed with
      | notes hblocks _ _ _ =>
        exact hp.carries hopens (Network.each_of_blocks_eq hblocks fun _ => .refl)
      | describes _ _ => exact hp
      | forgets => exact hp
      | controls i hst => exact hp.stepAt hst hopens hqueue fun _ _ => Block.Control.carries
      | configures i hst => exact hp.stepAt hst hopens hqueue fun _ _ hb _ => hb.carries
      | makes hc hb _ hblocks _ _ _ =>
        refine backs_makes hp (Block.Fresh.mapCore ?_ ?_) hblocks hopens
        · exact hregistry _ _ _ _ _ hc hb
        · exact fun _ => rfl
      | connects hjoins =>
        refine hp.carries hopens ⟨hjoins.length, fun i b hb => ?_⟩
        obtain ⟨b', hb', hcarries⟩ := hjoins.block i b hb
        exact ⟨b', hb', hcarries.carries⟩
    · exact hp.carries hopens (Network.each_mapCore Block.carries_mapCore .refl)

/-- No call comes with an offer. -/
lemma Does.sourced (h : p.Does q) (hregistry : p.registry.Makes Block.Fresh)
    (hp : p.network.All fun _ => Block.Sourced) : q.network.All fun _ => Block.Sourced := by
  have hstep {i : Nat} {s : Network ω γ π} {G : Block γ π → Block γ π → Prop}
      (hst : Network.StepAt G i p.network s)
      (hG : ∀ b b', G b b' → b.Tallies (fun _ => False) b') : s.All fun _ => Block.Sourced :=
    hp.step hst fun b b' hb => (hG b b' hb).sourced
  obtain ⟨hdeed | ⟨i, rfl⟩, -⟩ := h
  · cases hdeed with
    | notes hblocks _ _ _ =>
      exact fun i b hb => hp i b ((Network.block?_of_blocks_eq hblocks i).symm.trans hb)
    | describes _ _ => exact hp
    | forgets => exact hp
    | controls i hst => exact hstep hst fun _ _ => Block.Control.tallies
    | configures i hst => exact hstep hst fun _ _ => Block.Configures.tallies
    | makes hc hb _ hblocks _ _ _ =>
      refine hp.append (Block.Fresh.sourced (Block.Fresh.mapCore ?_ ?_)) hblocks
      · exact hregistry _ _ _ _ _ hc hb
      · exact fun _ => rfl
    | connects hjoins =>
      intro i b' hb'
      obtain ⟨b, hb, hjoins⟩ := hjoins.source hb'
      exact hjoins.tallies.sourced (hp i b hb)
  · intro j b' hb'
    have heach : p.network.Each (fun _ => Block.Tends)
        (p.network.mapCore i BlockCore.resetStats) :=
      Network.each_mapCore Block.tends_mapCore .refl
    obtain ⟨b, hb, htends⟩ := heach.source hb'
    exact htends.sourced (hp j b hb)

/-! ### Runs -/

section Runs

variable [Generator γ] [Processor ω π]

/-- The runs of a pipeline in which all frames come from the sources of the graph. -/
inductive ClosedRun (registry : Registry ω (Block γ π)) : Scene (Pipeline ω γ π) → Prop
  | new (world : ω) : ClosedRun registry ⟨.new registry world, none⟩
  | step {x y} (h : ClosedRun registry x) (hstep : Scene.Step Works Call x y) :
    ClosedRun registry y

variable {registry : Registry ω (Block γ π)} {x y : Scene (Pipeline ω γ π)}

/-- What is kept along a run. -/
structure Tended (registry : Registry ω (Block γ π)) (x : Scene (Pipeline ω γ π)) : Prop where
  attached : Attached registry x
  tidy : x.Sound Spares Handles Neat
  kempt : x.state.Kempt

omit [Generator γ] [Processor ω π] in
lemma tended_new (hregistry : registry.Makes fun b => b.Idle ∧ b.Fresh) (world : ω) :
    Tended registry ⟨.new registry world, none⟩ := by
  have hblock (i : Nat) : (Pipeline.new registry world).network.block? i = none := rfl
  refine ⟨attached_new hregistry world, ⟨?_, ?_⟩, ?_, ?_⟩
  · exact fun type c s b s' hc hb => (hregistry type c s b s' hc hb).2
  · simp [Network.All, hblock]
  · simp [Network.All, hblock]
  · exact Storage.backs_empty

lemma Tended.step (hregistry : registry.Makes fun b => b.Idle ∧ b.Fresh)
    (hγ : Generator.Borrows γ) (h : Tended registry x) (hstep : Scene.Step Works Call x y) :
    Tended registry y := by
  obtain ⟨hsound, hname, horderly, hlinked⟩ := h.attached
  have hfresh : x.state.registry.Makes Block.Fresh := by
    rw [hname]
    exact fun type c s b s' hc hb => (hregistry type c s b s' hc hb).2
  have hspares (hworks : x.state.Works y.state) : x.state.Spares y.state := by
    refine ⟨(hworks.tends h.kempt hlinked horderly).mono fun _ _ _ h => h.spares, ?_⟩
    rw [hworks.occurs.drift.rest]
  have hstep' : Scene.Step (fun p q : Pipeline ω γ π => p.Works q ∧ p.Spares q) Call x y :=
    hstep.mono (fun hworks => ⟨hworks, hspares hworks⟩) fun _ => id
  -- what a step of a call does to the blocks, and what it does to the storage
  obtain ⟨-, hdone⟩ := hstep.sound interference_drift (fun _ _ h => h.occurs.drift)
    (fun _ _ hpq hp => hp.later hpq) (fun _ hop _ hp => hop.meets hp) hsound
  obtain ⟨htidy, hdone'⟩ := hstep'.sound interference_spares (fun _ _ h => h.2) Neat.spares
    (fun _ hop => hop.tidy) h.tidy
  refine ⟨h.attached.step hregistry (hstep.mono Works.occurs fun _ => id), htidy, ?_⟩
  rcases hdone with hworks | hdoes | heq
  · exact h.kempt.works hγ hworks hlinked horderly
  · rcases hdone' with ⟨hworks, -⟩ | hhandles | heq
    · exact h.kempt.works hγ hworks hlinked horderly
    · exact ⟨hdoes.sourced hfresh h.kempt.sourced, hdoes.backs hhandles hfresh h.kempt.backs⟩
    · rw [heq]
      exact h.kempt
  · rw [heq]
    exact h.kempt

theorem ClosedRun.tended (hregistry : registry.Makes fun b => b.Idle ∧ b.Fresh)
    (hγ : Generator.Borrows γ) (h : ClosedRun registry x) : Tended registry x := by
  induction h with
  | new world => exact tended_new hregistry world
  | step h hstep ih => exact ih.step hregistry hγ hstep

omit [Generator γ] [Processor ω π] in
/-- At rest no block has anything in its hands. -/
lemma Kempt.backs_of_quiet (hp : p.Kempt) (hlinked : p.Linked) (hneat : p.Neat) (hquiet : p.Quiet) :
    p.network.storage.Backs [] [] := by
  obtain ⟨m, hknown⟩ := hquiet
  have hblock (b : Block γ π) (hb : b ∈ p.network.blocks) : b.refs = [] ∧ b.offered = [] := by
    obtain ⟨i, hi⟩ := List.mem_iff_getElem?.1 hb
    have hthread := (hknown.blocks i b hi).thread
    cases b with
    | source x =>
      have habsent : x.thread = .absent := by simpa [Block.hasThread] using hthread
      simp [Block.refs, Block.offered, SourceThread.refs, SourceThread.offered, habsent]
    | sink y =>
      have habsent : y.engine.worker = .absent := by simpa [Block.hasThread] using hthread
      have hswept : y.engine.Swept := hneat.swept i _ hi
      have hpending : y.engine.pending = [] := by
        apply List.eq_nil_iff_forall_not_mem.2
        intro o ho
        obtain ⟨j, hproducer⟩ := hp.sourced i _ hi o ho
        obtain ⟨-, x, f, rest, hx, hsubmitting⟩ := hlinked.submitting hi ho hproducer
        simpa [Block.hasThread, hsubmitting] using (hknown.blocks j _ hx).thread
      simp [Block.refs, Block.offered, SinkEngine.refs, hpending, hswept habsent, habsent]
    | stage z => exact ⟨rfl, rfl⟩
  have hrefs : p.network.refs = [] := List.flatMap_eq_nil_iff.2 fun b hb => (hblock b hb).1
  have hoffered : p.network.offered = [] := List.flatMap_eq_nil_iff.2 fun b hb => (hblock b hb).2
  have hbacks := hp.backs
  rwa [Network.Backs, hrefs, hoffered] at hbacks

/-- When a pipeline does not run, all regions of all pools are back. -/
theorem no_leaks (hregistry : registry.Makes fun b => b.Idle ∧ b.Fresh)
    (hγ : Generator.Borrows γ) (h : ClosedRun registry ⟨p, none⟩) (hrunning : p.running = false) :
    ∀ pool ∈ p.network.storage.pools, pool.free.length = pool.live := by
  obtain ⟨⟨hsound, -, -, hlinked⟩, htidy, hkempt⟩ := h.tended hregistry hγ
  have hsteady : p.Steady := hsound
  have hneat : p.Neat := htidy
  exact fun pool => (hkempt.backs_of_quiet hlinked hneat (hsteady.quiet hrunning)).whole

lemma ClosedRun.follow {actions : List (Action ω γ π)} (h : ClosedRun registry x)
    (hy : follow actions x = some y) : ClosedRun registry y :=
  holds_of_follow (fun _ _ h hstep _ => h.step (hstep.mono Moves.works fun _ => .manager)) h hy

end Runs

/-- A graph of one source that draws in regions of its pool, connected twice with one sink. -/
def lendingPair : GraphConfig where
  blocks := [
    { name := "camera", type := "TestPatternSource",
      parameters :=
        ((Dict.empty.insert "height" "2").insert "width" "2").insert "use_pool" "true" },
    { name := "screen", type := "NullSink" }]
  connections := [.between "camera" "screen", .between "camera" "screen"]

/-- The graph is built and started, a frame comes to the queue of the sink over both connections,
and the graph is stopped before the sink has looked. -/
def lendingActions : List (Action FileTree TestPattern Output) :=
  .begins _ (.build lendingPair) :: List.replicate 16 .goesOn
    ++ .begins _ .start :: List.replicate 14 .goesOn
    ++ [.source 0, .source 0, .source 0, .arrive 1 0, .source 0, .arrive 1 0, .source 0].map .moves
    ++ .begins _ .stop :: List.replicate 6 .goesOn ++ .moves (.source 0) :: List.replicate 7 .goesOn
    ++ .moves (.worker 1) :: List.replicate 5 .goesOn

/-- The sink drops both references, and the only region of the pool is back. -/
theorem no_leaks_pair : ∃ p : Pipeline FileTree TestPattern Output,
    ClosedRun .builtins ⟨p, none⟩ ∧ p.running = false ∧
      (∃ y, p.network.block? 1 = some (.sink y) ∧ y.core.stats.dropped = 2) ∧
      ∃ pool ∈ p.network.storage.pools, pool.live = 1 ∧ pool.free.length = pool.live := by
  have hnew : ClosedRun .builtins ⟨.new .builtins { home := [] }, none⟩ := .new _
  have hend : ∃ x ∈ follow lendingActions ⟨.new .builtins { home := [] }, none⟩,
      x.call.isNone = true ∧ x.state.running = false ∧
        (∃ y ∈ x.state.network.sink? 1, y.core.stats.dropped = 2) ∧
        ∃ pool ∈ x.state.network.storage.pools, pool.live = 1 := by
    decide +kernel
  obtain ⟨⟨p, call⟩, hx, hcall, hrunning, ⟨y, hy, hdropped⟩, pool, hpool, hlive⟩ := hend
  obtain rfl : call = none := Option.isNone_iff_eq_none.1 hcall
  have hrun : ClosedRun .builtins ⟨p, none⟩ := hnew.follow hx
  have hback := no_leaks makes_fresh_builtins TestPattern.borrows hrun hrunning pool hpool
  exact ⟨p, hrun, hrunning, ⟨y, Network.sink?_eq_some.1 hy, hdropped⟩, pool, hpool, hlive, hback⟩

end FrameGraph.Pipeline
