import FrameGraph.Proofs.Pipeline.Loading
import FrameGraph.Proofs.Pipeline.Runs

/-!
# What loading comes to

A description that can be built replaces the graph of a pipeline: its blocks are there in order, all
of them configured and connected. Otherwise the first failure is reported, and there is no graph. A
pipeline that runs keeps the graph that it has.
-/

namespace FrameGraph.Pipeline

variable {ω γ π : Type} {p q r s t : Pipeline ω γ π} {n : Nat} {config : GraphConfig}

/-! ### Built graphs -/

section Built

variable {names : List String} {bs cs : List (Block γ π)} {w u v : ω}

lemma Holds.blockNames (h : p.Holds n names bs w) : p.blockNames = names := by
  rw [Pipeline.blockNames, h.entries]
  exact List.zipIdx_map_fst n names

/-- The blocks of the graph are those that the network holds. -/
lemma Holds.mem_of_blocks (h : p.Holds n names bs w) {e : String × Block γ π}
    (he : e ∈ p.blocks) : e.2 ∈ bs := by
  rw [Pipeline.blocks, h.entries, List.mem_filterMap] at he
  obtain ⟨⟨name, i⟩, hmem, hfound⟩ := he
  obtain ⟨b, hb, rfl⟩ := Option.map_eq_some_iff.1 hfound
  have hi : n ≤ i := List.le_snd_of_mem_zipIdx hmem
  rw [← Nat.add_sub_cancel' hi, h.block?] at hb
  exact List.mem_of_getElem? hb

variable [Generator γ] [Processor ω π]

/-- The graph of a description was built, from a position on. -/
structure Built (n : Nat) (config : GraphConfig) (p q : Pipeline ω γ π) : Prop where
  rest : q = { p with config, entries := q.entries, network := q.network }
  names : q.blockNames = config.blocks.map (·.name)
  initialized : ∀ e ∈ q.blocks, e.2.state = .initialized
  /-- The blocks are those that were made with their parameters taken over, up to the formats and
  the consumers that connecting them brings. -/
  blocks : ∃ bs v cs u, p.registry.makeAll config.blocks p.network.world = some (bs, v) ∧
    Outfits v (equipAll config.blocks bs) cs u ∧
    q.entries = (config.blocks.map (·.name)).zipIdx n ∧ cs.length = config.blocks.length ∧
    ∀ (j : Nat) (c : Block γ π), cs[j]? = some c → ∃ b, q.network.block? (n + j) = some b ∧
      c.Joins (fun targets => ∀ k, targets.count k = q.links (n + j) k) b

/-- Configured and connected blocks are a graph. -/
lemma Fitted.built (h : Fitted n config.blocks config.blocks bs v p t cs bs [] u)
    (hmade : p.registry.makeAll config.blocks p.network.world = some (bs, v))
    (hconfig : p.config = config) (htr : Rewires t.Routed t r) (hrs : Apart n r s) :
    Built n config p s := by
  have hholds := h.holds
  rw [List.append_nil] at hholds
  obtain ⟨ds, hds, hfaces, hjoins⟩ := hholds.rewired htr
  have hs := hds.later hrs
  have hgrows : p.Grows s := by rw [Grows, hrs.rest, htr.rest, h.grows]
  have hlinks : s.links = t.links := by rw [hrs.rest, htr.rest]; rfl
  refine ⟨by rw [hgrows, hconfig], hs.blockNames, fun e he => ?_, bs, v, cs, u, hmade, h.outfits,
    hs.entries, h.length_outfitted, fun j c hc => ?_⟩
  · obtain ⟨j, hj⟩ := List.mem_iff_getElem?.1 (hs.mem_of_blocks he)
    have hlength : ds.length = cs.length := by
      rw [← List.length_map Block.face, hfaces, List.length_map]
    have hlt : j < cs.length := hlength ▸ (List.getElem?_eq_some_iff.1 hj).1
    obtain ⟨b, hb, hjoined⟩ := hjoins j _ (List.getElem?_eq_getElem hlt)
    obtain rfl : b = e.2 := Option.some.inj (hb.symm.trans hj)
    rw [hjoined.state]
    exact h.outfits.state (List.getElem_mem hlt)
  · obtain ⟨b, hb, hjoined⟩ := hjoins j c hc
    refine ⟨b, (hs.block? j).trans hb, hjoined.mono fun targets htargets k => ?_⟩
    rw [hlinks]
    exact htargets.links k

end Built

/-! ### Building -/

section Building

variable [Generator γ] [Processor ω π]

/-- What building a graph comes to. -/
def Builds (n : Nat) (config : GraphConfig) (p : Pipeline ω γ π) (outcome : Result Unit)
    (q : Pipeline ω γ π) : Prop :=
  match outcome with
  | .ok () => Buildable p.registry config p.network.world ∧ Built n config p q
  | .error f => FirstFailure p.registry config p.network.world f

variable {bs cs : List (Block γ π)} {w u v : ω}

lemma connectBlocks_builds (hmade : Made n config.blocks p.network.world p bs v q)
    (h : Fitted n config.blocks config.blocks bs v p t cs bs [] u) (hconfig : p.config = config) :
    (connectBlocks config.connections).Meets (Apart n) (fun _ _ => True) (Builds n config p) t := by
  intro t' htt'
  replace h := h.later htt'
  have hlength := Registry.length_makeAll hmade.made
  have hholds := h.holds
  rw [List.append_nil] at hholds
  have hnames : (config.blocks.map (·.name)).length = cs.length := by
    rw [List.length_map, h.length_outfitted]
  -- connections see only the faces of blocks, and these are still the ones that were made
  have hverdict := connectAll_verdict config.connections [] hholds hnames
  have hlink : linkError ((config.blocks.map (·.name)).zip cs) =
      linkError (graphOf config.blocks bs) :=
    funext (linkError_congr (h.outfits.face.trans (face_equipAll hlength)))
  rw [hlink] at hverdict
  have haccepted : (Block.acceptAll (equipAll config.blocks bs) v).isSome := by
    simp [h.outfits.acceptAll]
  refine ⟨trivial, fun s hs => ?_⟩
  cases hfirst : config.connections.findSome? (linkError (graphOf config.blocks bs)) with
  | some e =>
    simp only [hfirst] at hverdict
    obtain ⟨r, hall⟩ := hverdict
    simp only [hall]
    exact FirstFailure.unlinked hmade.distinct hmade.made haccepted hfirst
  | none =>
    simp only [hfirst] at hverdict
    obtain ⟨routes, r, hall⟩ := hverdict
    simp only [hall] at hs ⊢
    have hconfig' : t'.config = config := by rw [h.grows, hconfig]
    have hrewires : Rewires t'.Routed t' (routes.foldl install r) :=
      rewires_of_ok (by rw [hconfig', hall])
    exact ⟨⟨hmade.distinct, bs, v, hmade.made, haccepted, List.findSome?_eq_none_iff.1 hfirst⟩,
      h.built hmade.made hconfig hrewires hs⟩

lemma build_builds (hp : p.Holds n [] [] p.network.world) (hconfig : p.config = config) :
    (build config).Meets (Apart n) (fun _ _ => True) (Builds n config p) p := by
  have hR := interference_apart (ω := ω) (γ := γ) (π := π) n
  refine .bind hR ((createBlocks_meets_plan hp).weaken fun outcome q hq => ?_)
  cases outcome with
  | error f => exact fun _ _ => hq
  | ok _ =>
    obtain ⟨bs, v, hmade⟩ := hq
    refine .bind hR ((configureBlocks_meets_plan hmade).weaken fun outcome t ht => ?_)
    cases outcome with
    | error f => exact fun _ _ => ht
    | ok _ =>
      obtain ⟨cs, u, hfitted⟩ := ht
      exact connectBlocks_builds hmade hfitted hconfig

end Building

/-! ### What building leaves alone -/

section Growing

lemma keeps_grows_lift {α : Type} (op : Network.Operation ω γ π α) :
    (lift op).Keeps (Apart n) (fun _ _ => True) p.Grows := by
  intro q hq
  have hany := Routine.meets_true (R := fun _ _ => True) op q.network
  refine (lift_keeps hany (fun r s hrs => ⟨trivial, fun hr => hr.later hrs⟩) (fun r s _ hr => ?_)
    hq).weaken fun _ _ h => h.2
  rw [Grows, hr]

lemma Grows.rewired {routed : Nat → List Nat → Prop} (h : p.Grows q)
    (hqr : Rewires routed q r) : p.Grows r := by
  rw [Grows, hqr.rest, h]

lemma makeNew_grows (h : p.Grows q) (d : BlockDef) : p.Grows (makeNew d q).2 := by
  rw [Grows, h]
  unfold makeNew make
  split
  · rfl
  · split <;> rfl

variable [Generator γ] [Processor ω π]

/-- Building changes nothing but the graph and the network. -/
lemma build_grows (p : Pipeline ω γ π) (config : GraphConfig) :
    (build config).Keeps (Apart n) (fun _ _ => True) p.Grows := by
  have hR := interference_apart (ω := ω) (γ := γ) (π := π) n
  have hP (q r : Pipeline ω γ π) (hqr : Apart n q r) (hq : p.Grows q) : p.Grows r := hq.later hqr
  have hpure (outcome : Result Unit) := Routine.keeps_pure (G := fun _ _ => True) hP outcome
  have hconfigure (d : BlockDef) : (configureBlock d).Keeps (Apart n) (fun _ _ => True) p.Grows :=
    fun q hq => Routine.keeps_get hP (fun _ => trivial) (fun r hr => by
      split
      · exact hpure _ r hr
      · refine (keeps_grows_lift _).bind hR (fun _ => ?_) r hr
        refine (keeps_grows_lift _).bind hR fun outcome => ?_
        split <;> exact hpure _) q hq
  refine (Routine.Keeps.eachUntil hR hP (fun d => Routine.keeps_modifyGet hP fun q hq =>
    ⟨trivial, makeNew_grows hq d⟩) _).bind hR fun outcome => ?_
  cases outcome with
  | error f => exact hpure _
  | ok _ =>
    refine (Routine.Keeps.eachUntil hR hP hconfigure _).bind hR fun outcome => ?_
    cases outcome with
    | error f => exact hpure _
    | ok _ =>
      refine Routine.keeps_modifyGet hP fun q hq => ⟨trivial, ?_⟩
      have hinforms := (connectAll_spec config.connections [] q).1
      split
      · rename_i routes r hall
        rw [hall] at hinforms
        exact (hq.rewired hinforms).rewired (rewires_installAll r)
      · rename_i f r hall
        rw [hall] at hinforms
        exact hq.rewired hinforms

end Growing

/-! ### Loading -/

/-- Others may do anything to the network, and nothing else. -/
def Elsewhere (p q : Pipeline ω γ π) : Prop := q = { p with network := q.network }

/-- The answer of a pipeline that runs. -/
def busy : Error := .config "cannot initialize while the pipeline is running"

section Loading

variable [Generator γ] [Processor ω π]

/-- What loading a graph comes to when nothing runs. An abort leaves behind what was built. -/
def Loads (n : Nat) (config : GraphConfig) (p : Pipeline ω γ π) (outcome : Result Unit)
    (q : Pipeline ω γ π) : Prop :=
  match outcome with
  | .ok () => Built n config p q
  | .error (.error e) => FirstFailure p.registry config p.network.world (.error e) ∧
      q = { p with config, entries := [], network := q.network, lastError := e.message }
  | .error (.panic a) => FirstFailure p.registry config p.network.world (.panic a)

lemma load_busy (h : p.running = true) (config : GraphConfig) :
    (load config).Meets Elsewhere (fun s t => t = { s with lastError := t.lastError })
      (fun outcome q => outcome = refuse busy ∧
        q = { p with network := q.network, lastError := busy.message }) p := by
  refine Routine.meets_get.2 fun q hpq => ⟨rfl, ?_⟩
  have hrunning : q.running = true := by
    rw [hpq]
    exact h
  rw [if_pos hrunning]
  intro r hqr
  refine ⟨rfl, fun s hrs => ⟨rfl, ?_⟩⟩
  rw [hrs, hqr, hpq]
  rfl

/-- In place of the blocks of before, the graph of a description is built. -/
lemma build_replaces (h : q = { p with config, entries := [], network := q.network })
    (hworld : q.network.world = p.network.world) (hlength : q.network.blocks.length = n) :
    (build config).Meets (Apart n) (fun _ _ => True) (fun outcome r => Builds n config p outcome r ∧
      r = { p with config, entries := r.entries, network := r.network }) q := by
  have hregistry : q.registry = p.registry := by rw [h]
  have hholds : q.Holds n [] [] q.network.world :=
    ⟨by rw [h]; rfl, hlength, by simp [← hlength], rfl⟩
  refine ((build_builds hholds (by rw [h])).and (build_grows q config q rfl)).mono
    (fun _ _ => id) (fun _ _ _ => trivial) fun outcome r hr => ?_
  obtain ⟨hbuilds, hgrows⟩ := hr
  refine ⟨?_, by rw [hgrows, h]⟩
  unfold Builds at hbuilds ⊢
  rw [hregistry, hworld] at hbuilds
  cases outcome with
  | error f => exact hbuilds
  | ok _ =>
    obtain ⟨hbuildable, hrest, hnames, hinitialized, hblocks⟩ := hbuilds
    rw [hregistry, hworld] at hblocks
    exact ⟨hbuildable, by rw [hrest, h], hnames, hinitialized, hblocks⟩

lemma load_idle (h : p.running = false) (config : GraphConfig) :
    (load config).Meets (Apart p.network.blocks.length) (fun _ _ => True) (fun outcome q =>
      (outcome = .ok () ↔ Buildable p.registry config p.network.world) ∧
        Loads p.network.blocks.length config p outcome q) p := by
  generalize hn : p.network.blocks.length = n
  have hR := interference_apart (ω := ω) (γ := γ) (π := π) n
  have hempties (q : Pipeline ω γ π) := (teardown_resembles q).mono
    (fun _ _ (h : Apart n _ _) => h.resembles) (fun _ _ => id) fun _ _ => id
  have hfails {f : Fault} (hf : FirstFailure p.registry config p.network.world f) :
      .error f = (.ok () : Result Unit) ↔ Buildable p.registry config p.network.world :=
    iff_of_false (fun hok => nomatch hok) hf.not_buildable
  refine Routine.meets_get.2 fun q hpq => ⟨trivial, ?_⟩
  have hrunning : q.running = false := by rw [hpq.rest, h]
  rw [if_neg (by simp [hrunning])]
  refine .bind hR ((hempties q).weaken fun _ s hs => Routine.meets_modify.2 fun t hst =>
    ⟨trivial, ?_⟩)
  -- the blocks of before are no longer in the graph, but still in the network
  have ht : ({ t with config } : Pipeline ω γ π) =
      { p with config, entries := [], network := t.network } := by
    rw [hst.rest, hs.rest, hpq.rest]
  have hworld := hst.network.world.trans (hs.world.trans hpq.network.world)
  have hlength := hst.network.length.trans (hs.length.trans (hpq.network.length.trans hn))
  refine .bind hR (((build_replaces ht hworld hlength).lasting hR).weaken fun outcome r hr => ?_)
  match outcome with
  | .ok () =>
    intro u hru
    obtain ⟨⟨hbuildable, hbuilt⟩, -⟩ := hr u hru
    exact ⟨iff_of_true rfl hbuildable, hbuilt⟩
  | .error (.panic a) =>
    have hfailure : FirstFailure p.registry config p.network.world (.panic a) :=
      (hr r (hR.refl r)).1
    exact fun _ _ => ⟨hfails hfailure, hfailure⟩
  | .error (.error e) =>
    obtain ⟨hfailure, hrest⟩ := hr r (hR.refl r)
    refine .bind hR ((hempties r).weaken fun _ u hu => Routine.meets_modify.2 fun u' huu' =>
      ⟨trivial, fun v hv => ⟨hfails hfailure, hfailure, ?_⟩⟩)
    rw [hv.rest, huu'.rest, hu.rest, hrest]

/-- A load fails if and only if there is a first failure, and with it. -/
theorem load_fails_iff (h : p.running = false) (config : GraphConfig) :
    (load config).Meets (Apart p.network.blocks.length) (fun _ _ => True) (fun outcome _ => ∀ f,
      outcome = .error f ↔ FirstFailure p.registry config p.network.world f) p := by
  refine (load_idle h config).weaken fun outcome q hq f => ?_
  obtain ⟨hok, hloads⟩ := hq
  cases outcome with
  | ok _ => exact iff_of_false (fun hf => nomatch hf) fun hf => hf.not_buildable (hok.1 rfl)
  | error f' =>
    have hf' : FirstFailure p.registry config p.network.world f' := by
      cases f' with
      | error e => exact hloads.1
      | panic a => exact hloads
    exact ⟨fun heq => Except.error.inj heq ▸ hf', fun hf => congrArg _ (hf'.unique hf)⟩

/-- A pipeline that runs loads nothing. Otherwise a load succeeds if and only if the description can
be built, and then its graph is there; if it fails, the first failure is reported, and no graph is
left. -/
theorem load_all_or_nothing (p : Pipeline ω γ π) (config : GraphConfig) :
    (p.running = true → (load config).Meets Elsewhere
      (fun s t => t = { s with lastError := t.lastError })
      (fun outcome q => outcome = refuse busy ∧
        q = { p with network := q.network, lastError := busy.message }) p) ∧
    (p.running = false → (load config).Meets (Apart p.network.blocks.length) (fun _ _ => True)
      (fun outcome q => (outcome = .ok () ↔ Buildable p.registry config p.network.world) ∧
        Loads p.network.blocks.length config p outcome q) p) :=
  ⟨fun h => load_busy h config, fun h => load_idle h config⟩

end Loading

/-- A graph of one sink is loaded, but not into a pipeline that runs. -/
theorem load_all_or_nothing_lone :
    (load lone).Meets (Apart 0) (fun _ _ => True)
      (fun outcome q => outcome = .ok () ∧ q.blockNames = ["sink"] ∧
        ∀ e ∈ q.blocks, e.2.state = .initialized)
      (.new discarding { home := [] } : Pipeline FileTree TestPattern Output) ∧
    (load lone).Meets Elsewhere (fun s t => t = { s with lastError := t.lastError })
      (fun outcome q => outcome = refuse busy ∧ q.entries = [])
      { (.new discarding { home := [] } : Pipeline FileTree TestPattern Output) with
        running := true } := by
  have hbuildable : Buildable discarding lone { home := [] } :=
    ⟨by decide, _, _, rfl, rfl, by simp [lone]⟩
  refine ⟨((load_all_or_nothing (.new discarding { home := [] }) lone).2 rfl).weaken ?_,
    ((load_all_or_nothing { (Pipeline.new discarding { home := [] } : Pipeline _ _ _) with
      running := true } lone).1 rfl).weaken ?_⟩
  · intro outcome q hq
    have hok := hq.1.2 hbuildable
    subst hok
    exact ⟨rfl, hq.2.names, hq.2.initialized⟩
  · intro outcome q hq
    refine ⟨hq.1, ?_⟩
    rw [hq.2]
    rfl

/-! ### Capabilities that are only declared -/

/-- The ends of a connection are blocks that declare to be a source and a sink. -/
def Declared (graph : List (String × Block γ π)) (c : Connection) : Prop :=
  (∃ b, graph.lookup c.source = some b ∧ b.capabilities.source = true) ∧
    ∃ b, graph.lookup c.sink = some b ∧ b.capabilities.sink = true

/-- A registry of sinks that discard all frames, and of sources that only declare to be sources. -/
def declaring : Registry FileTree (Block TestPattern Output) :=
  discarding.register "TrackedSource"
    (.always (.stage ⟨{ typeName := "TrackedSource" }, true, false⟩))

/-- A connection from a block that only declares to be a source. -/
def promised : GraphConfig where
  blocks := [{ name := "src", type := "TrackedSource" }, { name := "sink", type := "NullSink" }]
  connections := [⟨"src", "output", "sink", "input"⟩]

/-- It does not suffice to declare a capability: nothing else is missing, but no graph is built. -/
theorem not_built_promised : (promised.blocks.map (·.name)).Nodup ∧
    (∃ bs v, declaring.makeAll promised.blocks { home := [] } = some (bs, v) ∧
      (Block.acceptAll (equipAll promised.blocks bs) v).isSome ∧
      ∀ c ∈ promised.connections, Declared (graphOf promised.blocks bs) c) ∧
    ∀ progress, ((load promised).run progress (.new declaring { home := [] })).1 =
      refuse (.missingCapability "src" "source") := by
  refine ⟨by decide, ⟨_, _, rfl, rfl, fun c hc => ?_⟩, fun _ => rfl⟩
  obtain rfl := List.mem_singleton.1 hc
  exact ⟨⟨_, rfl, rfl⟩, _, rfl, rfl⟩

end FrameGraph.Pipeline
