import FrameGraph.Proofs.Pipeline.Running
import FrameGraph.Proofs.Pipeline.Wiring

/-!
# Building a pipeline and taking it down

Blocks that are made, configured, connected and taken down stay at rest all the time, whatever fails
on the way.
-/

namespace FrameGraph

namespace Pipeline

variable {ω γ π α : Type} {p q : Pipeline ω γ π} {m : List Nat} {i : Nat}

/-! ### Taking down -/

/-- What is known of a block while the block `i` is taken down. -/
def Rests (i j : Nat) (b : Block γ π) : Prop := b.hasThread = false ∧ (j ≠ i → b.Idle)

lemma stable_rests (i j : Nat) : Block.Stable (Rests (γ := γ) (π := π) i j) := fun b b' h hb =>
  ⟨h.hasThread hb.1, fun hij => Block.stable_idle b b' h (hb.2 hij)⟩

/-- A step that takes a block down starts no thread. -/
lemma hasThread_of_closes {b b' : Block γ π} (h : b.Closes b') (hb : b.hasThread = false) :
    b'.hasThread = false := by
  cases h with
  | source h =>
    cases h with
    | forgets _ => rfl
    | _ => exact hb
  | sink h =>
    cases h with
    | forgets _ => rfl
    | halts =>
      have hworker := by simpa [Block.hasThread] using hb
      simp [Block.hasThread, SinkEngine.halt, SinkEngine.notifyProducers, SinkEngine.wakeWorker,
        hworker]
    | _ => exact hb
  | unheard => cases b <;> exact hb

/-- An operation that takes a block down leaves it at rest like the others. -/
lemma close_meets (h : p.Known false m fun _ b => b.Idle) (hi : i ∈ m)
    {op : Network.Operation ω γ π Unit}
    (hop : Network.At i (fun b => b.Threaded ∧ b.Idle) p.network →
      op.Meets (Network.DriftAt i) (Network.StepAt Block.Closes i)
        (fun _ => Network.At i Block.Idle) p.network) :
    (lift op).Meets Drift Steps (fun _ q => q.Known false m fun _ b => b.Idle) p := by
  have hrests : p.Known false m (Rests i) := h.mono fun _ b hb => ⟨hb.thread, fun _ => hb⟩
  refine (hrests.lift_meets (hop (h.find hi)) (fun p s hs => .controls i (hs.mono fun _ _ => .inr))
    (fun b b' hb => Block.Control.threaded (.inr hb)) (stable_rests i)
    (fun b b' hstep hb => ⟨hasThread_of_closes hstep hb.1, fun hne => absurd rfl hne⟩)
    fun q hq => hq.orderly_of_threadless fun _ _ hb => hb.1).weaken ?_
  intro _ q hq
  exact hq.2.1.update hq.1 fun j b hij hb => hb.2 hij

lemma teardownBlock_meets (h : p.Known false m fun _ b => b.Idle) (hi : i ∈ m) :
    (teardownBlock i : Operation ω γ π Unit).Meets Drift Steps
      (fun _ q => q.Known false m fun _ b => b.Idle) p := by
  have hidle : Block.Stable fun b : Block γ π => b.Idle := Block.stable_idle
  refine .bind interference_drift ((close_meets h hi fun hs => ?_).weaken fun _ q hq => ?_)
  · refine Network.meets_modifyAt hidle hidle (hs.mono fun _ hb => hb.2) _
      (fun t b hb _ => Network.blocks_mapCore hb _) fun b hb => ⟨.inr .unheard, ?_⟩
    exact hb.mapCore fun _ => rfl
  refine .bind interference_drift ((close_meets hq hi ?_).weaken ?_)
  · intro hs
    exact Network.shutdown_meets (hs.mono fun _ hb => hb.1)
  · intro _ r hr
    exact close_meets hr hi fun hs => Network.clearConsumer_meets (hs.mono fun _ hb => hb.2)

lemma teardown_meets (h : p.Quiet) :
    (teardown : Operation ω γ π Unit).Meets Drift Steps
      (fun _ q => q.Known false [] fun _ b => b.Idle) p := by
  apply Routine.meets_get.2
  intro q hpq
  obtain ⟨m, hq⟩ := h.later hpq
  refine ⟨hq.orderly_of_idle.steps, .bind interference_drift ?_⟩
  have hm : ∀ e ∈ q.entries, e.2 ∈ m := fun e he =>
    hq.members ▸ List.mem_map.2 ⟨e, he, rfl⟩
  refine (Routine.meets_each
    (P := fun l r => (∀ e ∈ l, e.2 ∈ m) ∧ r.Known false m fun _ b => b.Idle)
    interference_drift (fun l r s hrs hr => ⟨hr.1, hr.2.later (fun _ => Block.stable_idle) hrs⟩)
    ?_ q.entries ⟨hm, hq⟩).weaken ?_
  · intro e l r hr
    apply (teardownBlock_meets hr.2 (hr.1 e List.mem_cons_self)).weaken
    intro _ s hs
    exact ⟨fun e' he' => hr.1 e' (List.mem_cons_of_mem e he'), hs⟩
  · intro _ r hr s hrs
    have hs := hr.2.later (fun _ => Block.stable_idle) hrs
    have hs' : Known { s with entries := [] } false [] fun _ b => b.Idle :=
      { hs with members := rfl, distinct := .nil, placed := by simp }
    exact ⟨⟨.forgets, hs'.orderly_of_idle⟩, fun t hst => hs'.later (fun _ => Block.stable_idle) hst⟩

/-! ### Making blocks -/

/-- Nothing is active while a graph is built from a description. -/
structure Prepares (config : GraphConfig) (p : Pipeline ω γ π) : Prop where
  quiet : p.Quiet
  config : p.config = config

variable {config : GraphConfig}

lemma Prepares.later (h : p.Prepares config) (hpq : p.Drift q) : q.Prepares config where
  quiet := h.quiet.later hpq
  config := by
    rw [hpq.rest]
    exact h.config

lemma Prepares.orderly (h : p.Prepares config) : p.Orderly := Steady.orderly (.inl h.quiet)

/-- A block is made, or the graph stays as it is. -/
lemma make_deed (h : p.Prepares config) (d : BlockDef) (hname : p.find? d.name = none) :
    p.Deed (p.make d).2 ∧ (p.make d).2.Prepares config := by
  obtain ⟨⟨m, hknown⟩, hconfig⟩ := h
  obtain ⟨⟨r, world⟩, hcreate⟩ : ∃ r, p.registry.create d.type p.network.world = r := ⟨_, rfl⟩
  cases r with
  | error e =>
    simp only [make, hcreate]
    exact ⟨.notes rfl rfl rfl rfl, ⟨m, { hknown with }⟩, hconfig⟩
  | ok b =>
    obtain ⟨c, hc, hb⟩ := Registry.create_ok hcreate
    obtain ⟨hthreaded, hidle⟩ := hknown.registry _ _ _ _ _ hc hb
    simp only [make, hcreate]
    refine ⟨.makes hc hb hname rfl rfl rfl rfl, ⟨m ++ [p.network.blocks.length], ?_⟩, hconfig⟩
    have hnew : p.network.blocks.length ∉ m := fun hm =>
      Nat.lt_irrefl _ (hknown.placed _ hm)
    exact {
      running := hknown.running
      members := by simp [Pipeline.members, ← hknown.members, Network.add]
      distinct := List.nodup_append.2 ⟨hknown.distinct, by simp, by
        rintro j hj k hk rfl
        exact hnew (List.mem_singleton.1 hk ▸ hj)⟩
      placed := fun j hj => by
        simp only [Network.add, List.length_append, List.length_singleton]
        rcases List.mem_append.1 hj with hj | hj
        · exact Nat.lt_succ_of_lt (hknown.placed j hj)
        · exact List.mem_singleton.1 hj ▸ Nat.lt_succ_self _
      registry := hknown.registry
      threaded := hknown.threaded.append (hthreaded.mapCore _) rfl
      blocks := by
        refine hknown.blocks.append ?_ rfl
        exact hidle.mapCore fun _ => rfl }

lemma makeNew_deed (h : p.Prepares config) (d : BlockDef) :
    p.Deed (makeNew d p).2 ∧ (makeNew d p).2.Prepares config := by
  simp only [makeNew]
  split
  · exact ⟨.notes rfl rfl rfl rfl, h⟩
  · rename_i hname
    exact make_deed h d (by simpa using hname)

lemma makeNew_meets (h : p.Prepares config) (d : BlockDef) :
    (Routine.modifyGet (makeNew d)).Meets Drift Steps (fun _ => Prepares config) p := by
  intro q hpq
  obtain ⟨hdeed, hq⟩ := makeNew_deed (h.later hpq) d
  exact ⟨⟨hdeed, hq.orderly⟩, fun r hqr => hq.later hqr⟩

lemma createBlocks_meets (h : p.Prepares config) (defs : List BlockDef) :
    (createBlocks defs).Meets Drift Steps (fun _ => Prepares config) p :=
  Routine.meets_eachUntil interference_drift (fun _ _ hpq hp => hp.later hpq)
    (fun d _ hp => makeNew_meets hp d) defs h

/-! ### Configuring blocks -/

/-- A step of a configuration keeps all blocks at rest. -/
lemma configures_meets (h : p.Known false m fun _ b => b.Idle) (hconfig : p.config = config)
    {op : Network.Operation ω γ π α} {Q : α → Network ω γ π → Prop}
    (hop : op.Meets (Network.DriftAt i) (Network.StepAt Block.Configures i) Q p.network) :
    (lift op).Meets Drift Steps
      (fun _ q => (q.Known false m fun _ b => b.Idle) ∧ q.config = config) p := by
  refine (h.lift_meets hop (fun p s hs => .configures i hs) (fun _ _ hb _ => hb.threaded)
    (fun _ => Block.stable_idle) (fun _ _ hb => hb.idle)
    fun q hq => hq.orderly_of_idle).weaken fun _ q hq => ⟨hq.2.1, ?_⟩
  rw [hq.2.2, hconfig]

section Configuring

variable [Generator γ] [Processor ω π]

lemma configureBlock_meets (h : p.Prepares config) (d : BlockDef) :
    (configureBlock d).Meets Drift Steps (fun _ => Prepares config) p := by
  apply Routine.meets_get.2
  intro q hpq
  have hq := h.later hpq
  refine ⟨hq.orderly.steps, ?_⟩
  cases hi : q.find? d.name with
  | none => exact fun r hqr => hq.later hqr
  | some i =>
    obtain ⟨⟨m, hknown⟩, hconfig⟩ := hq
    have hmem : i ∈ m := hknown.members ▸ mem_members_of_find? hi
    have hstable := Block.stable_threaded.and (Block.stable_idle (γ := γ) (π := π))
    refine .bind interference_drift ((configures_meets (i := i) (Q := fun _ =>
      Network.At i fun b => b.Threaded ∧ b.Idle) hknown hconfig ?_).weaken ?_)
    · refine Network.meets_modifyAt hstable hstable (hknown.find hmem) _
        (fun t b hb _ => Network.blocks_mapCore hb _) fun b hb => ⟨.inr ?_, hb.1.mapCore _, ?_⟩
      · exact hb.1.configures_mapCore (fun _ => rfl) fun _ => rfl
      · exact hb.2.mapCore fun _ => rfl
    · intro _ r hr
      refine .bind interference_drift ((configures_meets hr.1 hr.2
        (Network.configure_meets (hr.1.find hmem))).weaken ?_)
      intro r s hs
      have hs' : s.Prepares config := ⟨⟨m, hs.1⟩, hs.2⟩
      split
      · exact fun t hst => hs'.later hst
      · exact fun t hst => hs'.later hst

lemma configureBlocks_meets (h : p.Prepares config) (defs : List BlockDef) :
    (configureBlocks defs).Meets Drift Steps (fun _ => Prepares config) p :=
  Routine.meets_eachUntil interference_drift (fun _ _ hpq hp => hp.later hpq)
    (fun d _ hp => configureBlock_meets hp d) defs h

end Configuring

/-! ### Connecting blocks -/

lemma Known.rewired {routed : Nat → List Nat → Prop} (h : p.Known false m fun _ b => b.Idle)
    (hpq : Rewires routed p q) : q.Known false m fun _ b => b.Idle where
  running := by
    rw [hpq.rest]
    exact h.running
  members := by
    rw [hpq.rest]
    exact h.members
  distinct := h.distinct
  placed i hi := by
    rw [hpq.joins.length]
    exact h.placed i hi
  registry := by
    rw [hpq.rest]
    exact h.registry
  threaded i b' hb' := by
    obtain ⟨b, hb, hjoins⟩ := hpq.joins.source hb'
    exact hjoins.threaded (h.threaded i b hb)
  blocks i b' hb' := by
    obtain ⟨b, hb, hjoins⟩ := hpq.joins.source hb'
    exact hjoins.idle (h.blocks i b hb)

lemma connectBlocks_meets [Processor ω π] (h : p.Prepares config) :
    (connectBlocks config.connections).Meets Drift Steps (fun _ => Prepares config) p := by
  intro q hpq
  obtain ⟨⟨m, hknown⟩, hconfig⟩ := h.later hpq
  subst hconfig
  have hconnects {r : Pipeline ω γ π} (hqr : Rewires q.Routed q r) :
      q.Steps r ∧ ∀ t, r.Drift t → t.Prepares q.config := by
    have hr : r.Prepares q.config := ⟨⟨m, hknown.rewired hqr⟩, by rw [hqr.rest]⟩
    refine ⟨⟨?_, hr.orderly⟩, fun t hrt => hr.later hrt⟩
    rw [hqr.rest]
    exact .connects hqr.joins
  dsimp only
  split
  · rename_i routes r hall
    exact hconnects (rewires_of_ok hall)
  · rename_i f r hall
    exact hconnects (rewires_of_error hall)

/-! ### Calls -/

lemma describes_meets (h : p.Known false [] fun _ b => b.Idle) (config : GraphConfig) :
    (Routine.modify fun p : Pipeline ω γ π => { p with config }).Meets Drift Steps
      (fun _ => Prepares config) p := by
  intro q hpq
  have hq := h.later (fun _ => Block.stable_idle) hpq
  have hentries : q.entries = [] := by simpa [Pipeline.members] using hq.members
  have hprepares : Prepares config { q with config } := ⟨⟨[], { hq with }⟩, rfl⟩
  exact ⟨⟨.describes config hentries, hprepares.orderly⟩, fun r hqr => hprepares.later hqr⟩

section Calls

variable [Generator γ] [Processor ω π]

lemma build_meets (h : p.Prepares config) :
    (build config : Operation ω γ π (Result Unit)).Meets Drift Steps
      (fun _ => Prepares config) p := by
  refine .bind interference_drift ((createBlocks_meets h _).weaken ?_)
  intro r q hq
  cases r with
  | error f => exact fun r hqr => hq.later hqr
  | ok _ =>
    refine .bind interference_drift ((configureBlocks_meets hq _).weaken ?_)
    intro r s hs
    cases r with
    | error f => exact fun t hst => hs.later hst
    | ok _ => exact connectBlocks_meets hs

theorem load_meets (h : p.Steady) (config : GraphConfig) :
    (load config : Operation ω γ π (Result Unit)).Meets Drift Steps (fun _ => Steady) p := by
  apply Routine.meets_get.2
  intro q hpq
  have hq := h.later hpq
  refine ⟨hq.orderly.steps, ?_⟩
  split
  · exact failWith_meets hq _
  rename_i hrunning
  have hquiet := hq.quiet (by simpa using hrunning)
  refine .bind interference_drift ((teardown_meets hquiet).weaken ?_)
  intro _ r hr
  refine .bind interference_drift ((describes_meets hr config).weaken ?_)
  intro _ s hs
  refine .bind interference_drift ((build_meets hs).weaken ?_)
  intro outcome t ht
  split
  · refine .bind interference_drift ((teardown_meets ht.quiet).weaken ?_)
    intro _ u hu
    exact failWith_meets (.inl ⟨[], hu⟩) _
  · exact fun u htu => .inl (ht.later htu).quiet

/-- A text or a file may describe no graph. -/
theorem loadResult_meets (h : p.Steady) (described : Result GraphConfig) :
    (loadResult described : Operation ω γ π (Result Unit)).Meets Drift Steps
      (fun _ => Steady) p := by
  match described with
  | .ok config => exact load_meets h config
  | .error (.error e) => exact failWith_meets h e
  | .error (.panic e) => exact fun q hpq => h.later hpq

end Calls

theorem shutdown_meets (h : p.Steady) :
    (shutdown : Operation ω γ π Unit).Meets Drift Steps (fun _ => Quiet) p := by
  refine .bind interference_drift ((stop_meets h).weaken ?_)
  intro _ q hq
  apply Routine.meets_get.2
  intro r hqr
  have hr := hq.later hqr
  refine ⟨(Steady.orderly (.inl hr)).steps, ?_⟩
  split
  · exact fun s hrs => hr.later hrs
  · refine .bind interference_drift ((teardown_meets hr).weaken ?_)
    intro _ s hs
    exact (describes_meets hs {}).weaken fun _ t ht => ht.quiet

/-! ### Statistics -/

/-- Forgetting the statistics of a block does not concern what it does. -/
lemma Known.resetCore {runs : Bool} {P : Nat → Block γ π → Prop} (h : p.Known runs m P)
    (hP : ∀ i b, P i b → P i (b.mapCore BlockCore.resetStats)) (i : Nat) :
    Known (p.mapNetwork fun s => s.mapCore i BlockCore.resetStats) runs m P := by
  refine h.step (G := fun b b' => b' = b.mapCore BlockCore.resetStats) (i := i) ?_
    (fun b b' hb hthreaded => hb ▸ hthreaded.mapCore _) fun b b' hb hPb => hb ▸ hP i b hPb
  cases hb : p.network.block? i with
  | none => exact .inl (by simp [Network.mapCore, hb])
  | some b => exact .inr ⟨b, _, hb, rfl, Network.blocks_mapCore hb _⟩

/-- A block whose statistics are forgotten is up or idle as before. -/
lemma Steady.resetCore (h : p.Steady) (i : Nat) :
    Steady (p.mapNetwork fun s => s.mapCore i BlockCore.resetStats) := by
  rcases h with ⟨m, h⟩ | ⟨m, hm, h⟩
  · exact .inl ⟨m, h.resetCore (fun _ b hb => hb.mapCore fun _ => rfl) i⟩
  · refine .inr ⟨m, hm, h.resetCore (fun j b hb => ⟨?_, ?_⟩) i⟩
    · intro hj
      exact (hb.1 hj).mapCore fun _ => rfl
    · intro hj
      exact (hb.2 hj).mapCore fun _ => rfl

/-- Forget the statistics of one block after the other, while others act in between. -/
def resetAll : Operation ω γ π Unit := do
  let entries ← Routine.get (·.entries)
  Routine.each (fun e => .modify (mapNetwork · (·.mapCore e.2 BlockCore.resetStats))) entries

/-- If nobody acts in between, the statistics of all blocks are forgotten at once. -/
theorem run_resetAll (progress : (Pipeline ω γ π → Bool) → Pipeline ω γ π → Pipeline ω γ π)
    (p : Pipeline ω γ π) : resetAll.run progress p = ((), p.resetStats) := by
  suffices heach : ∀ (entries : List (String × Nat)) (q : Pipeline ω γ π),
      (Routine.each (fun e => .modify (mapNetwork · (·.mapCore e.2 BlockCore.resetStats)))
        entries).run progress q =
      ((), q.mapNetwork fun s => entries.foldl (fun s e => s.mapCore e.2 BlockCore.resetStats) s)
    from heach p.entries p
  intro entries
  induction entries with
  | nil => exact fun q => rfl
  | cons e entries ih => exact fun q => ih _

/-- What one step of any call does: a deed, or the statistics of a block are forgotten. -/
def Does (p q : Pipeline ω γ π) : Prop :=
  (p.Deed q ∨ ∃ i, q = p.mapNetwork fun s => s.mapCore i BlockCore.resetStats) ∧ q.Orderly

lemma Steps.does (h : p.Steps q) : p.Does q := ⟨.inl h.1, h.2⟩

lemma Does.registry (h : p.Does q) : q.registry = p.registry := by
  obtain ⟨hdeed | ⟨i, rfl⟩, -⟩ := h
  · exact hdeed.registry
  · rfl

theorem resetAll_meets (h : p.Steady) :
    (resetAll : Operation ω γ π Unit).Meets Drift Does (fun _ => Steady) p := by
  refine Routine.meets_get.2 fun q hpq => ⟨(h.later hpq).orderly.steps.does, ?_⟩
  refine Routine.meets_each (P := fun _ => Steady) interference_drift
    (fun _ _ _ hqr hq => hq.later hqr) ?_ _ (h.later hpq)
  intro e _ q hq r hqr
  have hreset := (hq.later hqr).resetCore e.2
  exact ⟨⟨.inr ⟨e.2, rfl⟩, hreset.orderly⟩, fun s hrs => hreset.later hrs⟩

end Pipeline

end FrameGraph
