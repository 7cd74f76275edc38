import FrameGraph.Proofs.Network.Sweeping
import FrameGraph.Proofs.Pipeline.Runs
import FrameGraph.Proofs.Pipeline.Upkeep

/-!
# Calls sweep up

Between two calls on a pipeline nothing waits at a sink without a worker, if others put nothing
there. A call opens pools and drops what workers left, and does nothing else to the storage.
-/

namespace FrameGraph

namespace Block

variable {γ π : Type} {b b' : Block γ π}

lemma Fresh.swept (h : b.Fresh) : b.Swept := by
  cases b with
  | sink y => exact fun _ => h.queue
  | _ => trivial

lemma Joins.leaves {routed : List Nat → Prop} (h : b.Joins routed b') : b.Leaves b' := by
  cases h with
  | same => exact .refl b
  | sink => exact .sink rfl id
  | source _ => exact .source

end Block

namespace Pipeline

variable {ω γ π α β : Type} {p q : Pipeline ω γ π}

/-! ### Steps -/

/-- What others may do to a pipeline. -/
structure Spares (p q : Pipeline ω γ π) : Prop where
  network : p.network.Spares q.network
  registry : q.registry = p.registry

/-- What one step of a call does to the storage and to queues. -/
def Handles (p q : Pipeline ω γ π) : Prop := p.network.Handles q.network

/-- Nothing waits at a sink without a worker, nor will it at one that is made. -/
structure Neat (p : Pipeline ω γ π) : Prop where
  registry : p.registry.Makes Block.Fresh
  swept : p.network.All fun _ => Block.Swept

lemma interference_spares : Routine.Interference (Spares (ω := ω) (γ := γ) (π := π)) where
  refl p := ⟨Network.interference_spares.refl p.network, rfl⟩
  trans h h' := ⟨Network.interference_spares.trans h.network h'.network,
    h'.registry.trans h.registry⟩

lemma Neat.spares (p q : Pipeline ω γ π) (hpq : p.Spares q) (hp : p.Neat) : q.Neat where
  registry := by
    rw [hpq.registry]
    exact hp.registry
  swept := Network.spared_swept.all _ _ hpq.network hp.swept

/-- A call leads from a neat pipeline to a neat one. -/
abbrev Tidy (op : Operation ω γ π α) : Prop := op.Keeps Spares Handles Neat

lemma Neat.leaves (hp : p.Neat) (h : p.network.Leaves q.network)
    (hregistry : q.registry = p.registry) :
    p.Handles q ∧ q.Neat :=
  ⟨h.handles, Neat.spares p q ⟨h.spares, hregistry⟩ hp⟩

lemma tidy_pure (a : α) : Tidy (pure a : Operation ω γ π α) := Routine.keeps_pure Neat.spares a

lemma tidy_modifyGet {f : Pipeline ω γ π → α × Pipeline ω γ π}
    (h : ∀ p : Pipeline ω γ π, p.network.Leaves (f p).2.network)
    (hregistry : ∀ p, (f p).2.registry = p.registry) : Tidy (.modifyGet f) :=
  Routine.keeps_modifyGet Neat.spares fun p hp => hp.leaves (h p) (hregistry p)

lemma tidy_modify {f : Pipeline ω γ π → Pipeline ω γ π}
    (h : ∀ p : Pipeline ω γ π, p.network.Leaves (f p).network)
    (hregistry : ∀ p, (f p).registry = p.registry) : Tidy (.modify f) :=
  tidy_modifyGet (f := fun p => ((), f p)) h hregistry

/-- Something is noted that does not concern the network. -/
lemma tidy_note {f : Pipeline ω γ π → Pipeline ω γ π} (h : ∀ p, (f p).network = p.network)
    (hregistry : ∀ p, (f p).registry = p.registry) : Tidy (.modify f) := by
  refine tidy_modify (fun p => ?_) hregistry
  rw [h]
  exact .refl p.network

lemma tidy_get {f : Pipeline ω γ π → β} {k : β → Operation ω γ π α} (hk : ∀ b, Tidy (k b)) :
    Tidy (Routine.get f >>= k) :=
  Routine.keeps_get Neat.spares (fun p => (Network.Leaves.refl p.network).handles) fun p hp =>
    hk (f p) p hp

/-- An operation on a block. -/
lemma tidy_lift {op : Network.Operation ω γ π α}
    (h : op.Keeps Network.Spares Network.Handles (Network.All fun _ => Block.Swept)) :
    Tidy (lift op) := by
  intro p hp
  have hspares (p q : Pipeline ω γ π) (hpq : p.Spares q) : p.network.Spares q.network :=
    hpq.network
  have hlift := meets_lift (h p.network hp.swept) hspares
  refine (hlift.keep (P := fun q => q.registry.Makes Block.Fresh) (fun q r hqr hq => ?_)
    (fun q r hqr hq => ?_) hp.registry).mono (fun _ _ => id) (fun _ _ hqr => hqr.1.1)
    fun _ q hq => ⟨hq.2, hq.1⟩
  · rwa [hqr.registry]
  · rwa [hqr.2]

lemma tidy_lift_of_tidy {op : Network.Operation ω γ π α} (h : Network.Tidy op) : Tidy (lift op) :=
  tidy_lift (h _ Network.spared_swept)

/-! ### Taking down -/

lemma tidy_teardownBlock (i : Nat) : Tidy (teardownBlock i : Operation ω γ π Unit) := by
  refine .bind interference_spares (tidy_lift_of_tidy ?_) fun _ => ?_
  · exact Network.tidy_modify fun s => Network.leaves_mapCore s i _
  refine .bind interference_spares (tidy_lift (Network.shutdown_keeps i)) fun _ => ?_
  exact tidy_lift_of_tidy (Network.tidy_clearConsumer i)

lemma tidy_teardown : Tidy (teardown : Operation ω γ π Unit) := by
  refine tidy_get fun entries => .bind interference_spares ?_ fun _ => ?_
  · exact .each interference_spares Neat.spares (fun e => tidy_teardownBlock e.2) entries
  · exact tidy_note (fun _ => rfl) fun _ => rfl

/-! ### Building -/

/-- A block that is made is neat. -/
lemma Neat.makeNew (hp : p.Neat) (d : BlockDef) :
    p.Handles (makeNew d p).2 ∧ (makeNew d p).2.Neat := by
  have hsame : p.Handles p ∧ p.Neat := ⟨(Network.Leaves.refl p.network).handles, hp⟩
  simp only [Pipeline.makeNew]
  split
  · exact hsame
  obtain ⟨⟨r, world⟩, hcreate⟩ : ∃ r, p.registry.create d.type p.network.world = r := ⟨_, rfl⟩
  cases r with
  | error e =>
    simp only [make, hcreate]
    exact hp.leaves (Network.leaves_of_blocks_eq rfl (.inl rfl)) rfl
  | ok b =>
    obtain ⟨c, hc, hb⟩ := Registry.create_ok hcreate
    have hfresh : b.Fresh := hp.registry _ _ _ _ _ hc hb
    simp only [make, hcreate]
    refine ⟨.keeps (.inl rfl) fun i c c' hc hc' => ?_, hp.registry, hp.swept.append ?_ rfl⟩
    · rw [Network.block?_of_append (s := p.network) rfl] at hc'
      split_ifs at hc' with hi
      · simp [hi, Network.block?] at hc
      · obtain rfl : c = c' := by simpa [hc] using hc'
        rfl
    · refine Block.Fresh.swept (hfresh.mapCore ?_)
      exact fun _ => rfl

lemma tidy_createBlocks (defs : List BlockDef) :
    Tidy (createBlocks defs : Operation ω γ π (Result Unit)) :=
  .eachUntil interference_spares Neat.spares
    (fun d => Routine.keeps_modifyGet Neat.spares fun _ hp => hp.makeNew d) defs

lemma Rewires.leaves {routed : Nat → List Nat → Prop} (h : Rewires routed p q) :
    p.network.Leaves q.network := by
  refine ⟨.inl h.storage, h.joins.length, fun i b hb => ?_⟩
  obtain ⟨b', hb', hjoins⟩ := h.joins.block i b hb
  exact ⟨b', hb', hjoins.leaves⟩

section Building

variable [Generator γ] [Processor ω π]

lemma tidy_configureBlock (d : BlockDef) :
    Tidy (configureBlock d : Operation ω γ π (Result Unit)) := by
  refine tidy_get fun found => ?_
  split
  · exact tidy_pure _
  rename_i i
  refine .bind interference_spares (tidy_lift_of_tidy ?_) fun _ => ?_
  · exact Network.tidy_modify fun s => Network.leaves_mapCore s i _
  refine .bind interference_spares (tidy_lift_of_tidy (Network.tidy_configure i)) fun r => ?_
  split <;> exact tidy_pure _

lemma tidy_configureBlocks (defs : List BlockDef) :
    Tidy (configureBlocks defs : Operation ω γ π (Result Unit)) :=
  .eachUntil interference_spares Neat.spares tidy_configureBlock defs

omit [Generator γ] in
lemma tidy_connectBlocks (cs : List Connection) :
    Tidy (connectBlocks cs : Operation ω γ π (Result Unit)) := by
  refine Routine.keeps_modifyGet Neat.spares fun p hp => ?_
  have hinforms := (connectAll_spec cs [] p).1
  split
  · rename_i routes q hall
    rw [hall] at hinforms
    have hrewires : Rewires (fun _ _ => True) p (routes.foldl install q) :=
      (hinforms.mono fun _ _ _ => trivial).trans
        ((rewires_installAll q).mono fun _ _ _ => trivial)
    refine hp.leaves hrewires.leaves ?_
    rw [hrewires.rest]
  · rename_i f q hall
    rw [hall] at hinforms
    refine hp.leaves hinforms.leaves ?_
    rw [hinforms.rest]

lemma tidy_build (config : GraphConfig) :
    Tidy (build config : Operation ω γ π (Result Unit)) := by
  refine .bind interference_spares (tidy_createBlocks config.blocks) fun r => ?_
  cases r with
  | error f => exact tidy_pure _
  | ok _ =>
    refine .bind interference_spares (tidy_configureBlocks config.blocks) fun r => ?_
    cases r with
    | error f => exact tidy_pure _
    | ok _ => exact tidy_connectBlocks config.connections

omit [Generator γ] [Processor ω π] in
lemma tidy_failWith (e : Error) : Tidy (failWith e : Operation ω γ π (Result α)) :=
  .bind interference_spares (tidy_note (fun _ => rfl) fun _ => rfl) fun _ => tidy_pure _

lemma tidy_load (config : GraphConfig) : Tidy (load config : Operation ω γ π (Result Unit)) := by
  refine tidy_get fun running => ?_
  split
  · exact tidy_failWith _
  refine .bind interference_spares tidy_teardown fun _ => ?_
  refine .bind interference_spares (tidy_note (fun _ => rfl) fun _ => rfl) fun _ => ?_
  refine .bind interference_spares (tidy_build config) fun r => ?_
  split
  · exact .bind interference_spares tidy_teardown fun _ => tidy_failWith _
  · exact tidy_pure _

lemma tidy_loadResult (described : Result GraphConfig) :
    Tidy (loadResult described : Operation ω γ π (Result Unit)) := by
  match described with
  | .ok config => exact tidy_load config
  | .error (.error e) => exact tidy_failWith e
  | .error (.panic e) => exact tidy_pure _

end Building

/-! ### Starting and stopping -/

lemma tidy_startAll [Generator γ] (started waiting : List Nat) :
    Tidy (startAll started waiting : Operation ω γ π (Except Error Unit)) := by
  induction waiting generalizing started with
  | nil => exact tidy_pure _
  | cons i waiting ih =>
    refine .bind interference_spares (tidy_lift_of_tidy (Network.tidy_start i)) fun r => ?_
    cases r with
    | ok _ => exact ih _
    | error e =>
      refine tidy_get fun name => .bind interference_spares ?_ fun _ => tidy_pure _
      exact .each interference_spares Neat.spares (fun i => tidy_lift (Network.halt_keeps i))
        started

lemma tidy_start [Generator γ] : Tidy (start : Operation ω γ π (Result Unit)) := by
  refine tidy_get fun entries => ?_
  split
  · exact tidy_failWith _
  refine tidy_get fun running => ?_
  split
  · exact tidy_pure _
  refine tidy_get fun order => .bind interference_spares (tidy_startAll [] order) fun r => ?_
  cases r with
  | ok _ =>
    exact .bind interference_spares (tidy_note (fun _ => rfl) fun _ => rfl) fun _ => tidy_pure _
  | error e => exact tidy_failWith e

lemma tidy_stop : Tidy (stop : Operation ω γ π Unit) := by
  refine .bind interference_spares ?_ fun wasRunning => ?_
  · let f (p : Pipeline ω γ π) : Bool × Pipeline ω γ π := (p.running, { p with running := false })
    exact tidy_modifyGet (f := f) (fun p => .refl p.network) fun _ => rfl
  split
  · refine tidy_get fun order => ?_
    exact .each interference_spares Neat.spares (fun i => tidy_lift (Network.halt_keeps i)) _
  · exact tidy_pure _

lemma tidy_shutdown : Tidy (shutdown : Operation ω γ π Unit) := by
  refine .bind interference_spares tidy_stop fun _ => tidy_get fun entries => ?_
  split
  · exact tidy_pure _
  · refine .bind interference_spares tidy_teardown fun _ => ?_
    exact tidy_note (fun _ => rfl) fun _ => rfl

lemma tidy_resetAll : Tidy (resetAll : Operation ω γ π Unit) := by
  refine tidy_get fun entries => .each interference_spares Neat.spares (fun e => ?_) entries
  exact tidy_modify (fun p => Network.leaves_mapCore p.network e.2 _) fun _ => rfl

/-- Any call leads from a neat pipeline to a neat one. -/
theorem Call.tidy [Generator γ] [Processor ω π] {op : Operation ω γ π Unit} (h : Call op) :
    Tidy op := by
  cases h with
  | resetAll => exact tidy_resetAll
  | manager h =>
    cases h with
    | build config => exact .bind interference_spares (tidy_load config) fun _ => tidy_pure _
    | loadResult described =>
      exact .bind interference_spares (tidy_loadResult described) fun _ => tidy_pure _
    | start => exact .bind interference_spares tidy_start fun _ => tidy_pure _
    | stop => exact tidy_stop
    | shutdown => exact tidy_shutdown

end Pipeline

end FrameGraph
