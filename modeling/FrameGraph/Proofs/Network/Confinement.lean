import FrameGraph.Proofs.Network.Closing
import FrameGraph.Proofs.Network.Configure
import FrameGraph.Proofs.Network.Steps

/-!
# Operations on one block

Whatever state it finds, each step of an operation on a block changes no other block. It gives the
block no listener and no consumer that it does not have.
-/

namespace FrameGraph

namespace Block

variable {γ π : Type} {b b' : Block γ π}

/-- Where a source hands its frames. -/
def consumer : Block γ π → Option Consumer
  | .source x => x.engine.consumer
  | _ => none

/-- What a step of an operation on a block does not tie. -/
structure Loosens (b b' : Block γ π) : Prop where
  listener : b.core.listener = none → b'.core.listener = none
  consumer : b.consumer = none → b'.consumer = none

lemma Loosens.refl (b : Block γ π) : b.Loosens b := ⟨id, id⟩

lemma loosens_mapCore {f : BlockCore → BlockCore}
    (h : ∀ c, c.listener = none → (f c).listener = none) (b : Block γ π) :
    b.Loosens (b.mapCore f) := by
  cases b <;> exact ⟨h _, id⟩

lemma loosens_forgetThread (b : Block γ π) : b.Loosens b.forgetThread := by
  cases b <;> exact ⟨id, id⟩

end Block

lemma BlockCore.listener_settle (c : BlockCore) (source target : BlockState) :
    (c.settle source target).listener = c.listener := by
  unfold settle
  split <;> rfl

lemma SinkEngine.listener_halt (e : SinkEngine) : e.halt.core.listener = e.core.listener := by
  simp [halt, notifyProducers]

lemma SourceBlock.consumer_configure {γ : Type} [Generator γ] (x : SourceBlock γ)
    (storage : Storage) : (x.configure storage).2.1.engine.consumer = x.engine.consumer := by
  have h : (Block.source x : Block γ Unit).Configures _ := x.configures_configure storage
  cases h with
  | source _ hconsumer _ _ => exact hconsumer

lemma SourceBlock.configure_loosens {γ π : Type} [Generator γ] (x : SourceBlock γ)
    (storage : Storage) :
    (Block.source x : Block γ π).Loosens (.source (x.configure storage).2.1) := by
  obtain ⟨state, lastError, hcore⟩ := x.core_configure storage
  exact ⟨fun h => (congrArg BlockCore.listener hcore).trans h,
    fun h => (x.consumer_configure storage).trans h⟩

lemma SinkBlock.configure_loosens {ω γ π : Type} [Processor ω π] (y : SinkBlock π) (world : ω) :
    (Block.sink y : Block γ π).Loosens (.sink (y.configure world).2.1) := by
  obtain ⟨state, lastError, hcore⟩ := y.core_configure world
  exact ⟨fun h => (congrArg BlockCore.listener hcore).trans h, id⟩

namespace Network

variable {ω γ π α : Type} {s : Network ω γ π} {i : Nat}

/-- Each step of an operation changes this block only, and ties it to nothing. -/
abbrev Confined (i : Nat) (op : Operation ω γ π α) : Prop :=
  op.Keeps (fun _ _ => True) (StepAt Block.Loosens i) fun _ => True

lemma confined_mapCore {f : BlockCore → BlockCore}
    (h : ∀ c, c.listener = none → (f c).listener = none) :
    Confined i (.modify fun s : Network ω γ π => s.mapCore i f) :=
  Routine.always_modify (stepAt_mapCore (Block.loosens_mapCore h))

/-! ### Taking a block down -/

lemma ClosesAt.loosens {s t : Network ω γ π} (h : ClosesAt i s t) :
    StepAt Block.Loosens i s t := by
  cases h with
  | looks => exact .refl s
  | notes journal => exact .inl rfl
  | passes journal hf =>
    exact stepAt_mapCore (s := { s with journal })
      (Block.loosens_mapCore fun c hc => (hf c).listener.trans hc)
  | signals => exact stepAt_mapSource (fun _ => ⟨id, id⟩) s
  | clears => exact stepAt_mapSource (fun _ => ⟨id, fun _ => rfl⟩) s
  | halts => exact stepAt_mapEngine (fun y => ⟨fun hy => (y.engine.listener_halt).trans hy, id⟩) s
  | forgets => exact stepAt_forgetThread Block.loosens_forgetThread s
  | discards => exact stepAt_discard (fun _ => ⟨id, id⟩) s

/-- An operation that takes its block down is confined to it. -/
lemma Closing.confined {op : Operation ω γ π α} (h : Closing i op) : Confined i op :=
  h.mono fun _ _ => ClosesAt.loosens

lemma confined_clearConsumer : Confined i (clearConsumer i : Operation ω γ π Unit) :=
  closing_clearConsumer.confined

lemma confined_shutdown : Confined i (shutdown i : Operation ω γ π Unit) :=
  closing_shutdown.confined

lemma confined_halt : Confined i (halt i : Operation ω γ π Unit) := closing_halt.confined

/-! ### Starting -/

/-- One step in which the block `i` is started. -/
inductive StartsAt [Generator γ] (i : Nat) (s : Network ω γ π) : Network ω γ π → Prop
  | closes {t} (h : ClosesAt i s t) : StartsAt i s t
  /-- The block runs, or goes back to where it was. -/
  | settles (source target : BlockState) :
    StartsAt i s (s.mapCore i fun c => c.settle source target)
  | arms : StartsAt i s (s.mapEngine i SinkEngine.arm)
  | spawnsSource : StartsAt i s (spawnSource i s).2
  | spawnsSink : StartsAt i s (spawnSink i s).2

lemma StartsAt.loosens [Generator γ] {s t : Network ω γ π} (h : StartsAt i s t) :
    StepAt Block.Loosens i s t := by
  cases h with
  | closes h => exact h.loosens
  | settles =>
    exact stepAt_mapCore (Block.loosens_mapCore fun c h => (c.listener_settle _ _).trans h) s
  | arms => exact stepAt_mapEngine (fun _ => ⟨id, id⟩) s
  | spawnsSource => exact stepAt_spawnSource (fun _ => ⟨id, id⟩) (fun _ _ _ => ⟨id, id⟩) s
  | spawnsSink => exact stepAt_spawnSink (fun _ => ⟨id, id⟩) s

section Starting

variable [Generator γ]

/-- Each step of an operation is one in which the block `i` is started. -/
abbrev Starting (i : Nat) (op : Operation ω γ π α) : Prop := op.Always (StartsAt i)

lemma Closing.starting {op : Operation ω γ π α} (h : Closing i op) : Starting i op :=
  h.mono fun _ _ => .closes

lemma starting_settle (source target : BlockState) :
    Starting i (settle i source target : Operation ω γ π Unit) :=
  Routine.always_modify fun _ => .settles source target

/-- What follows once the state was changed, or the start refused. -/
lemma starting_of_transition {k : BlockState → Operation ω γ π (Except Error Unit)}
    (hk : ∀ source, Starting i (k source)) :
    Starting i (do match ← transition i "start" [.initialized, .stopped] .starting with
      | .error e => return .error e
      | .ok source => k source : Operation ω γ π (Except Error Unit)) := by
  refine (Closing.starting (closing_transition (by simp) (by simp) "start")).bind fun r => ?_
  cases r with
  | error e => exact Routine.always_pure _
  | ok source => exact hk source

/-- The thread of a block is started, or the block goes back to where it was. -/
lemma starting_launch {source : BlockState}
    {spawn : Network ω γ π → Except Error Unit × Network ω γ π}
    (hspawn : ∀ s, StartsAt i s (spawn s).2) :
    Starting i (do match ← Routine.modifyGet spawn with
      | .error e =>
        settle i .starting source
        return .error e
      | .ok () =>
        settle i .starting .running
        return .ok () : Operation ω γ π (Except Error Unit)) := by
  refine Routine.Always.bind (Routine.always_modifyGet hspawn) fun r => ?_
  cases r with
  | error e => exact (starting_settle _ _).bind fun _ => Routine.always_pure _
  | ok _ => exact (starting_settle _ _).bind fun _ => Routine.always_pure _

lemma starting_start : Starting i (start i : Operation ω γ π _) := by
  refine Routine.always_get (fun _ => .closes .looks) fun b => ?_
  match b with
  | some (.source x) => exact starting_of_transition fun _ => starting_launch fun _ => .spawnsSource
  | some (.sink y) =>
    refine starting_of_transition fun _ => ?_
    refine Routine.Always.bind (Routine.always_modify fun _ => .arms) fun _ => ?_
    exact starting_launch fun _ => .spawnsSink
  | some (.stage z) => exact Closing.starting (closing_moveStage (by simp) (by simp) "start")
  | none => exact Routine.always_pure _

lemma confined_start : Confined i (start i : Operation ω γ π _) :=
  starting_start.mono fun _ _ => StartsAt.loosens

end Starting

/-! ### Configuring -/

variable [Generator γ] [Processor ω π]

/-- One step in which the block `i` is configured. -/
inductive ConfiguresAt (i : Nat) (s : Network ω γ π) : Network ω γ π → Prop
  | closes {t} (h : ClosesAt i s t) : ConfiguresAt i s t
  | engine : ConfiguresAt i s (configureEngine i s).2
  | stage : ConfiguresAt i s (s.mapCore i fun c => { c with state := .initialized })

lemma ConfiguresAt.loosens {s t : Network ω γ π} (h : ConfiguresAt i s t) :
    StepAt Block.Loosens i s t := by
  cases h with
  | closes h => exact h.loosens
  | engine =>
    unfold configureEngine
    split
    · rename_i x hb
      exact stepAt_set hb (by simp) (x.configure_loosens s.storage)
    · rename_i y hb
      exact stepAt_set hb (by simp) (y.configure_loosens s.world)
    · exact .refl s
  | stage =>
    exact stepAt_mapCore (f := fun c => { c with state := .initialized })
      (Block.loosens_mapCore fun _ h => h) s

/-- Each step of a configuration is one in which the block `i` is configured. -/
lemma configuring_configure :
    (configure i : Operation ω γ π (Result Unit)).Always (ConfiguresAt i) := by
  have hengine : (Routine.modifyGet (configureEngine i) :
      Operation ω γ π (Result Unit)).Always (ConfiguresAt i) :=
    Routine.always_modifyGet fun _ => .engine
  refine Routine.always_get (fun _ => .closes .looks) fun b => ?_
  match b with
  | some (.source x) => exact hengine
  | some (.sink y) => exact hengine
  | some (.stage z) =>
    refine Routine.Always.bind ?_ fun _ => Routine.always_pure _
    unfold configureStage
    split
    · exact Routine.always_pure _
    · refine Routine.Always.bind ((closing_request _).mono fun _ _ => .closes) fun r => ?_
      cases r with
      | error e => exact Routine.always_pure _
      | ok _ =>
        exact Routine.Always.bind (Routine.always_modify fun _ => .stage) fun _ =>
          Routine.always_pure _
  | none => exact Routine.always_pure _

lemma confined_configure : Confined i (configure i : Operation ω γ π (Result Unit)) :=
  configuring_configure.mono fun _ _ => ConfiguresAt.loosens

/-! ### The world -/

section World

omit [Generator γ] [Processor ω π]

/-- No step of an operation changes the world. -/
abbrev Unworldly (op : Operation ω γ π α) : Prop :=
  op.Keeps (fun _ _ => True) (fun s t => t.world = s.world) fun _ => True

lemma world_mapCore (s : Network ω γ π) (i : Nat) (f : BlockCore → BlockCore) :
    (s.mapCore i f).world = s.world := by
  unfold mapCore
  split <;> rfl

lemma world_mapSource (s : Network ω γ π) (i : Nat) (f : SourceBlock γ → SourceBlock γ) :
    (s.mapSource i f).world = s.world := by
  unfold mapSource
  split <;> rfl

lemma world_mapEngine (s : Network ω γ π) (i : Nat) (f : SinkEngine → SinkEngine) :
    (s.mapEngine i f).world = s.world := by
  unfold mapEngine
  split <;> rfl

lemma ClosesAt.world {s t : Network ω γ π} (h : ClosesAt i s t) : t.world = s.world := by
  cases h with
  | looks => rfl
  | notes journal => rfl
  | passes journal _ => exact world_mapCore _ i _
  | signals => exact world_mapSource s i _
  | clears => exact world_mapSource s i _
  | halts => exact world_mapEngine s i _
  | forgets =>
    unfold forgetThread
    split <;> rfl
  | discards =>
    unfold discard
    split <;> rfl

/-- An operation that takes its block down leaves the world alone. -/
lemma Closing.unworldly {op : Operation ω γ π α} (h : Closing i op) : Unworldly op :=
  h.mono fun _ _ => ClosesAt.world

lemma unworldly_mapCore (i : Nat) (f : BlockCore → BlockCore) :
    Unworldly (.modify fun s : Network ω γ π => s.mapCore i f) :=
  Routine.always_modify fun s => world_mapCore s i f

end World

end Network

end FrameGraph
