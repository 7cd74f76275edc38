import FrameGraph.Pipeline.Builtins
import FrameGraph.Proofs.Pipeline.Building

/-!
# Runs of a pipeline

A pipeline is built, started, stopped and shut down any number of times, one call after the other.
Meanwhile threads and producers go on in any order, callers come with frames, settings change and
blocks fail. Between two calls either the pipeline runs and all blocks of its graph are up, or it
does not run and no block of its network is active.
-/

namespace FrameGraph.Pipeline

variable {ω γ π : Type} [Generator γ] [Processor ω π]

/-- A call on a pipeline, other than forgetting the statistics. -/
inductive ManagerCall : Operation ω γ π Unit → Prop
  | build (config : GraphConfig) : ManagerCall (load config >>= fun _ => pure ())
  /-- A text or a file describes a graph, or does not. -/
  | loadResult (described : Result GraphConfig) :
    ManagerCall (loadResult described >>= fun _ => pure ())
  | start : ManagerCall (start >>= fun _ => pure ())
  | stop : ManagerCall stop
  | shutdown : ManagerCall shutdown

/-- Each call leads from a steady pipeline to a steady one, and keeps it in order on the way. -/
theorem ManagerCall.meets {op : Operation ω γ π Unit} (h : ManagerCall op) {p : Pipeline ω γ π}
    (hp : p.Steady) : op.Meets Drift Steps (fun _ => Steady) p := by
  have hlater (p q : Pipeline ω γ π) (hpq : p.Drift q) (hp : p.Steady) : q.Steady := hp.later hpq
  cases h with
  | build config => exact (load_meets hp config).ignore interference_drift hlater
  | loadResult described => exact (loadResult_meets hp described).ignore interference_drift hlater
  | start => exact (start_meets hp).ignore interference_drift hlater
  | stop => exact (stop_meets hp).weaken fun _ q hq => .inl hq
  | shutdown => exact (shutdown_meets hp).weaken fun _ q hq => .inl hq

/-- Any call on a pipeline. -/
inductive Call : Operation ω γ π Unit → Prop
  | manager {op} (h : ManagerCall op) : Call op
  | resetAll : Call resetAll

/-- What others do to a pipeline. -/
inductive Occurs (p : Pipeline ω γ π) : Pipeline ω γ π → Prop
  | happens {s} (h : p.network.Happens s) : Occurs p { p with network := s }
  /-- Whatever does not concern the blocks. -/
  | elsewhere {s} (h : s.blocks = p.network.blocks) : Occurs p { p with network := s }

lemma Occurs.drift {p q : Pipeline ω γ π} (h : p.Occurs q) : p.Drift q := by
  cases h with
  | happens h => exact ⟨h.drift, rfl⟩
  | elsewhere h => exact ⟨Network.drift_of_blocks_eq h, rfl⟩

/-- The runs of a pipeline with a registry. -/
inductive Run (registry : Registry ω (Block γ π)) : Scene (Pipeline ω γ π) → Prop
  | new (world : ω) : Run registry ⟨.new registry world, none⟩
  | step {x y} (h : Run registry x) (hstep : Scene.Step Occurs Call x y) : Run registry y

variable {registry : Registry ω (Block γ π)} {p : Pipeline ω γ π} {x : Scene (Pipeline ω γ π)}

omit [Generator γ] [Processor ω π] in
lemma quiet_new (hregistry : registry.Makes fun b => b.Threaded ∧ b.Idle) (world : ω) :
    (Pipeline.new registry world : Pipeline ω γ π).Quiet :=
  ⟨[], rfl, rfl, .nil, by simp, hregistry, by simp [Network.All, Network.block?, Pipeline.new],
    by simp [Network.All, Network.block?, Pipeline.new]⟩

/-- Any call leads from a steady pipeline to a steady one, and keeps it in order on the way. -/
theorem Call.meets {op : Operation ω γ π Unit} (h : Call op) {p : Pipeline ω γ π}
    (hp : p.Steady) : op.Meets Drift Does (fun _ => Steady) p := by
  cases h with
  | manager h => exact (h.meets hp).mono (fun _ _ => id) (fun _ _ => Steps.does) fun _ _ => id
  | resetAll => exact resetAll_meets hp

/-- One step of a run keeps the call that is under way on its way to a steady pipeline. -/
lemma sound_step {x y : Scene (Pipeline ω γ π)} (hstep : Scene.Step Occurs Call x y)
    (h : x.Sound Drift Does Steady) : y.Sound Drift Does Steady ∧
      (x.state.Occurs y.state ∨ x.state.Does y.state ∨ y.state = x.state) :=
  hstep.sound interference_drift (fun _ _ h => h.drift) (fun _ _ hpq hp => hp.later hpq)
    (fun _ hop _ hp => hop.meets hp) h

/-- Along each run, the call that is under way will leave the pipeline steady. -/
theorem Run.sound (hregistry : registry.Makes fun b => b.Threaded ∧ b.Idle)
    (h : Run registry x) : x.Sound Drift Does Steady := by
  induction h with
  | new world => exact .inl (quiet_new hregistry world)
  | step h hstep ih => exact (sound_step hstep ih).1

/-- Between two calls on a pipeline: if it runs, its graph is not empty and each block of the graph
runs or has failed; if it does not run, no block is starting, running or stopping, and none has a
thread. -/
theorem run_state (hregistry : registry.Makes fun b => b.Threaded ∧ b.Idle)
    (h : Run registry ⟨p, none⟩) :
    (p.running = true → p.entries ≠ [] ∧ ∀ e ∈ p.entries,
      ∃ b, p.network.block? e.2 = some b ∧ b.state ∈ [.running, .error]) ∧
    (p.running = false → ∀ b ∈ p.network.blocks,
      b.state ∉ [.starting, .running, .stopping] ∧ b.hasThread = false) := by
  have hsteady : p.Steady := h.sound hregistry
  constructor
  · intro hrunning
    rcases hsteady with ⟨m, hknown⟩ | ⟨m, hm, hknown⟩
    · exact absurd (hrunning.symm.trans hknown.running) (by simp)
    · refine ⟨fun hentries => hm ?_, ?_⟩
      · simp [← hknown.members, Pipeline.members, hentries]
      · intro e he
        have hmem : e.2 ∈ m := hknown.members ▸ List.mem_map.2 ⟨e, he, rfl⟩
        obtain ⟨b, hb, -, hattends⟩ := hknown.find hmem
        exact ⟨b, hb, (hattends.1 hmem).state⟩
  · intro hrunning b hb
    obtain ⟨m, hknown⟩ := hsteady.quiet hrunning
    obtain ⟨i, hi⟩ := List.mem_iff_getElem?.1 hb
    have hidle := hknown.blocks i b hi
    exact ⟨hidle.state, hidle.thread⟩

omit [Generator γ] [Processor ω π] in
/-- The blocks at hand are made as they are listed. -/
lemma makes_of_builtins {P : Block TestPattern Output → Prop}
    (h : ∀ b ∈ (Block.builtins id id).map (·.2), P b) : Registry.builtins.Makes P := by
  refine Registry.makes_empty.registerAll ?_
  intro c hc s b s' hb
  obtain ⟨entry, hentry, rfl⟩ := List.mem_map.1 hc
  cases hb
  exact h entry.2 (List.mem_map_of_mem hentry)

/-- The blocks at hand are made at rest. -/
theorem makes_builtins : Registry.builtins.Makes fun b => b.Threaded ∧ b.Idle := by
  apply makes_of_builtins
  intro b hb
  simp only [Block.builtins, List.map_cons, List.map_nil, List.mem_cons, List.not_mem_nil,
    or_false] at hb
  rcases hb with rfl | rfl | rfl | rfl
  all_goals exact ⟨trivial, rfl, by decide⟩

/-- A registry of sinks that discard all frames. -/
def discarding : Registry FileTree (Block TestPattern Output) :=
  ({} : Registry FileTree (Block TestPattern Output)).register "NullSink"
    (.always (.sink (.new "NullSink" (.discard {}))))

def lone : GraphConfig := { blocks := [{ name := "sink", type := "NullSink" }] }

lemma makes_discarding : discarding.Makes fun b => b.Threaded ∧ b.Idle := by
  refine Registry.makes_empty.register ?_
  intro s b s' hb
  cases hb
  exact ⟨trivial, rfl, by decide⟩

/-- The pipeline is built and started, its sink fails, and the pipeline is stopped. -/
theorem run_state_lone : ∃ p q : Pipeline FileTree TestPattern Output,
    Run discarding ⟨p, none⟩ ∧ p.running = true ∧ p.network.stateOf 0 = .error ∧
      (∃ b, p.network.block? 0 = some b ∧ b.state ∈ [.running, .error]) ∧
    Run discarding ⟨q, none⟩ ∧ q.running = false ∧ q.network.blocks.length = 1 ∧
      ∀ b ∈ q.network.blocks, b.state ∉ [.starting, .running, .stopping] ∧ b.hasThread = false := by
  have hnew : Run discarding ⟨.new discarding { home := [] }, none⟩ := .new _
  -- one step for each of: looking, taking down, describing, making, configuring, connecting
  have hbuild := (((hnew.step (.call (.manager (.build lone)))).step .act).step .act).step .act
  have hmade := ((hbuild.step .act).step .act).step .act
  have hbuilt := ((((hmade.step .act).step .act).step .act).step .act).step .ret
  have hlook := (((hbuilt.step (.call (.manager .start))).step .act).step .act).step .act
  have hstart := ((((hlook.step .act).step .act).step .act).step .act).step .act
  have hstarted := (hstart.step .act).step .ret
  have hfailed := hstarted.step (.other (.happens (.inr (.fail 0 "out of memory"))))
  have hstop := ((hfailed.step (.call (.manager .stop))).step .act).step .act
  have hhalted := ((hstop.step .act).step .act).step .act
  have hended := (hhalted.step (.other (.happens (.inl ⟨.worker 0, rfl⟩)))).step (.await rfl)
  have hstopped := (((hended.step .act).step .act).step .act).step .ret
  have hruns := (run_state makes_discarding hfailed).1 rfl
  have hrests := (run_state makes_discarding hstopped).2 rfl
  exact ⟨_, _, hfailed, rfl, rfl, hruns.2 ("sink", 0) List.mem_cons_self, hstopped, rfl, rfl,
    hrests⟩

end FrameGraph.Pipeline
