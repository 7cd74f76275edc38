import FrameGraph.Proofs.Pattern.Buffers
import FrameGraph.Proofs.Pipeline.Runs
import FrameGraph.Proofs.Pipeline.Upkeep

/-!
# The accounts of a pipeline

As long as no sink fails and no source emits an empty frame, the balance of a pipeline is kept along
each run. When the pipeline has come to rest, nothing waits any more, and the balance says that each
sink has processed or dropped what its sources have processed.
-/

namespace FrameGraph

/-! ### Networks at rest -/

namespace Network

variable {ω γ π : Type} {s : Network ω γ π} {i : Nat}

/-- The number of frames that the source at a position has emitted. -/
def emittedAt (s : Network ω γ π) (i : Nat) : Nat :=
  (s.source? i).elim 0 fun x => x.core.stats.processed

lemma begunAt_of_idle (h : s.All fun _ b => b.Idle) : s.begunAt = s.emittedAt := by
  funext i
  cases hb : s.block? i with
  | none => simp [begunAt, emittedAt, source?, hb]
  | some b =>
    cases b with
    | source x =>
      have hthread : x.thread = .absent := by simpa [Block.hasThread] using (h i _ hb).thread
      simp [begunAt, emittedAt, source?, hb, Block.begun, SourceBlock.begun, hthread,
        SourceThread.frame?]
    | sink y => simp [begunAt, emittedAt, source?, hb, Block.begun]
    | stage z => simp [begunAt, emittedAt, source?, hb, Block.begun]

lemma owed_of_idle (h : s.All fun _ b => b.Idle) (k : Nat) : s.total (Block.owed k) = 0 := by
  apply List.sum_eq_zero
  intro l hl
  obtain ⟨b, hb, rfl⟩ := List.mem_map.1 hl
  obtain ⟨i, hi⟩ := List.mem_iff_getElem?.1 hb
  cases b with
  | source x =>
    have hthread : x.thread = .absent := by simpa [Block.hasThread] using (h i _ hi).thread
    simp [Block.owed, hthread, SourceThread.targets]
  | sink y => rfl
  | stage z => rfl

end Network

namespace Pipeline

variable {ω γ π : Type} {p q : Pipeline ω γ π}

/-- At rest, what the connections carried was processed or dropped. -/
theorem Balanced.accounts_of_quiet (hp : p.Balanced) (hwhole : p.Wholesome) (hquiet : p.Quiet)
    {k : Nat} (hk : k ∈ p.members) {y : SinkBlock π} (hy : p.network.block? k = some (.sink y)) :
    y.core.stats.processed + y.core.stats.dropped = p.inflow p.network.emittedAt k := by
  obtain ⟨m, hknown⟩ := hquiet
  have hidle : (Block.sink y : Block γ π).Idle := hknown.blocks k _ hy
  have hworker : y.engine.worker = .absent := by simpa [Block.hasThread] using hidle.thread
  have hstate : y.engine.core.state ∈ [.uninitialized, .initialized, .starting, .stopped] := by
    have hactive := hidle.state
    have herror := hwhole.sinks k hk y hy
    simp only [Block.state, Block.core, SinkBlock.core] at hactive herror
    revert hactive herror
    cases y.engine.core.state <;> simp
  have hpending : y.engine.pending = [] := by
    apply List.eq_nil_iff_forall_not_mem.2
    intro o ho
    obtain ⟨-, i, x, f, rest, -, hx, hthread⟩ := submitting_of_pending hp hy ho
    simpa [Block.hasThread, hthread] using (hknown.blocks i _ hx).thread
  have hfair : p.SinkFair k y.engine := hp.fair k _ hy
  have haccounts := hp.accounts k hk y hy
  rw [Accounted, Network.begunAt_of_idle hknown.blocks, Network.owed_of_idle hknown.blocks,
    SinkEngine.intake_of_rested hfair.rested hworker hstate, hpending] at haccounts
  exact haccounts.symm

/-! ### Runs -/

section Runs

variable [Generator γ] [Processor ω π]

/-- A thread or a producer goes on, or time passes. -/
def Moves (p q : Pipeline ω γ π) : Prop :=
  ∃ m s, p.network.perform m = some s ∧ q = { p with network := s }

/-- Threads go on, time passes, and the world of the blocks changes. -/
inductive Proceeds (p : Pipeline ω γ π) : Pipeline ω γ π → Prop
  | moves {s} (m : Move) (h : p.network.perform m = some s) : Proceeds p { p with network := s }
  /-- Whatever does not concern the blocks. -/
  | elsewhere {s} (h : s.blocks = p.network.blocks) : Proceeds p { p with network := s }

lemma Moves.proceeds (h : p.Moves q) : p.Proceeds q := by
  obtain ⟨m, s, hm, rfl⟩ := h
  exact .moves m hm

lemma Proceeds.drift (h : p.Proceeds q) : p.Drift q := by
  cases h with
  | moves m h => exact ⟨(Network.perform_effect h).drift, rfl⟩
  | elsewhere h => exact ⟨Network.drift_of_blocks_eq h, rfl⟩

/-- The runs of a pipeline in which no sink of the graph fails, no source emits an empty frame, and
statistics are not forgotten. -/
inductive WholesomeRun (registry : Registry ω (Block γ π)) : Scene (Pipeline ω γ π) → Prop
  | new (world : ω) : WholesomeRun registry ⟨.new registry world, none⟩
  | step {x y} (h : WholesomeRun registry x) (hstep : Scene.Step Proceeds ManagerCall x y)
    (hwhole : y.state.Wholesome) : WholesomeRun registry y

variable {registry : Registry ω (Block γ π)} {x y : Scene (Pipeline ω γ π)}

/-- What is kept along a run. -/
structure Kept (registry : Registry ω (Block γ π)) (x : Scene (Pipeline ω γ π)) : Prop where
  sound : x.Sound Drift Steps Steady
  registry : x.state.registry = registry
  orderly : x.state.Orderly
  wholesome : x.state.Wholesome
  balanced : x.state.Balanced

omit [Generator γ] [Processor ω π] in
lemma kept_new (hregistry : registry.Makes fun b => b.Idle ∧ b.Fresh) (world : ω) :
    Kept registry ⟨.new registry world, none⟩ := by
  have hblock (i : Nat) : (Pipeline.new registry world).network.block? i = none := rfl
  refine ⟨.inl (quiet_new ?_ world), rfl, ?_, ⟨?_, ?_⟩, ⟨?_, ?_, fun i => rfl, ?_, ?_⟩⟩
  · intro type c s b s' hc hb
    obtain ⟨hidle, hfresh⟩ := hregistry type c s b s' hc hb
    exact ⟨hfresh.threaded, hidle⟩
  · simp [Orderly, hblock]
  · simp [hblock]
  · simp [hblock]
  · simp [Pipeline.members, Pipeline.new]
  · simp [hblock]
  · simp [Pipeline.members, Pipeline.new]
  · simp [Network.All, hblock]

lemma Kept.step (hregistry : registry.Makes fun b => b.Idle ∧ b.Fresh)
    (hmakes : ∀ buffer, Generator.Makes γ buffer → buffer.isValid = true)
    (h : Kept registry x) (hstep : Scene.Step Proceeds ManagerCall x y)
    (hwhole : y.state.Wholesome) : Kept registry y := by
  obtain ⟨hsound, hdone⟩ := hstep.sound interference_drift (fun _ _ h => h.drift)
    (fun _ _ hpq hp => hp.later hpq) (fun _ hop _ hp => hop.meets hp) h.sound
  rcases hdone with hproceeds | ⟨hdeed, horderly⟩ | heq
  · have hdrift := hproceeds.drift
    refine ⟨hsound, ?_, h.orderly.later hdrift, hwhole, ?_⟩
    · rw [hdrift.rest]
      exact h.registry
    · revert hproceeds
      generalize y.state = q
      intro hproceeds
      cases hproceeds with
      | moves m hm =>
        exact h.balanced.move hmakes h.orderly h.wholesome (Network.perform_effect hm)
      | elsewhere hblocks =>
        exact h.balanced.tallies rfl rfl (Network.tallies_of_blocks_eq hblocks)
  · refine ⟨hsound, hdeed.registry.trans h.registry, horderly, hwhole, ?_⟩
    refine h.balanced.deed ?_ hdeed horderly
    rw [h.registry]
    exact fun type c s b s' hc hb => (hregistry type c s b s' hc hb).2
  · refine ⟨hsound, ?_, ?_, hwhole, ?_⟩
    all_goals rw [heq]
    · exact h.registry
    · exact h.orderly
    · exact h.balanced

theorem WholesomeRun.kept (hregistry : registry.Makes fun b => b.Idle ∧ b.Fresh)
    (hmakes : ∀ buffer, Generator.Makes γ buffer → buffer.isValid = true)
    (h : WholesomeRun registry x) : Kept registry x := by
  induction h with
  | new world => exact kept_new hregistry world
  | step h hstep hwhole ih => exact ih.step hregistry hmakes hstep hwhole

/-- When a pipeline does not run, each sink of its graph has processed or dropped as many frames as
the sources of the connections to it have processed, a source once for each connection. -/
theorem accounts_at_rest (hregistry : registry.Makes fun b => b.Idle ∧ b.Fresh)
    (hmakes : ∀ buffer, Generator.Makes γ buffer → buffer.isValid = true)
    (h : WholesomeRun registry ⟨p, none⟩) (hrunning : p.running = false) :
    ∀ e ∈ p.entries, ∀ y, p.network.block? e.2 = some (.sink y) →
      y.core.stats.processed + y.core.stats.dropped = p.inflow p.network.emittedAt e.2 := by
  intro e he y hy
  obtain ⟨hsound, -, -, hwhole, hbalanced⟩ := h.kept hregistry hmakes
  have hsteady : p.Steady := hsound
  exact hbalanced.accounts_of_quiet hwhole (hsteady.quiet hrunning)
    (List.mem_map.2 ⟨e, he, rfl⟩) hy

/-! ### Following a run -/

/-- What is done next along a run. -/
inductive Action (ω γ π : Type) [Generator γ] [Processor ω π]
  | begins (op : Operation ω γ π Unit) (h : ManagerCall op)
  | goesOn
  | moves (m : Move)

/-- Whether no sink has failed and no source is about to emit an empty frame. -/
def isWholesome (p : Pipeline ω γ π) : Bool :=
  p.network.blocks.all fun
    | .source x => match x.thread with
      | .offering buffer => buffer.size != 0
      | _ => true
    | .sink y => y.core.state != .error
    | .stage _ => true

omit [Generator γ] [Processor ω π] in
lemma wholesome_of_isWholesome {p : Pipeline ω γ π} (h : p.isWholesome = true) : p.Wholesome := by
  have hblock {i : Nat} {b : Block γ π} (hb : p.network.block? i = some b) :=
    List.all_eq_true.1 h b (List.mem_of_getElem? hb)
  refine ⟨fun k _ y hy => by simpa using hblock hy, fun i x hx buffer hbuffer => ?_⟩
  simpa [hbuffer] using hblock hx

/-- The scene after an action, if it is possible. -/
def Action.next? : Action ω γ π → Scene (Pipeline ω γ π) → Option (Scene (Pipeline ω γ π))
  | .begins op _, ⟨p, none⟩ => some ⟨p, some op⟩
  | .goesOn, ⟨p, some (.act step next)⟩ => some ⟨step p, some (next p)⟩
  | .goesOn, ⟨p, some (.await ready next)⟩ => if ready p then some ⟨p, some next⟩ else none
  | .goesOn, ⟨p, some (.done ())⟩ => some ⟨p, none⟩
  | .moves m, ⟨p, call⟩ => (p.network.perform m).map fun s => ⟨{ p with network := s }, call⟩
  | _, _ => none

lemma Action.step_of_next? {a : Action ω γ π} (h : a.next? x = some y) :
    Scene.Step Moves ManagerCall x y := by
  unfold next? at h
  split at h
  case h_1 op hop p =>
    cases h
    exact .call hop
  case h_2 =>
    cases h
    exact .act
  case h_3 ready next =>
    split at h
    · rename_i hready
      cases h
      exact .await hready
    · cases h
  case h_4 =>
    cases h
    exact .ret
  case h_5 m p call =>
    obtain ⟨s, hs, rfl⟩ := Option.map_eq_some_iff.1 h
    exact .other ⟨m, s, hs, rfl⟩
  case h_6 => cases h

/-- The scene after actions, if they are possible and the pipeline is wholesome all along. -/
def follow : List (Action ω γ π) → Scene (Pipeline ω γ π) → Option (Scene (Pipeline ω γ π))
  | [], x => some x
  | a :: rest, x =>
    match a.next? x with
    | none => none
    | some y => if y.state.isWholesome then follow rest y else none

/-- What every possible step keeps holds after actions that kept the pipeline wholesome. -/
lemma holds_of_follow {P : Scene (Pipeline ω γ π) → Prop}
    (hP : ∀ x y, P x → Scene.Step Moves ManagerCall x y → y.state.Wholesome → P y)
    {actions : List (Action ω γ π)} (hx : P x) (hy : follow actions x = some y) : P y := by
  induction actions generalizing x with
  | nil =>
    cases hy
    exact hx
  | cons a rest ih =>
    simp only [follow] at hy
    split at hy
    · cases hy
    · rename_i z hz
      split at hy
      · rename_i hwhole
        exact ih (hP x z hx (Action.step_of_next? hz) (wholesome_of_isWholesome hwhole)) hy
      · cases hy

lemma WholesomeRun.follow {actions : List (Action ω γ π)} (h : WholesomeRun registry x)
    (hy : follow actions x = some y) : WholesomeRun registry y :=
  holds_of_follow (fun _ _ h hstep hwhole => h.step (hstep.mono Moves.proceeds fun _ => id) hwhole)
    h hy

end Runs

/-! ### The blocks at hand -/

/-- The blocks at hand are made at rest and fresh. -/
theorem makes_fresh_builtins : Registry.builtins.Makes fun b => b.Idle ∧ b.Fresh := by
  apply makes_of_builtins
  intro b hb
  simp only [Block.builtins, List.map_cons, List.map_nil, List.mem_cons, List.not_mem_nil,
    or_false] at hb
  rcases hb with rfl | rfl | rfl | rfl
  · exact ⟨⟨rfl, by decide⟩, ⟨rfl, rfl, rfl⟩⟩
  all_goals exact ⟨⟨rfl, by decide⟩, ⟨rfl, rfl, rfl, rfl, rfl⟩⟩

/-- A graph of one source that is connected twice with one sink. -/
def pair : GraphConfig where
  blocks := [
    { name := "camera", type := "TestPatternSource",
      parameters := (Dict.empty.insert "height" "2").insert "width" "2" },
    { name := "screen", type := "NullSink" }]
  connections := [.between "camera" "screen", .between "camera" "screen"]

/-- The graph is built and started, a frame goes over both connections, and the graph is stopped. -/
def pairActions : List (Action FileTree TestPattern Output) :=
  .begins _ (.build pair) :: List.replicate 16 .goesOn
    ++ .begins _ .start :: List.replicate 14 .goesOn
    ++ [.source 0, .source 0, .source 0, .arrive 1 0, .source 0, .arrive 1 0, .source 0, .worker 1,
      .worker 1, .worker 1].map .moves
    ++ .begins _ .stop :: List.replicate 6 .goesOn ++ .moves (.source 0) :: List.replicate 7 .goesOn
    ++ .moves (.worker 1) :: List.replicate 5 .goesOn

/-- The sink gets the frame twice: it processes it once and drops it once. -/
theorem accounts_at_rest_pair : ∃ p : Pipeline FileTree TestPattern Output,
    WholesomeRun .builtins ⟨p, none⟩ ∧ p.running = false ∧
      p.entries = [("camera", 0), ("screen", 1)] ∧ ∃ y, p.network.block? 1 = some (.sink y) ∧
        y.core.stats.processed = 1 ∧ y.core.stats.dropped = 1 ∧
        y.core.stats.processed + y.core.stats.dropped = p.inflow p.network.emittedAt 1 := by
  have hnew : WholesomeRun .builtins ⟨.new .builtins { home := [] }, none⟩ := .new _
  have hend : ∃ x ∈ follow pairActions ⟨.new .builtins { home := [] }, none⟩,
      x.call.isNone = true ∧ x.state.running = false ∧
        x.state.entries = [("camera", 0), ("screen", 1)] ∧ ∃ y ∈ x.state.network.sink? 1,
          y.core.stats.processed = 1 ∧ y.core.stats.dropped = 1 := by
    decide +kernel
  obtain ⟨⟨p, call⟩, hx, hcall, hrunning, hentries, y, hy, hprocessed, hdropped⟩ := hend
  obtain rfl : call = none := Option.isNone_iff_eq_none.1 hcall
  have hrun : WholesomeRun .builtins ⟨p, none⟩ := hnew.follow hx
  have hsink : p.network.block? 1 = some (.sink y) := Network.sink?_eq_some.1 hy
  have hscreen : ("screen", 1) ∈ p.entries := by
    rw [show p.entries = _ from hentries]
    simp
  have haccounts := accounts_at_rest makes_fresh_builtins (fun _ => TestPattern.isValid_of_makes)
    hrun hrunning ("screen", 1) hscreen y hsink
  exact ⟨p, hrun, hrunning, hentries, y, hsink, hprocessed, hdropped, haccounts⟩

end Pipeline

end FrameGraph
