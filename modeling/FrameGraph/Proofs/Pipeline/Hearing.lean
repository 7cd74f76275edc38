import FrameGraph.Proofs.Pipeline.Accounts
import FrameGraph.Proofs.Pipeline.Reports

/-!
# Every failure is heard once

Someone listens to a pipeline, which is used through calls only. Whatever blocks its graphs consist
of, whichever calls are made, and however threads and producers go on meanwhile: what was heard at
any time is exactly which blocks have failed, and why.
-/

namespace FrameGraph

namespace Pipeline

variable {ω γ π : Type} [Generator γ] [Processor ω π] {p q : Pipeline ω γ π}

/-- Someone listens to a pipeline that has no graph yet. -/
def monitored (registry : Registry ω (Block γ π)) (world : ω) : Pipeline ω γ π :=
  { network := { world, listening := true }, registry }

/-- What happens to a pipeline that is used through calls only: a thread or a producer goes on, time
passes, or something happens that concerns neither the blocks nor those who listen. -/
inductive Stirs (p : Pipeline ω γ π) : Pipeline ω γ π → Prop
  | moves {s} (m : Move) (h : p.network.perform m = some s) : Stirs p { p with network := s }
  | elsewhere {s} (h : p.network.Aside s) : Stirs p { p with network := s }

lemma Moves.stirs (h : p.Moves q) : p.Stirs q := by
  obtain ⟨m, s, hm, rfl⟩ := h
  exact .moves m hm

lemma Stirs.proceeds (h : p.Stirs q) :
    p.network.Proceeds q.network ∧ p.Drift q := by
  cases h with
  | moves m h => exact ⟨Network.perform_proceeds h, (Network.perform_effect h).drift, rfl⟩
  | elsewhere h => exact ⟨.inl h.calm, Network.drift_of_blocks_eq h.blocks, rfl⟩

lemma Stirs.abides (h : p.Stirs q) : p.Abides q := ⟨h.proceeds.2, h.proceeds.1.abides⟩

lemma Stirs.reports (h : p.Stirs q) : p.Reports q := h.proceeds.1.reports

/-- What is known of a pipeline between two calls. -/
structure Attended (p : Pipeline ω γ π) : Prop where
  steady : p.Steady
  heeds : p.Heeds

omit [Generator γ] [Processor ω π] in
lemma Attended.later (h : p.Attended) (hpq : p.Abides q) : q.Attended :=
  ⟨h.steady.later hpq.drift, h.heeds.later hpq⟩

/-- With each step of a call at most one block fails, and this is heard. -/
lemma ManagerCall.reports {op : Operation ω γ π Unit} (h : ManagerCall op) (hp : p.Attended) :
    op.Meets Abides Reports (fun _ => Heeds) p := by
  have hlater (p q : Pipeline ω γ π) (hpq : p.Abides q) (hp : p.Heeds) : q.Heeds := hp.later hpq
  cases h with
  | build config =>
    exact (load_reports hp.steady hp.heeds config).ignore interference_abides hlater
  | loadResult described =>
    exact (loadResult_reports hp.steady hp.heeds described).ignore interference_abides hlater
  | start => exact (start_reports hp.steady hp.heeds).ignore interference_abides hlater
  | stop => exact stop_keeps_heeds p hp.heeds
  | shutdown => exact shutdown_reports hp.steady hp.heeds

theorem Call.reports {op : Operation ω γ π Unit} (h : Call op) (hp : p.Attended) :
    op.Meets Abides Reports (fun _ => Attended) p := by
  have hsteady : op.Meets Abides (fun _ _ => True) (fun _ => Steady) p :=
    (h.meets hp.steady).mono (fun _ _ h => h.drift) (fun _ _ _ => trivial) fun _ _ => id
  have hheeds : op.Meets Abides Reports (fun _ => Heeds) p := by
    cases h with
    | manager h => exact h.reports hp
    | resetAll => exact resetAll_keeps_heeds p hp.heeds
  exact (hsteady.and hheeds).mono (fun _ _ => id) (fun _ _ h => h.2) fun _ _ h => ⟨h.1, h.2⟩

/-! ### Runs -/

/-- The runs of a pipeline that someone listens to. -/
inductive HeardRun (registry : Registry ω (Block γ π)) : Scene (Pipeline ω γ π) → Prop
  | new (world : ω) : HeardRun registry ⟨monitored registry world, none⟩
  | step {x y} (h : HeardRun registry x) (hstep : Scene.Step Stirs Call x y) : HeardRun registry y

variable {registry : Registry ω (Block γ π)} {x y : Scene (Pipeline ω γ π)}

/-- What is kept along a run. -/
structure Heard (x : Scene (Pipeline ω γ π)) : Prop where
  sound : x.Sound Abides Reports Attended
  watched : x.state.network.Watched
  chronicle : ∃ log, x.state.network.Chronicle log

lemma Heard.step (h : Heard x) (hstep : Scene.Step Stirs Call x y) :
    Heard y ∧ x.state.network.Announces y.state.network := by
  obtain ⟨hsound, hdone⟩ := hstep.sound interference_abides (fun _ _ h => h.abides)
    (fun _ _ hpq hp => hp.later hpq) (fun _ hop _ hp => hop.reports hp) h.sound
  have hreports : x.state.Reports y.state := by
    rcases hdone with hstirs | hreports | heq
    · exact hstirs.reports
    · exact hreports
    · exact reports_of_network_eq (congrArg Pipeline.network heq)
  obtain ⟨hwatched, hannounces⟩ := hreports h.watched
  obtain ⟨log, hlog⟩ := h.chronicle
  obtain ⟨more, hmore⟩ := hlog.announces hannounces
  exact ⟨⟨hsound, hwatched, _, hmore⟩, hannounces⟩

omit [Generator γ] [Processor ω π] in
lemma heard_monitored
    (hregistry : registry.Makes fun b => b.Threaded ∧ b.Idle ∧ b.state ≠ .error) (world : ω) :
    Heard ⟨(monitored registry world : Pipeline ω γ π), none⟩ := by
  have hnew : registry.Makes fun b => b.Threaded ∧ b.Idle := fun type c s b s' hc hb =>
    ⟨(hregistry type c s b s' hc hb).1, (hregistry type c s b s' hc hb).2.1⟩
  refine ⟨⟨.inl ⟨[], rfl, rfl, .nil, by simp, hnew, ?_, ?_⟩, ⟨?_, hregistry⟩⟩, ⟨rfl, ?_⟩, [], .nil,
    ?_, rfl⟩
  all_goals simp [Network.All, Network.failure?, Network.block?, Pipeline.members, monitored]

lemma HeardRun.heard
    (hregistry : registry.Makes fun b => b.Threaded ∧ b.Idle ∧ b.state ≠ .error)
    (h : HeardRun registry x) : Heard x := by
  induction h with
  | new world => exact heard_monitored hregistry world
  | step h hstep ih => exact (ih.step hstep).1

lemma Heard.lasting (h : Heard x) (hxy : Relation.ReflTransGen (Scene.Step Stirs Call) x y)
    {i : Nat} {r : String × String} (hi : x.state.network.failure? i = some r) :
    Heard y ∧ y.state.network.failure? i = some r := by
  induction hxy with
  | refl => exact ⟨h, hi⟩
  | tail _ hstep ih =>
    obtain ⟨hheard, hannounces⟩ := ih.1.step hstep
    exact ⟨hheard, hannounces.lasting ih.2⟩

/-- What was heard of a pipeline, and what will be heard. -/
structure Candid (x : Scene (Pipeline ω γ π)) : Prop where
  /-- Each block that has failed was heard of once, with its name and its error, and no other block
  was heard of. -/
  chronicle : ∃ log, x.state.network.Chronicle log
  /-- Whatever is done next, one block at most fails for the first time, and only this is heard. -/
  announces : ∀ y, Scene.Step Stirs Call x y → x.state.network.Announces y.state.network
  /-- No failure is ever undone. -/
  lasting : ∀ y, Relation.ReflTransGen (Scene.Step Stirs Call) x y → ∀ i r,
    x.state.network.failure? i = some r → y.state.network.failure? i = some r
  /-- An error that concerns one frame only is no failure and is not heard. -/
  mishaps : ∀ m s, x.state.network.Mishap m → x.state.network.perform m = some s →
    s.heard = x.state.network.heard ∧ s.failure? = x.state.network.failure?

/-- Along each run, every failure of a block is heard exactly once, and nothing else is heard. -/
theorem failures_heard_once
    (hregistry : registry.Makes fun b => b.Threaded ∧ b.Idle ∧ b.state ≠ .error)
    (h : HeardRun registry x) : Candid x := by
  have hheard := h.heard hregistry
  exact {
    chronicle := hheard.chronicle
    announces := fun y hstep => (hheard.step hstep).2
    lasting := fun y hxy i r hi => (hheard.lasting hxy hi).2
    mishaps := fun m s hmishap hm =>
      ⟨(hmishap.calm hm).heard, (hmishap.calm hm).failure?⟩ }

/-! ### A failure at work, and one of a configuration -/

omit [Generator γ] [Processor ω π] in
/-- The blocks at hand have not failed when they are made. -/
theorem makes_sound_builtins :
    Registry.builtins.Makes fun b => b.Threaded ∧ b.Idle ∧ b.state ≠ .error := by
  apply makes_of_builtins
  intro b hb
  simp only [Block.builtins, List.map_cons, List.map_nil, List.mem_cons, List.not_mem_nil,
    or_false] at hb
  rcases hb with rfl | rfl | rfl | rfl
  all_goals exact ⟨trivial, ⟨rfl, by decide⟩, by decide⟩

/-- A graph of one source with pictures of this width. -/
def camera (width : String) : GraphConfig where
  blocks := [
    { name := "camera", type := "TestPatternSource",
      parameters := (Dict.empty.insert "height" "4294967295").insert "width" width }]

/-- There is no memory for the pictures of the first camera; the second one cannot be configured. -/
def cameraActions : List (Action FileTree TestPattern Output) :=
  .begins _ (.build (camera "1073741824")) :: List.replicate 11 .goesOn
    ++ .begins _ .start :: List.replicate 9 .goesOn ++ .moves (.source 0)
    :: .begins _ .stop :: List.replicate 10 .goesOn
    ++ .begins _ (.build (camera "0")) :: List.replicate 17 .goesOn

/-- Both failures are heard, although the blocks have the same name. -/
theorem failures_heard_once_camera : ∃ x : Scene (Pipeline FileTree TestPattern Output),
    HeardRun .builtins x ∧ Candid x ∧ x.state.network.blocks.length = 2 ∧
      x.state.network.heard = [
        ("camera", "frame generation failed: failed to allocate 13835058052060938240 bytes"),
        ("camera", "invalid parameter 'width/height': 0x4294967295 is empty")] ∧
      [0, 1].map x.state.network.failure? = x.state.network.heard.map some := by
  have hend : ∃ x ∈ follow cameraActions ⟨monitored .builtins { home := [] }, none⟩,
      x.state.network.blocks.length = 2 ∧ x.state.network.heard = [
        ("camera", "frame generation failed: failed to allocate 13835058052060938240 bytes"),
        ("camera", "invalid parameter 'width/height': 0x4294967295 is empty")] ∧
      [0, 1].map x.state.network.failure? = x.state.network.heard.map some := by
    decide +kernel
  obtain ⟨x, hx, hblocks, hheard, hfailures⟩ := hend
  have hrun : HeardRun .builtins x := holds_of_follow
    (fun _ _ h hstep _ => h.step (hstep.mono Moves.stirs fun _ h => .manager h)) (.new _) hx
  exact ⟨x, hrun, failures_heard_once makes_sound_builtins hrun, hblocks, hheard, hfailures⟩

end Pipeline

end FrameGraph
