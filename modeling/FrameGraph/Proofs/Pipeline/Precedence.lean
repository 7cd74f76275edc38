import FrameGraph.Proofs.Pipeline.Accounts
import FrameGraph.Proofs.Pipeline.Links

/-!
# No source without its sinks

At each moment of a run, also in the middle of a start, of its rollback or of a stop, the sinks of
the graph are up as long as some source has a thread. So no frame of a source is turned away because
a sink is not yet started or about to stop.
-/

namespace FrameGraph.Pipeline

variable {ω γ π : Type} [Generator γ] [Processor ω π]
variable {registry : Registry ω (Block γ π)} {p q : Pipeline ω γ π}
variable {x y : Scene (Pipeline ω γ π)}

/-- What is kept along a run. -/
structure Attached (registry : Registry ω (Block γ π)) (x : Scene (Pipeline ω γ π)) : Prop where
  sound : x.Sound Drift Does Steady
  registry : x.state.registry = registry
  orderly : x.state.Orderly
  linked : x.state.Linked

omit [Generator γ] [Processor ω π] in
lemma attached_new (hregistry : registry.Makes fun b => b.Idle ∧ b.Fresh) (world : ω) :
    Attached registry ⟨.new registry world, none⟩ := by
  have hblock (i : Nat) : (Pipeline.new registry world).network.block? i = none := rfl
  refine ⟨.inl (quiet_new ?_ world), rfl, ?_, fun i => rfl, ?_⟩
  · intro type c s b s' hc hb
    obtain ⟨hidle, hfresh⟩ := hregistry type c s b s' hc hb
    exact ⟨hfresh.threaded, hidle⟩
  · simp [Orderly, hblock]
  · simp [Network.All, hblock]

/-- What others do keeps all links good. -/
lemma Linked.occurs (hp : p.Linked) (horderly : p.Orderly) (h : p.Occurs q) : q.Linked := by
  cases h with
  | happens h =>
    rcases h with ⟨m, hm⟩ | h
    · exact hp.move horderly (Network.perform_effect hm)
    · exact hp.intervention h
  | elsewhere h => exact hp.blocks_eq rfl h

omit [Generator γ] [Processor ω π] in
/-- Each step of any call keeps all links good. -/
lemma Linked.does (hp : p.Linked) (hregistry : p.registry.Makes Block.Fresh) (h : p.Does q) :
    q.Linked := by
  obtain ⟨hdeed | ⟨i, rfl⟩, hq⟩ := h
  · exact hp.deed hregistry hdeed hq
  · exact hp.resets i

lemma Attached.step (hregistry : registry.Makes fun b => b.Idle ∧ b.Fresh)
    (h : Attached registry x) (hstep : Scene.Step Occurs Call x y) : Attached registry y := by
  obtain ⟨hsound, hoccurs | hdoes | heq⟩ := sound_step hstep h.sound
  · have hdrift := hoccurs.drift
    refine ⟨hsound, ?_, h.orderly.later hdrift, h.linked.occurs h.orderly hoccurs⟩
    rw [hdrift.rest]
    exact h.registry
  · refine ⟨hsound, hdoes.registry.trans h.registry, hdoes.2, h.linked.does ?_ hdoes⟩
    rw [h.registry]
    exact fun type c s b s' hc hb => (hregistry type c s b s' hc hb).2
  · refine ⟨hsound, ?_, ?_, ?_⟩
    all_goals rw [heq]
    · exact h.registry
    · exact h.orderly
    · exact h.linked

theorem Run.attached (hregistry : registry.Makes fun b => b.Idle ∧ b.Fresh)
    (h : Run registry x) : Attached registry x := by
  induction h with
  | new world => exact attached_new hregistry world
  | step h hstep ih => exact ih.step hregistry hstep

omit [Generator γ] [Processor ω π] in
/-- A sink turns a frame away at once only if it is empty, or the sink does not run. -/
lemma precheck_eq_error {e : SinkEngine} {f : Frame} {r : Error} (h : e.precheck f = .error r) :
    f.buffer.isValid = false ∨ f.buffer.size = 0 ∨ e.core.state ≠ .running := by
  unfold SinkEngine.precheck at h
  split at h
  · rename_i hempty
    rw [Bool.or_eq_true, Bool.not_eq_true', beq_iff_eq] at hempty
    exact hempty.imp_right .inl
  · split at h
    · rename_i hstate
      exact .inr (.inr (by simpa using hstate))
    · cases h

/-- While a source has a thread, every sink of the graph runs or has failed, and is not about to
stop. A frame of the source that a sink turns away at once is empty, or the sink has failed; and
none is turned away at the queue. -/
theorem sinks_outlast_sources {call : Option (Operation ω γ π Unit)}
    (hregistry : registry.Makes fun b => b.Idle ∧ b.Fresh) (h : Run registry ⟨p, call⟩) :
    (∀ i x, p.network.block? i = some (.source x) → x.thread ≠ .absent →
      ∀ e ∈ p.entries, ∀ y, p.network.block? e.2 = some (.sink y) →
        y.core.state ∈ [.running, .error] ∧ y.engine.stopping = false) ∧
    (∀ i x f k rest, p.network.block? i = some (.source x) →
      x.thread = .delivering f (k :: rest) → ∃ y, p.network.block? k = some (.sink y) ∧
        ∀ r, y.engine.precheck f = .error r →
          f.buffer.isValid = false ∨ f.buffer.size = 0 ∨ y.core.state = .error) ∧
    (∀ k y i m o e, p.network.block? k = some (.sink y) → y.engine.Picks k m o e →
      o.producer = .source i → ∀ r, (e.consider o).1 ≠ .refused r) := by
  obtain ⟨-, -, horderly, hlinked⟩ := h.attached hregistry
  have hup {i k : Nat} {x : SourceBlock γ} {y : SinkBlock π}
      (hx : p.network.block? i = some (.source x)) (hthread : x.thread ≠ .absent)
      (hk : k ∈ p.members) (hy : p.network.block? k = some (.sink y)) :
      (Block.sink y : Block γ π).Up :=
    (horderly i x hx hthread).2 k hk y hy
  refine ⟨fun i x hx hthread e he y hy => ?_, fun i x f k rest hx hthread => ?_,
    fun k y i m o e hy hpick hproducer r hrefused => ?_⟩
  · have hsink := hup hx hthread (List.mem_map.2 ⟨e, he, rfl⟩) hy
    exact ⟨hsink.state, hsink.isOpen.1⟩
  · obtain ⟨hk, hsome⟩ := (hlinked.source hx).1 k (by simp [hthread])
    obtain ⟨y, hy⟩ := Option.isSome_iff_exists.1 hsome
    rw [Network.sink?_eq_some] at hy
    refine ⟨y, hy, fun r hr => (precheck_eq_error hr).imp_right (.imp_right fun hstate => ?_)⟩
    have hsink := hup hx (by simp [hthread]) hk hy
    exact (List.mem_pair.1 hsink.state).resolve_left hstate
  · have ho : o ∈ y.engine.pending := hpick.pending.mem_iff.2 List.mem_cons_self
    obtain ⟨hk, x, f, rest, hx, hthread⟩ := hlinked.submitting hy ho hproducer
    have hstop : y.engine.stopping = false := (hup hx (by simp [hthread]) hk hy).isOpen.1
    have hstop' : e.stopping = false := by cases hpick <;> exact hstop
    unfold SinkEngine.consider at hrefused
    rw [if_neg (by simp [hstop'])] at hrefused
    split at hrefused
    · cases hrefused
    · split at hrefused <;> cases hrefused

lemma Proceeds.occurs (h : p.Proceeds q) : p.Occurs q := by
  cases h with
  | moves m hm => exact .happens (.inl ⟨m, hm⟩)
  | elsewhere hblocks => exact .elsewhere hblocks

lemma WholesomeRun.run (h : WholesomeRun registry x) : Run registry x := by
  induction h with
  | new world => exact .new world
  | step _ hstep _ ih => exact ih.step (hstep.mono Proceeds.occurs fun _ => .manager)

/-- The graph is built and started, and it is being stopped while a frame is on its way. -/
def pairHalfway : List (Action FileTree TestPattern Output) :=
  .begins _ (.build pair) :: List.replicate 16 .goesOn
    ++ .begins _ .start :: List.replicate 14 .goesOn
    ++ [.moves (.source 0), .moves (.source 0)] ++ .begins _ .stop :: List.replicate 6 .goesOn

/-- The source still has its frame, and the sink does not stop yet. -/
theorem sinks_outlast_sources_pair : ∃ (p : Pipeline FileTree TestPattern Output)
    (call : Option (Operation FileTree TestPattern Output Unit)),
    Run .builtins ⟨p, call⟩ ∧ call.isSome = true ∧
      (∃ x, p.network.block? 0 = some (.source x) ∧ x.thread ≠ .absent ∧ x.stop.raised = true) ∧
      ∃ y, p.network.block? 1 = some (.sink y) ∧ y.core.state ∈ [.running, .error] ∧
        y.engine.stopping = false := by
  have hnew : WholesomeRun .builtins ⟨.new .builtins { home := [] }, none⟩ := .new _
  have hhalf : ∃ x ∈ follow pairHalfway ⟨.new .builtins { home := [] }, none⟩,
      x.call.isSome = true ∧ x.state.entries = [("camera", 0), ("screen", 1)] ∧
        (∃ b ∈ x.state.network.source? 0, b.thread.frame?.isSome = true ∧ b.stop.raised = true) ∧
        (x.state.network.sink? 1).isSome = true := by
    decide +kernel
  obtain ⟨⟨p, call⟩, hx, hcall, hentries, ⟨b, hb, hthread, hraised⟩, hsink⟩ := hhalf
  obtain ⟨y, hy⟩ := Option.isSome_iff_exists.1 hsink
  have hrun : Run .builtins ⟨p, call⟩ := (hnew.follow hx).run
  have hsource : p.network.block? 0 = some (.source b) := Network.source?_eq_some.1 hb
  have hthread' : b.thread ≠ .absent := fun h => by simp [h, SourceThread.frame?] at hthread
  have hscreen : ("screen", 1) ∈ p.entries := by
    rw [show p.entries = _ from hentries]
    simp
  obtain ⟨hup, -, -⟩ := sinks_outlast_sources makes_fresh_builtins hrun
  have hy' : p.network.block? 1 = some (.sink y) := Network.sink?_eq_some.1 hy
  exact ⟨p, call, hrun, hcall, ⟨b, hsource, hthread', hraised⟩, y, hy',
    hup 0 b hsource hthread' ("screen", 1) hscreen y hy'⟩

end FrameGraph.Pipeline
