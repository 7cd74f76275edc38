import FrameGraph.Proofs.Network.Calls
import FrameGraph.Proofs.Sink.Runs

/-!
# Turns of a sink

Whoever takes a step in a network, a thread, a producer, a caller from outside or a call that starts
or stops a sink, does one of a few things to the queue of the sink: `SinkSound.step` says so. What
each of these turns keeps is kept along every run of the sink.
-/

namespace FrameGraph

/-- What one step does to the queue of a sink. -/
inductive SinkEngine.Turn (e : SinkEngine) : SinkEngine → Prop
  | rests : Turn e e
  | approaches (o : Offer) : Turn e (e.approach o)
  | looks {i m o e'} (h : e.Picks i m o e') : Turn e (e'.consider o).2
  | seeks (h : e.worker = .seeking) : Turn e e.seek
  | begins {f} (h : e.worker = .holding f) : Turn e (e.begin f).2
  | finishes {f} (h : e.worker = .processing f) (outcome : Result Unit) (now : Nat) :
    Turn e (e.finish f outcome now).2
  | setMaxDepth (depth : Nat) : Turn e (e.setMaxDepth depth).2
  | setPolicy (policy : Backpressure) : Turn e (e.setPolicy policy)
  | fails (message : String) : Turn e { e with core := (e.core.fail message).1 }
  | unheard : Turn e { e with core := { e.core with listener := none } }
  | opens {e'} (h : e.Opens e') : Turn e e'
  | closes {e'} (h : e.Closes e') : Turn e e'

namespace Network

variable {ω γ π : Type} {s t u : Network ω γ π} {i j : Nat}

/-- The sink at a position takes a turn. -/
def TurnsAt (i : Nat) (s t : Network ω γ π) : Prop :=
  ∀ y, s.block? i = some (.sink y) →
    ∃ y', t.block? i = some (.sink y') ∧ y.engine.Turn y'.engine

/-! ### Elsewhere -/

lemma turnsAt_of_eq (h : t.block? i = s.block? i) : TurnsAt i s t :=
  fun y hy => ⟨y, h.trans hy, .rests⟩

lemma turnsAt_of_blocks_eq (h : t.blocks = s.blocks) : TurnsAt i s t :=
  turnsAt_of_eq (block?_of_blocks_eq h i)

/-- After the turn sinks are left alone. -/
lemma TurnsAt.of_sinks (h : TurnsAt i s t)
    (hu : ∀ y, t.block? i = some (.sink y) → u.block? i = some (.sink y)) : TurnsAt i s u := by
  intro y hy
  obtain ⟨y', hy', hturn⟩ := h y hy
  exact ⟨y', hu y' hy', hturn⟩

lemma turnsAt_of_set {b b' : Block γ π} (hb : s.block? j = some b)
    (ht : t.blocks = s.blocks.set j b')
    (h : ∀ y, b = .sink y → ∃ y', b' = .sink y' ∧ y.engine.Turn y'.engine) : TurnsAt i s t := by
  intro y hy
  by_cases hij : j = i
  · subst hij
    obtain ⟨y', rfl, hturn⟩ := h y (by simpa [hy] using hb.symm)
    exact ⟨y', block?_of_set_self ht hb, hturn⟩
  · exact ⟨y, (block?_of_set_ne ht hij).trans hy, .rests⟩

lemma turnsAt_of_setSink {z z' : SinkBlock π} (hz : s.block? j = some (.sink z))
    (ht : t.blocks = s.blocks.set j (.sink z')) (h : z.engine.Turn z'.engine) : TurnsAt i s t := by
  apply turnsAt_of_set hz ht
  rintro y ⟨⟩
  exact ⟨z', rfl, h⟩

lemma turnsAt_of_setSource {x : SourceBlock γ} {b' : Block γ π}
    (hx : s.block? j = some (.source x)) (ht : t.blocks = s.blocks.set j b') : TurnsAt i s t := by
  apply turnsAt_of_set hx ht
  rintro y ⟨⟩

/-! ### Steps of others -/

lemma Effect.turnsAt [Generator γ] [Processor ω π] {m : Move} (h : s.Effect m t) :
    TurnsAt i s t := by
  cases h with
  | tick _ ht => exact turnsAt_of_blocks_eq ht
  | deny _ ht => exact turnsAt_of_blocks_eq ht
  | source hx _ ht => exact turnsAt_of_setSource hx ht
  | skips hx _ _ ht => exact turnsAt_of_setSource hx ht
  | @hands _ j x f k rest z hx _ hz _ ht =>
    have happroach : TurnsAt i s (s.setSink k { z with
        engine := z.engine.approach ⟨.source j, f⟩ }) :=
      turnsAt_of_setSink hz (blocks_setSink _) (.approaches _)
    refine happroach.of_sinks fun y hy => ?_
    have hji : j ≠ i := ne_of_source_of_sink
      ((block?_of_set_ne (blocks_setSink _) (ne_of_source_of_sink hx hz).symm).trans hx) hy
    exact (block?_of_set_ne ht hji).trans hy
  | seeks hz hworker ht => exact turnsAt_of_setSink hz ht (.seeks hworker)
  | begins hz hworker ht => exact turnsAt_of_setSink hz ht (.begins hworker)
  | finishes _ hz hworker ht => exact turnsAt_of_setSink hz ht (.finishes hworker _ _)
  | waits hz hpick _ ht => exact turnsAt_of_setSink hz ht (.looks hpick)
  | @answers _ _ k z o e r hz hpick _ ht =>
    have hlook : TurnsAt i s (s.setSink k { z with engine := (e.consider o).2 }) :=
      turnsAt_of_setSink hz (blocks_setSink _) (.looks hpick)
    refine hlook.of_sinks fun y hy => ?_
    rw [block?_of_blocks_eq ht]
    exact block?_answer hy _ _

lemma Intervention.turnsAt (h : s.Intervention t) : TurnsAt i s t := by
  cases h with
  | offer j b =>
    simp only [Network.offer]
    split
    · exact turnsAt_of_blocks_eq rfl
    · rename_i z hz
      split
      · exact turnsAt_of_blocks_eq rfl
      · exact turnsAt_of_setSink (sink?_eq_some.1 hz) rfl (.approaches _)
  | offerFrame j f =>
    simp only [Network.offerFrame]
    split
    · exact turnsAt_of_blocks_eq rfl
    · rename_i z hz
      split
      · exact turnsAt_of_blocks_eq rfl
      · exact turnsAt_of_setSink (sink?_eq_some.1 hz) rfl (.approaches _)
  | setMaxDepth j depth =>
    simp only [Network.setMaxDepth]
    split
    · exact turnsAt_of_blocks_eq rfl
    · rename_i z hz
      exact turnsAt_of_setSink (sink?_eq_some.1 hz) rfl (.setMaxDepth depth)
  | setPolicy j policy =>
    simp only [Network.setPolicy]
    split
    · exact turnsAt_of_blocks_eq rfl
    · rename_i z hz
      exact turnsAt_of_setSink (sink?_eq_some.1 hz) rfl (.setPolicy policy)
  | fail j message =>
    cases hb : s.block? j with
    | none => exact turnsAt_of_blocks_eq (by simp [Network.fail, hb])
    | some b =>
      apply turnsAt_of_set hb (blocks_fail hb message)
      rintro y rfl
      exact ⟨_, rfl, .fails message⟩

lemma Befalls.turnsAt [Generator γ] [Processor ω π] (h : Befalls i s t) : TurnsAt i s t := by
  rcases h with (⟨m, hm⟩ | h) | h
  · exact (perform_effect hm).turnsAt
  · exact h.turnsAt
  · exact turnsAt_of_eq h

/-! ### Steps of calls -/

lemma StepAt.turnsAt (h : StepAt Block.Control i s t) : TurnsAt i s t := by
  rcases h with ht | ⟨b, b', hb, hcontrol, ht⟩
  · exact turnsAt_of_blocks_eq ht
  · apply turnsAt_of_set hb ht
    rintro y rfl
    rcases hcontrol with hopens | hcloses
    · cases hopens with
      | sink hopens => exact ⟨_, rfl, .opens hopens⟩
    · cases hcloses with
      | sink hcloses => exact ⟨_, rfl, .closes hcloses⟩
      | unheard => exact ⟨_, rfl, .unheard⟩

/-! ### Runs -/

variable [Generator γ] [Processor ω π] {x y : Scene (Network ω γ π)} {P : SinkEngine → Prop}

/-- The call that is under way on a sink will come to its end as it should. -/
abbrev SinkSound (i : Nat) : Scene (Network ω γ π) → Prop :=
  Scene.Sound (DriftAt i) (StepAt Block.Control i) (At i fun b => b.Threaded ∧ b.Ready)

/-- One step around a sink that is started and stopped, one call after the other. -/
abbrev SinkStep (i : Nat) : Scene (Network ω γ π) → Scene (Network ω γ π) → Prop :=
  Scene.Step (Befalls i) (LifecycleCall i)

/-- One thing leads to another around a sink. -/
abbrev SinkLeads (i : Nat) : Scene (Network ω γ π) → Scene (Network ω γ π) → Prop :=
  Relation.ReflTransGen (SinkStep i)

/-- The runs of a sink that was not used yet, with nobody waiting. -/
def QueueRun (i : Nat) (x : Scene (Network ω γ π)) : Prop :=
  ∃ s y, s.sink? i = some y ∧ y.engine.Unused ∧ y.engine.waiting = [] ∧ SinkLeads i ⟨s, none⟩ x

lemma sinkStep_move {call : Option (Operation ω γ π Unit)} (m : Move)
    (hm : s.perform m = some t) : SinkStep i ⟨s, call⟩ ⟨t, call⟩ := .other (.inl (.inl ⟨m, hm⟩))

lemma sinkStep_intervention {call : Option (Operation ω γ π Unit)} (ht : s.Intervention t) :
    SinkStep i ⟨s, call⟩ ⟨t, call⟩ := .other (.inl (.inr ht))

/-- Each step of a run is a turn of the sink. -/
theorem SinkSound.step (hx : SinkSound i x) (hxy : SinkStep i x y) :
    SinkSound i y ∧ TurnsAt i x.state y.state := by
  have hJ (s t : Network ω γ π) (hst : DriftAt i s t)
      (hs : At i (fun b => b.Threaded ∧ b.Ready) s) : At i (fun b => b.Threaded ∧ b.Ready) t :=
    hs.later (Block.stable_threaded.and Block.stable_ready) hst
  obtain ⟨hy, hstep⟩ := hxy.sound (interference_driftAt i) (fun _ _ h => h.undergoes.drift) hJ
    (fun _ hop _ hs => hop.meets hs) hx
  refine ⟨hy, ?_⟩
  rcases hstep with hbefalls | hcontrol | heq
  · exact hbefalls.turnsAt
  · exact hcontrol.turnsAt
  · exact turnsAt_of_blocks_eq (by rw [heq])

lemma SinkSound.leads (hx : SinkSound i x) (hxy : SinkLeads i x y) : SinkSound i y := by
  induction hxy with
  | refl => exact hx
  | tail _ hstep ih => exact (ih.step hstep).1

omit [Generator γ] [Processor ω π] in
lemma TurnsAt.keeps (h : TurnsAt i s t) (hP : ∀ e e', e.Turn e' → P e → P e')
    (hs : At i (Block.IsSink P) s) : At i (Block.IsSink P) t := by
  obtain ⟨b, hb, hPb⟩ := hs
  obtain ⟨y, rfl, hy⟩ := Block.isSink_iff.1 hPb
  obtain ⟨y', hy', hturn⟩ := h y hb
  exact ⟨_, hy', hP _ _ hturn hy⟩

/-- What each turn keeps is kept along each run. -/
theorem SinkSound.keeps (hx : SinkSound i x) (hxy : SinkLeads i x y)
    (hP : ∀ e e', e.Turn e' → P e → P e') (hs : At i (Block.IsSink P) x.state) :
    At i (Block.IsSink P) y.state := by
  induction hxy with
  | refl => exact hs
  | tail hleads hstep ih => exact ((hx.leads hleads).step hstep).2.keeps hP ih

omit [Generator γ] [Processor ω π] in
lemma sinkSound_of_unused {z : SinkBlock π} (hz : s.sink? i = some z) (h : z.engine.Unused) :
    SinkSound i ⟨s, none⟩ := by
  refine ⟨_, sink?_eq_some.1 hz, trivial, fun _ => ?_⟩
  simp [Block.hasThread, h.worker]

lemma QueueRun.sound (h : QueueRun i x) : SinkSound i x := by
  obtain ⟨s, z, hz, hunused, -, hleads⟩ := h
  exact (sinkSound_of_unused hz hunused).leads hleads

lemma QueueRun.leads (h : QueueRun i x) (hxy : SinkLeads i x y) : QueueRun i y := by
  obtain ⟨s, z, hz, hunused, hwaiting, hleads⟩ := h
  exact ⟨s, z, hz, hunused, hwaiting, hleads.trans hxy⟩

/-- What holds of a sink at the beginning and is kept by each turn holds along each run. -/
theorem QueueRun.keeps (h : QueueRun i x) (hP : ∀ e e', e.Turn e' → P e → P e')
    (hnew : ∀ e : SinkEngine, e.Unused → e.waiting = [] → P e) :
    ∃ y, x.state.sink? i = some y ∧ P y.engine := by
  obtain ⟨s, z, hz, hunused, hwaiting, hleads⟩ := h
  obtain ⟨b, hb, hPb⟩ := (sinkSound_of_unused hz hunused).keeps hleads hP
    ⟨_, sink?_eq_some.1 hz, hnew _ hunused hwaiting⟩
  obtain ⟨y, rfl, hy⟩ := Block.isSink_iff.1 hPb
  exact ⟨y, sink?_eq_some.2 hb, hy⟩

end Network

end FrameGraph
