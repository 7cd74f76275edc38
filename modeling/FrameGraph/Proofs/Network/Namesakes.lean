import FrameGraph.Proofs.Network.Confinement
import FrameGraph.Proofs.Network.Legality
import FrameGraph.Proofs.Network.Reports

/-!
# Who a block is

A block keeps its name and what it declares to be able to do, whatever is called on it and whatever
goes on in its network. The order in which blocks are started and halted rests on this. A block
whose start was not refused runs, or has failed since.
-/

namespace FrameGraph

namespace Block

variable {γ π : Type} {b b' b'' : Block γ π}

/-- The block afterwards has the name and the capabilities of the block before. -/
structure Namesake (b b' : Block γ π) : Prop where
  name : b'.name = b.name
  capabilities : b'.capabilities = b.capabilities

lemma Namesake.refl (b : Block γ π) : b.Namesake b := ⟨rfl, rfl⟩

lemma Namesake.trans (h : b.Namesake b') (h' : b'.Namesake b'') : b.Namesake b'' :=
  ⟨h'.name.trans h.name, h'.capabilities.trans h.capabilities⟩

lemma namesake_mapCore {f : BlockCore → BlockCore} (h : ∀ c, (f c).name = c.name)
    (b : Block γ π) : b.Namesake (b.mapCore f) := by
  cases b <;> exact ⟨h _, rfl⟩

lemma namesake_forgetThread (b : Block γ π) : b.Namesake b.forgetThread := by
  cases b <;> exact ⟨rfl, rfl⟩

/-- The block runs, or has failed since it did. -/
def Launched (b : Block γ π) : Prop := b.state ∈ [.running, .error]

lemma stable_launched : Stable (Launched (γ := γ) (π := π)) := by
  intro b b' h hb
  rcases h.state with hstate | hstate
  · rwa [Launched, hstate]
  · simp [Launched, hstate]

end Block

namespace Network

variable {ω γ π : Type} {s t : Network ω γ π} {i : Nat}

/-! ### What is called on a block -/

lemma ClosesAt.namesake (h : ClosesAt i s t) : StepAt Block.Namesake i s t := by
  cases h with
  | looks => exact .refl s
  | notes journal => exact .inl rfl
  | passes journal hf =>
    exact stepAt_mapCore (s := { s with journal }) (Block.namesake_mapCore fun c => (hf c).name)
  | signals => exact stepAt_mapSource (fun _ => ⟨rfl, rfl⟩) s
  | clears => exact stepAt_mapSource (fun _ => ⟨rfl, rfl⟩) s
  | halts =>
    refine stepAt_mapEngine (fun y => ⟨?_, rfl⟩) s
    simp [Block.name, Block.core, SinkEngine.halt, SinkEngine.notifyProducers]
  | forgets => exact stepAt_forgetThread Block.namesake_forgetThread s
  | discards => exact stepAt_discard (fun _ => ⟨rfl, rfl⟩) s

lemma StartsAt.namesake [Generator γ] (h : StartsAt i s t) : StepAt Block.Namesake i s t := by
  cases h with
  | closes h => exact h.namesake
  | settles source target =>
    refine stepAt_mapCore (Block.namesake_mapCore fun c => ?_) s
    unfold BlockCore.settle
    split <;> rfl
  | arms => exact stepAt_mapEngine (fun _ => ⟨rfl, rfl⟩) s
  | spawnsSource => exact stepAt_spawnSource (fun _ => ⟨rfl, rfl⟩) (fun _ _ _ => ⟨rfl, rfl⟩) s
  | spawnsSink => exact stepAt_spawnSink (fun _ => ⟨rfl, rfl⟩) s

section Configuring

variable [Generator γ] [Processor ω π]

lemma ConfiguresAt.namesake (h : ConfiguresAt i s t) : StepAt Block.Namesake i s t := by
  cases h with
  | closes h => exact h.namesake
  | engine =>
    unfold configureEngine
    split
    · rename_i x hb
      obtain ⟨state, lastError, hcore⟩ := x.core_configure s.storage
      have hnamesake : Block.Namesake (.source x : Block γ π)
          (.source (x.configure s.storage).2.1) :=
        ⟨(congrArg BlockCore.name hcore :), rfl⟩
      refine stepAt_set hb ?_ hnamesake
      simp
    · rename_i y hb
      obtain ⟨state, lastError, hcore⟩ := y.core_configure s.world
      have hnamesake : Block.Namesake (.sink y : Block γ π)
          (.sink (y.configure s.world).2.1) :=
        ⟨(congrArg BlockCore.name hcore :), rfl⟩
      refine stepAt_set hb ?_ hnamesake
      simp
    · exact .refl s
  | stage =>
    exact stepAt_mapCore (f := fun c => { c with state := .initialized })
      (Block.namesake_mapCore fun _ => rfl) s

end Configuring

lemma StepAt.namesakes (h : StepAt Block.Namesake i s t) : s.Each (fun _ => Block.Namesake) t :=
  h.each (fun _ _ _ => id) .refl

/-! ### What goes on in a network -/

/-- Blocks without a thread stay as they are. -/
def StagesStay (s t : Network ω γ π) : Prop :=
  ∀ i z, s.block? i = some (.stage z) → t.block? i = some (.stage z)

lemma stagesStay_of_blocks_eq (h : t.blocks = s.blocks) : s.StagesStay t :=
  fun i _ hz => (block?_of_blocks_eq h i).trans hz

lemma stagesStay_of_set {b b' : Block γ π} (hb : s.block? i = some b) (hthreaded : b.Threaded)
    (ht : t.blocks = s.blocks.set i b') : s.StagesStay t := by
  intro k z hz
  refine (block?_of_set_ne ht ?_).trans hz
  rintro rfl
  obtain rfl : b = .stage z := Option.some.inj (hb.symm.trans hz)
  exact hthreaded

lemma stagesStay_answer (p : Producer) (r : Except Error Unit) : s.StagesStay (s.answer p r) := by
  unfold answer
  split
  · exact stagesStay_of_blocks_eq rfl
  split
  · rename_i x hx
    split
    · exact stagesStay_of_set (source?_eq_some.1 hx) trivial rfl
    · exact stagesStay_of_blocks_eq rfl
  · exact stagesStay_of_blocks_eq rfl

lemma StagesStay.trans {u : Network ω γ π} (h : s.StagesStay t) (h' : t.StagesStay u) :
    s.StagesStay u := fun i z hz => h' i z (h i z hz)

variable [Generator γ] [Processor ω π]

lemma Effect.stagesStay {m : Move} (h : s.Effect m t) : s.StagesStay t := by
  cases h with
  | tick _ ht => exact stagesStay_of_blocks_eq ht
  | deny _ ht => exact stagesStay_of_blocks_eq ht
  | source hx _ ht => exact stagesStay_of_set hx trivial ht
  | skips hx _ _ ht => exact stagesStay_of_set hx trivial ht
  | @hands _ i x f k rest y hx _ hy _ ht =>
    -- the sink takes the frame up before the source lets it go
    let r := s.setSink k { y with engine := y.engine.approach ⟨.source i, f⟩ }
    have hx' : r.block? i = some (.source x) :=
      (block?_of_set_ne rfl (ne_of_source_of_sink hx hy).symm).trans hx
    exact (stagesStay_of_set (t := r) hy trivial rfl).trans (stagesStay_of_set hx' trivial ht)
  | seeks hy _ ht => exact stagesStay_of_set hy trivial ht
  | begins hy _ ht => exact stagesStay_of_set hy trivial ht
  | finishes _ hy _ ht => exact stagesStay_of_set hy trivial ht
  | waits hy _ _ ht => exact stagesStay_of_set hy trivial ht
  | answers r hy _ _ ht =>
    refine StagesStay.trans (t := Network.setSink s _ _) ?_
      ((stagesStay_answer _ r).trans (stagesStay_of_blocks_eq ht))
    exact stagesStay_of_set hy trivial rfl

omit [Generator γ] [Processor ω π] in
lemma Proceeds.names (h : s.Proceeds t) : s.Each (fun _ b b' => b'.name = b.name) t := by
  rcases h with hcalm | ⟨i, hfails⟩
  · exact hcalm.blocks.mono fun _ _ _ h => h.core.name
  · obtain ⟨hb, hfails, hblocks, -, -⟩ := hfails
    obtain ⟨c, hc, hcore⟩ := hfails.core
    exact each_of_set hblocks hb ((congrArg BlockCore.name hcore).trans hc.name) fun _ _ => rfl

omit [Generator γ] [Processor ω π] in
/-- What drifts is a source or a sink as before; a stage that stays declares what it did. -/
lemma capabilities_of_drift {b b' : Block γ π} (h : b.Drift b')
    (hstage : ∀ z, b = .stage z → b' = .stage z) : b'.capabilities = b.capabilities := by
  cases h with
  | source h => rfl
  | sink h => rfl
  | stage h => rw [hstage _ rfl]

lemma perform_namesakes {m : Move} (h : s.perform m = some t) :
    s.Each (fun _ => Block.Namesake) t := by
  have hdrift := (perform_effect h).drift
  have hstages := (perform_effect h).stagesStay
  refine ⟨hdrift.length, fun i b hb => ?_⟩
  obtain ⟨b', hb', hname⟩ := (perform_proceeds h).names.block i b hb
  obtain ⟨b'', hb'', hblock⟩ := hdrift.block i b hb
  obtain rfl : b' = b'' := Option.some.inj (hb'.symm.trans hb'')
  refine ⟨b', hb', hname, capabilities_of_drift hblock fun z hz => ?_⟩
  exact Option.some.inj (hb'.symm.trans (hstages i z (hz ▸ hb)))

omit [Generator γ] [Processor ω π] in
lemma namesakes_sink {y : SinkBlock π} {e : SinkEngine} (hy : s.sink? i = some y)
    (ht : t.blocks = s.blocks.set i (.sink { y with engine := e }))
    (hname : e.core.name = y.engine.core.name) : s.Each (fun _ => Block.Namesake) t :=
  each_of_set ht (sink?_eq_some.1 hy) ⟨hname, rfl⟩ fun _ => .refl

omit [Generator γ] [Processor ω π] in
lemma Intervention.namesakes (h : s.Intervention t) : s.Each (fun _ => Block.Namesake) t := by
  have hsame {u : Network ω γ π} (hu : u.blocks = s.blocks) :
      s.Each (fun _ => Block.Namesake) u := each_of_blocks_eq hu fun _ => .refl
  cases h with
  | offer i buffer =>
    unfold Network.offer
    split
    · exact hsame rfl
    · rename_i y hy
      dsimp only
      split
      · exact hsame rfl
      · exact namesakes_sink hy rfl rfl
  | offerFrame i f =>
    unfold Network.offerFrame
    split
    · exact hsame rfl
    · rename_i y hy
      split
      · exact hsame rfl
      · exact namesakes_sink hy rfl rfl
  | setMaxDepth i depth =>
    unfold Network.setMaxDepth
    split
    · exact hsame rfl
    · rename_i y hy
      have hname : (y.engine.setMaxDepth depth).2.core.name = y.engine.core.name := by
        unfold SinkEngine.setMaxDepth
        split <;> simp [SinkEngine.notifyProducers]
      exact namesakes_sink hy rfl hname
  | setPolicy i policy =>
    unfold Network.setPolicy
    split
    · exact hsame rfl
    · rename_i y hy
      exact namesakes_sink hy rfl rfl
  | fail i message =>
    cases hb : s.block? i with
    | none => simpa [Network.fail, hb] using hsame rfl
    | some b =>
      have hblock : b.Namesake (b.mapCore fun _ => (b.core.fail message).1) := by
        cases b <;> exact ⟨rfl, rfl⟩
      exact each_of_set (blocks_fail hb message) hb hblock fun _ => .refl

/-- Whatever happens to a network, its blocks keep their names and capabilities. -/
theorem Happens.namesakes (h : s.Happens t) : s.Each (fun _ => Block.Namesake) t := by
  rcases h with ⟨m, hm⟩ | h
  · exact perform_namesakes hm
  · exact h.namesakes

/-! ### Started blocks -/

section Started

omit [Generator γ] [Processor ω π]

/-- There is a block at the position. -/
abbrev Placed (i : Nat) (s : Network ω γ π) : Prop := At i (fun _ => True) s

lemma Placed.later (h : Placed i s) (hst : DriftAt i s t) : Placed i t :=
  At.later h (fun _ _ _ => id) hst

lemma request_places (hs : Placed i s) (operation : String) :
    (request i operation).Meets (DriftAt i) (fun _ _ => True) (fun _ => Placed i) s := by
  refine fun t ht => ⟨trivial, fun u hu => ?_⟩
  obtain ⟨b, hb, -⟩ := hs.later ht
  refine Placed.later ?_ hu
  simp only [hb]
  split <;> exact ⟨b, hb, trivial⟩

/-- A transition that is not refused leads to its target. -/
lemma transition_launches (hs : Placed i s) (operation : String) (sources : List BlockState) :
    (transition i operation sources .running).Meets (DriftAt i) (fun _ _ => True)
      (fun r t => ∀ source, r = .ok source → At i Block.Launched t) s := by
  refine fun t ht => ⟨trivial, fun u hu source hr => ?_⟩
  obtain ⟨b, hb, -⟩ := hs.later ht
  simp only [hb] at hr hu
  by_cases hstate : b.core.state ∈ sources
  · have hlaunched : (b.mapCore fun _ =>
        (b.core.transition operation sources .running).2).Launched := by
      rw [Block.Launched, Block.state, Block.core_mapCore]
      simp [BlockCore.transition, hstate]
    refine At.later ⟨_, ?_, hlaunched⟩ Block.stable_launched hu
    exact block?_of_set_self (blocks_setBlock) hb
  · simp [BlockCore.transition, hstate] at hr

lemma moveStage_launches (hs : Placed i s) (operation : String) (sources : List BlockState) :
    (moveStage i operation sources .running).Meets (DriftAt i) (fun _ _ => True)
      (fun r t => r = .ok () → At i Block.Launched t) s := by
  refine .bind (interference_driftAt i) ((request_places hs operation).weaken fun r t ht => ?_)
  cases r with
  | error e => exact fun u _ hr => by cases hr
  | ok _ =>
    refine .bind (interference_driftAt i) ((transition_launches ht operation sources).weaken ?_)
    intro r u hu v huv hr
    cases r with
    | error e => cases hr
    | ok source => exact (hu source rfl).later Block.stable_launched huv

/-- What the calls of a source or a sink come to says where they leave it. -/
lemma launches_of_outcome {op : Operation ω γ π (Except Error Unit)}
    {G : BlockState → Network ω γ π → Network ω γ π → Prop} (hs : At i Block.Threaded s)
    (haccepted : ∀ before ∈ [.initialized, .stopped], At i (Block.Stands before) s →
      op.Meets (DriftAt i) (G before) (fun r t => Outcome .start i before (r.mapError .error) t) s)
    (hrefused : ∀ before ∉ [.initialized, .stopped], At i (Block.Stands before) s →
      op.Meets (DriftAt i) (fun s t => t = s) (fun r t => ∃ found ∈ [before, .error],
        r = .error (.invalidState "start" found) ∧ At i (Block.Stands found) t) s) :
    op.Meets (DriftAt i) (fun _ _ => True) (fun r t => r = .ok () → At i Block.Launched t) s := by
  obtain ⟨b, hb, hthreaded⟩ := hs
  have hstands : At i (Block.Stands b.state) s := ⟨b, hb, hthreaded.stands⟩
  by_cases hstate : b.state ∈ [.initialized, .stopped]
  · refine (haccepted _ hstate hstands).mono (fun _ _ => id) (fun _ _ _ => trivial) ?_
    rintro r t hresult rfl
    rcases hresult with ⟨after, hends, hat⟩ | hrefused
    · cases hends with
      | started => exact hat.mono fun c hc => hc.state
    · cases hrefused.result
  · refine (hrefused _ hstate hstands).mono (fun _ _ => id) (fun _ _ _ => trivial) ?_
    rintro r t ⟨found, -, hresult, -⟩ rfl
    cases hresult

/-- A block whose start is not refused runs, or has failed since. -/
theorem start_launches [Generator γ] (hs : Placed i s) :
    (start i : Operation ω γ π _).Meets (DriftAt i) (fun _ _ => True)
      (fun r t => r = .ok () → At i Block.Launched t) s := by
  refine Routine.meets_get.2 fun t ht => ⟨trivial, ?_⟩
  have hplaced := hs.later ht
  obtain ⟨b, hb, -⟩ := hs.later ht
  simp only [hb]
  cases b with
  | source x =>
    exact launches_of_outcome ⟨_, hb, trivial⟩ (fun _ h hs => startSource_outcome hs h)
      fun _ h hs => refused_of_transition hs h (by simp)
  | sink y =>
    exact launches_of_outcome ⟨_, hb, trivial⟩ (fun _ h hs => startSink_outcome hs h)
      fun _ h hs => refused_of_transition hs h (by simp)
  | stage z => exact moveStage_launches hplaced "start" _

end Started

end Network

end FrameGraph
