import FrameGraph.Proofs.Network.Closing
import FrameGraph.Proofs.Network.Configure
import FrameGraph.Proofs.Network.Failures
import FrameGraph.Proofs.Network.Steps

/-!
# Listening to blocks

A block with a thread is listened to, and once it has failed it does not go on working. No step with
which a block is started or taken down makes it fail, or undoes that it has failed.
-/

namespace FrameGraph

/-! ### Blocks -/

namespace Block

variable {γ π : Type} {b b' b'' : Block γ π} {message : String}

/-- Someone listens to the failures of the block. -/
def IsHeard (b : Block γ π) : Prop := b.core.listener.isSome = true

/-- A block with a thread is listened to, and it does not work any more once it has failed. -/
structure Watched (b : Block γ π) : Prop where
  listener : b.hasThread = true → b.IsHeard
  rests : b.state = .error → ¬b.AtWork

/-- What goes on in a block while nobody calls anything on it: a block without a thread stays as it
is. -/
structure Abides (b b' : Block γ π) : Prop where
  listener : b'.core.listener = b.core.listener
  thread : b'.hasThread = b.hasThread
  state : b.hasThread = false → b'.state = b.state
  threaded : b.Threaded → b'.Threaded

/-- A step that does not make the block fail, and does not undo its failure. -/
structure Persists (b b' : Block γ π) : Prop where
  failure : b'.failure? = b.failure?
  listener : b'.core.listener = b.core.listener
  watched : b.Watched → b'.Watched

/-- A step that starts no thread and leaves the listener alone. -/
structure Preserves (b b' : Block γ π) : Prop where
  listener : b'.core.listener = b.core.listener
  thread : b.hasThread = false → b'.hasThread = false
  threaded : b.Threaded → b'.Threaded

/-- A step that does neither. -/
structure Eases (b b' : Block γ π) : Prop extends Persists b b', Preserves b b'

/-- A block without a thread that is listened to. -/
structure Dormant (b : Block γ π) : Prop where
  thread : b.hasThread = false
  heard : b.IsHeard

/-- The block is about to get its thread. -/
structure Starting (b : Block γ π) : Prop extends Dormant b where
  state : b.state = .starting

lemma watched_of_threadless (h : b.hasThread = false) : b.Watched where
  listener hthread := by simp [h] at hthread
  rests _ hwork := by
    have hthread := hwork.hasThread
    simp [h] at hthread

lemma Calm.watched (h : b.Calm b') (hb : b.Watched) : b'.Watched where
  listener hthread := by
    rw [IsHeard, h.core.listener]
    exact hb.listener (h.thread ▸ hthread)
  rests hstate hwork := by
    rw [h.state] at hstate
    exact (h.work hwork).elim (hb.rests hstate) fun hne => hne hstate

lemma Fails.watched (h : b.Fails message b') (hb : b.Watched) : b'.Watched where
  listener _ := by
    rw [IsHeard, h.listener]
    exact hb.listener h.work.hasThread
  rests _ := h.rests

/-- A watched block that fails has not failed before. -/
lemma Fails.fresh (h : b.Fails message b') (hb : b.Watched) : b.failure? = none :=
  failure?_eq_none.2 fun hstate => hb.rests hstate h.work

lemma threaded_of_hasThread (h : b.hasThread = true) : b.Threaded := by
  cases b with
  | source x => trivial
  | sink y => trivial
  | stage z => simp [hasThread] at h

lemma Calm.abides (h : b.Calm b') : b.Abides b' where
  listener := h.core.listener
  thread := h.thread
  state _ := h.state
  threaded := h.threaded

lemma Fails.abides (h : b.Fails message b') : b.Abides b' where
  listener := h.listener
  thread := h.thread.trans h.work.hasThread.symm
  state hb := absurd (hb.symm.trans h.work.hasThread) (by simp)
  threaded _ := threaded_of_hasThread h.thread

lemma Abides.refl (b : Block γ π) : b.Abides b := ⟨rfl, rfl, fun _ => rfl, id⟩

lemma Abides.trans (h : b.Abides b') (h' : b'.Abides b'') : b.Abides b'' where
  listener := h'.listener.trans h.listener
  thread := h'.thread.trans h.thread
  state hb := (h'.state (h.thread.trans hb)).trans (h.state hb)
  threaded := h'.threaded ∘ h.threaded

lemma Preserves.refl (b : Block γ π) : b.Preserves b := ⟨rfl, id, id⟩

lemma Abides.preserves (h : b.Abides b') : b.Preserves b' :=
  ⟨h.listener, fun hb => h.thread.trans hb, h.threaded⟩

lemma isHeard_of_abides (b b' : Block γ π) (h : b.Abides b') (hb : b.IsHeard) : b'.IsHeard := by
  rwa [IsHeard, h.listener]

lemma dormant_of_abides (b b' : Block γ π) (h : b.Abides b') (hb : b.Dormant) : b'.Dormant :=
  ⟨h.thread.trans hb.thread, isHeard_of_abides b b' h hb.heard⟩

lemma starting_of_abides (b b' : Block γ π) (h : b.Abides b') (hb : b.Starting) : b'.Starting :=
  ⟨dormant_of_abides b b' h hb.toDormant, (h.state hb.thread).trans hb.state⟩

lemma Dormant.enter_starting (h : b.Dormant) : (b.enter .starting).Starting where
  thread := (hasThread_mapCore _).trans h.thread
  heard := by
    have hheard := h.heard
    cases b <;> exact hheard
  state := state_enter _

/-- The thread of a block may be started when the block has not failed and is listened to. -/
lemma Starting.persists (h : b.Starting) (hcore : b'.core = b.core) : b.Persists b' where
  failure := failure?_congr (congrArg BlockCore.name hcore)
    (by rw [Block.state, hcore, Block.state]) (congrArg BlockCore.lastError hcore)
  listener := congrArg BlockCore.listener hcore
  watched _ := {
    listener := fun _ => by
      rw [IsHeard, hcore]
      exact h.heard
    rests := fun hstate => by
      have hstarting : b'.state = .starting := (congrArg BlockCore.state hcore).trans h.state
      simp [hstarting] at hstate }

/-- What makes a step one that eases a block. -/
lemma eases_of (hname : b'.name = b.name) (hstate : b'.state = .error ↔ b.state = .error)
    (herror : b'.core.lastError = b.core.lastError)
    (hlistener : b'.core.listener = b.core.listener)
    (hthread : b'.hasThread = true → b.hasThread = true) (hwork : b'.AtWork → b.AtWork)
    (hthreaded : b.Threaded → b'.Threaded) : b.Eases b' where
  failure := failure?_congr hname hstate herror
  listener := hlistener
  watched hb := {
    listener := fun h => by
      rw [IsHeard, hlistener]
      exact hb.listener (hthread h)
    rests := fun h hwork' => hb.rests (hstate.1 h) (hwork hwork') }
  thread h := by
    rw [← Bool.not_eq_true] at h ⊢
    exact mt hthread h
  threaded := hthreaded

lemma Calm.eases (h : b.Calm b') : b.Eases b' where
  failure := h.failure?
  listener := h.core.listener
  watched := h.watched
  thread hb := h.thread.trans hb
  threaded := h.threaded

lemma Eases.refl (b : Block γ π) : b.Eases b := (Calm.refl b).eases

lemma atWork_mapCore {f : BlockCore → BlockCore} : (b.mapCore f).AtWork ↔ b.AtWork := by
  cases b <;> exact .rfl

lemma core_mapCore (f : BlockCore → BlockCore) (b : Block γ π) : (b.mapCore f).core = f b.core := by
  cases b <;> rfl

lemma eases_mapCore {f : BlockCore → BlockCore} (hname : ∀ c, (f c).name = c.name)
    (hstate : ∀ c, (f c).state = .error ↔ c.state = .error)
    (herror : ∀ c, (f c).lastError = c.lastError) (hlistener : ∀ c, (f c).listener = c.listener)
    (b : Block γ π) : b.Eases (b.mapCore f) := by
  have hcore := core_mapCore f b
  refine eases_of ?_ ?_ ?_ ?_ ?_ atWork_mapCore.1 fun h => h.mapCore f
  · rw [name, hcore, hname]
    rfl
  · rw [state, hcore, hstate]
    exact .rfl
  · rw [hcore, herror]
  · rw [hcore, hlistener]
  · rw [hasThread_mapCore]
    exact id

lemma eases_passes {f : BlockCore → BlockCore} (h : ∀ c : BlockCore, c.Passes (f c))
    (b : Block γ π) : b.Eases (b.mapCore f) :=
  eases_mapCore (fun c => (h c).name) (fun c => (h c).error_iff) (fun c => (h c).lastError)
    (fun c => (h c).listener) b

lemma eases_forgetThread (b : Block γ π) : b.Eases b.forgetThread := by
  cases b with
  | source x =>
    exact eases_of rfl .rfl rfl rfl (by simp [forgetThread, Block.hasThread])
      (fun h => absurd rfl h.1) id
  | sink y =>
    refine eases_of rfl .rfl rfl rfl (by simp [forgetThread, Block.hasThread]) ?_ id
    rintro ⟨_, h⟩
    simp at h
  | stage z => exact .refl _

end Block

/-! ### Steps that are not heard -/

namespace SinkEngine

variable (e : SinkEngine)

lemma calm_halt : e.Calm e.halt := by
  refine .of_worker ?_ ?_
  · simpa [halt, notifyProducers] using BlockCore.Recounts.refl e.core
  · simp only [halt, notifyProducers, wakeWorker]
    split <;> rfl

lemma calm_discard : e.Calm e.discard.2 := calm_of_worker_eq ⟨_, rfl⟩ rfl

end SinkEngine

namespace Network

variable {ω γ π : Type} {s t u : Network ω γ π} {i : Nat} {G G' : Block γ π → Block γ π → Prop}

/-- A step on the block `i` that is not heard. -/
structure Mute (G : Block γ π → Block γ π → Prop) (i : Nat) (s t : Network ω γ π) : Prop where
  heard : t.heard = s.heard
  listening : t.listening = s.listening
  step : StepAt G i s t

lemma Mute.mono (h : Mute G i s t) (hG : ∀ b b', G b b' → G' b b') : Mute G' i s t :=
  ⟨h.heard, h.listening, h.step.mono hG⟩

lemma mute_of_blocks_eq (hblocks : t.blocks = s.blocks) (hheard : t.heard = s.heard)
    (hlistening : t.listening = s.listening) : Mute G i s t := ⟨hheard, hlistening, .inl hblocks⟩

lemma mute_mapCore {f : BlockCore → BlockCore} (h : ∀ b : Block γ π, G b (b.mapCore f))
    (s : Network ω γ π) : Mute G i s (s.mapCore i f) := by
  refine ⟨?_, ?_, stepAt_mapCore h s⟩
  all_goals
    unfold mapCore
    split <;> rfl

lemma mute_mapSource {f : SourceBlock γ → SourceBlock γ}
    (h : ∀ x : SourceBlock γ, G (.source x) (.source (f x))) (s : Network ω γ π) :
    Mute G i s (s.mapSource i f) := by
  refine ⟨?_, ?_, stepAt_mapSource h s⟩
  all_goals
    unfold mapSource
    split <;> rfl

lemma mute_mapEngine {f : SinkEngine → SinkEngine}
    (h : ∀ y : SinkBlock π, G (.sink y) (.sink { y with engine := f y.engine }))
    (s : Network ω γ π) : Mute G i s (s.mapEngine i f) := by
  refine ⟨?_, ?_, stepAt_mapEngine h s⟩
  all_goals
    unfold mapEngine
    split <;> rfl

/-- Taking a block down is not heard. -/
lemma ClosesAt.mute (h : ClosesAt i s t) : Mute Block.Eases i s t := by
  cases h with
  | looks => exact mute_of_blocks_eq rfl rfl rfl
  | notes journal => exact mute_of_blocks_eq rfl rfl rfl
  | passes journal hf =>
    obtain ⟨hheard, hlistening, hstep⟩ :=
      mute_mapCore (i := i) (Block.eases_passes hf) { s with journal }
    exact ⟨hheard, hlistening, hstep⟩
  | signals =>
    refine mute_mapSource (fun x => ?_) s
    exact Block.Calm.eases (Block.calm_of_thread_eq (.refl _) rfl)
  | clears =>
    refine mute_mapSource (fun x => ?_) s
    exact Block.Calm.eases (Block.calm_of_thread_eq (.refl _) rfl)
  | halts => exact mute_mapEngine (fun y => (y.engine.calm_halt).block.eases) s
  | forgets =>
    refine ⟨?_, ?_, stepAt_forgetThread Block.eases_forgetThread s⟩
    all_goals
      unfold forgetThread
      split <;> rfl
  | discards =>
    refine ⟨?_, ?_, stepAt_discard (fun y => (y.engine.calm_discard).block.eases) s⟩
    all_goals
      unfold discard
      split <;> rfl

/-! ### Starting -/

/-- What goes on at a position while nobody calls anything on the block. -/
def AbidesAt (i : Nat) (s t : Network ω γ π) : Prop :=
  ∀ b, s.block? i = some b → ∃ b', t.block? i = some b' ∧ b.Abides b'

lemma interference_abidesAt (i : Nat) :
    Routine.Interference (AbidesAt (ω := ω) (γ := γ) (π := π) i) where
  refl _ b hb := ⟨b, hb, .refl b⟩
  trans h h' b hb := by
    obtain ⟨b', hb', habides⟩ := h b hb
    obtain ⟨b'', hb'', habides'⟩ := h' b' hb'
    exact ⟨b'', hb'', habides.trans habides'⟩

lemma At.abides {P : Block γ π → Prop} (h : At i P s)
    (hP : ∀ b b' : Block γ π, b.Abides b' → P b → P b') (hst : AbidesAt i s t) : At i P t := by
  obtain ⟨b, hb, hPb⟩ := h
  obtain ⟨b', hb', habides⟩ := hst b hb
  exact ⟨b', hb', hP b b' habides hPb⟩

/-- An operation that takes its block down is not heard. -/
lemma Closing.eases {α : Type} {op : Operation ω γ π α} (h : Closing i op) (s : Network ω γ π) :
    op.Meets (AbidesAt i) (Mute Block.Eases i) (fun _ _ => True) s :=
  (h s trivial).mono (fun _ _ _ => trivial) (fun _ _ hstep => hstep.mute) fun _ _ => id

lemma Closing.persists {α : Type} {op : Operation ω γ π α} (h : Closing i op)
    (s : Network ω γ π) :
    op.Meets (AbidesAt i) (Mute Block.Persists i) (fun _ _ => True) s :=
  (h.eases s).mono (fun _ _ => id) (fun _ _ hstep => hstep.mono fun _ _ h => h.toPersists)
    fun _ _ => id

lemma start_persists_of_transition {k : BlockState → Operation ω γ π (Except Error Unit)}
    (hs : At i Block.Dormant s)
    (hk : ∀ t source, source ∈ [.initialized, .stopped] → At i Block.Starting t →
      (k source).Meets (AbidesAt i) (Mute Block.Persists i) (fun _ _ => True) t) :
    (do match ← transition i "start" [.initialized, .stopped] .starting with
      | .error e => return .error e
      | .ok source => k source : Operation ω γ π (Except Error Unit)).Meets (AbidesAt i)
      (Mute Block.Persists i) (fun _ _ => True) s := by
  have hclosing : Closing i (transition i "start" [.initialized, .stopped] .starting :
      Operation ω γ π _) := closing_transition (by simp) (by simp) "start"
  refine Routine.meets_modifyGet.2 fun t ht => ⟨((hclosing.persists t) t ?_).1, ?_⟩
  · exact (interference_abidesAt i).refl t
  obtain ⟨b, hb, hdormant⟩ := hs.abides Block.dormant_of_abides ht
  simp only [hb]
  by_cases hstate : b.core.state ∈ [.initialized, .stopped]
  · have hblock : b.mapCore (fun _ => (b.core.transition "start" [.initialized, .stopped]
        .starting).2) = b.enter .starting :=
      Block.mapCore_congr (by simp [BlockCore.transition, hstate])
    rw [hblock, show (b.core.transition "start" [.initialized, .stopped] .starting).1 =
      .ok b.core.state by simp [BlockCore.transition, hstate]]
    exact hk _ _ hstate ⟨_, block?_of_set_self (blocks_setBlock) hb, hdormant.enter_starting⟩
  · rw [show (b.core.transition "start" [.initialized, .stopped] .starting).1 = .error _ by
      simp [BlockCore.transition, hstate]; rfl]
    exact fun _ _ => trivial

/-- The thread of a block is started, or the block goes back to where it was. -/
lemma launch_persists {source : BlockState}
    {spawn : Network ω γ π → Except Error Unit × Network ω γ π}
    (hspawn : ∀ t, At i Block.Starting t → Mute Block.Persists i t (spawn t).2)
    (hsource : source ≠ .error) (hs : At i Block.Starting s) :
    (do match ← Routine.modifyGet spawn with
      | .error e =>
        settle i .starting source
        return .error e
      | .ok () =>
        settle i .starting .running
        return .ok () : Operation ω γ π (Except Error Unit)).Meets (AbidesAt i)
      (Mute Block.Persists i) (fun _ _ => True) s := by
  have hsettle {target : BlockState} (htarget : target ≠ .error) (r : Except Error Unit) :
      Closing i (do settle i .starting target; return r : Operation ω γ π _) :=
    (closing_settle (by simp) htarget).bind fun _ => Routine.always_pure r
  refine Routine.meets_modifyGet.2 fun t ht =>
    ⟨hspawn t (hs.abides Block.starting_of_abides ht), ?_⟩
  cases (spawn t).1 with
  | error e => exact (hsettle hsource _).persists _
  | ok _ => exact (hsettle (by simp) _).persists _

lemma mute_spawnSource [Generator γ] (hs : At i Block.Starting s) :
    Mute Block.Persists i s (spawnSource i s).2 := by
  obtain ⟨b, hb, hstarting⟩ := hs
  cases b with
  | source x =>
    have hstep {t : Network ω γ π} {x' : SourceBlock γ} (hcore : x'.core = x.core)
        (hblocks : t.blocks = s.blocks.set i (.source x')) :
        StepAt Block.Persists i s t := stepAt_set hb hblocks (hstarting.persists hcore)
    simp only [spawnSource, source?_eq_some.2 hb]
    split
    · exact mute_of_blocks_eq rfl rfl rfl
    split
    all_goals
      refine ⟨rfl, rfl, hstep ?_ (blocks_setSource _)⟩
      rfl
  | sink y =>
    simp only [spawnSource, source?, hb]
    exact mute_of_blocks_eq rfl rfl rfl
  | stage z =>
    simp only [spawnSource, source?, hb]
    exact mute_of_blocks_eq rfl rfl rfl

lemma mute_spawnSink (hs : At i Block.Starting s) :
    Mute Block.Persists i s (spawnSink i s).2 := by
  obtain ⟨b, hb, hstarting⟩ := hs
  unfold spawnSink
  split
  · exact mute_of_blocks_eq rfl rfl rfl
  unfold mapEngine
  split
  · rename_i y hy
    obtain rfl : b = .sink y := Option.some.inj (hb.symm.trans (sink?_eq_some.1 hy))
    exact ⟨rfl, rfl, stepAt_set hb rfl (hstarting.persists rfl)⟩
  · exact mute_of_blocks_eq rfl rfl rfl

/-- A start neither makes its block fail nor undoes a failure, and starts a thread only for a block
that is listened to and has not failed. -/
theorem start_persists [Generator γ] (hs : At i Block.Dormant s) :
    (start i : Operation ω γ π _).Meets (AbidesAt i) (Mute Block.Persists i) (fun _ _ => True)
      s := by
  have hsource {source : BlockState} (h : source ∈ [.initialized, .stopped]) : source ≠ .error := by
    rintro rfl
    simp at h
  refine Routine.meets_get.2 fun t ht => ⟨mute_of_blocks_eq rfl rfl rfl, ?_⟩
  have ht' : At i Block.Dormant t := hs.abides Block.dormant_of_abides ht
  have hfound := ht'
  obtain ⟨b, hb, -⟩ := hfound
  simp only [hb]
  cases b with
  | source x =>
    exact start_persists_of_transition ht' fun u source hmem hu =>
      launch_persists (fun _ => mute_spawnSource) (hsource hmem) hu
  | sink y =>
    refine start_persists_of_transition ht' fun u source hmem hu => ?_
    refine Routine.meets_modify.2 fun v hv => ?_
    have harm : Mute (fun b b' => b.Calm b' ∧ (b.Starting → b'.Starting)) i v
        (v.mapEngine i SinkEngine.arm) := by
      refine mute_mapEngine (fun y => ⟨?_, fun h => ⟨⟨h.thread, h.heard⟩, h.state⟩⟩) v
      exact SinkEngine.Calm.block (SinkEngine.calm_of_worker_eq (.refl _) rfl)
    refine ⟨harm.mono fun _ _ h => h.1.eases.toPersists, ?_⟩
    exact launch_persists (fun _ => mute_spawnSink) (hsource hmem)
      (harm.step.keep (fun _ _ h => h.2) (hu.abides Block.starting_of_abides hv))
  | stage z => exact (closing_moveStage (by simp) (by simp) "start").persists t

end Network

end FrameGraph
